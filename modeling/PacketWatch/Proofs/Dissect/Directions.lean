/-
# `PacketWatch.Proofs.Dissect.Directions` — both directions of a conversation

What goes back in a conversation has the two ports the other way round.  It decodes like what
goes forth: the ports of one layer change places, and no other layer changes.

What stands in front of a TCP or UDP header leads to it whatever its ports are
(`dissection_comesTo`).  The header then takes the same bytes and gives on the same payload
(`Next.Step.reversed`), and the services ask whether one of theirs is among both ports and not
which of them it is (`Transport.detect?_comm`).
-/
import PacketWatch.Proofs.Dissect.Datagram
import PacketWatch.Proofs.Dissect.Reach

namespace PacketWatch

/-! ## Two words that change places -/

namespace Bytes

/-- The two words of 16 bits from an offset on change places. -/
def exchanged (d : Bytes) (i : Nat) : Bytes :=
  d.take i ++ d.span (i + 2) (i + 4) ++ d.span i (i + 2) ++ d.drop (i + 4)

/-- Bytes that begin with two words. -/
theorem exists_words {d : Bytes} (inside : 4 ≤ d.length) :
    ∃ w x y z b, d = w :: x :: y :: z :: b := by
  refine ⟨d.byteAt 0, d.byteAt 1, d.byteAt 2, d.byteAt 3, d.drop 4, ?_⟩
  rw [← drop_eq_cons (by omega), ← drop_eq_cons (by omega), ← drop_eq_cons (by omega),
    ← drop_eq_cons (by omega), List.drop_zero]

theorem exists_words_at {d : Bytes} {i : Nat} (inside : i + 4 ≤ d.length) :
    ∃ a w x y z b, d = a ++ w :: x :: y :: z :: b ∧ a.length = i := by
  obtain ⟨w, x, y, z, b, words⟩ := exists_words (d := d.drop i) (by rw [List.length_drop]; omega)
  refine ⟨d.take i, w, x, y, z, b, ?_, List.length_take_of_le (by omega)⟩
  rw [← words, List.take_append_drop]

theorem span_behind (a b : Bytes) (first stop : Nat) :
    span (a ++ b) (a.length + first) (a.length + stop) = b.span first stop := by
  rw [span, List.take_length_add_append, List.drop_length_add_append, span]

theorem exchanged_words (a : Bytes) (w x y z : UInt8) (b : Bytes) :
    exchanged (a ++ w :: x :: y :: z :: b) a.length = a ++ y :: z :: w :: x :: b := by
  have first := span_behind a (w :: x :: y :: z :: b) 0 2
  have second := span_behind a (w :: x :: y :: z :: b) 2 4
  rw [Nat.add_zero] at first
  rw [exchanged, first, second, List.take_left, List.drop_length_add_append, List.append_assoc,
    List.append_assoc]
  rfl

theorem agree_exchanged {d : Bytes} {i : Nat} (inside : i + 4 ≤ d.length) :
    Agree i d (d.exchanged i) := by
  obtain ⟨a, w, x, y, z, b, rfl, rfl⟩ := exists_words_at inside
  rw [exchanged_words]
  refine ⟨?_, ?_⟩
  · rw [List.length_append, List.length_append]
    rfl
  · rw [List.take_left, List.take_left]

/-- In a part that begins with both words they change places as well. -/
theorem span_exchanged {d : Bytes} {i n : Nat} (inside : i + 4 ≤ d.length) (both : 4 ≤ n) :
    (d.exchanged i).span i (i + n) = (d.span i (i + n)).exchanged 0 := by
  obtain ⟨a, w, x, y, z, b, rfl, rfl⟩ := exists_words_at inside
  obtain ⟨m, rfl⟩ := Nat.exists_eq_add_of_le' both
  have part (b : Bytes) : span (a ++ b) a.length (a.length + (m + 4)) = b.take (m + 4) :=
    span_behind a b 0 (m + 4)
  rw [exchanged_words, part, part]
  rfl

/-- What lies behind both words stays where it is. -/
theorem drop_exchanged {d : Bytes} (inside : 4 ≤ d.length) {n : Nat} (behind : 4 ≤ n) :
    (d.exchanged 0).drop n = d.drop n := by
  obtain ⟨w, x, y, z, b, rfl⟩ := exists_words inside
  obtain ⟨m, rfl⟩ := Nat.exists_eq_add_of_le' behind
  rfl

end Bytes

open Bytes

/-! ## The header -/

namespace Tcp

def reversed (h : Tcp) : Tcp := { h with srcPort := h.dstPort, dstPort := h.srcPort }

theorem headerLength_exchanged {d : Bytes} (inside : 4 ≤ d.length) :
    headerLength (d.exchanged 0) = headerLength d := by
  obtain ⟨w, x, y, z, b, rfl⟩ := exists_words inside
  rfl

theorem read?_exchanged {d : Bytes} (inside : 4 ≤ d.length) :
    read? (d.exchanged 0) = (read? d).map reversed := by
  obtain ⟨w, x, y, z, b, rfl⟩ := exists_words inside
  have header : hasHeader (exchanged (w :: x :: y :: z :: b) 0) =
      hasHeader (w :: x :: y :: z :: b) := rfl
  rw [read?, read?, header]
  split
  · rfl
  · rfl

end Tcp

namespace Udp

def reversed (h : Udp) : Udp := { h with srcPort := h.dstPort, dstPort := h.srcPort }

theorem read?_exchanged {d : Bytes} (inside : 4 ≤ d.length) :
    read? (d.exchanged 0) = (read? d).map reversed := by
  obtain ⟨w, x, y, z, b, rfl⟩ := exists_words inside
  have length : (exchanged (w :: x :: y :: z :: b) 0).length = (w :: x :: y :: z :: b).length := rfl
  rw [read?, read?, length]
  split
  · rfl
  · rfl

theorem payload_exchanged {d : Bytes} (inside : 4 ≤ d.length) :
    payload (d.exchanged 0) = payload d := by
  have ends : payloadEnd (d.exchanged 0) = payloadEnd d := by
    obtain ⟨w, x, y, z, b, rfl⟩ := exists_words inside
    rfl
  rw [payload, payload, ends, span, span, List.drop_take, List.drop_take,
    drop_exchanged inside (by decide)]

end Udp

namespace Layer

/-- The layers that have ports. -/
def isTransport (l : Layer) : Bool := [.tcp, .udp].contains l.kind

/-- The ports of a TCP or UDP header change places. -/
def reversed : Layer → Layer
  | tcp h => tcp h.reversed
  | udp h => udp h.reversed
  | l => l

end Layer

/-! ## What the ports decide -/

theorem Service.isResponsible_comm (s : Service) (srcPort dstPort : UInt16) (d : Bytes) :
    s.isResponsible srcPort dstPort d = s.isResponsible dstPort srcPort d := by
  rw [isResponsible, isResponsible, onPort, onPort, Bool.or_comm (s.ports.contains srcPort)]

/-- Which service decides does not depend on the direction. -/
theorem Transport.detect?_comm (t : Transport) (srcPort dstPort : UInt16) (d : Bytes) :
    t.detect? srcPort dstPort d = t.detect? dstPort srcPort d := by
  simp only [detect?, Service.isResponsible_comm _ srcPort]

theorem walk_application_comm (room : Nat) (t : Transport) (srcPort dstPort : UInt16) (d : Bytes) :
    walk room (.application t srcPort dstPort d) = walk room (.application t dstPort srcPort d) := by
  cases room with
  | zero => rfl
  | succ room =>
      rw [walk, walk, Next.stage, Next.stage, Stage.ofApplication, Stage.ofApplication,
        t.detect?_comm]

/-- A transport header with its ports the other way round takes the same bytes, and what follows
it is carried between the same ports, the other way round. -/
theorem Next.Step.reversed {next onward : Next} {span : Span} (step : next.Step span onward)
    (transport : span.layer.isTransport) :
    ∃ t srcPort dstPort payload, onward = .application t srcPort dstPort payload ∧
      4 ≤ next.rest.length ∧ span.trailer = 0 ∧
      (next.about (next.rest.exchanged 0)).Step ⟨span.layer.reversed, span.size, 0⟩
        (.application t dstPort srcPort payload) := by
  cases step with
  | @tcp d h read =>
      have passed := Option.isSome_of_eq_some read
      have inside : 4 ≤ d.length := Nat.le_trans (by decide) (Tcp.fixed passed)
      have behind : 4 ≤ Tcp.headerLength d := Nat.le_trans (by decide) (Tcp.least passed)
      have again : Tcp.read? (d.exchanged 0) = some h.reversed := by
        rw [Tcp.read?_exchanged inside, read, Option.map_some]
      have step := Next.Step.tcp again
      rw [Tcp.headerLength_exchanged inside, drop_exchanged inside behind] at step
      exact ⟨_, _, _, _, rfl, inside, rfl, step⟩
  | @udp d h read =>
      have inside : 4 ≤ d.length :=
        Nat.le_trans (by decide) (Udp.whole (Option.isSome_of_eq_some read))
      have again : Udp.read? (d.exchanged 0) = some h.reversed := by
        rw [Udp.read?_exchanged inside, read, Option.map_some]
      have step := Next.Step.udp again
      rw [Udp.payload_exchanged inside] at step
      exact ⟨_, _, _, _, rfl, inside, rfl, step⟩
  | vlan | arp | ipv4 | ipv4Fragment | ipv6 | ipv6Cut | icmp | icmpv6 => cases transport
  | application _ found =>
      rw [Layer.isTransport, Transport.kind_of_detect? found] at transport
      cases transport

/-! ## No transport but one -/

namespace Layer

theorem not_isTransport_of_isOuter {l : Layer} (outer : l.isOuter) : ¬ l.isTransport := by
  cases l with
  | tcp | udp => cases outer
  | _ => exact nofun

theorem not_isTransport_of_isMessage {l : Layer} (message : l.isMessage) : ¬ l.isTransport := by
  cases l with
  | tcp | udp => cases message
  | _ => exact nofun

end Layer

theorem Dissection.not_isTransport_of_mem_trailers {r : Dissection} {l : Layer}
    (here : l ∈ r.trailers) : ¬ l.isTransport := by
  obtain ⟨n, -, rfl⟩ := mem_trailers here
  exact nofun

/-- Behind a transport header there is no other. -/
theorem not_isTransport_of_mem_walk {room : Nat} {t : Transport} {srcPort dstPort : UInt16}
    {d : Bytes} {l : Layer} (here : l ∈ (walk room (.application t srcPort dstPort d)).layers) :
    ¬ l.isTransport := by
  have walked := walked_walk room (.application t srcPort dstPort d)
  rcases walked.of_application with nothing | ⟨layer, message, alone⟩
  · rw [nothing, Dissection.layers_unread] at here
    split at here
    · cases here
    · obtain rfl := List.mem_singleton.mp here
      exact nofun
  · rw [alone] at here
    obtain rfl : l = layer := List.mem_singleton.mp here
    exact Layer.not_isTransport_of_isMessage message

theorem LinkStep.headerSize_pos {link : LinkType} {d : Bytes} {span : Span} {onward : Next}
    (step : LinkStep link d span onward) : 0 < span.layer.headerSize d := by
  cases step with
  | ethernet => exact Nat.succ_pos 13
  | cooked => exact Nat.succ_pos 15
  | loopback | loopbackOther => exact Nat.succ_pos 3

/-- What an Ethernet type names has a header, and is no transport. -/
theorem Next.Step.headerSize_pos {type : UInt16} {d : Bytes} {span : Span} {onward : Next}
    (step : (Next.etherType type d).Step span onward) :
    0 < span.layer.headerSize d ∧ ¬ span.layer.isTransport := by
  cases step with
  | vlan => exact ⟨Nat.succ_pos 3, nofun⟩
  | arp => exact ⟨Nat.add_pos_left (Nat.succ_pos 7) _, nofun⟩
  | ipv4 asks read | ipv4Fragment asks read =>
      obtain rfl := asks.rest
      have least := (Ipv4.whole (Option.isSome_of_eq_some read)).1
      exact ⟨Nat.lt_of_lt_of_le (Nat.succ_pos 19) least, nofun⟩
  | ipv6 | ipv6Cut => exact ⟨Nat.add_pos_left (Nat.succ_pos 39) _, nofun⟩

/-- A transport header has another header in front of it. -/
theorem Region.start_pos_of_isTransport {link : LinkType} {d : Bytes} {r : Region}
    (here : r ∈ regions link d) (transport : r.layer.isTransport) : 0 < r.start := by
  rw [regions_eq_place] at here
  have all := span_whole d
  generalize dissected : dissection link d = whole at here
  cases dissected ▸ dissected_dissection link d with
  | unread => cases here
  | linked step walked =>
      rcases List.mem_cons.mp here with rfl | later
      · exact absurd transport (Layer.not_isTransport_of_isOuter step.isOuter)
      · have behind := le_start_of_place later
        rw [all, Nat.zero_add] at behind
        exact Nat.lt_of_lt_of_le step.headerSize_pos behind
  | ip _ walked =>
      cases walked with
      | stop => cases here
      | step step walked =>
          obtain ⟨size, other⟩ := step.headerSize_pos
          rcases List.mem_cons.mp here with rfl | later
          · exact absurd transport other
          · have behind := le_start_of_place later
            rw [all, Nat.zero_add] at behind
            exact Nat.lt_of_lt_of_le size behind

theorem Layer.isInner_of_isTransport {l : Layer} (transport : l.isTransport) : l.isInner := by
  cases l with
  | tcp | udp => rfl
  | _ => cases transport

/-- **Both directions decode alike.**  If the two ports of a TCP or UDP header that the walk comes
to change places in the bytes of the frame, they change places in that layer.  All other layers
are the same, and none of them is a TCP or UDP header. -/
theorem directions_decode_alike (link : LinkType) (d : Bytes) (r : Region)
    (here : r ∈ regions link d) (transport : r.layer.isTransport) :
    ∃ front behind, dissect link d = front ++ r.layer :: behind ∧
      dissect link (d.exchanged r.start) = front ++ r.layer.reversed :: behind ∧
      ∀ l ∈ front ++ behind, ¬ l.isTransport := by
  obtain ⟨front, room, target, comes⟩ := dissection_comesTo here
    (Layer.isInner_of_isTransport transport) (Nat.le_refl _)
    (Region.start_pos_of_isTransport here transport)
  obtain ⟨⟨layer, size, trailer⟩, onward, step, rfl⟩ := comes.step
  obtain ⟨t, srcPort, dstPort, payload, rfl, words, rfl, back⟩ := step.reversed transport
  rw [comes.rest] at words back
  -- the ports lie in the frame, and in the bytes of the header
  rw [Region.bytes, length_span] at words
  obtain ⟨n, stop⟩ : ∃ n, r.stop = r.start + n := Nat.exists_eq_add_of_le (by omega)
  have agree : Agree r.start d (d.exchanged r.start) := agree_exchanged (by omega)
  have exchanged : (r.bytes d).exchanged 0 = r.bytes (d.exchanged r.start) := by
    rw [Region.bytes, Region.bytes, stop, span_exchanged (by omega) (by omega)]
  rw [exchanged] at back
  let behind := (walk room (.application t srcPort dstPort payload)).layers
  let trailers := Dissection.trailers ⟨front, 0⟩
  refine ⟨front.map (·.layer), behind ++ trailers, ?_, ?_, ?_⟩
  · rw [dissect, comes.again d (.refl _ d), ← comes.rest, target.about_rest, walk_of_step step,
      Dissection.layers_behind, Dissection.layers_cons, List.append_assoc]
    rfl
  · rw [dissect, comes.again _ agree, walk_of_step back, walk_application_comm,
      Dissection.layers_behind, Dissection.layers_cons, List.append_assoc]
    rfl
  · intro l here
    rcases List.mem_append.mp here with before | after
    · obtain ⟨s, passed, rfl⟩ := List.mem_map.mp before
      exact Layer.not_isTransport_of_isOuter (comes.outer s passed)
    rcases List.mem_append.mp after with carried | trailing
    · exact not_isTransport_of_mem_walk carried
    · exact Dissection.not_isTransport_of_mem_trailers trailing

/-- A query in a tagged frame and in a tunnel, and the same bytes on the way back. -/
theorem directions_decode_alike_query :
    let mac (b : UInt8) : Mac := ⟨[2, 0, 0, 0, 0, b], rfl⟩
    let ip4 (b : UInt8) : Ip4 := ⟨[10, 0, 0, b], rfl⟩
    let query : Bytes := bytes16 7 ++ bytes16 0x0100 ++ bytes16 1 ++ [0, 0, 0, 0, 0, 0]
    let frame (srcPort dstPort : UInt16) : Bytes :=
      Ethernet.frame (mac 1) (mac 2) 0x8100 (bytes16 5 ++ bytes16 0x0800 ++
        Ipv4.packet (ip4 1) (ip4 2) 4 (Ipv4.packet (ip4 3) (ip4 4) 17
          (Udp.datagram srcPort dstPort query)))
    let r : Region := ⟨.udp ⟨50000, 53, 20⟩, 58, 78⟩
    r ∈ regions .ethernet (frame 50000 53) ∧ r.layer.isTransport ∧
      ∃ front behind,
        dissect .ethernet (frame 50000 53) = front ++ .udp ⟨50000, 53, 20⟩ :: behind ∧
          dissect .ethernet (frame 53 50000) = front ++ .udp ⟨53, 50000, 20⟩ :: behind := by
  intro mac ip4 query frame r
  have here : r ∈ regions .ethernet (frame 50000 53) := by decide +kernel
  have exchanged : (frame 50000 53).exchanged r.start = frame 53 50000 := by decide +kernel
  obtain ⟨front, behind, forth, back, -⟩ := directions_decode_alike .ethernet _ r here rfl
  rw [exchanged] at back
  exact ⟨here, rfl, front, behind, forth, back⟩

end PacketWatch
