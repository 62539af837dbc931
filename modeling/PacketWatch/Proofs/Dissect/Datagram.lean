/-
# `PacketWatch.Proofs.Dissect.Datagram` — what is shown of a UDP datagram

Of the bytes of a UDP datagram those up to the length that its header declares are shown: the
header, and behind it an application message or a payload.  What lies behind the datagram is
in the trailers of the IP headers around it.  Captured bytes between the declared end and the
end of the datagram are in no layer (`Udp.unreported`), so a length field that says less than
was sent hides the rest.

A UDP header stands last, or second to last with a message behind it, so nothing in front of
it loses a byte.  The account is an induction on the walk, down to that header.
-/
import PacketWatch.Proofs.Dissect.Accounting

namespace PacketWatch

/-! ## What the layers show -/

namespace Layer

def payloadSize : Layer → Nat
  | payload n => n
  | _ => 0

def trailerSize : Layer → Nat
  | trailer n => n
  | _ => 0

theorem remainder_eq (l : Layer) : l.remainder = l.payloadSize + l.trailerSize := by
  cases l with
  | payload n => rfl
  | trailer n => exact (Nat.zero_add n).symm
  | _ => rfl

end Layer

namespace Dissection

variable {r : Dissection}

theorem sum_payloadSize_layers (headers : ∀ s ∈ r.spans, s.IsHeader) :
    (r.layers.map (·.payloadSize)).sum = r.unread := by
  have recognized : ∀ l : Layer, l.isRecognized → l.payloadSize = 0 := by
    intro l known
    cases l with
    | payload => cases known
    | _ => rfl
  have trailers : (r.trailers.map (·.payloadSize)).sum = 0 := by
    refine List.sum_eq_zero fun n hn => ?_
    obtain ⟨l, hl, rfl⟩ := List.mem_map.mp hn
    obtain ⟨m, -, rfl⟩ := mem_trailers hl
    rfl
  rw [sum_layers headers recognized fun _ => rfl, trailers, Nat.add_zero]

theorem sum_trailerSize_layers (headers : ∀ s ∈ r.spans, s.IsHeader) :
    (r.layers.map (·.trailerSize)).sum = (r.spans.map (·.trailer)).sum := by
  have both := sum_remainder_layers headers
  simp only [Layer.remainder_eq, List.sum_map_add, sum_payloadSize_layers headers] at both
  exact Nat.add_left_cancel both

end Dissection

/-- How many bytes a message has. -/
def Region.messageSize (r : Region) : Nat := if r.layer.isMessage then r.stop - r.start else 0

def messageBytes (link : LinkType) (d : Bytes) : Nat :=
  ((regions link d).map (·.messageSize)).sum

def payloadBytes (link : LinkType) (d : Bytes) : Nat :=
  ((dissect link d).map (·.payloadSize)).sum

def trailerBytes (link : LinkType) (d : Bytes) : Nat :=
  ((dissect link d).map (·.trailerSize)).sum

/-- How many bytes of a datagram lie behind the end that its UDP header declares. -/
def Udp.unreported (h : Udp) (present : Nat) : Nat := present - max 8 h.length.toNat

/-! ## Down to the UDP header -/

/-- The account of a walk that comes to a UDP header: what is shown of its datagram, and that
all behind it is in trailers. -/
structure Reported (d : Bytes) (start stop : Nat) (r : Dissection) (udp : Region) (h : Udp) :
    Prop where
  shown : 8 + ((place d start stop r.headers).map (·.messageSize)).sum + r.unread
    + h.unreported (udp.stop - udp.start) = udp.stop - udp.start
  behind : udp.stop + (r.spans.map (·.trailer)).sum = stop

/-- A header that is no message and loses nothing stands in front. -/
theorem Reported.cons {d rest : Bytes} {start stop : Nat} {span : Span} {r : Dissection}
    {udp : Region} {h : Udp} (within : start ≤ stop) (inside : stop ≤ d.length)
    (splits : span.Splits (d.span start stop) rest)
    (plain : ¬ span.layer.isMessage ∧ ∀ b, span.layer.lost b = 0)
    (further : ∀ {first last : Nat}, first ≤ last → last ≤ d.length → rest = d.span first last →
      udp ∈ place d first last r.headers → Reported d first last r udp h)
    (later : udp ∈ place d (start + span.layer.headerSize (d.span start stop))
      (start + span.layer.contentEnd (d.span start stop)) r.headers) :
    Reported d start stop (r.cons span) udp h := by
  have account := splits.account
  rw [Bytes.length_span, Nat.min_eq_left inside, plain.2] at account
  have silent : Region.messageSize ⟨span.layer, start, stop⟩ = 0 := if_neg plain.1
  obtain ⟨ordered, ends, content⟩ := splits.content within inside
  obtain ⟨shown, behind⟩ := further ordered (Nat.le_trans ends inside) content later
  refine ⟨?_, ?_⟩
  · change 8 + (Region.messageSize ⟨span.layer, start, stop⟩ + _) + r.unread + _ = _
    rw [silent, Nat.zero_add]
    exact shown
  · change udp.stop + (span.trailer + (r.spans.map (·.trailer)).sum) = stop
    omega

/-- Behind a transport there is one message, or the bytes are left unread. -/
theorem Walked.of_application {room : Nat} {t : Transport} {srcPort dstPort : UInt16} {d : Bytes}
    {r : Dissection} (walked : Walked room (.application t srcPort dstPort d) r) :
    r = ⟨[], d.length⟩ ∨ ∃ layer : Layer, layer.isMessage ∧ r = ⟨[⟨layer, d.length, 0⟩], 0⟩ := by
  cases walked with
  | stop => exact .inl rfl
  | step step walked =>
      obtain ⟨layer, found, rfl, rfl⟩ := step.of_application
      rw [walked.of_unread]
      exact .inr ⟨layer, (Layer.message_of_detect? found).2, rfl⟩

/-- A UDP header with what it carries. -/
theorem Reported.of_udp {d : Bytes} {start stop room : Nat} {h : Udp} {r : Dissection}
    (inside : stop ≤ d.length) (read : Udp.read? (d.span start stop) = some h)
    (walked : Walked room
      (.application .udp h.srcPort h.dstPort (Udp.payload (d.span start stop))) r) :
    Reported d start stop (r.cons ⟨.udp h, Udp.headerLength, 0⟩) ⟨.udp h, start, stop⟩ h := by
  have whole := Udp.whole (Option.isSome_of_eq_some read)
  obtain ⟨behind, fits⟩ := Udp.payloadEnd_bounds whole
  have length : (d.span start stop).length = stop - start := by
    rw [Bytes.length_span, Nat.min_eq_left inside]
  have carried : (Udp.payload (d.span start stop)).length =
      Udp.payloadEnd (d.span start stop) - 8 := by
    rw [Udp.payload, Bytes.length_span, Nat.min_eq_left fits]
    rfl
  rw [Udp.headerLength] at whole behind
  have ends : Udp.payloadEnd (d.span start stop) + h.unreported (stop - start) = stop - start := by
    rw [Udp.unreported, Udp.length_of_read? read, Udp.payloadEnd, Udp.headerLength, length]
    omega
  rcases walked.of_application with rfl | ⟨layer, message, rfl⟩
  · refine ⟨?_, rfl⟩
    change 8 + 0 + (Udp.payload (d.span start stop)).length + h.unreported (stop - start)
      = stop - start
    omega
  · have carries : Region.messageSize ⟨layer, start + 8, start + Udp.payloadEnd (d.span start stop)⟩
        = start + Udp.payloadEnd (d.span start stop) - (start + 8) := if_pos message
    refine ⟨?_, rfl⟩
    change 8 + (0 + (Region.messageSize
      ⟨layer, start + 8, start + Udp.payloadEnd (d.span start stop)⟩ + 0)) + 0
        + h.unreported (stop - start) = stop - start
    omega

/-- In front of a UDP header there is no message, and no header that loses bytes. -/
theorem Next.Step.keeps {room : Nat} {next onward : Next} {span : Span} {r : Dissection} {h : Udp}
    (step : next.Step span onward) (walked : Walked room onward r) (here : .udp h ∈ r.headers) :
    ¬ span.layer.isMessage ∧ ∀ b, span.layer.lost b = 0 := by
  cases step with
  | vlan | arp | ipv4 | ipv4Fragment | ipv6 | ipv6Cut | tcp => exact ⟨nofun, fun _ => rfl⟩
  | udp =>
      rcases walked.of_application with rfl | ⟨layer, message, rfl⟩
      · cases here
      · obtain rfl : _ = layer := List.mem_singleton.mp here
        cases message
  | icmp | icmpv6 | application =>
      rw [Dissection.headers, walked.nothing_behind] at here
      cases here

theorem LinkStep.keeps {link : LinkType} {d : Bytes} {span : Span} {onward : Next}
    (step : LinkStep link d span onward) :
    ¬ span.layer.isMessage ∧ ∀ b, span.layer.lost b = 0 := by
  cases step with
  | ethernet | cooked | loopback | loopbackOther => exact ⟨nofun, fun _ => rfl⟩

theorem mem_of_mem_place {d : Bytes} {start stop : Nat} {layers : List Layer} {r : Region}
    (here : r ∈ place d start stop layers) : r.layer ∈ layers := by
  rw [← map_layer_place d start stop layers]
  exact List.mem_map_of_mem here

/-- The induction is on the walk, with the offsets of what is to be looked at. -/
theorem Walked.reported {room : Nat} {next : Next} {r : Dissection} (walked : Walked room next r)
    {d : Bytes} {start stop : Nat} (within : start ≤ stop) (inside : stop ≤ d.length)
    (rest : next.rest = d.span start stop) {udp : Region} {h : Udp}
    (here : udp ∈ place d start stop r.headers) (layer : udp.layer = .udp h) :
    Reported d start stop r udp h := by
  induction walked generalizing start stop with
  | stop => cases here
  | step step walked ih =>
      rcases List.mem_cons.mp here with rfl | later
      · -- The header itself: no other step recognizes one.
        cases step with
        | udp read =>
            obtain rfl : _ = h := Layer.udp.inj layer
            rw [Next.rest] at rest
            subst rest
            exact .of_udp inside read walked
        | application _ found =>
            cases layer
            cases Transport.kind_of_detect? found
        | vlan | arp | ipv4 | ipv4Fragment | ipv6 | ipv6Cut | tcp | icmp | icmpv6 => cases layer
      · have plain := step.keeps walked (layer ▸ mem_of_mem_place later)
        exact .cons within inside (rest ▸ step.splits) plain ih later

theorem Dissected.reported {link : LinkType} {d : Bytes} {r : Dissection}
    (dissected : Dissected d link r) {udp : Region} {h : Udp}
    (here : udp ∈ place d 0 d.length r.headers) (layer : udp.layer = .udp h) :
    Reported d 0 d.length r udp h := by
  cases dissected with
  | unread => cases here
  | ip _ walked =>
      exact walked.reported (Nat.zero_le _) (Nat.le_refl _) (Bytes.span_whole d).symm here layer
  | linked step walked =>
      rcases List.mem_cons.mp here with rfl | later
      · cases step with
        | ethernet | cooked | loopback | loopbackOther => cases layer
      · exact .cons (Nat.zero_le _) (Nat.le_refl _) step.splits_frame step.keeps
          (fun within inside rest here => walked.reported within inside rest here layer) later

/-- **What is shown of a UDP datagram.**  Header, application message and payload are the
bytes of the datagram up to the length that the header declares, and all that lies behind the
datagram is in trailers.  So every byte of the datagram is shown exactly where the header
declares at least as many as are present. -/
theorem udp_shown_up_to_length (link : LinkType) (d : Bytes) (r : Region) (h : Udp)
    (here : r ∈ regions link d) (udp : r.layer = .udp h) :
    let present := r.stop - r.start
    let shown := 8 + messageBytes link d + payloadBytes link d
    shown + h.unreported present = present ∧
      (shown = present ↔ present ≤ max 8 h.length.toNat) ∧
      r.stop + trailerBytes link d = d.length := by
  intro present shown
  have dissected := dissected_dissection link d
  have places := regions_eq_place link d
  obtain ⟨whole, behind⟩ := dissected.reported (places ▸ here) udp
  have account : shown + h.unreported present = present := by
    rw [← places, ← Dissection.sum_payloadSize_layers dissected.isHeader] at whole
    exact whole
  refine ⟨account, ?_, ?_⟩
  · rw [Udp.unreported] at account
    omega
  · rw [← Dissection.sum_trailerSize_layers dissected.isHeader] at behind
    exact behind

/-- A datagram of 14 bytes whose header declares 10, with padding behind it: two bytes are
payload, four are in no layer, and the padding is a trailer. -/
theorem udp_shown_up_to_length_padded :
    let mac (b : UInt8) : Mac := ⟨[2, 0, 0, 0, 0, b], rfl⟩
    let ip4 (b : UInt8) : Ip4 := ⟨[10, 0, 0, b], rfl⟩
    let h : Udp := ⟨40000, 40001, 10⟩
    let d := Ethernet.frame (mac 1) (mac 2) 0x0800 (Ipv4.packet (ip4 1) (ip4 2) 17
      (bytes16 40000 ++ bytes16 40001 ++ bytes16 10 ++ [0, 0, 1, 2, 3, 4, 5, 6])) ++ [0, 0, 0]
    let r : Region := ⟨.udp h, 34, 48⟩
    r ∈ regions .ethernet d ∧ messageBytes .ethernet d + payloadBytes .ethernet d = 2 ∧
      trailerBytes .ethernet d = 3 := by
  intro mac ip4 h d r
  have here : r ∈ regions .ethernet d := by decide +kernel
  obtain ⟨shown, -, behind⟩ := udp_shown_up_to_length .ethernet d r h here rfl
  have hidden : h.unreported (r.stop - r.start) = 4 := by decide
  have length : d.length = 51 := by decide
  rw [hidden] at shown
  rw [length] at behind
  refine ⟨here, ?_, ?_⟩
  · change 8 + _ + _ + 4 = 48 - 34 at shown
    omega
  · change 48 + _ = 51 at behind
    omega

/-- The header declares itself alone, and four bytes behind it are in no layer at all. -/
theorem short_length_hides_bytes :
    let ip4 (b : UInt8) : Ip4 := ⟨[10, 0, 0, b], rfl⟩
    let d := Ipv4.packet (ip4 1) (ip4 2) 17
      (bytes16 50000 ++ bytes16 40001 ++ bytes16 8 ++ [0, 0, 1, 2, 3, 4])
    let r : Region := ⟨.udp ⟨50000, 40001, 8⟩, 20, 32⟩
    dissect .rawIp d = [.ipv4 ⟨ip4 1, ip4 2, 17, 64, 32⟩, .udp ⟨50000, 40001, 8⟩] ∧
      r ∈ regions .rawIp d ∧
      8 + messageBytes .rawIp d + payloadBytes .rawIp d + trailerBytes .rawIp d
        ≠ r.stop - r.start := by
  decide +kernel

end PacketWatch
