/-
# `PacketWatch.Proofs.Dissect.Padding` — bytes behind a frame lengthen its trailer

A link may pad a frame.  Where the outermost IP header declares where its datagram ends,
and that end was captured, any bytes behind the frame are more of that datagram's trailer
and nothing else: no layer changes, and the packet keeps its label and its addresses.

In front of the outermost IP header there are a link header and tags, which are read from
their own bytes.  At that header the content of the datagram is the same with the padding as
without, so the rest of the walk is the same walk, and only the trailer differs (`Padded`).
-/
import PacketWatch.Decode
import PacketWatch.Proofs.Dissect.Accounting
import PacketWatch.Proofs.Dissect.Longer

namespace PacketWatch

/-! ## The end that an IP header declares -/

namespace Layer

/-- Where an IP header declares its datagram to end, from its own first byte on.  A length
of zero declares nothing. -/
def declaredEnd? : Layer → Option Nat
  | ipv4 h => if h.totalLength = 0 then none else some h.totalLength.toNat
  | ipv6 h => if h.payloadLength = 0 then none else some (40 + h.payloadLength.toNat)
  | _ => none

theorem declaredEnd?_ipv4 {h : Ipv4} {n : Nat} (declared : (ipv4 h).declaredEnd? = some n) :
    h.totalLength ≠ 0 ∧ n = h.totalLength.toNat := by
  by_cases zero : h.totalLength = 0
  · simp [declaredEnd?, zero] at declared
  · exact ⟨zero, (Option.some.inj ((if_neg zero).symm.trans declared)).symm⟩

theorem declaredEnd?_ipv6 {h : Ipv6} {n : Nat} (declared : (ipv6 h).declaredEnd? = some n) :
    h.payloadLength ≠ 0 ∧ n = 40 + h.payloadLength.toNat := by
  by_cases zero : h.payloadLength = 0
  · simp [declaredEnd?, zero] at declared
  · exact ⟨zero, (Option.some.inj ((if_neg zero).symm.trans declared)).symm⟩

theorem kind_of_declaredEnd? {l : Layer} {n : Nat} (declared : l.declaredEnd? = some n) :
    l.kind = .ip := by
  cases l with
  | ipv4 | ipv6 => rfl
  | _ => cases declared

end Layer

section
variable {d e : Bytes} {n : Nat}

/-- The content of a datagram that ends among the captured bytes, whatever follows. -/
theorem Ipv4.closed {h : Ipv4} (start : d <+: e) (read : read? d = some h)
    (declared : (Layer.ipv4 h).declaredEnd? = some n) (captured : n ≤ d.length) :
    payload e = payload d ∧ trailer e = trailer d + (e.length - d.length) ∧
      trailer d = d.length - max n (headerLength d) := by
  obtain ⟨header, whole⟩ := Ipv4.whole (Option.isSome_of_eq_some read)
  obtain ⟨nonzero, rfl⟩ := Layer.declaredEnd?_ipv4 declared
  rw [totalLength_of_read? read] at nonzero captured ⊢
  have same := datagramEnd_longer start whole (Nat.le_trans header whole) nonzero captured
  obtain ⟨-, inside⟩ := datagramEnd_bounds whole
  have ends : datagramEnd d = max (d.word16At 2).toNat (headerLength d) := by
    have nonzero : (d.word16At 2).toNat ≠ 0 := fun zero => nonzero (UInt16.toNat_inj.mp zero)
    unfold datagramEnd
    dsimp only
    rw [if_neg nonzero]
    omega
  have longer := start.length_le
  refine ⟨?_, ?_, ?_⟩
  · rw [payload, payload, same, headerLength_longer start (by omega), Bytes.span_longer start _ inside]
  · rw [trailer, trailer, same]
    omega
  · rw [trailer, ends]

theorem Ipv6.closed {h : Ipv6} (start : d <+: e) (read : read? d = some h)
    (declared : (Layer.ipv6 h).declaredEnd? = some n) (captured : n ≤ d.length) :
    payload e = payload d ∧ trailer e = trailer d + (e.length - d.length) ∧
      trailer d = d.length - max n ((Layer.ipv6 h).headerSize d) := by
  have whole := Ipv6.whole (Option.isSome_of_eq_some read)
  obtain ⟨nonzero, rfl⟩ := Layer.declaredEnd?_ipv6 declared
  have fits : (Layer.ipv6 h).headerSize d ≤ datagramEnd d := (Ipv6.splits read).ordered
  rw [payloadLength_of_read? read] at nonzero captured ⊢
  have same := datagramEnd_longer start whole nonzero captured
  obtain ⟨-, inside⟩ := datagramEnd_bounds whole
  have ends : datagramEnd d = 40 + (d.word16At 4).toNat := by
    have nonzero : (d.word16At 4).toNat ≠ 0 := fun zero => nonzero (UInt16.toNat_inj.mp zero)
    unfold datagramEnd headerLength
    dsimp only
    rw [if_neg nonzero]
    omega
  have longer := start.length_le
  refine ⟨?_, ?_, ?_⟩
  · rw [payload, payload, same, Bytes.span_longer start _ inside]
  · rw [trailer, trailer, same]
    omega
  · rw [trailer, ends]
    omega

end

/-- The same header with more bytes behind its datagram. -/
def Span.lengthened (s : Span) (n : Nat) : Span := { s with trailer := s.trailer + n }

/-- An IP header whose declared end was captured is read again, with the same content and a
longer trailer. -/
theorem Next.Step.closed {next next' onward : Next} {span : Span} {n : Nat}
    (step : next.Step span onward) (longer : next.Longer next')
    (declared : span.layer.declaredEnd? = some n) (captured : n ≤ next.rest.length) :
    next'.stage = .header (span.lengthened (next'.rest.length - next.rest.length)) onward ∧
      span.trailer = next.rest.length - max n (span.layer.headerSize next.rest) := by
  have here := step.stage
  have ip := Layer.kind_of_declaredEnd? declared
  cases step with
  | ipv4 asks read | ipv4Fragment asks read =>
      obtain ⟨e, asks', start⟩ := asks.longer longer
      rw [asks.rest] at captured ⊢
      obtain ⟨payload, trailer, ends⟩ := Ipv4.closed start read declared captured
      obtain ⟨header, fits⟩ := Ipv4.whole (Option.isSome_of_eq_some read)
      refine ⟨?_, ends⟩
      rw [asks.stage_ipv4, Stage.ipv4, read] at here
      obtain ⟨-, onward⟩ := Stage.header.inj here
      rw [asks'.stage_ipv4, asks'.rest, Stage.ipv4, Ipv4.read?_longer start read]
      dsimp only
      rw [payload, trailer, Ipv4.headerLength_longer start (by omega),
        Ipv4.fragmentOffset_longer start (by omega), onward]
      rfl
  | ipv6 asks read | ipv6Cut asks read =>
      obtain ⟨e, asks', start⟩ := asks.longer longer
      rw [asks.rest] at captured ⊢
      obtain ⟨payload, trailer, ends⟩ := Ipv6.closed start read declared captured
      refine ⟨?_, ends⟩
      rw [asks.stage_ipv6, Stage.ipv6, read] at here
      obtain ⟨-, onward⟩ := Stage.header.inj here
      rw [asks'.stage_ipv6, asks'.rest, Stage.ipv6, Ipv6.read?_longer start read]
      dsimp only
      rw [payload, trailer, onward]
      rfl
  | vlan | arp | tcp | udp | icmp | icmpv6 => cases ip
  | application _ found => cases (Transport.kind_of_detect? found).symm.trans ip

/-! ## Two dissections that differ in one trailer -/

/-- The second dissection has `n` bytes more behind its outermost datagram, where the first
has as many as given.  Nothing in front of that datagram has a trailer. -/
inductive Padded (n trailer : Nat) : Dissection → Dissection → Prop
  | here {span : Span} {r : Dissection} :
      span.trailer = trailer → Padded n trailer (r.cons span) (r.cons (span.lengthened n))
  | behind {span : Span} {r r' : Dissection} :
      span.trailer = 0 → Padded n trailer r r' →
      Padded n trailer (r.cons span) (r'.cons span)

theorem Padded.layers {n trailer : Nat} {r r' : Dissection} (padded : Padded n trailer r r') :
    ∃ body, r.layers = body ++ Dissection.trailing trailer ∧
      r'.layers = body ++ Dissection.trailing (trailer + n) := by
  induction padded with
  | @here span r same =>
      refine ⟨span.layer :: r.layers, ?_, ?_⟩
      · rw [Dissection.layers_cons_trailing, same]
        rfl
      · rw [Dissection.layers_cons_trailing, Span.lengthened, same]
        rfl
  | @behind span r r' none _ ih =>
      obtain ⟨body, layers, layers'⟩ := ih
      have nothing : Dissection.trailing span.trailer = [] := if_pos none
      refine ⟨span.layer :: body, ?_, ?_⟩
      · rw [Dissection.layers_cons_trailing, nothing, layers, List.append_nil]
        rfl
      · rw [Dissection.layers_cons_trailing, nothing, layers', List.append_nil]
        rfl

/-! ## The outermost IP header -/

def Region.isIp (r : Region) : Bool := r.layer.kind = .ip

/-- The outermost IP header of a frame. -/
def outermostIp? (link : LinkType) (d : Bytes) : Option Region :=
  (regions link d).find? (·.isIp)

/-- The outermost IP header among the headers from an offset on, as long as each takes the
rest of the frame. -/
def Outermost (d : Bytes) (start : Nat) (r : Dissection) (ip : Region) : Prop :=
  (place d start d.length r.headers).find? (·.isIp) = some ip

section
variable {d : Bytes} {start : Nat} {r : Dissection} {ip : Region}

theorem Outermost.not_nil (outermost : Outermost d start r ip) : r.spans ≠ [] := by
  intro none
  rw [Outermost, Dissection.headers, none] at outermost
  cases outermost

theorem Outermost.here {span : Span} (outermost : Outermost d start (r.cons span) ip)
    (kind : span.layer.kind = .ip) : ip = ⟨span.layer, start, d.length⟩ := by
  have found : Region.isIp ⟨span.layer, start, d.length⟩ := decide_eq_true kind
  rw [Outermost, Dissection.headers, Dissection.cons, List.map_cons, place,
    List.find?_cons_of_pos found] at outermost
  exact (Option.some.inj outermost).symm

theorem Outermost.of_cons {span : Span} (outermost : Outermost d start (r.cons span) ip)
    (kind : span.layer.kind ≠ .ip) :
    (place d (start + span.layer.headerSize (d.span start d.length))
      (start + span.layer.contentEnd (d.span start d.length)) r.headers).find? (·.isIp)
        = some ip := by
  have other : ¬ Region.isIp ⟨span.layer, start, d.length⟩ := by
    rw [Region.isIp, decide_eq_true_eq]
    exact kind
  rw [Outermost, Dissection.headers, Dissection.cons, List.map_cons, place,
    List.find?_cons_of_neg other] at outermost
  exact outermost

/-- Where nothing is recognized behind a header, it is IP itself. -/
theorem Outermost.kind_of_unread {span : Span} {room : Nat} {rest : Bytes}
    (outermost : Outermost d start ((walk room (.unread rest)).cons span) ip) :
    span.layer.kind = .ip := by
  by_contra kind
  have further := outermost.of_cons kind
  rw [Dissection.headers, (walked_walk room (.unread rest)).nothing_behind] at further
  cases further

/-- A link header or a tag: of a fixed size, and with the rest of the frame for its content. -/
structure Span.Leads (s : Span) : Prop where
  kind : s.layer.kind ≠ .ip
  trailer : s.trailer = 0
  size : ∀ b, s.layer.headerSize b = s.size
  content : ∀ b, s.layer.contentEnd b = b.length

theorem Outermost.behind {span : Span} (outermost : Outermost d start (r.cons span) ip)
    (leads : span.Leads) (within : start ≤ d.length) : Outermost d (start + span.size) r ip := by
  have last : start + (d.span start d.length).length = d.length := by
    rw [Bytes.length_span, Nat.min_self]
    omega
  have further := outermost.of_cons leads.kind
  rw [leads.size, leads.content, last] at further
  exact further

end

theorem LinkStep.leads {link : LinkType} {d : Bytes} {span : Span} {onward : Next}
    (step : LinkStep link d span onward) :
    span.Leads ∧ span.size ≤ d.length ∧ onward.rest = d.drop span.size := by
  cases step with
  | ethernet read =>
      exact ⟨⟨nofun, rfl, fun _ => rfl, fun _ => rfl⟩,
        Ethernet.whole (Option.isSome_of_eq_some read), rfl⟩
  | cooked read =>
      exact ⟨⟨nofun, rfl, fun _ => rfl, fun _ => rfl⟩,
        CookedCapture.whole (Option.isSome_of_eq_some read), rfl⟩
  | loopback read | loopbackOther read =>
      exact ⟨⟨nofun, rfl, fun _ => rfl, fun _ => rfl⟩,
        Loopback.whole (Option.isSome_of_eq_some read), rfl⟩

/-- At the outermost IP header itself only its trailer differs. -/
theorem Next.Step.padded {d e : Bytes} {start n : Nat} {type : UInt16} {span : Span} {onward : Next}
    (step : (Next.etherType type (d.drop start)).Step span onward) (room : Nat) (begins : d <+: e)
    (within : start ≤ d.length) (declared : span.layer.declaredEnd? = some n)
    (captured : start + n ≤ d.length) :
    Padded (e.length - d.length)
      (d.length - (start + max n (Region.size d ⟨span.layer, start, d.length⟩)))
      ((walk room onward).cons span) (walk (room + 1) (.etherType type (e.drop start))) := by
  have longer : (Next.etherType type (d.drop start)).Longer (.etherType type (e.drop start)) :=
    .etherType (begins.drop start)
  have rest : (d.drop start).length = d.length - start := List.length_drop
  have rest' : (e.drop start).length = e.length - start := List.length_drop
  have inside : n ≤ (d.drop start).length := by omega
  obtain ⟨stage', trailer⟩ := step.closed longer declared inside
  have length := begins.length_le
  have more : (e.drop start).length - (d.drop start).length = e.length - d.length := by omega
  rw [walk_of_stage stage', Next.rest, Next.rest, more]
  refine .here ?_
  rw [trailer, Region.size, Region.bytes, ← Bytes.drop_eq_span, Next.rest, rest]
  exact Nat.sub_sub d.length start _

/-- The induction is on the room, and one tag at a time is passed. -/
theorem padded_walk {d e : Bytes} {room start n : Nat} {type : UInt16} {ip : Region}
    (begins : d <+: e) (within : start ≤ d.length)
    (outermost : Outermost d start (walk room (.etherType type (d.drop start))) ip)
    (declared : ip.layer.declaredEnd? = some n) (captured : ip.start + n ≤ d.length) :
    Padded (e.length - d.length) (d.length - (ip.start + max n (ip.size d)))
      (walk room (.etherType type (d.drop start))) (walk room (.etherType type (e.drop start))) := by
  induction room generalizing start type with
  | zero => exact absurd rfl outermost.not_nil
  | succ room ih =>
      have allowed := (Next.etherType type (d.drop start)).allows_stage
      cases stage : (Next.etherType type (d.drop start)).stage with
      | unread rest =>
          rw [walk, stage] at outermost
          exact absurd rfl outermost.not_nil
      | header span onward =>
          rw [stage] at allowed
          have step : (Next.etherType type (d.drop start)).Step span onward := allowed
          rw [walk_of_stage stage] at outermost ⊢
          by_cases kind : span.layer.kind = .ip
          · obtain rfl := outermost.here kind
            exact step.padded room begins within declared captured
          · cases step with
            | vlan tag read =>
                have step' := Next.Step.vlan tag (Vlan.read?_longer (begins.drop start) read)
                have inside := Vlan.whole (Option.isSome_of_eq_some read)
                rw [List.length_drop] at inside
                have outermost :=
                  outermost.behind ⟨kind, rfl, fun _ => rfl, fun _ => rfl⟩ within
                rw [walk_of_step step']
                rw [List.drop_drop] at outermost ⊢
                rw [List.drop_drop]
                exact .behind rfl (ih (by omega) outermost)
            | arp => exact absurd outermost.kind_of_unread kind
            | ipv4 | ipv4Fragment | ipv6 | ipv6Cut => exact absurd rfl kind

theorem padded_dissection (link : LinkType) {d e : Bytes} {n : Nat} {ip : Region}
    (begins : d <+: e) (outermost : outermostIp? link d = some ip)
    (declared : ip.layer.declaredEnd? = some n) (captured : ip.start + n ≤ d.length) :
    Padded (e.length - d.length) (d.length - (ip.start + max n (ip.size d)))
      (dissection link d) (dissection link e) := by
  have outermost : Outermost d 0 (dissection link d) ip := by
    rw [outermostIp?, regions_eq_place] at outermost
    exact outermost
  rcases dissection_cases link d with ⟨span, onward, step⟩ | ⟨rfl, type, -, named⟩ | nothing
  · rw [dissection_of_linkStep step] at outermost ⊢
    obtain ⟨leads, inside, rest⟩ := step.leads
    obtain ⟨onward', step', longer⟩ := step.longer begins
    obtain ⟨-, -, rest'⟩ := step'.leads
    rw [dissection_of_linkStep step']
    cases longer with
    | etherType =>
        cases rest
        cases rest'
        have outermost := outermost.behind leads (Nat.zero_le _)
        rw [Nat.zero_add] at outermost
        exact .behind leads.trailer (padded_walk begins inside outermost declared captured)
    | unread => exact absurd outermost.kind_of_unread leads.kind
    | ipProtocol | application => cases step
  · rw [dissection, named] at outermost ⊢
    rw [dissection, rawIp_longer begins named]
    exact padded_walk begins (Nat.zero_le _) outermost declared captured
  · rw [nothing] at outermost
    exact absurd rfl outermost.not_nil

/-! ## What the packet shows -/

/-- A trailer is no protocol and has no addresses. -/
theorem Dissection.trailing_silent {n : Nat} {l : Layer} (h : l ∈ trailing n) :
    ¬ l.isRecognized ∧ l.addresses? = none := by
  unfold trailing at h
  split at h
  · cases h
  · rw [List.mem_singleton.mp h]
    exact ⟨Bool.false_ne_true, rfl⟩

theorem heading_trailing (layers : List Layer) (n : Nat) :
    heading (layers ++ Dissection.trailing n) = heading layers :=
  heading_append (fun _ hl => (Dissection.trailing_silent hl).1) layers

theorem endpoints_trailing (layers : List Layer) (n : Nat) :
    endpoints (layers ++ Dissection.trailing n) = endpoints layers :=
  endpoints_append (fun _ hl => (Dissection.trailing_silent hl).2) layers

/-- **Padding never changes the decoding.**  Where the outermost IP header declares an end
that was captured, bytes behind the frame lengthen the trailer of its datagram, or are a new
last trailer, and no other layer changes.  The packet has the same label, info and addresses. -/
theorem padding_only_lengthens_trailer (link : LinkType) (d p : Bytes) (ip : Region) (n : Nat)
    (outermost : outermostIp? link d = some ip) (declared : ip.layer.declaredEnd? = some n)
    (captured : ip.start + n ≤ d.length) :
    let behind := d.length - (ip.start + max n (ip.size d))
    (∃ body, dissect link d = body ++ Dissection.trailing behind ∧
      dissect link (d ++ p) = body ++ Dissection.trailing (behind + p.length)) ∧
    ∀ f g : Frame, f.isWellFormed → g.isWellFormed → f.link = link → g.link = link →
      f.data = d → g.data = d ++ p →
      ∃ a b, decode f = .ok a ∧ decode g = .ok b ∧ b.protocol = a.protocol ∧ b.info = a.info ∧
        b.src = a.src ∧ b.dst = a.dst := by
  intro behind
  have padded := padded_dissection link (List.prefix_append d p) outermost declared captured
  have more : (d ++ p).length - d.length = p.length := by
    rw [List.length_append, Nat.add_sub_cancel_left]
  rw [more] at padded
  obtain ⟨body, layers, layers'⟩ := padded.layers
  refine ⟨⟨body, layers, layers'⟩, ?_⟩
  rintro f g whole whole' rfl link rfl data
  have heads : heading (dissect g.link g.data) = heading (dissect f.link f.data) := by
    rw [link, data, dissect, dissect, layers, layers', heading_trailing, heading_trailing]
  have ends : endpoints (dissect g.link g.data) = endpoints (dissect f.link f.data) := by
    rw [link, data, dissect, dissect, layers, layers', endpoints_trailing, endpoints_trailing]
  refine ⟨_, _, decode_wellFormed whole, decode_wellFormed whole', ?_, ?_, ?_, ?_⟩
  · exact congrArg (·.1) heads
  · exact congrArg (·.2) heads
  · exact congrArg (·.1) ends
  · exact congrArg (·.2) ends

/-- A tag, and a tunnel with bytes behind both of its datagrams.  The padding looks like the
start of a header. -/
theorem padding_only_lengthens_trailer_tunnel :
    let mac (b : UInt8) : Mac := ⟨[2, 0, 0, 0, 0, b], rfl⟩
    let ip4 (b : UInt8) : Ip4 := ⟨[10, 0, 0, b], rfl⟩
    let ip6 (b : UInt8) : Ip6 := ⟨[0xfd, 0, 0, 0, 0, 0, 0, 0, 0, 0, 0, 0, 0, 0, 0, b], rfl⟩
    let inner := Ipv4.packet (ip4 1) (ip4 2) 17 (Udp.datagram 40000 40001 []) ++ [1, 2, 3, 4]
    let d := Ethernet.frame (mac 1) (mac 2) 0x8100
      (Vlan.tag 5 1 0x86dd (Ipv6.packet (ip6 1) (ip6 2) 4 inner)) ++ [0, 0]
    let p : Bytes := [0x45, 0x00, 0x00, 0x14, 0x00]
    let ip : Region := ⟨.ipv6 ⟨ip6 1, ip6 2, 4, 64, 32⟩, 18, 92⟩
    let body : List Layer := [.ethernet ⟨mac 1, mac 2, 0x8100⟩, .vlan ⟨5, 1, 0x86dd⟩,
      .ipv6 ⟨ip6 1, ip6 2, 4, 64, 32⟩, .ipv4 ⟨ip4 1, ip4 2, 17, 64, 28⟩, .udp ⟨40000, 40001, 8⟩,
      .trailer 4]
    outermostIp? .ethernet d = some ip ∧ ip.layer.declaredEnd? = some 72 ∧
      ip.start + 72 ≤ d.length ∧ dissect .ethernet d = body ++ [.trailer 2] ∧
      dissect .ethernet (d ++ p) = body ++ [.trailer 7] := by
  intro mac ip4 ip6 inner d p ip body
  have outermost : outermostIp? .ethernet d = some ip := by decide +kernel
  have declared : ip.layer.declaredEnd? = some 72 := by decide
  have captured : ip.start + 72 ≤ d.length := by decide
  have plain : dissect .ethernet d = body ++ [.trailer 2] := by decide +kernel
  obtain ⟨⟨front, layers, layers'⟩, -⟩ :=
    padding_only_lengthens_trailer .ethernet d p ip 72 outermost declared captured
  have behind : d.length - (ip.start + max 72 (ip.size d)) = 2 := by decide +kernel
  rw [behind] at layers layers'
  have same : front = body := List.append_cancel_right (layers.symm.trans plain)
  rw [same] at layers'
  exact ⟨outermost, declared, captured, plain, layers'⟩

end PacketWatch
