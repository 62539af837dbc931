/-
# `PacketWatch.Proofs.Dissect.Reach` — what stands in front of a header leads to it

A walk has read nothing of a frame but the headers that it has passed.  So a header that it
comes to is looked for at the same place of every frame of that length that begins alike:
behind the same headers, with the same room left, and with the same asked about the bytes that
stand there (`ComesTo`).  What these bytes are is left open, and so is what follows them.

Only a link header, tags and IP headers are passed on the way to a header.  Each is a step of
the other walk as well (`Next.Step.again`), with the same layer, length and trailer, because
both frames have the same length; so it is an induction on the walk.
-/
import PacketWatch.Proofs.Dissect.Accounting
import PacketWatch.Proofs.Dissect.ExtensionChain

namespace PacketWatch

open Bytes

section
variable {n : Nat} {d e : Bytes}

/-! ## Headers of frames that begin alike -/

theorem Ethernet.read?_agree (agree : Agree n d e) (inside : headerLength ≤ n) :
    read? e = read? d := by
  have inside : 14 ≤ n := inside
  rw [read?, read?, agree.length, agree.octetsAt (by omega), agree.octetsAt (by omega),
    agree.word16At (by omega)]

theorem CookedCapture.read?_agree (agree : Agree n d e) (inside : headerLength ≤ n) :
    read? e = read? d := by
  have inside : 16 ≤ n := inside
  have used : addressLength e = addressLength d := by
    rw [addressLength, addressLength, agree.word16At (by omega)]
  have address : (e.drop 6).take (addressLength d) = (d.drop 6).take (addressLength d) := by
    have short : addressLength d ≤ 8 := Nat.min_le_right _ _
    exact ((agree.drop 6).fewer (by omega)).start
  rw [read?, read?, agree.length, used, address, agree.word16At (by omega),
    agree.word16At (by omega)]

theorem Loopback.read?_agree (agree : Agree n d e) (inside : headerLength ≤ n) :
    read? e = read? d := by
  have inside : 4 ≤ n := inside
  rw [read?, read?, agree.length, agree.byteAt (by omega), agree.byteAt (by omega),
    agree.byteAt (by omega), agree.byteAt (by omega)]

theorem Vlan.read?_agree (agree : Agree n d e) (inside : headerLength ≤ n) :
    read? e = read? d := by
  have inside : 4 ≤ n := inside
  rw [read?, read?, agree.length, agree.word16At (by omega), agree.word16At (by omega)]

namespace Ipv4

theorem headerLength_agree (agree : Agree n d e) (inside : 20 ≤ n) :
    headerLength e = headerLength d := by
  rw [headerLength, headerLength, agree.byteAt (by omega)]

theorem read?_agree (agree : Agree n d e) (inside : 20 ≤ n) : read? e = read? d := by
  have header : hasHeader e = hasHeader d := by
    rw [hasHeader, hasHeader, agree.length, headerLength_agree agree inside,
      agree.byteAt (by omega)]
  rw [read?, read?, header, agree.octetsAt (by omega), agree.octetsAt (by omega),
    agree.byteAt (by omega), agree.byteAt (by omega), agree.word16At (by omega)]

theorem fragmentOffset_agree (agree : Agree n d e) (inside : 20 ≤ n) :
    fragmentOffset e = fragmentOffset d := by
  rw [fragmentOffset, fragmentOffset, agree.word16At (by omega)]

theorem datagramEnd_agree (agree : Agree n d e) (inside : 20 ≤ n) :
    datagramEnd e = datagramEnd d := by
  rw [datagramEnd, datagramEnd, agree.length, headerLength_agree agree inside,
    agree.word16At (by omega)]

theorem trailer_agree (agree : Agree n d e) (inside : 20 ≤ n) : trailer e = trailer d := by
  rw [trailer, trailer, agree.length, datagramEnd_agree agree inside]

theorem payload_agree (agree : Agree n d e) (inside : 20 ≤ n) :
    payload e = e.span (headerLength d) (datagramEnd d) := by
  rw [payload, headerLength_agree agree inside, datagramEnd_agree agree inside]

end Ipv4

namespace Ipv6

theorem read?_agree (agree : Agree n d e) (inside : 40 ≤ n) : read? e = read? d := by
  have header : hasHeader e = hasHeader d := by
    rw [hasHeader, hasHeader, agree.length, agree.byteAt (by omega)]
  rw [read?, read?, header, agree.octetsAt (by omega), agree.octetsAt (by omega),
    agree.byteAt (by omega), agree.byteAt (by omega), agree.word16At (by omega)]

theorem datagramEnd_agree (agree : Agree n d e) (inside : 40 ≤ n) :
    datagramEnd e = datagramEnd d := by
  rw [datagramEnd, datagramEnd, agree.length, agree.word16At (by omega)]

theorem trailer_agree (agree : Agree n d e) (inside : 40 ≤ n) : trailer e = trailer d := by
  rw [trailer, trailer, agree.length, datagramEnd_agree agree inside]

theorem payload_agree (agree : Agree n d e) (inside : 40 ≤ n) :
    Agree (n - headerLength) (payload d) (payload e) := by
  rw [payload, payload, datagramEnd_agree agree inside]
  exact agree.span headerLength (datagramEnd d)

namespace Extension

/-- The headers that are passed over are what does not remain. -/
theorem sum_lengths (kind : UInt8) (d : Bytes) :
    (lengths kind d).sum = d.length - (skip kind d).rest.length := by
  obtain ⟨fits, rest⟩ := skip_rest kind d
  rw [rest, List.length_drop]
  omega

/-- Where the headers on the way are the same, they lead to the same upper protocol. -/
theorem skip_agree {kind protocol : UInt8} (agree : Agree n d e)
    (reached : (skip kind d).upper? = some protocol) (inside : (lengths kind d).sum ≤ n) :
    skip kind e = ⟨some protocol, e.drop (lengths kind d).sum⟩ := by
  obtain ⟨headers, upper, rest, rfl, rfl, ended | stuck⟩ := exists_chain kind d
  · have walked : skip (first upper headers) (chain upper headers ++ rest) = ⟨some upper, rest⟩ := by
      rw [skip_chain, skip_upper ended]
    have length : (lengths (first upper headers) (chain upper headers ++ rest)).sum =
        (chain upper headers).length := by
      rw [sum_lengths, walked, List.length_append, Nat.add_sub_cancel_right]
    rw [length] at inside ⊢
    rw [walked] at reached
    cases reached
    obtain ⟨rest', rfl, -⟩ := (agree.fewer inside).behind (n := 0)
    rw [skip_chain, skip_upper ended, List.drop_left]
  · rw [skip_chain, skip_blocked stuck] at reached
    cases reached

end Extension

end Ipv6

end

/-! ## Steps -/

/-- The same is asked about other bytes. -/
def Next.about : Next → Bytes → Next
  | etherType type _, d => .etherType type d
  | ipProtocol protocol _, d => .ipProtocol protocol d
  | application t srcPort dstPort _, d => .application t srcPort dstPort d
  | unread _, d => .unread d

theorem Next.about_rest (next : Next) : next.about next.rest = next := by
  cases next with
  | etherType | ipProtocol | application | unread => rfl

theorem Next.Asks.about {next : Next} {type : UInt16} {protocol : UInt8} {d : Bytes}
    (asks : next.Asks type protocol d) (e : Bytes) : (next.about e).Asks type protocol e := by
  rcases asks with rfl | rfl
  · exact .inl rfl
  · exact .inr rfl

/-- A header is asked for, by an Ethernet type or a protocol number. -/
def Next.AsksForHeader : Next → Prop
  | etherType _ _ | ipProtocol _ _ => True
  | application _ _ _ _ | unread _ => False

namespace Layer

/-- The layers that a header may follow. -/
def isOuter (l : Layer) : Bool := [.ethernet, .cooked, .loopback, .vlan, .ip].contains l.kind

/-- The layers that are asked for by a number. -/
def isInner (l : Layer) : Bool := [.vlan, .arp, .ip, .icmp, .icmpv6, .tcp, .udp].contains l.kind

end Layer

/-- Behind a transport there is no other header, and nothing at all behind what is unread. -/
theorem Walked.asksForHeader {room : Nat} {next : Next} {r : Dissection}
    (walked : Walked room next r) {l : Layer} (here : l ∈ r.headers) (inner : l.isInner) :
    next.AsksForHeader := by
  cases next with
  | etherType | ipProtocol => trivial
  | unread =>
      rw [Dissection.headers, walked.nothing_behind] at here
      cases here
  | application =>
      cases walked with
      | stop => cases here
      | step step further =>
          obtain ⟨layer, found, rfl, rfl⟩ := step.of_application
          rw [further.of_unread] at here
          obtain rfl := List.mem_singleton.mp here
          rw [Layer.isInner, Transport.kind_of_detect? found] at inner
          cases inner

/-- A header on the way is read again where its own bytes are the same, and the same is asked
about what follows it. -/
theorem Next.Step.again {next onward : Next} {span : Span} (step : next.Step span onward)
    (leads : onward.AsksForHeader) {n : Nat} {e : Bytes} (agree : Agree n next.rest e)
    (inside : span.layer.headerSize next.rest ≤ n) :
    (next.about e).Step span (onward.about
      (e.span (span.layer.headerSize next.rest) (span.layer.contentEnd next.rest))) := by
  cases step with
  | @vlan type d h tag read =>
      have agree : Agree n d e := agree
      have again := Next.Step.vlan tag ((Vlan.read?_agree agree inside).trans read)
      rw [agree.drop_eq_span] at again
      exact again
  | @ipv4 next d h asks read first =>
      rw [asks.rest] at agree inside ⊢
      have fixed : 20 ≤ n :=
        Nat.le_trans (Ipv4.whole (Option.isSome_of_eq_some read)).1 inside
      rw [← Ipv4.read?_agree agree fixed] at read
      rw [← Ipv4.fragmentOffset_agree agree fixed] at first
      have again := Next.Step.ipv4 (asks.about e) read first
      rw [Ipv4.headerLength_agree agree fixed, Ipv4.trailer_agree agree fixed,
        Ipv4.payload_agree agree fixed] at again
      exact again
  | @ipv6 next d h protocol asks read reached =>
      rw [asks.rest] at agree inside ⊢
      -- the extension headers lie inside of what both have in common
      have fixed : 40 ≤ n := Nat.le_trans (Nat.le_add_right 40 _) inside
      have extensions : (Ipv6.Extension.lengths h.nextHeader (Ipv6.payload d)).sum ≤
          n - Ipv6.headerLength := Nat.le_sub_of_add_le' inside
      have payload := Ipv6.payload_agree agree fixed
      have upper : Ipv6.upper h e = ⟨some protocol, (Ipv6.payload e).drop _⟩ :=
        Ipv6.Extension.skip_agree payload reached extensions
      have size : Ipv6.size h e = Ipv6.size h d := by
        have rest := (Ipv6.Extension.skip_rest h.nextHeader (Ipv6.payload d)).2
        rw [Ipv6.size, Ipv6.size, upper, Ipv6.upper, rest, List.length_drop, List.length_drop,
          payload.length]
      have content : (Ipv6.upper h e).rest = e.span (Layer.headerSize d (.ipv6 h))
          (Layer.contentEnd d (.ipv6 h)) := by
        have content : Ipv6.payload e = e.span Ipv6.headerLength (Ipv6.datagramEnd d) := by
          rw [Ipv6.payload, Ipv6.datagramEnd_agree agree fixed]
        rw [upper, content, span, List.drop_drop]
        rfl
      rw [← Ipv6.read?_agree agree fixed] at read
      have again := Next.Step.ipv6 (asks.about e) read (congrArg (·.upper?) upper)
      rw [size, Ipv6.trailer_agree agree fixed, content] at again
      exact again
  | ipv4Fragment | ipv6Cut | arp | icmp | icmpv6 | application => cases leads
  | tcp | udp => cases leads

/-- The same of a link header. -/
theorem LinkStep.again {link : LinkType} {d e : Bytes} {span : Span} {onward : Next}
    (step : LinkStep link d span onward) {n : Nat} (agree : Agree n d e)
    (inside : span.layer.headerSize d ≤ n) :
    LinkStep link e span
      (onward.about (e.span (span.layer.headerSize d) (span.layer.contentEnd d))) := by
  cases step with
  | ethernet read =>
      have again := LinkStep.ethernet ((Ethernet.read?_agree agree inside).trans read)
      rw [agree.drop_eq_span] at again
      exact again
  | cooked read =>
      have again := LinkStep.cooked ((CookedCapture.read?_agree agree inside).trans read)
      rw [agree.drop_eq_span] at again
      exact again
  | loopback read known =>
      have again := LinkStep.loopback ((Loopback.read?_agree agree inside).trans read) known
      rw [agree.drop_eq_span] at again
      exact again
  | loopbackOther read unknown =>
      have again := LinkStep.loopbackOther ((Loopback.read?_agree agree inside).trans read) unknown
      rw [agree.drop_eq_span] at again
      exact again

/-- Under raw IP the first byte decides what is asked. -/
theorem rawIp_agree {n : Nat} {d e : Bytes} (agree : Agree n d e) (some : 0 < n) :
    rawIp e = (rawIp d).about e := by
  have empty : e.isEmpty = d.isEmpty := by
    rw [Bool.eq_iff_iff, List.isEmpty_iff_length_eq_zero, List.isEmpty_iff_length_eq_zero,
      agree.length]
  rw [rawIp, rawIp, empty, agree.byteAt some]
  split
  · rfl
  split
  · rfl
  split
  · rfl
  · rfl

/-! ## The way to a header -/

/-- Headers in front of a dissection. -/
def Dissection.behind (front : List Span) (r : Dissection) : Dissection :=
  { r with spans := front ++ r.spans }

/-- The layers of the headers stand in front, and their trailers at the end. -/
theorem Dissection.layers_behind (front : List Span) (r : Dissection) :
    (r.behind front).layers =
      front.map (·.layer) ++ r.layers ++ Dissection.trailers ⟨front, 0⟩ := by
  simp only [layers, headers, payload, trailers, behind, List.map_append, List.reverse_append,
    List.filter_append, List.append_assoc]
  rfl

/-- What `find` makes of a frame comes to the header of a region: `target` is looked at there,
behind the headers `front` and with room for `room` more.  So it does in every frame that has
its first `n` bytes in common with this one. -/
structure ComesTo (find : Bytes → Dissection) (n : Nat) (d : Bytes) (region : Region)
    (front : List Span) (room : Nat) (target : Next) : Prop where
  rest : target.rest = region.bytes d
  step : ∃ span onward, target.Step span onward ∧ span.layer = region.layer
  outer : ∀ s ∈ front, s.layer.isOuter
  again : ∀ e, Agree n d e →
    find e = (walk (room + 1) (target.about (region.bytes e))).behind front

/-- A header is passed before that. -/
theorem ComesTo.cons {find further : Bytes → Dissection} {n : Nat} {d : Bytes} {region : Region}
    {front : List Span} {room : Nat} {target : Next} {span : Span} (outer : span.layer.isOuter)
    (passed : ∀ e, Agree n d e → find e = (further e).cons span)
    (comes : ComesTo further n d region front room target) :
    ComesTo find n d region (span :: front) room target where
  rest := comes.rest
  step := comes.step
  outer := List.forall_mem_cons.mpr ⟨outer, comes.outer⟩
  again := by
    intro e agree
    rw [passed e agree, comes.again e agree]
    rfl

theorem le_start_of_place {d : Bytes} {start stop : Nat} {layers : List Layer} {r : Region}
    (here : r ∈ place d start stop layers) : start ≤ r.start := by
  obtain ⟨front, back, split⟩ := List.append_of_mem here
  rw [start_of_place split]
  exact Nat.le_add_right _ _

/-- A step that leads to a header is one of those that it may follow. -/
theorem Next.Step.isOuter {next onward : Next} {span : Span} (step : next.Step span onward)
    (leads : onward.AsksForHeader) : span.layer.isOuter := by
  cases step with
  | vlan | ipv4 | ipv6 => rfl
  | ipv4Fragment | ipv6Cut | arp | icmp | icmpv6 | application | tcp | udp => cases leads

theorem LinkStep.isOuter {link : LinkType} {d : Bytes} {span : Span} {onward : Next}
    (step : LinkStep link d span onward) : span.layer.isOuter := by
  cases step with
  | ethernet | cooked | loopback | loopbackOther => rfl

/-- The induction is on the walk, with the offsets of what is to be looked at. -/
theorem Walked.comesTo {room : Nat} {next : Next} {r : Dissection} (walked : Walked room next r)
    {d : Bytes} {start stop n : Nat} (within : start ≤ stop) (inside : stop ≤ d.length)
    (rest : next.rest = d.span start stop) {region : Region}
    (here : region ∈ place d start stop r.headers) (inner : region.layer.isInner)
    (far : region.start ≤ n) :
    ∃ front left target, ComesTo (fun e => walk room (next.about (e.span start stop))) n d region
      front left target := by
  induction walked generalizing start stop with
  | stop => cases here
  | @step room next onward span r step walked ih =>
      rcases List.mem_cons.mp here with rfl | later
      · exact ⟨[], room, next, rest, ⟨span, onward, step, rfl⟩, List.forall_mem_nil _,
          fun _ _ => rfl⟩
      · obtain ⟨ordered, ends, content⟩ := (rest ▸ step.splits).content within inside
        have behind : start + span.layer.headerSize (d.span start stop) ≤ region.start :=
          le_start_of_place later
        have leads : onward.AsksForHeader :=
          walked.asksForHeader (map_layer_place d _ _ r.headers ▸ List.mem_map_of_mem later) inner
        obtain ⟨front, left, target, comes⟩ :=
          ih ordered (Nat.le_trans ends inside) content later
        refine ⟨span :: front, left, target, comes.cons (step.isOuter leads) fun e agree => ?_⟩
        have agree : Agree (n - start) next.rest (e.span start stop) := rest ▸ agree.span start stop
        have again := step.again leads agree (by rw [rest]; omega)
        rw [rest, span_span (by omega)] at again
        exact walk_of_step again

/-- **What stands in front of a header leads to it**, in every frame that begins alike. -/
theorem dissection_comesTo {link : LinkType} {d : Bytes} {n : Nat} {region : Region}
    (here : region ∈ regions link d) (inner : region.layer.isInner) (far : region.start ≤ n)
    (some : 0 < n) :
    ∃ front room target, ComesTo (dissection link) n d region front room target := by
  have all := span_whole d
  have here : region ∈ place d 0 d.length (dissection link d).headers :=
    regions_eq_place link d ▸ here
  rcases dissection_cases link d with ⟨span, onward, step⟩ | ⟨rfl, type, -, named⟩ | nothing
  · rw [dissection_of_linkStep step] at here
    rcases List.mem_cons.mp here with rfl | later
    · cases step with
      | ethernet | cooked | loopback | loopbackOther => cases inner
    · obtain ⟨ordered, ends, content⟩ :=
        step.splits_frame.content (Nat.zero_le _) (Nat.le_refl _)
      have behind : 0 + span.layer.headerSize (d.span 0 d.length) ≤ region.start :=
        le_start_of_place later
      obtain ⟨front, room, target, comes⟩ :=
        (walked_walk _ _).comesTo ordered ends content later inner far
      refine ⟨span :: front, room, target, comes.cons step.isOuter fun e agree => ?_⟩
      rw [all, Nat.zero_add] at behind
      have again := step.again agree (Nat.le_trans behind far)
      rw [dissection_of_linkStep again, all, Nat.zero_add, Nat.zero_add]
  · rw [dissection, named] at here
    obtain ⟨front, room, target, comes⟩ :=
      (walked_walk _ (.etherType type d)).comesTo (Nat.zero_le _) (Nat.le_refl _) all.symm here
        inner far
    refine ⟨front, room, target, { comes with again := fun e agree => ?_ }⟩
    have all : e.span 0 d.length = e := by rw [← agree.length, span_whole]
    rw [← comes.again e agree, dissection, rawIp_agree agree some, named, all]
  · rw [nothing] at here
    cases here

end PacketWatch
