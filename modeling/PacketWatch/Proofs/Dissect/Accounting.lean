/-
# `PacketWatch.Proofs.Dissect.Accounting` — every byte of a frame is accounted for

The recognized headers lie in the frame one behind the other, from its first byte on.
What a header takes is said by its format and its own bytes (`Layer.headerSize`); a
control message and an application message have no such format and count as nothing.
Where a datagram ends, its content ends too (`Layer.contentEnd`).

    headers + payload + trailers + what is in messages or behind the end of UDP = frame

Each step splits the bytes it is given into its header, the content that follows, what
lies behind the datagram, and what is lost to the account (`Span.Splits`).  The sum over
a whole walk is an induction with the offsets of the content in front of it.
-/
import PacketWatch.Proofs.Dissect.Headers
import PacketWatch.Proofs.Dissect.Shape
import Mathlib.Algebra.BigOperators.Group.List.Basic
import Mathlib.Algebra.GroupWithZero.Nat

namespace PacketWatch

/-! ## What a header takes -/

namespace Ipv6.Extension

/-- The lengths of the extension headers that are passed over. -/
def lengths (kind : UInt8) (d : Bytes) : List Nat :=
  if isExtension kind then
    match _h : length? kind d with
    | none => []
    | some n => n :: lengths (d.byteAt 0) (d.drop n)
  else []
termination_by d.length
decreasing_by
  have := length?_bounds _h
  simp only [List.length_drop]
  omega

/-- The walk over extension headers leaves what lies behind them. -/
theorem skip_rest (kind : UInt8) (d : Bytes) :
    (lengths kind d).sum ≤ d.length ∧ (skip kind d).rest = d.drop (lengths kind d).sum := by
  fun_induction skip kind d with
  | case1 kind d extension cut =>
      unfold lengths
      rw [if_pos extension]
      split
      · exact ⟨Nat.zero_le _, rfl⟩
      · rename_i passed
        exact absurd (cut.symm.trans passed) (by simp)
  | case2 kind d extension n length ih =>
      unfold lengths
      rw [if_pos extension]
      split
      · rename_i none
        exact absurd (none.symm.trans length) (by simp)
      · rename_i m passed
        cases passed.symm.trans length
        have bounds := length?_bounds length
        rw [List.length_drop] at ih
        refine ⟨?_, ?_⟩
        · rw [List.sum_cons]
          omega
        · rw [ih.2, List.drop_drop, List.sum_cons]
  | case3 kind d upper =>
      unfold lengths
      rw [if_neg upper]
      exact ⟨Nat.zero_le _, rfl⟩

end Ipv6.Extension

namespace Layer

/-- Control messages and application messages. -/
def isMessage (l : Layer) : Bool := [.icmp, .icmpv6, .application].contains l.kind

/-- How many of the given bytes the header takes. -/
def headerSize (d : Bytes) : Layer → Nat
  | ethernet _ => 14
  | cooked _ => 16
  | loopback _ => 4
  | vlan _ => 4
  | arp _ => 8 + 2 * ((d.byteAt 4).toNat + (d.byteAt 5).toNat)
  | ipv4 _ => 4 * ((d.byteAt 0).toNat % 16)
  | ipv6 h => 40 + (Ipv6.Extension.lengths h.nextHeader (Ipv6.payload d)).sum
  | tcp _ => 4 * ((d.byteAt 12).toNat / 16)
  | udp _ => 8
  | _ => 0

/-- Where the content that follows the header ends among the given bytes. -/
def contentEnd (d : Bytes) : Layer → Nat
  | ipv4 _ => Ipv4.datagramEnd d
  | ipv6 _ => Ipv6.datagramEnd d
  | udp _ => Udp.payloadEnd d
  | l => if l.isMessage then 0 else d.length

/-- How many of the given bytes are neither header nor content nor trailer. -/
def lost (d : Bytes) : Layer → Nat
  | udp _ => d.length - Udp.payloadEnd d
  | l => if l.isMessage then d.length else 0

/-- Whether the layer is what the given bytes begin with. -/
def IsReadFrom (d : Bytes) : Layer → Prop
  | ethernet h => Ethernet.read? d = some h
  | cooked h => CookedCapture.read? d = some h
  | loopback h => Loopback.read? d = some h
  | vlan h => Vlan.read? d = some h
  | arp h => Arp.read? d = some h
  | ipv4 h => Ipv4.read? d = some h
  | ipv6 h => Ipv6.read? d = some h
  | icmp h | icmpv6 h => Icmp.read? d = some h
  | tcp h => Tcp.read? d = some h
  | udp h => Udp.read? d = some h
  | l => ∃ (t : Transport) (srcPort dstPort : UInt16), t.detect? srcPort dstPort d = some l

/-- A message has no header to count, no content behind it, and is all there is. -/
theorem sizes_of_isMessage {l : Layer} (d : Bytes) (message : l.isMessage) :
    l.headerSize d = 0 ∧ l.contentEnd d = 0 ∧ l.lost d = d.length := by
  cases l with
  | icmp | icmpv6 | dns | http | tls | ssh | ftp | dhcp | ntp => exact ⟨rfl, rfl, rfl⟩
  | ethernet | cooked | loopback | vlan | arp | ipv4 | ipv6 | tcp | udp | payload | trailer =>
      cases message

end Layer

/-! ## What a step makes of its bytes -/

/-- A header in front of the given bytes, and the bytes that follow it. -/
structure Span.Splits (s : Span) (d rest : Bytes) : Prop where
  read : s.layer.IsReadFrom d
  ordered : s.layer.headerSize d ≤ s.layer.contentEnd d
  rest : rest = d.span (s.layer.headerSize d) (s.layer.contentEnd d)
  account : s.layer.contentEnd d + s.trailer + s.layer.lost d = d.length

/-- A header with nothing behind its content. -/
theorem Span.splits_whole {layer : Layer} {size : Nat} {d : Bytes} (read : layer.IsReadFrom d)
    (whole : layer.headerSize d ≤ d.length) (content : layer.contentEnd d = d.length)
    (nothing : layer.lost d = 0) :
    Span.Splits ⟨layer, size, 0⟩ d (d.drop (layer.headerSize d)) where
  read := read
  ordered := content ▸ whole
  rest := by rw [content]; exact Bytes.drop_eq_span d _
  account := by rw [content, nothing]; rfl

/-- A message takes all there is, and no header of it is counted. -/
theorem Span.splits_message {layer : Layer} {d : Bytes} (read : layer.IsReadFrom d)
    (message : layer.isMessage) : Span.Splits ⟨layer, d.length, 0⟩ d [] := by
  obtain ⟨size, stop, lost⟩ := Layer.sizes_of_isMessage d message
  refine ⟨read, ?_, ?_, ?_⟩
  · change layer.headerSize d ≤ layer.contentEnd d
    rw [size, stop]
  · change [] = d.span (layer.headerSize d) (layer.contentEnd d)
    rw [size, stop]
    exact (List.drop_zero (l := d.take 0)).symm
  · change layer.contentEnd d + 0 + layer.lost d = d.length
    rw [stop, lost]
    exact Nat.zero_add _

theorem Ipv4.datagramEnd_bounds {d : Bytes} (whole : headerLength d ≤ d.length) :
    headerLength d ≤ datagramEnd d ∧ datagramEnd d ≤ d.length := by
  unfold datagramEnd
  dsimp only
  split
  · exact ⟨whole, Nat.le_refl _⟩
  · omega

theorem Ipv6.datagramEnd_bounds {d : Bytes} (whole : headerLength ≤ d.length) :
    headerLength ≤ datagramEnd d ∧ datagramEnd d ≤ d.length := by
  unfold datagramEnd
  dsimp only
  split
  · exact ⟨whole, Nat.le_refl _⟩
  · omega

theorem Udp.payloadEnd_bounds {d : Bytes} (whole : headerLength ≤ d.length) :
    headerLength ≤ payloadEnd d ∧ payloadEnd d ≤ d.length := by
  unfold payloadEnd
  omega

theorem Ipv4.splits {d : Bytes} {h : Ipv4} (read : read? d = some h) :
    Span.Splits ⟨.ipv4 h, headerLength d, trailer d⟩ d (payload d) := by
  obtain ⟨-, whole⟩ := Ipv4.whole (Option.isSome_of_eq_some read)
  obtain ⟨behind, inside⟩ := datagramEnd_bounds whole
  exact ⟨read, behind, rfl, Nat.add_sub_of_le inside⟩

theorem Ipv6.splits {d : Bytes} {h : Ipv6} (read : read? d = some h) :
    Span.Splits ⟨.ipv6 h, size h d, trailer d⟩ d (upper h d).rest := by
  have whole := Ipv6.whole (Option.isSome_of_eq_some read)
  obtain ⟨behind, inside⟩ := datagramEnd_bounds whole
  obtain ⟨fits, rest⟩ := Extension.skip_rest h.nextHeader (payload d)
  have length : (payload d).length = datagramEnd d - headerLength := by
    rw [payload, Bytes.length_span, Nat.min_eq_left inside]
  refine ⟨read, ?_, ?_, Nat.add_sub_of_le inside⟩
  · change headerLength + (Extension.lengths h.nextHeader (payload d)).sum ≤ datagramEnd d
    omega
  · rw [upper, rest, payload, Bytes.span, List.drop_drop]
    rfl

theorem Udp.splits {d : Bytes} {h : Udp} (read : read? d = some h) :
    Span.Splits ⟨.udp h, headerLength, 0⟩ d (payload d) := by
  have whole := Udp.whole (Option.isSome_of_eq_some read)
  obtain ⟨behind, inside⟩ := payloadEnd_bounds whole
  exact ⟨read, behind, rfl, Nat.add_sub_of_le inside⟩

theorem LinkStep.splits {link : LinkType} {d : Bytes} {span : Span} {onward : Next}
    (step : LinkStep link d span onward) : span.Splits d onward.rest := by
  cases step with
  | ethernet read =>
      exact Span.splits_whole read (Ethernet.whole (Option.isSome_of_eq_some read)) rfl rfl
  | cooked read =>
      exact Span.splits_whole read (CookedCapture.whole (Option.isSome_of_eq_some read)) rfl rfl
  | loopback read | loopbackOther read =>
      exact Span.splits_whole read (Loopback.whole (Option.isSome_of_eq_some read)) rfl rfl

/-- A link header splits the frame, from its first byte to its last. -/
theorem LinkStep.splits_frame {link : LinkType} {d : Bytes} {span : Span} {onward : Next}
    (step : LinkStep link d span onward) : span.Splits (d.span 0 d.length) onward.rest :=
  (Bytes.span_whole d).symm ▸ step.splits

/-- What a service reads is a message. -/
theorem Layer.message_of_detect? {t : Transport} {srcPort dstPort : UInt16} {d : Bytes}
    {l : Layer} (found : t.detect? srcPort dstPort d = some l) :
    l.IsReadFrom d ∧ l.isMessage := by
  have kind := Transport.kind_of_detect? found
  cases l with
  | dns | http | tls | ssh | ftp | dhcp | ntp => exact ⟨⟨t, srcPort, dstPort, found⟩, rfl⟩
  | ethernet | cooked | loopback | vlan | arp | ipv4 | ipv6 | icmp | icmpv6 | tcp | udp
  | payload | trailer => cases kind

theorem Next.Step.splits {next onward : Next} {span : Span} (step : next.Step span onward) :
    span.Splits next.rest onward.rest := by
  cases step with
  | vlan _ read =>
      exact Span.splits_whole read (Vlan.whole (Option.isSome_of_eq_some read)) rfl rfl
  | arp read =>
      exact Span.splits_whole read (Arp.whole (Option.isSome_of_eq_some read)) rfl rfl
  | ipv4 asks read | ipv4Fragment asks read =>
      rw [asks.rest]
      exact Ipv4.splits read
  | ipv6 asks read | ipv6Cut asks read =>
      rw [asks.rest]
      exact Ipv6.splits read
  | tcp read =>
      exact Span.splits_whole read (Tcp.whole (Option.isSome_of_eq_some read)) rfl rfl
  | udp read => exact Udp.splits read
  | icmp read | icmpv6 read => exact Span.splits_message read rfl
  | application _ found =>
      obtain ⟨read, message⟩ := Layer.message_of_detect? found
      exact Span.splits_message read message

/-! ## Where the headers lie -/

/-- A recognized layer, and the bytes of the frame that its stage was given. -/
structure Region where
  layer : Layer
  start : Nat
  stop : Nat
deriving DecidableEq

namespace Region

def bytes (d : Bytes) (r : Region) : Bytes := d.span r.start r.stop

def size (d : Bytes) (r : Region) : Nat := r.layer.headerSize (r.bytes d)

def lost (d : Bytes) (r : Region) : Nat := r.layer.lost (r.bytes d)

/-- The layer is what its bytes begin with, and its header lies inside of them. -/
structure Sound (d : Bytes) (r : Region) : Prop where
  read : r.layer.IsReadFrom (r.bytes d)
  fits : r.start + r.size d ≤ r.stop
  inside : r.stop ≤ d.length

/-- A UDP header that declares less than its datagram has. -/
def IsCut (r : Region) : Prop := ∃ h, r.layer = .udp h ∧ h.length.toNat < r.stop - r.start

end Region

/-- Puts layers one behind the other, each into the content of the one before. -/
def place (d : Bytes) (start stop : Nat) : List Layer → List Region
  | [] => []
  | l :: more =>
    ⟨l, start, stop⟩ :: place d (start + l.headerSize (d.span start stop))
      (start + l.contentEnd (d.span start stop)) more

/-- The recognized layers of a frame, from its first byte on. -/
def regions (link : LinkType) (d : Bytes) : List Region :=
  place d 0 d.length ((dissect link d).filter (·.isRecognized))

theorem map_layer_place (d : Bytes) (start stop : Nat) (layers : List Layer) :
    (place d start stop layers).map (·.layer) = layers := by
  induction layers generalizing start stop with
  | nil => rfl
  | cons l more ih => exact congrArg (l :: ·) (ih _ _)

/-- A header begins where those in front of it end. -/
theorem start_of_place {d : Bytes} {start stop : Nat} {layers : List Layer} {r : Region}
    {front back : List Region} (here : place d start stop layers = front ++ r :: back) :
    r.start = start + (front.map (·.size d)).sum := by
  induction front generalizing start stop layers with
  | nil =>
      cases layers with
      | nil => cases here
      | cons l more =>
          obtain ⟨rfl, -⟩ := List.cons.inj here
          rfl
  | cons first front ih =>
      cases layers with
      | nil => cases here
      | cons l more =>
          obtain ⟨rfl, further⟩ := List.cons.inj here
          rw [ih further, List.map_cons, List.sum_cons, Nat.add_assoc]
          rfl

/-- The account of a walk in the bytes from one offset to another. -/
structure Accounted (d : Bytes) (start stop : Nat) (r : Dissection) : Prop where
  sound : ∀ region ∈ place d start stop r.headers, region.Sound d
  total : ((place d start stop r.headers).map (·.size d)).sum + r.unread
    + (r.spans.map (·.trailer)).sum + ((place d start stop r.headers).map (·.lost d)).sum
      = stop - start

theorem Accounted.nothing (d : Bytes) (start stop : Nat) :
    Accounted d start stop ⟨[], stop - start⟩ where
  sound := fun _ none => absurd none List.not_mem_nil
  total := Nat.zero_add _

/-- Where the content behind a header lies in the frame. -/
theorem Span.Splits.content {d rest : Bytes} {start stop : Nat} {span : Span}
    (within : start ≤ stop) (inside : stop ≤ d.length)
    (splits : span.Splits (d.span start stop) rest) :
    start + span.layer.headerSize (d.span start stop) ≤
        start + span.layer.contentEnd (d.span start stop) ∧
      start + span.layer.contentEnd (d.span start stop) ≤ stop ∧
      rest = d.span (start + span.layer.headerSize (d.span start stop))
        (start + span.layer.contentEnd (d.span start stop)) := by
  have account := splits.account
  rw [Bytes.length_span, Nat.min_eq_left inside] at account
  refine ⟨Nat.add_le_add_left splits.ordered start, ?_, ?_⟩
  · omega
  · rw [splits.rest, Bytes.span_span (by omega)]

/-- A header in front of what is accounted for, wherever it lies. -/
theorem Accounted.cons {d : Bytes} {start stop : Nat} {span : Span} {r : Dissection}
    {rest : Bytes} (within : start ≤ stop) (inside : stop ≤ d.length)
    (splits : span.Splits (d.span start stop) rest)
    (further : ∀ {first last : Nat}, first ≤ last → last ≤ d.length →
      rest = d.span first last → Accounted d first last r) :
    Accounted d start stop (r.cons span) := by
  have account := splits.account
  rw [Bytes.length_span, Nat.min_eq_left inside] at account
  obtain ⟨ordered, ends, content⟩ := splits.content within inside
  obtain ⟨sound, total⟩ := further ordered (Nat.le_trans ends inside) content
  refine ⟨List.forall_mem_cons.mpr ⟨⟨splits.read, ?_, inside⟩, sound⟩, ?_⟩
  · change start + span.layer.headerSize (d.span start stop) ≤ stop
    omega
  · simp only [Dissection.cons, Dissection.headers, List.map_cons, place, List.sum_cons,
      Region.size, Region.lost, Region.bytes] at total ⊢
    omega

theorem Walked.accounted {room : Nat} {next : Next} {r : Dissection}
    (walked : Walked room next r) {d : Bytes} {start stop : Nat} (within : start ≤ stop)
    (inside : stop ≤ d.length) (rest : next.rest = d.span start stop) :
    Accounted d start stop r := by
  induction walked generalizing start stop with
  | stop =>
      rw [rest, Bytes.length_span, Nat.min_eq_left inside]
      exact .nothing d start stop
  | step step _ ih => exact .cons within inside (rest ▸ step.splits) ih

theorem Dissected.accounted {link : LinkType} {d : Bytes} {r : Dissection}
    (dissected : Dissected d link r) : Accounted d 0 d.length r := by
  cases dissected with
  | unread => exact .nothing d 0 d.length
  | ip _ walked =>
      exact walked.accounted (Nat.zero_le _) (Nat.le_refl _) (Bytes.span_whole d).symm
  | linked step walked =>
      exact .cons (Nat.zero_le _) (Nat.le_refl _) step.splits_frame walked.accounted

/-! ## Messages come last -/

theorem Next.Step.behind_message {next onward : Next} {span : Span}
    (step : next.Step span onward) (message : span.layer.isMessage) : onward = .unread [] := by
  cases step with
  | icmp | icmpv6 | application => rfl
  | vlan | arp | ipv4 | ipv4Fragment | ipv6 | ipv6Cut | tcp | udp => cases message

theorem Walked.message_last {room : Nat} {next : Next} {r : Dissection}
    (walked : Walked room next r) {l : Layer} (here : l ∈ r.headers) (message : l.isMessage) :
    r.headers.getLast? = some l := by
  induction walked with
  | stop => exact absurd here List.not_mem_nil
  | @step _ next onward span r step walked ih =>
      change (span.layer :: r.headers).getLast? = some l
      rcases List.mem_cons.mp here with rfl | later
      · cases step.behind_message message
        rw [Dissection.headers, walked.nothing_behind]
        rfl
      · rw [List.getLast?_cons, ih later]
        rfl

theorem Dissected.message_last {link : LinkType} {d : Bytes} {r : Dissection}
    (dissected : Dissected d link r) {l : Layer} (here : l ∈ r.headers) (message : l.isMessage) :
    r.headers.getLast? = some l := by
  cases dissected with
  | unread => exact absurd here List.not_mem_nil
  | ip _ walked => exact walked.message_last here message
  | @linked _ span onward r step walked =>
      change (span.layer :: r.headers).getLast? = some l
      rcases List.mem_cons.mp here with rfl | later
      · cases step with
        | ethernet | cooked | loopback | loopbackOther => cases message
      · rw [List.getLast?_cons, walked.message_last later message]
        rfl

/-- What is lost is lost in a message, or behind the end that UDP declares. -/
theorem Region.message_or_cut {d : Bytes} {r : Region} (sound : r.Sound d)
    (lost : r.lost d ≠ 0) : r.layer.isMessage ∨ r.IsCut := by
  have length : (r.bytes d).length = r.stop - r.start := by
    rw [bytes, Bytes.length_span, Nat.min_eq_left sound.inside]
  obtain ⟨layer, start, stop⟩ := r
  cases layer with
  | udp h =>
      have declared := Udp.length_of_read? sound.read
      refine .inr ⟨h, rfl, ?_⟩
      change (bytes d ⟨.udp h, start, stop⟩).length - Udp.payloadEnd _ ≠ 0 at lost
      rw [Udp.payloadEnd, ← declared] at lost
      simp only at length ⊢
      omega
  | icmp | icmpv6 | dns | http | tls | ssh | ftp | dhcp | ntp => exact .inl rfl
  | ethernet | cooked | loopback | vlan | arp | ipv4 | ipv6 | tcp | payload | trailer =>
      exact absurd rfl lost

/-! ## The layers that are no headers -/

/-- How many bytes a payload or a trailer has. -/
def Layer.remainder : Layer → Nat
  | payload n => n
  | trailer n => n
  | _ => 0

namespace Dissection

variable {r : Dissection}

/-- A property that payload and trailers do not have is one of headers. -/
theorem filter_layers {p : Layer → Bool} (payload : ∀ n, p (.payload n) = false)
    (trailer : ∀ n, p (.trailer n) = false) : r.layers.filter p = r.headers.filter p := by
  have unread : r.payload.filter p = [] := by
    refine List.filter_eq_nil_iff.mpr fun l hl => ?_
    obtain ⟨n, -, rfl⟩ := mem_payload hl
    exact Bool.eq_false_iff.mp (payload n)
  have trailers : r.trailers.filter p = [] := by
    refine List.filter_eq_nil_iff.mpr fun l hl => ?_
    obtain ⟨n, -, rfl⟩ := mem_trailers hl
    exact Bool.eq_false_iff.mp (trailer n)
  rw [layers, List.filter_append, List.filter_append, unread, trailers, List.append_nil,
    List.append_nil]

theorem filter_isRecognized_layers (headers : ∀ s ∈ r.spans, s.IsHeader) :
    r.layers.filter (·.isRecognized) = r.headers := by
  rw [filter_layers (fun _ => rfl) (fun _ => rfl)]
  exact List.filter_eq_self.mpr fun _ => isRecognized_of_mem_headers headers

/-- What is counted of payload and trailers alone, and of a payload by its length. -/
theorem sum_layers {f : Layer → Nat} (headers : ∀ s ∈ r.spans, s.IsHeader)
    (recognized : ∀ l, l.isRecognized → f l = 0) (payload : ∀ n, f (.payload n) = n) :
    (r.layers.map f).sum = r.unread + (r.trailers.map f).sum := by
  have silent : (r.headers.map f).sum = 0 := by
    refine List.sum_eq_zero fun n hn => ?_
    obtain ⟨l, hl, rfl⟩ := List.mem_map.mp hn
    exact recognized l (isRecognized_of_mem_headers headers hl)
  have unread : (r.payload.map f).sum = r.unread := by
    unfold Dissection.payload
    split
    · rename_i none
      exact none.symm
    · exact payload r.unread
  simp only [layers, List.map_append, List.sum_append, silent, unread, Nat.zero_add]

theorem sum_remainder_layers (headers : ∀ s ∈ r.spans, s.IsHeader) :
    (r.layers.map (·.remainder)).sum = r.unread + (r.spans.map (·.trailer)).sum := by
  have recognized : ∀ l : Layer, l.isRecognized → l.remainder = 0 := by
    intro l known
    cases l with
    | payload | trailer => cases known
    | _ => rfl
  rw [sum_layers headers recognized fun _ => rfl, trailers,
    ← List.sum_reverse (r.spans.map (·.trailer))]
  generalize (r.spans.map (·.trailer)).reverse = lengths
  congr 1
  induction lengths with
  | nil => rfl
  | cons n lengths ih =>
      rw [List.sum_cons, ← ih]
      by_cases zero : n = 0
      · rw [List.filter_cons_of_neg (by simpa using zero), zero, Nat.zero_add]
      · rw [List.filter_cons_of_pos (by simpa using zero)]
        rfl

end Dissection

theorem regions_eq_place (link : LinkType) (d : Bytes) :
    regions link d = place d 0 d.length (dissection link d).headers := by
  rw [regions, dissect,
    Dissection.filter_isRecognized_layers (dissected_dissection link d).isHeader]

/-- Each recognized layer is what its bytes begin with. -/
theorem Region.sound {link : LinkType} {d : Bytes} {r : Region} (here : r ∈ regions link d) :
    r.Sound d :=
  (dissected_dissection link d).accounted.sound r (regions_eq_place link d ▸ here)

/-- **Every byte is accounted for.**  The recognized layers are read from regions that lie
one behind the other, from the first byte on, each header inside the bytes of its datagram.
Headers, payload and trailers are no more than the frame, and they are the whole frame
unless the last recognized layer is a message, or a UDP header cuts its datagram short. -/
theorem every_byte_accounted (link : LinkType) (d : Bytes) :
    (regions link d).map (·.layer) = (dissect link d).filter (·.isRecognized) ∧
      (∀ front r back, regions link d = front ++ r :: back →
        r.start = (front.map (·.size d)).sum) ∧
      (∀ r ∈ regions link d, r.Sound d) ∧
      let used := ((regions link d).map (·.size d)).sum + ((dissect link d).map (·.remainder)).sum
      used ≤ d.length ∧
        (used = d.length ∨
          (∃ l, ((dissect link d).filter (·.isRecognized)).getLast? = some l ∧ l.isMessage) ∨
          ∃ r ∈ regions link d, r.IsCut) := by
  have dissected := dissected_dissection link d
  have recognized := Dissection.filter_isRecognized_layers dissected.isHeader
  have remainder := Dissection.sum_remainder_layers dissected.isHeader
  obtain ⟨sound, total⟩ := dissected.accounted
  change (dissect link d).filter (·.isRecognized) = _ at recognized
  change ((dissect link d).map (·.remainder)).sum = _ at remainder
  rw [← recognized] at sound total
  change ∀ r ∈ regions link d, _ at sound
  change ((regions link d).map (·.size d)).sum + _ + _ + ((regions link d).map (·.lost d)).sum = _
    at total
  refine ⟨map_layer_place _ _ _ _, ?_, sound, ?_, ?_⟩
  · intro front r back here
    exact (start_of_place here).trans (Nat.zero_add _)
  · omega
  · by_cases lost : ∃ r ∈ regions link d, r.lost d ≠ 0
    · obtain ⟨r, hr, lost⟩ := lost
      rcases Region.message_or_cut (sound r hr) lost with message | cut
      · have here : r.layer ∈ (dissection link d).headers := by
          rw [← recognized, ← map_layer_place d 0 d.length ((dissect link d).filter _)]
          exact List.mem_map_of_mem hr
        refine .inr (.inl ⟨r.layer, ?_, message⟩)
        rw [recognized]
        exact dissected.message_last here message
      · exact .inr (.inr ⟨r, hr, cut⟩)
    · have none : ((regions link d).map (·.lost d)).sum = 0 := by
        refine List.sum_eq_zero fun n hn => ?_
        obtain ⟨r, hr, rfl⟩ := List.mem_map.mp hn
        exact Classical.byContradiction fun some => lost ⟨r, hr, some⟩
      refine .inl ?_
      omega

end PacketWatch
