/-
# `PacketWatch.Proofs.Dissect.Shape` — which layers can follow each other

The layers of every dissection, their fields left out, are a word of a regular language:

    link? vlan* (arp | ip+ (icmp | icmpv6 | (tcp | udp) application?)?)? payload? trailer*

where the link header is the one of the link type, tags and address resolution stand
behind an Ethernet or a cooked header only, and nothing at all is recognized under a
framing that is not decoded.  At most 32 layers are recognized, and there are no more
trailers than IP layers, so a dissection has at most 65 layers.

`Next.continuations` is the language of what a walk may still recognize.  One step puts a
letter in front of a word of it; the walk is an induction on its steps.
-/
import PacketWatch.Proofs.Dissect.Steps
import Mathlib.Computability.RegularExpressions

namespace PacketWatch

open RegularExpression Computability

/-- A layer without its fields. -/
inductive LayerKind where
  | ethernet
  | cooked
  | loopback
  | vlan
  | arp
  | ip
  | icmp
  | icmpv6
  | tcp
  | udp
  | application
  | payload
  | trailer
deriving DecidableEq

def Layer.kind : Layer → LayerKind
  | ethernet _ => .ethernet
  | cooked _ => .cooked
  | loopback _ => .loopback
  | vlan _ => .vlan
  | arp _ => .arp
  | ipv4 _ | ipv6 _ => .ip
  | icmp _ => .icmp
  | icmpv6 _ => .icmpv6
  | tcp _ => .tcp
  | udp _ => .udp
  | dns _ | http _ | tls _ | ssh _ | ftp _ | dhcp _ | ntp _ => .application
  | payload _ => .payload
  | trailer _ => .trailer

namespace Shape

/-! ## The language -/

def optional (P : RegularExpression LayerKind) : RegularExpression LayerKind := 1 + P

def carried : RegularExpression LayerKind :=
  char .icmp + char .icmpv6 + (char .tcp + char .udp) * optional (char .application)

/-- What may follow an IP header: more of them, and what the last one carries. -/
def behindIp : RegularExpression LayerKind := star (char .ip) * optional carried

def datagrams : RegularExpression LayerKind := char .ip * behindIp

/-- What may follow an Ethernet or a cooked header. -/
def tagged : RegularExpression LayerKind :=
  star (char .vlan) * optional (char .arp + datagrams)

def headers : LinkType → RegularExpression LayerKind
  | .ethernet => optional (char .ethernet * tagged)
  | .cooked => optional (char .cooked * tagged)
  | .loopback => optional (char .loopback * optional datagrams)
  | .rawIp => optional datagrams
  | .other _ => 1

/-- The headers of all framings together. -/
def anyHeaders : RegularExpression LayerKind :=
  optional (char .ethernet + char .cooked + char .loopback) * tagged

/-- Bytes that nothing recognized, and trailers. -/
def remains : RegularExpression LayerKind := optional (char .payload) * star (char .trailer)

/-! ## Words -/

variable {P Q : RegularExpression LayerKind} {k : LayerKind} {w v : List LayerKind}

theorem nil_mem_optional : [] ∈ (optional P).matches' := .inl rfl

theorem mem_optional (h : w ∈ P.matches') : w ∈ (optional P).matches' := .inr h

theorem cons_mem (h : w ∈ P.matches') : k :: w ∈ (char k * P).matches' :=
  Language.append_mem_mul (a := [k]) rfl h

theorem nil_mem_star_mul (h : [] ∈ P.matches') : [] ∈ (star (char k) * P).matches' :=
  Language.append_mem_mul (Language.nil_mem_kstar _) h

theorem mem_star_mul (h : w ∈ P.matches') : w ∈ (star (char k) * P).matches' :=
  Language.append_mem_mul (a := []) (Language.nil_mem_kstar _) h

/-- One letter more in front of those that are repeated. -/
theorem cons_mem_star (h : w ∈ (star (char k)).matches') : k :: w ∈ (star (char k)).matches' := by
  obtain ⟨words, rfl, letters⟩ := Language.mem_kstar.mp h
  exact Language.join_mem_kstar (L := [k] :: words) (List.forall_mem_cons.mpr ⟨rfl, letters⟩)

theorem cons_mem_star_mul (h : w ∈ (star (char k) * P).matches') :
    k :: w ∈ (star (char k) * P).matches' := by
  obtain ⟨u, repeated, v, last, rfl⟩ := h
  exact Language.append_mem_mul (cons_mem_star repeated) last

theorem nil_mem_behindIp : [] ∈ behindIp.matches' := nil_mem_star_mul nil_mem_optional

/-- Nothing is a word wherever the empty word is one. -/
theorem mem_of_mem_one (nothing : w ∈ (1 : RegularExpression LayerKind).matches')
    (h : [] ∈ P.matches') : w ∈ P.matches' := by
  cases nothing
  exact h

/-- Without a link header there may be a datagram, and with tags more. -/
theorem mem_tagged (h : w ∈ (optional datagrams).matches') : w ∈ tagged.matches' := by
  refine mem_star_mul ?_
  rcases h with none | some
  · exact .inl none
  · exact .inr (.inr some)

theorem mem_anyHeaders_of_mem_tagged (h : w ∈ tagged.matches') : w ∈ anyHeaders.matches' :=
  Language.append_mem_mul (a := []) nil_mem_optional h

/-- The headers of each framing are among those of all framings. -/
theorem mem_anyHeaders {link : LinkType} (h : w ∈ (headers link).matches') :
    w ∈ anyHeaders.matches' := by
  have nothing : [] ∈ anyHeaders.matches' :=
    mem_anyHeaders_of_mem_tagged (nil_mem_star_mul nil_mem_optional)
  cases link with
  | ethernet =>
      rcases h with rfl | ⟨_, rfl, v, behind, rfl⟩
      · exact nothing
      · exact Language.append_mem_mul (.inr (.inl (.inl rfl))) behind
  | cooked =>
      rcases h with rfl | ⟨_, rfl, v, behind, rfl⟩
      · exact nothing
      · exact Language.append_mem_mul (.inr (.inl (.inr rfl))) behind
  | loopback =>
      rcases h with rfl | ⟨_, rfl, v, behind, rfl⟩
      · exact nothing
      · exact Language.append_mem_mul (.inr (.inr rfl)) (mem_tagged behind)
  | rawIp => exact mem_anyHeaders_of_mem_tagged (mem_tagged h)
  | other number =>
      cases h
      exact nothing

end Shape

open Shape

/-! ## What a walk recognizes -/

/-- What a walk may still recognize. -/
def Next.continuations : Next → RegularExpression LayerKind
  | etherType _ _ => tagged
  | ipProtocol _ _ => behindIp
  | application _ _ _ _ => optional (char .application)
  | unread _ => 1

theorem Next.nil_mem_continuations (next : Next) : [] ∈ next.continuations.matches' := by
  cases next with
  | etherType => exact nil_mem_star_mul nil_mem_optional
  | ipProtocol => exact nil_mem_behindIp
  | application => exact nil_mem_optional
  | unread => rfl

theorem Next.Asks.datagram {next : Next} {type : UInt16} {protocol : UInt8} {d : Bytes}
    {w : List LayerKind} (asks : next.Asks type protocol d) (h : w ∈ behindIp.matches') :
    .ip :: w ∈ next.continuations.matches' := by
  rcases asks with rfl | rfl
  · exact mem_star_mul (mem_optional (.inr (cons_mem h)))
  · exact cons_mem_star_mul h

/-- Services read application layers. -/
theorem Transport.kind_of_detect? {t : Transport} {srcPort dstPort : UInt16} {d : Bytes}
    {layer : Layer} (found : t.detect? srcPort dstPort d = some layer) :
    layer.kind = .application := by
  obtain ⟨service, responsible, read⟩ := Option.bind_eq_some_iff.mp found
  have listed := List.mem_of_find?_eq_some responsible
  cases t with
  | udp =>
      simp only [services, List.mem_cons, List.not_mem_nil, or_false] at listed
      rcases listed with rfl | rfl | rfl
      all_goals
        obtain ⟨h, -, rfl⟩ := Option.map_eq_some_iff.mp read
        rfl
  | tcp =>
      simp only [services, List.mem_cons, List.not_mem_nil, or_false] at listed
      rcases listed with rfl | rfl | rfl | rfl | rfl
      case inr.inr.inr.inl =>
        cases Option.some.inj read
        rfl
      all_goals
        obtain ⟨h, -, rfl⟩ := Option.map_eq_some_iff.mp read
        rfl

/-- A step puts its header in front of what may follow. -/
theorem Next.Step.continuations {next onward : Next} {span : Span} {w : List LayerKind}
    (step : next.Step span onward) (h : w ∈ onward.continuations.matches') :
    span.layer.kind :: w ∈ next.continuations.matches' := by
  cases step with
  | vlan => exact cons_mem_star_mul h
  | arp =>
      cases h
      exact mem_star_mul (mem_optional (.inl rfl))
  | ipv4 asks => exact asks.datagram h
  | ipv6 asks => exact asks.datagram h
  | ipv4Fragment asks => exact asks.datagram (mem_of_mem_one h nil_mem_behindIp)
  | ipv6Cut asks => exact asks.datagram (mem_of_mem_one h nil_mem_behindIp)
  | tcp =>
      have transport : [.tcp] ∈ (char .tcp + char .udp : RegularExpression LayerKind).matches' :=
        .inl rfl
      exact mem_star_mul (mem_optional (.inr (Language.append_mem_mul transport h)))
  | udp =>
      have transport : [.udp] ∈ (char .tcp + char .udp : RegularExpression LayerKind).matches' :=
        .inr rfl
      exact mem_star_mul (mem_optional (.inr (Language.append_mem_mul transport h)))
  | icmp =>
      cases h
      exact mem_star_mul (mem_optional (.inl (.inl rfl)))
  | icmpv6 =>
      cases h
      exact mem_star_mul (mem_optional (.inl (.inr rfl)))
  | application _ found =>
      cases h
      rw [Transport.kind_of_detect? found]
      exact mem_optional rfl

def Dissection.kinds (r : Dissection) : List LayerKind := r.headers.map (·.kind)

theorem Walked.kinds {room : Nat} {next : Next} {r : Dissection} (walked : Walked room next r) :
    r.kinds ∈ next.continuations.matches' := by
  induction walked with
  | stop => exact Next.nil_mem_continuations _
  | step step _ ih => exact step.continuations ih

/-- From an IP header on there are no tags and no address resolution. -/
theorem Walked.kinds_of_ip {room : Nat} {type : UInt16} {d : Bytes} {r : Dissection}
    (walked : Walked room (.etherType type d) r)
    (ip : type = EtherType.ipv4 ∨ type = EtherType.ipv6) :
    r.kinds ∈ (optional datagrams).matches' := by
  cases walked with
  | stop => exact nil_mem_optional
  | step step further =>
      have behind := further.kinds
      refine mem_optional ?_
      cases step with
      | vlan tag =>
          rcases ip with rfl | rfl
          · exact absurd tag (by decide)
          · exact absurd tag (by decide)
      | arp => exact absurd ip (by decide)
      | ipv4 => exact cons_mem behind
      | ipv6 => exact cons_mem behind
      | ipv4Fragment => exact cons_mem (mem_of_mem_one behind nil_mem_behindIp)
      | ipv6Cut => exact cons_mem (mem_of_mem_one behind nil_mem_behindIp)

theorem Loopback.etherType?_ip {h : Loopback} {type : UInt16} (known : h.etherType? = some type) :
    type = EtherType.ipv4 ∨ type = EtherType.ipv6 := by
  unfold etherType? at known
  split at known
  · exact .inl (Option.some.inj known).symm
  split at known
  · exact .inr (Option.some.inj known).symm
  · cases known

theorem Dissected.kinds {link : LinkType} {d : Bytes} {r : Dissection}
    (dissected : Dissected d link r) : r.kinds ∈ (headers link).matches' := by
  cases dissected with
  | unread =>
      cases link with
      | other => rfl
      | ethernet | cooked | loopback | rawIp => exact nil_mem_optional
  | ip type walked => exact walked.kinds_of_ip type
  | linked step walked =>
      have behind := walked.kinds
      cases step with
      | ethernet => exact mem_optional (cons_mem behind)
      | cooked => exact mem_optional (cons_mem behind)
      | loopback _ known =>
          exact mem_optional (cons_mem (walked.kinds_of_ip (Loopback.etherType?_ip known)))
      | loopbackOther =>
          exact mem_optional (cons_mem (mem_of_mem_one behind nil_mem_optional))

/-! ## How many layers there are -/

theorem Walked.length_le {room : Nat} {next : Next} {r : Dissection}
    (walked : Walked room next r) : r.spans.length ≤ room := by
  induction walked with
  | stop => exact Nat.zero_le _
  | step _ _ ih => exact Nat.succ_le_succ ih

theorem Dissected.length_le {link : LinkType} {d : Bytes} {r : Dissection}
    (dissected : Dissected d link r) : r.spans.length ≤ maxHeaders := by
  cases dissected with
  | unread => exact Nat.zero_le _
  | linked _ walked => exact Nat.succ_le_succ walked.length_le
  | ip _ walked => exact walked.length_le

theorem Layer.isRecognized_iff (l : Layer) :
    l.isRecognized ↔ l.kind ≠ .payload ∧ l.kind ≠ .trailer := by
  cases l <;> simp [isRecognized, label?, kind]

/-- The layer of a header is a protocol, and only IP leaves a trailer behind its datagram. -/
structure Span.IsHeader (s : Span) : Prop where
  isRecognized : s.layer.isRecognized
  endsDatagram : s.trailer ≠ 0 → s.layer.kind = .ip

theorem LinkStep.isHeader {link : LinkType} {d : Bytes} {span : Span} {onward : Next}
    (step : LinkStep link d span onward) : span.IsHeader := by
  cases step with
  | ethernet | cooked | loopback | loopbackOther => exact ⟨rfl, fun some => absurd rfl some⟩

theorem Next.Step.isHeader {next onward : Next} {span : Span}
    (step : next.Step span onward) : span.IsHeader := by
  cases step with
  | ipv4 | ipv4Fragment | ipv6 | ipv6Cut => exact ⟨rfl, fun _ => rfl⟩
  | vlan | arp | tcp | udp | icmp | icmpv6 => exact ⟨rfl, fun some => absurd rfl some⟩
  | @application _ _ _ _ layer _ found =>
      refine ⟨layer.isRecognized_iff.mpr ?_, fun some => absurd rfl some⟩
      rw [Transport.kind_of_detect? found]
      exact ⟨by decide, by decide⟩

theorem Dissected.isHeader {link : LinkType} {d : Bytes} {r : Dissection}
    (dissected : Dissected d link r) : ∀ s ∈ r.spans, s.IsHeader :=
  dissected.forall_spans LinkStep.isHeader Next.Step.isHeader

namespace Dissection

variable {r : Dissection}

theorem mem_payload {l : Layer} (h : l ∈ r.payload) : ∃ n, 0 < n ∧ l = .payload n := by
  unfold payload at h
  split at h
  · cases h
  · rename_i some
    exact ⟨r.unread, Nat.pos_of_ne_zero some, List.mem_singleton.mp h⟩

theorem mem_trailers {l : Layer} (h : l ∈ r.trailers) : ∃ n, 0 < n ∧ l = .trailer n := by
  obtain ⟨n, hn, rfl⟩ := List.mem_map.mp h
  exact ⟨n, Nat.pos_of_ne_zero (of_decide_eq_true (List.mem_filter.mp hn).2), rfl⟩

theorem length_payload_le : r.payload.length ≤ 1 := by
  unfold payload
  split
  · exact Nat.zero_le _
  · exact Nat.le_refl _

theorem length_trailers_le (headers : ∀ s ∈ r.spans, s.IsHeader) :
    r.trailers.length ≤ r.headers.countP (·.kind = .ip) := by
  rw [trailers, List.length_map, ← List.countP_eq_length_filter, List.countP_reverse,
    List.countP_map, Dissection.headers, List.countP_map]
  refine List.countP_mono_left ?_
  intro s hs some
  exact decide_eq_true ((headers s hs).endsDatagram (of_decide_eq_true some))

theorem isRecognized_of_mem_headers (headers : ∀ s ∈ r.spans, s.IsHeader) {l : Layer}
    (h : l ∈ r.headers) : l.isRecognized := by
  obtain ⟨s, hs, rfl⟩ := List.mem_map.mp h
  exact (headers s hs).isRecognized

theorem payload_mem (r : Dissection) :
    r.payload.map (·.kind) ∈ (optional (char .payload)).matches' := by
  unfold payload
  split
  · exact nil_mem_optional
  · exact mem_optional rfl

theorem trailers_mem (r : Dissection) :
    r.trailers.map (·.kind) ∈ (star (char LayerKind.trailer)).matches' := by
  unfold trailers
  generalize (r.spans.map (·.trailer)).reverse.filter (· ≠ 0) = lengths
  induction lengths with
  | nil => exact Language.nil_mem_kstar _
  | cons length lengths ih => exact cons_mem_star ih

theorem layers_mem {r : Dissection} {P : RegularExpression LayerKind}
    (headers : r.kinds ∈ P.matches') :
    r.layers.map (·.kind) ∈ (P * remains).matches' := by
  rw [layers, List.append_assoc, List.map_append, List.map_append]
  exact Language.append_mem_mul headers
    (Language.append_mem_mul r.payload_mem r.trailers_mem)

/-- Payload and trailers of a dissection are not empty. -/
theorem pos_of_mem_layers (headers : ∀ s ∈ r.spans, s.IsHeader) {n : Nat}
    (h : .payload n ∈ r.layers ∨ .trailer n ∈ r.layers) : 0 < n := by
  simp only [layers, List.mem_append] at h
  rcases h with ((recognized | payload) | trailer) | ((recognized | payload) | trailer)
  · cases isRecognized_of_mem_headers headers recognized
  · obtain ⟨m, pos, same⟩ := mem_payload payload
    exact Layer.payload.inj same ▸ pos
  · obtain ⟨m, -, same⟩ := mem_trailers trailer
    cases same
  · cases isRecognized_of_mem_headers headers recognized
  · obtain ⟨m, -, same⟩ := mem_payload payload
    cases same
  · obtain ⟨m, pos, same⟩ := mem_trailers trailer
    exact Layer.trailer.inj same ▸ pos

theorem countP_isRecognized_le : r.layers.countP (·.isRecognized) ≤ r.spans.length := by
  have payload : r.payload.countP (·.isRecognized) = 0 := by
    refine List.countP_eq_zero.mpr fun l hl => ?_
    obtain ⟨n, -, rfl⟩ := mem_payload hl
    exact Bool.false_ne_true
  have trailers : r.trailers.countP (·.isRecognized) = 0 := by
    refine List.countP_eq_zero.mpr fun l hl => ?_
    obtain ⟨n, -, rfl⟩ := mem_trailers hl
    exact Bool.false_ne_true
  rw [layers, List.countP_append, List.countP_append, payload, trailers]
  exact Nat.le_trans List.countP_le_length (Nat.le_of_eq (List.length_map _))

theorem countP_trailer_le (headers : ∀ s ∈ r.spans, s.IsHeader) :
    r.layers.countP (·.kind = .trailer) ≤ r.layers.countP (·.kind = .ip) := by
  have recognized : r.headers.countP (·.kind = .trailer) = 0 := by
    refine List.countP_eq_zero.mpr fun l hl trailer => ?_
    have known := l.isRecognized_iff.mp (isRecognized_of_mem_headers headers hl)
    exact known.2 (of_decide_eq_true trailer)
  have payload : r.payload.countP (·.kind = .trailer) = 0 := by
    refine List.countP_eq_zero.mpr fun l hl => ?_
    obtain ⟨n, -, rfl⟩ := mem_payload hl
    exact Bool.false_ne_true
  have trailers := length_trailers_le headers
  have count := List.countP_le_length (p := (·.kind = .trailer)) (l := r.trailers)
  simp only [layers, List.countP_append, recognized, payload]
  omega

theorem length_layers_le (headers : ∀ s ∈ r.spans, s.IsHeader) :
    r.layers.length ≤ 2 * r.spans.length + 1 := by
  have recognized : r.headers.length = r.spans.length := List.length_map _
  have payload : r.payload.length ≤ 1 := length_payload_le
  have trailers := length_trailers_le headers
  have ip := List.countP_le_length (p := (·.kind = .ip)) (l := r.headers)
  simp only [layers, List.length_append]
  omega

end Dissection

/-- **The shape of a dissection.**  Whatever the bytes are, the layers are headers in the
order that the framing allows, at most one payload, and trailers, none of them empty.  At
most 32 layers are recognized, there are no more trailers than IP layers, and no more than
65 layers in all. -/
theorem dissection_shape (link : LinkType) (d : Bytes) :
    (dissect link d).map (·.kind) ∈ (headers link * remains).matches' ∧
      (dissect link d).map (·.kind) ∈ (anyHeaders * remains).matches' ∧
      (∀ n, .payload n ∈ dissect link d ∨ .trailer n ∈ dissect link d → 0 < n) ∧
      (dissect link d).countP (·.isRecognized) ≤ 32 ∧
      (dissect link d).countP (·.kind = .trailer) ≤ (dissect link d).countP (·.kind = .ip) ∧
      (dissect link d).length ≤ 65 := by
  have dissected := dissected_dissection link d
  have kinds := dissected.kinds
  have spans : (dissection link d).spans.length ≤ 32 := dissected.length_le
  refine ⟨Dissection.layers_mem kinds, Dissection.layers_mem (mem_anyHeaders kinds), ?_, ?_, ?_, ?_⟩
  · intro n h
    exact Dissection.pos_of_mem_layers dissected.isHeader h
  · exact Nat.le_trans Dissection.countP_isRecognized_le spans
  · exact Dissection.countP_trailer_le dissected.isHeader
  · have length := Dissection.length_layers_le dissected.isHeader
    simp only [dissect]
    omega

/-- A tunnel that is cut short, with link padding behind both of its datagrams. -/
example : [.ip, .ip, .trailer, .trailer] ∈ (headers .rawIp * remains).matches' := by decide

example : [.ethernet, .ip, .arp] ∉ (anyHeaders * remains).matches' := by decide

end PacketWatch
