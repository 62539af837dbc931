/-
# `PacketWatch.Proofs.Dissect.Labels` — what a packet shows of its layers

A decoded packet is labelled by the last recognized layer and addressed by the last layer that
has addresses.  Payload and trailers say nothing, so the headers are what counts:

    the first header    may be a link header, with the addresses of the link
    all others          have addresses exactly if they are IP headers

so the innermost IP header names the addresses, and where there is none, the link header does.

Nothing is tried behind a first header that cannot be read (`LinkType.HasHeader`).  The packet
of such a frame is unknown, and no other packet is.
-/
import PacketWatch.Proofs.Dissect.Padding

namespace PacketWatch

/-! ## The last layer that counts -/

/-- A layer of the list that has a property, with none behind it that has it. -/
def IsLast (P : Layer → Prop) (layers : List Layer) (l : Layer) : Prop :=
  P l ∧ ∃ front behind, layers = front ++ l :: behind ∧ ∀ k ∈ behind, ¬ P k

theorem exists_isLast {P : Layer → Prop} [DecidablePred P] {layers : List Layer}
    (some : ∃ l ∈ layers, P l) : ∃ l, IsLast P layers l := by
  have found : (layers.reverse.find? (P ·)).isSome := by
    obtain ⟨l, here, holds⟩ := some
    exact List.find?_isSome.mpr ⟨l, List.mem_reverse.mpr here, decide_eq_true holds⟩
  obtain ⟨l, found⟩ := Option.isSome_iff_exists.mp found
  obtain ⟨holds, behind, front, split, none⟩ := List.find?_eq_some_iff_append.mp found
  refine ⟨l, of_decide_eq_true holds, front.reverse, behind.reverse, ?_, ?_⟩
  · rw [← List.reverse_reverse layers, split, List.reverse_append, List.reverse_cons,
      List.append_assoc, List.singleton_append]
  · intro k later
    have other := none k (List.mem_reverse.mp later)
    rw [Bool.not_eq_true', decide_eq_false_iff_not] at other
    exact other

theorem IsLast.heading {layers : List Layer} {l : Layer}
    (last : IsLast (·.isRecognized) layers l) :
    heading layers = (l.label?.getD Packet.unknown, l.summary) := by
  obtain ⟨recognized, front, behind, rfl, silent⟩ := last
  rw [← List.singleton_append, ← List.append_assoc, heading_append silent, heading_concat,
    if_pos recognized]

theorem IsLast.endpoints {layers : List Layer} {l : Layer} {addresses : String × String}
    (last : IsLast (·.addresses?.isSome) layers l) (here : l.addresses? = some addresses) :
    endpoints layers = addresses := by
  obtain ⟨-, front, behind, rfl, silent⟩ := last
  have silent : ∀ k ∈ behind, k.addresses? = none :=
    fun k hk => Option.not_isSome_iff_eq_none.mp (silent k hk)
  rw [← List.singleton_append, ← List.append_assoc, endpoints_append silent, endpoints_concat,
    here, Option.getD_some]

/-! ## Whose addresses -/

/-- The addresses of the link header of a frame.  A cooked header names the sender alone, or
nobody. -/
def LinkType.endpoints? : LinkType → Bytes → Option (String × String)
  | .ethernet, d => (Ethernet.read? d).map fun h => (macText h.src, macText h.dst)
  | .cooked, d => (CookedCapture.read? d).bind fun h =>
      if h.linkAddr = [] then none else some (h.linkAddr.colonHex, "")
  | .loopback, _ | .rawIp, _ | .other _, _ => none

theorem LinkStep.addresses {link : LinkType} {d : Bytes} {span : Span} {onward : Next}
    (step : LinkStep link d span onward) : span.layer.addresses? = link.endpoints? d := by
  cases step with
  | ethernet read => rw [LinkType.endpoints?, read, Option.map_some, Layer.addresses?]
  | cooked read =>
      rw [LinkType.endpoints?, read, Option.bind_some, Layer.addresses?]
      simp only [List.isEmpty_iff]
  | loopback | loopbackOther => rfl

/-- Behind the link header, addresses are those of IP headers. -/
def Layer.IsIpOrSilent (l : Layer) : Prop := l.kind ≠ .ip → l.addresses? = none

theorem Layer.addresses?_of_ip {l : Layer} (ip : l.kind = .ip) : l.addresses?.isSome := by
  cases l with
  | ipv4 | ipv6 => rfl
  | _ => cases ip

theorem Next.Step.isIpOrSilent {next onward : Next} {span : Span}
    (step : next.Step span onward) : span.layer.IsIpOrSilent := by
  cases step with
  | ipv4 | ipv4Fragment | ipv6 | ipv6Cut => exact fun other => absurd rfl other
  | vlan | arp | tcp | udp | icmp | icmpv6 => exact fun _ => rfl
  | @application _ _ _ _ layer _ found =>
      have kind := Transport.kind_of_detect? found
      cases layer with
      | dns | http | tls | ssh | ftp | dhcp | ntp => exact fun _ => rfl
      | _ => cases kind

/-- What holds of the headers, of payload and of trailers holds of all layers. -/
theorem Dissection.forall_layers {P : Layer → Prop} {r : Dissection}
    (headers : ∀ s ∈ r.spans, P s.layer) (payload : ∀ n, P (.payload n))
    (trailer : ∀ n, P (.trailer n)) : ∀ l ∈ r.layers, P l := by
  intro l hl
  rw [layers, List.mem_append, List.mem_append] at hl
  rcases hl with (header | unread) | behind
  · obtain ⟨s, hs, rfl⟩ := List.mem_map.mp header
    exact headers s hs
  · obtain ⟨n, -, rfl⟩ := mem_payload unread
    exact payload n
  · obtain ⟨n, -, rfl⟩ := mem_trailers behind
    exact trailer n

theorem Walked.isIpOrSilent {room : Nat} {next : Next} {r : Dissection}
    (walked : Walked room next r) : ∀ l ∈ r.layers, l.IsIpOrSilent :=
  Dissection.forall_layers (walked.forall_spans (P := (·.layer.IsIpOrSilent)) Next.Step.isIpOrSilent)
    (fun _ _ => rfl) (fun _ _ => rfl)

/-! ## The first header -/

/-- The first header of a frame can be read: its link header, or under raw IP an IP header of
the version that its first byte names. -/
def LinkType.HasHeader : LinkType → Bytes → Prop
  | .ethernet, d => 14 ≤ d.length
  | .cooked, d => 16 ≤ d.length
  | .loopback, d => 4 ≤ d.length
  | .rawIp, d => Ipv4.hasHeader d ∨ Ipv6.hasHeader d
  | .other _, _ => False

namespace Stage

/-- A stage recognizes a header. -/
def IsHeader (stage : Stage) : Prop := ∃ span next, stage = .header span next

theorem not_isHeader_unread (rest : Bytes) : ¬ (unread rest).IsHeader := by
  rintro ⟨span, next, other⟩
  cases other

theorem spans_andThen (stage : Stage) (onward : Next → Dissection) :
    (stage.andThen onward).spans ≠ [] ↔ stage.IsHeader := by
  cases stage with
  | header span next => exact ⟨fun _ => ⟨span, next, rfl⟩, fun _ => List.cons_ne_nil _ _⟩
  | unread rest =>
      exact ⟨fun some => absurd rfl some, fun header => absurd header (not_isHeader_unread rest)⟩

variable (d : Bytes)

theorem isHeader_ethernet : (ethernet d).IsHeader ↔ 14 ≤ d.length := by
  by_cases short : d.length < 14
  · simp [ethernet, Ethernet.read?, Ethernet.headerLength, IsHeader, short]
  · simp [ethernet, Ethernet.read?, Ethernet.headerLength, IsHeader, short, Nat.le_of_not_lt short]

theorem isHeader_cooked : (cooked d).IsHeader ↔ 16 ≤ d.length := by
  by_cases short : d.length < 16
  · simp [cooked, CookedCapture.read?, CookedCapture.headerLength, IsHeader, short]
  · simp [cooked, CookedCapture.read?, CookedCapture.headerLength, IsHeader, short, Nat.le_of_not_lt short]

theorem isHeader_loopback : (loopback d).IsHeader ↔ 4 ≤ d.length := by
  by_cases short : d.length < 4
  · simp [loopback, Loopback.read?, Loopback.headerLength, IsHeader, short]
  · simp [loopback, Loopback.read?, Loopback.headerLength, IsHeader, short, Nat.le_of_not_lt short]

theorem isHeader_ipv4 : (ipv4 d).IsHeader ↔ Ipv4.hasHeader d := by
  by_cases header : Ipv4.hasHeader d
  · simp [ipv4, Ipv4.read?, IsHeader, header]
  · simp [ipv4, Ipv4.read?, IsHeader, header]

theorem isHeader_ipv6 : (ipv6 d).IsHeader ↔ Ipv6.hasHeader d := by
  by_cases header : Ipv6.hasHeader d
  · simp [ipv6, Ipv6.read?, IsHeader, header]
  · simp [ipv6, Ipv6.read?, IsHeader, header]

end Stage

theorem Ipv4.version_of_hasHeader {d : Bytes} (header : hasHeader d) :
    (d.byteAt 0).toNat / 16 = 4 := by
  simp only [hasHeader, Bool.and_eq_true, beq_iff_eq] at header
  exact header.1.1.2

theorem Ipv6.version_of_hasHeader {d : Bytes} (header : hasHeader d) :
    (d.byteAt 0).toNat / 16 = 6 := by
  simp only [hasHeader, Bool.and_eq_true, beq_iff_eq] at header
  exact header.2

/-- Under raw IP the version in the first byte selects the header that is tried. -/
theorem isHeader_rawIp (d : Bytes) :
    (rawIp d).stage.IsHeader ↔ Ipv4.hasHeader d ∨ Ipv6.hasHeader d := by
  have unversioned (four : (d.byteAt 0).toNat / 16 ≠ 4) (six : (d.byteAt 0).toNat / 16 ≠ 6) :
      (Next.unread d).stage.IsHeader ↔ Ipv4.hasHeader d ∨ Ipv6.hasHeader d := by
    refine ⟨fun header => absurd header (Stage.not_isHeader_unread d), ?_⟩
    rintro (header | header)
    · exact absurd (Ipv4.version_of_hasHeader header) four
    · exact absurd (Ipv6.version_of_hasHeader header) six
  rw [rawIp]
  split
  · rename_i empty
    rw [List.isEmpty_iff] at empty
    subst empty
    exact unversioned (by decide) (by decide)
  split
  · rename_i four
    refine (Stage.isHeader_ipv4 d).trans ⟨.inl, ?_⟩
    rintro (header | header)
    · exact header
    · exact absurd (four.symm.trans (Ipv6.version_of_hasHeader header)) (by decide)
  split
  · rename_i six
    refine (Stage.isHeader_ipv6 d).trans ⟨.inr, ?_⟩
    rintro (header | header)
    · exact absurd (six.symm.trans (Ipv4.version_of_hasHeader header)) (by decide)
    · exact header
  · rename_i four six
    exact unversioned four six

/-- Something is recognized exactly if the first header can be read. -/
theorem recognizes_iff (link : LinkType) (d : Bytes) :
    (dissection link d).spans ≠ [] ↔ link.HasHeader d := by
  cases link with
  | ethernet => exact (Stage.spans_andThen _ _).trans (Stage.isHeader_ethernet d)
  | cooked => exact (Stage.spans_andThen _ _).trans (Stage.isHeader_cooked d)
  | loopback => exact (Stage.spans_andThen _ _).trans (Stage.isHeader_loopback d)
  | rawIp => exact (Stage.spans_andThen _ _).trans (isHeader_rawIp d)
  | other number => exact ⟨fun some => some rfl, nofun⟩

/-- Without a first header, nothing is recognized. -/
theorem dissect_of_not_hasHeader {link : LinkType} {d : Bytes} (missing : ¬ link.HasHeader d) :
    ∀ l ∈ dissect link d, ¬ l.isRecognized ∧ l.addresses? = none := by
  have empty : (dissection link d).spans = [] :=
    Decidable.not_not.mp (mt (recognizes_iff link d).mp missing)
  refine Dissection.forall_layers ?_ (fun n => ⟨nofun, rfl⟩) fun n => ⟨nofun, rfl⟩
  rw [empty]
  exact fun s hs => absurd hs List.not_mem_nil

/-- With one, something is. -/
theorem exists_recognized {link : LinkType} {d : Bytes} (header : link.HasHeader d) :
    ∃ l ∈ dissect link d, l.isRecognized := by
  obtain ⟨s, hs⟩ := List.exists_mem_of_ne_nil _ ((recognizes_iff link d).mpr header)
  have recognized := ((dissected_dissection link d).isHeader s hs).isRecognized
  refine ⟨s.layer, ?_, recognized⟩
  exact List.mem_append_left _ (List.mem_append_left _ (List.mem_map_of_mem hs))

/-! ## The first layer, and the others -/

theorem LinkType.hasHeader_of_endpoints? {link : LinkType} {d : Bytes}
    (named : (link.endpoints? d).isSome) : link.HasHeader d := by
  cases link with
  | ethernet =>
      rw [endpoints?, Option.isSome_map] at named
      exact Ethernet.whole named
  | cooked => exact CookedCapture.whole (Option.isSome_of_isSome_bind named)
  | loopback | rawIp | other => cases named

/-- A link header stands first and has the addresses of the link.  All layers behind it, or all
layers where there is none, have no addresses unless they are IP headers. -/
theorem dissect_addresses (link : LinkType) (d : Bytes) :
    (∃ l behind, dissect link d = l :: behind ∧ l.kind ≠ .ip ∧
        l.addresses? = link.endpoints? d ∧ ∀ k ∈ behind, k.IsIpOrSilent) ∨
      link.endpoints? d = none ∧ ∀ k ∈ dissect link d, k.IsIpOrSilent := by
  rcases dissection_cases link d with ⟨span, onward, step⟩ | ⟨rfl, type, -, named⟩ | nothing
  · exact .inl ⟨span.layer, _, dissect_of_linkStep step, step.leads.1.kind, step.addresses,
      (walked_walk (maxHeaders - 1) onward).isIpOrSilent⟩
  · refine .inr ⟨rfl, ?_⟩
    rw [dissect, dissection, named]
    exact (walked_walk _ _).isIpOrSilent
  · have missing : ¬ link.HasHeader d := by
      rw [← recognizes_iff, nothing]
      exact fun some => some rfl
    refine .inr ⟨?_, fun k hk _ => (dissect_of_not_hasHeader missing k hk).2⟩
    exact Option.not_isSome_iff_eq_none.mp (mt LinkType.hasHeader_of_endpoints? missing)

/-- The innermost IP header is the last layer that has addresses. -/
theorem isLast_addressed {link : LinkType} {d : Bytes} {l : Layer}
    (last : IsLast (·.kind = .ip) (dissect link d) l) :
    IsLast (·.addresses?.isSome) (dissect link d) l := by
  obtain ⟨ip, front, behind, split, none⟩ := last
  refine ⟨Layer.addresses?_of_ip ip, front, behind, split, ?_⟩
  have silent : ∀ k ∈ behind, k.IsIpOrSilent := by
    rcases dissect_addresses link d with ⟨first, others, layers, kind, -, silent⟩ | ⟨-, silent⟩
    · rw [split] at layers
      cases front with
      | nil =>
          obtain ⟨rfl, -⟩ := List.cons.inj layers
          exact absurd ip kind
      | cons _ front =>
          obtain ⟨-, rfl⟩ := List.cons.inj layers
          exact fun k hk => silent k (List.mem_append_right _ (List.mem_cons_of_mem _ hk))
    · rw [split] at silent
      exact fun k hk => silent k (List.mem_append_right _ (List.mem_cons_of_mem _ hk))
  exact fun k hk => Option.not_isSome_iff_eq_none.mpr (silent k hk (none k hk))

/-- Without an IP header, the addresses are those of the link. -/
theorem endpoints_of_no_ip {link : LinkType} {d : Bytes}
    (none : ∀ l ∈ dissect link d, l.kind ≠ .ip) :
    endpoints (dissect link d) = (link.endpoints? d).getD ("", "") := by
  rcases dissect_addresses link d with ⟨l, behind, layers, -, named, silent⟩ | ⟨unnamed, silent⟩
  · rw [layers] at none ⊢
    have silent : ∀ k ∈ behind, k.addresses? = Option.none :=
      fun k hk => silent k hk (none k (List.mem_cons_of_mem _ hk))
    rw [← List.singleton_append, endpoints_append silent, ← List.nil_append [l], endpoints_concat,
      named]
    rfl
  · have silent : ∀ k ∈ dissect link d, k.addresses? = Option.none :=
      fun k hk => silent k hk (none k hk)
    rw [← List.nil_append (dissect link d), endpoints_append silent, unnamed]
    rfl

/-! ## The packet of a frame -/

theorem Layer.label?_ne_unknown (l : Layer) : l.label? ≠ some Packet.unknown := by
  cases l <;> simp [label?, Packet.unknown]

/-- What a packet says of the frame that it was decoded from, and of its layers. -/
structure Packet.Describes (p : Packet) (f : Frame) : Prop where
  id : p.id = 0
  timestamp : p.timestamp = f.timestamp
  data : p.data = f.data
  capturedLength : p.capturedLength = f.capturedLength
  frameLength : p.frameLength = f.frameLength
  summaries : p.summaries = (dissect f.link f.data).map (·.summary)
  /-- Label and info are those of the last recognized layer, and there is one if the first
  header can be read. -/
  recognized : f.link.HasHeader f.data →
    ∃ l, IsLast (·.isRecognized) (dissect f.link f.data) l ∧ l.label? = some p.protocol ∧
      p.info = l.summary
  /-- Only a frame whose first header cannot be read is unknown. -/
  unknown : p.protocol = Packet.unknown ↔ ¬ f.link.HasHeader f.data
  blank : p.protocol = Packet.unknown → p.info = "" ∧ p.src = "" ∧ p.dst = ""
  addressed : ∀ l, IsLast (·.addresses?.isSome) (dissect f.link f.data) l →
    l.addresses? = some (p.src, p.dst)
  /-- The innermost IP header is the last layer with addresses. -/
  innermost : (∃ l ∈ dissect f.link f.data, l.kind = .ip) →
    ∃ l, IsLast (·.kind = .ip) (dissect f.link f.data) l ∧ l.addresses? = some (p.src, p.dst)
  /-- Without an IP header, the link header names the addresses, if it names any. -/
  link : (∀ l ∈ dissect f.link f.data, l.kind ≠ .ip) →
    (p.src, p.dst) = (f.link.endpoints? f.data).getD ("", "")

theorem describes_ofLayers (f : Frame) :
    (Packet.ofLayers f (dissect f.link f.data)).Describes f := by
  have addressed (l : Layer) (last : IsLast (·.addresses?.isSome) (dissect f.link f.data) l) :
      l.addresses? = some (endpoints (dissect f.link f.data)) := by
    obtain ⟨addresses, here⟩ := Option.isSome_iff_exists.mp last.1
    rw [last.endpoints here, here]
  have recognized (header : f.link.HasHeader f.data) :
      ∃ l, IsLast (·.isRecognized) (dissect f.link f.data) l ∧
        l.label? = some (heading (dissect f.link f.data)).1 ∧
        (heading (dissect f.link f.data)).2 = l.summary := by
    obtain ⟨l, last⟩ := exists_isLast (exists_recognized header)
    obtain ⟨label, named⟩ := Option.isSome_iff_exists.mp last.1
    refine ⟨l, last, ?_, ?_⟩
    · rw [last.heading, named, Option.getD_some]
    · rw [last.heading]
  have nothing (missing : ¬ f.link.HasHeader f.data) :
      heading (dissect f.link f.data) = (Packet.unknown, "") ∧
        endpoints (dissect f.link f.data) = ("", "") := by
    have silent := dissect_of_not_hasHeader missing
    rw [← List.nil_append (dissect f.link f.data)]
    exact ⟨heading_append (fun l hl => (silent l hl).1) [],
      endpoints_append (fun l hl => (silent l hl).2) []⟩
  have unknown : (heading (dissect f.link f.data)).1 = Packet.unknown ↔
      ¬ f.link.HasHeader f.data := by
    constructor
    · intro unknown header
      obtain ⟨l, -, label, -⟩ := recognized header
      exact l.label?_ne_unknown (unknown ▸ label)
    · intro missing
      rw [(nothing missing).1]
  refine ⟨rfl, rfl, rfl, rfl, rfl, rfl, recognized, unknown, ?_, addressed, ?_,
    endpoints_of_no_ip⟩
  · intro blank
    obtain ⟨heading, ends⟩ := nothing (unknown.mp blank)
    exact ⟨congrArg (·.2) heading, congrArg (·.1) ends, congrArg (·.2) ends⟩
  · intro ip
    obtain ⟨l, last⟩ := exists_isLast ip
    exact ⟨l, last, addressed l (isLast_addressed last)⟩

/-- **What a decoded packet shows.**  A frame is refused exactly if its captured length is not
that of its buffer.  Any other frame gives a packet, which describes it: its data and lengths,
the summary of each layer, the label and the info of the last recognized layer, the addresses
of the innermost IP header or else of the link header; and it is unknown exactly if the first
header of the frame cannot be read. -/
theorem decode_describes (f : Frame) :
    (f.capturedLength ≠ f.data.length → decode f =
        .error (.malformedFrame (.lengthMismatch f.capturedLength f.data.length))) ∧
      (f.capturedLength = f.data.length → ∃ p, decode f = .ok p ∧ p.Describes f) := by
  constructor
  · intro mismatch
    exact if_neg (mt beq_iff_eq.mp mismatch)
  · intro same
    exact ⟨_, decode_wellFormed (beq_iff_eq.mpr same), describes_ofLayers f⟩

/-- A tunnel whose inner segment is cut short, behind a sender without an address. -/
example :
    let ip4 (b : UInt8) : Ip4 := ⟨[10, 0, 0, b], rfl⟩
    let tunnel := Ipv4.packet (ip4 1) (ip4 2) 4 (Ipv4.packet (ip4 3) (ip4 4) 6 [0x1f, 0x90])
    let header : Bytes := [0, 0, 0, 1, 0, 0, 0, 0, 0, 0, 0, 0, 0, 0]
    let shown (d : Bytes) := (decode (.whole d .cooked)).toOption.map fun p =>
      (p.protocol, p.src, p.dst)
    shown (header ++ [0x08, 0x00] ++ tunnel) = some ("IPv4", "10.0.0.3", "10.0.0.4") ∧
      shown (header ++ [0x88, 0xb5] ++ tunnel) = some ("SLL", "", "") ∧
      shown header = some ("Unknown", "", "") := by
  decide +kernel

end PacketWatch
