/-
# `PacketWatch.Proofs.Dissect.Steps` — what one stage of a walk can do

`Next.Step next span onward` lists the headers: with `next` to be looked at, the header
`span` is recognized, and `onward` follows it.  There is one constructor for each header,
with the reading that it depends on, and for IP one more where what it carries is not to
be read.  A stage takes one of these steps or leaves its bytes unread
(`Next.allows_stage`), and it takes every one of them (`Next.Step.stage`); so a proof about
stages is one case for each of them and never opens a stage.

A walk is then a chain of such steps (`Walked`), that ends where a stage leaves its bytes
unread or where there is no more room; and a dissection is a link header with a walk
behind it, a walk from an IP header, or nothing but unread bytes (`Dissected`).  What a
step preserves is preserved by a dissection, by induction on these.
-/
import PacketWatch.Dissect.Walk

namespace PacketWatch

/-- A header is looked for by its Ethernet type or, in a tunnel, by its protocol number. -/
def Next.Asks (next : Next) (type : UInt16) (protocol : UInt8) (d : Bytes) : Prop :=
  next = .etherType type d ∨ next = .ipProtocol protocol d

theorem Next.Asks.rest {next : Next} {type : UInt16} {protocol : UInt8} {d : Bytes} :
    next.Asks type protocol d → next.rest = d := by
  rintro (rfl | rfl)
  · rfl
  · rfl

namespace Ipv6

/-- Where the walk over the extension headers of a datagram ends. -/
def upper (h : Ipv6) (d : Bytes) : Extension.Walk := Extension.skip h.nextHeader (payload d)

/-- The bytes that the fixed header and the extension headers take. -/
def size (h : Ipv6) (d : Bytes) : Nat :=
  headerLength + ((payload d).length - (upper h d).rest.length)

end Ipv6

/-- A stage that recognizes a header. -/
inductive Next.Step : Next → Span → Next → Prop
  | vlan {type : UInt16} {d : Bytes} {h : Vlan} :
      type ∈ EtherType.vlanTags → Vlan.read? d = some h →
      Step (.etherType type d) ⟨.vlan h, Vlan.headerLength, 0⟩
        (.etherType h.etherType (d.drop Vlan.headerLength))
  | arp {d : Bytes} {h : Arp} :
      Arp.read? d = some h →
      Step (.etherType EtherType.arp d) ⟨.arp h, Arp.messageLength d, 0⟩
        (.unread (d.drop (Arp.messageLength d)))
  | ipv4 {next : Next} {d : Bytes} {h : Ipv4} :
      next.Asks EtherType.ipv4 IpProtocol.ipv4 d → Ipv4.read? d = some h → Ipv4.fragmentOffset d = 0 →
      Step next ⟨.ipv4 h, Ipv4.headerLength d, Ipv4.trailer d⟩
        (.ipProtocol h.protocol (Ipv4.payload d))
  | ipv4Fragment {next : Next} {d : Bytes} {h : Ipv4} :
      next.Asks EtherType.ipv4 IpProtocol.ipv4 d → Ipv4.read? d = some h → Ipv4.fragmentOffset d ≠ 0 →
      Step next ⟨.ipv4 h, Ipv4.headerLength d, Ipv4.trailer d⟩ (.unread (Ipv4.payload d))
  | ipv6 {next : Next} {d : Bytes} {h : Ipv6} {protocol : UInt8} :
      next.Asks EtherType.ipv6 IpProtocol.ipv6 d → Ipv6.read? d = some h → (Ipv6.upper h d).upper? = some protocol →
      Step next ⟨.ipv6 h, Ipv6.size h d, Ipv6.trailer d⟩
        (.ipProtocol protocol (Ipv6.upper h d).rest)
  | ipv6Cut {next : Next} {d : Bytes} {h : Ipv6} :
      next.Asks EtherType.ipv6 IpProtocol.ipv6 d → Ipv6.read? d = some h → (Ipv6.upper h d).upper? = none →
      Step next ⟨.ipv6 h, Ipv6.size h d, Ipv6.trailer d⟩ (.unread (Ipv6.upper h d).rest)
  | tcp {d : Bytes} {h : Tcp} :
      Tcp.read? d = some h →
      Step (.ipProtocol IpProtocol.tcp d) ⟨.tcp h, Tcp.headerLength d, 0⟩
        (.application .tcp h.srcPort h.dstPort (d.drop (Tcp.headerLength d)))
  | udp {d : Bytes} {h : Udp} :
      Udp.read? d = some h →
      Step (.ipProtocol IpProtocol.udp d) ⟨.udp h, Udp.headerLength, 0⟩
        (.application .udp h.srcPort h.dstPort (Udp.payload d))
  | icmp {d : Bytes} {h : Icmp} :
      Icmp.read? d = some h →
      Step (.ipProtocol IpProtocol.icmp d) ⟨.icmp h, d.length, 0⟩ (.unread [])
  | icmpv6 {d : Bytes} {h : Icmp} :
      Icmp.read? d = some h →
      Step (.ipProtocol IpProtocol.icmpv6 d) ⟨.icmpv6 h, d.length, 0⟩ (.unread [])
  | application {t : Transport} {srcPort dstPort : UInt16} {d : Bytes} {layer : Layer} :
      d ≠ [] → t.detect? srcPort dstPort d = some layer →
      Step (.application t srcPort dstPort d) ⟨layer, d.length, 0⟩ (.unread [])

/-- What a stage makes of what it is asked about: a step, or nothing. -/
def Next.Allows (next : Next) : Stage → Prop
  | .header span onward => next.Step span onward
  | .unread rest => rest = next.rest

namespace Stage

/-! ## Which stage is asked -/

theorem ofEtherType_arp (d : Bytes) : ofEtherType EtherType.arp d = arp d := rfl

theorem ofEtherType_vlan {type : UInt16} (tag : type ∈ EtherType.vlanTags) (d : Bytes) :
    ofEtherType type d = vlan d := by
  simp only [EtherType.vlanTags, List.mem_cons, List.not_mem_nil, or_false] at tag
  obtain rfl | rfl | rfl := tag <;> rfl

/-- The Ethernet type and the protocol number of IP name the same stage. -/
theorem ofEtherType_ipv4 (d : Bytes) :
    ofEtherType EtherType.ipv4 d = ofIpProtocol IpProtocol.ipv4 d := rfl

theorem ofEtherType_ipv6 (d : Bytes) :
    ofEtherType EtherType.ipv6 d = ofIpProtocol IpProtocol.ipv6 d := rfl

theorem ofIpProtocol_ipv4 (d : Bytes) : ofIpProtocol IpProtocol.ipv4 d = ipv4 d := rfl

theorem ofIpProtocol_ipv6 (d : Bytes) : ofIpProtocol IpProtocol.ipv6 d = ipv6 d := rfl

theorem ofIpProtocol_tcp (d : Bytes) : ofIpProtocol IpProtocol.tcp d = tcp d := rfl

theorem ofIpProtocol_udp (d : Bytes) : ofIpProtocol IpProtocol.udp d = udp d := rfl

theorem ofIpProtocol_icmp (d : Bytes) : ofIpProtocol IpProtocol.icmp d = icmp d := rfl

theorem ofIpProtocol_icmpv6 (d : Bytes) : ofIpProtocol IpProtocol.icmpv6 d = icmpv6 d := rfl

/-! ## Every stage is a step, or leaves its bytes unread -/

theorem ipv4_allowed {next : Next} {d : Bytes}
    (asks : next.Asks EtherType.ipv4 IpProtocol.ipv4 d) : next.Allows (ipv4 d) := by
  unfold ipv4
  split
  · rename_i h read
    by_cases first : Ipv4.fragmentOffset d = 0
    · rw [if_pos first]
      exact .ipv4 asks read first
    · rw [if_neg first]
      exact .ipv4Fragment asks read first
  · exact asks.rest.symm

theorem ipv6_allowed {next : Next} {d : Bytes}
    (asks : next.Asks EtherType.ipv6 IpProtocol.ipv6 d) : next.Allows (ipv6 d) := by
  unfold ipv6
  split
  · rename_i h read
    dsimp only
    split
    · rename_i protocol reached
      exact .ipv6 asks read reached
    · rename_i cut
      exact .ipv6Cut asks read cut
  · exact asks.rest.symm

theorem vlan_allowed {type : UInt16} (tag : type ∈ EtherType.vlanTags) (d : Bytes) :
    (Next.etherType type d).Allows (vlan d) := by
  unfold vlan
  split
  · rename_i h read
    exact .vlan tag read
  · rfl

theorem arp_allowed (d : Bytes) : (Next.etherType EtherType.arp d).Allows (arp d) := by
  unfold arp
  split
  · rename_i h read
    exact .arp read
  · rfl

theorem tcp_allowed (d : Bytes) : (Next.ipProtocol IpProtocol.tcp d).Allows (tcp d) := by
  unfold tcp
  split
  · rename_i h read
    exact .tcp read
  · rfl

theorem udp_allowed (d : Bytes) : (Next.ipProtocol IpProtocol.udp d).Allows (udp d) := by
  unfold udp
  split
  · rename_i h read
    exact .udp read
  · rfl

theorem icmp_allowed (d : Bytes) : (Next.ipProtocol IpProtocol.icmp d).Allows (icmp d) := by
  unfold icmp
  split
  · rename_i h read
    exact .icmp read
  · rfl

theorem icmpv6_allowed (d : Bytes) : (Next.ipProtocol IpProtocol.icmpv6 d).Allows (icmpv6 d) := by
  unfold icmpv6
  split
  · rename_i h read
    exact .icmpv6 read
  · rfl

theorem ofEtherType_allowed (type : UInt16) (d : Bytes) :
    (Next.etherType type d).Allows (ofEtherType type d) := by
  unfold ofEtherType
  split
  case isTrue ipv4 => exact ipv4_allowed (.inl (ipv4 ▸ rfl))
  split
  case isTrue ipv6 => exact ipv6_allowed (.inl (ipv6 ▸ rfl))
  split
  case isTrue arp => exact arp ▸ arp_allowed d
  split
  case isTrue tag => exact vlan_allowed tag d
  rfl

theorem ofIpProtocol_allowed (protocol : UInt8) (d : Bytes) :
    (Next.ipProtocol protocol d).Allows (ofIpProtocol protocol d) := by
  unfold ofIpProtocol
  split
  case isTrue tcp => exact tcp ▸ tcp_allowed d
  split
  case isTrue udp => exact udp ▸ udp_allowed d
  split
  case isTrue icmp => exact icmp ▸ icmp_allowed d
  split
  case isTrue icmpv6 => exact icmpv6 ▸ icmpv6_allowed d
  split
  case isTrue ipv4 => exact ipv4_allowed (.inr (ipv4 ▸ rfl))
  split
  case isTrue ipv6 => exact ipv6_allowed (.inr (ipv6 ▸ rfl))
  rfl

theorem ofApplication_allowed (t : Transport) (srcPort dstPort : UInt16) (d : Bytes) :
    (Next.application t srcPort dstPort d).Allows (ofApplication t srcPort dstPort d) := by
  unfold ofApplication
  split
  · rename_i empty
    exact (List.isEmpty_iff.mp empty).symm
  · rename_i some
    split
    · rename_i layer found
      refine .application ?_ found
      intro none
      exact some (List.isEmpty_iff.mpr none)
    · rfl

end Stage

theorem Next.allows_stage (next : Next) : next.Allows next.stage := by
  cases next with
  | etherType type d => exact Stage.ofEtherType_allowed type d
  | ipProtocol protocol d => exact Stage.ofIpProtocol_allowed protocol d
  | application t srcPort dstPort d => exact Stage.ofApplication_allowed t srcPort dstPort d
  | unread d => rfl

theorem Next.Asks.stage_ipv4 {next : Next} {d : Bytes}
    (asks : next.Asks EtherType.ipv4 IpProtocol.ipv4 d) : next.stage = Stage.ipv4 d := by
  rcases asks with rfl | rfl
  · rfl
  · rfl

theorem Next.Asks.stage_ipv6 {next : Next} {d : Bytes}
    (asks : next.Asks EtherType.ipv6 IpProtocol.ipv6 d) : next.stage = Stage.ipv6 d := by
  rcases asks with rfl | rfl
  · rfl
  · rfl

/-- The other way round: where there is a step, the stage takes it. -/
theorem Next.Step.stage {next onward : Next} {span : Span} (step : next.Step span onward) :
    next.stage = .header span onward := by
  cases step with
  | vlan tag read => rw [Next.stage, Stage.ofEtherType_vlan tag, Stage.vlan, read]
  | arp read => rw [Next.stage, Stage.ofEtherType_arp, Stage.arp, read]
  | ipv4 asks read first =>
      rw [asks.stage_ipv4, Stage.ipv4, read]
      exact congrArg _ (if_pos first)
  | ipv4Fragment asks read later =>
      rw [asks.stage_ipv4, Stage.ipv4, read]
      exact congrArg _ (if_neg later)
  | ipv6 asks read reached =>
      rw [Ipv6.upper] at reached
      rw [asks.stage_ipv6, Stage.ipv6, read]
      dsimp only
      rw [reached]
      rfl
  | ipv6Cut asks read cut =>
      rw [Ipv6.upper] at cut
      rw [asks.stage_ipv6, Stage.ipv6, read]
      dsimp only
      rw [cut]
      rfl
  | tcp read => rw [Next.stage, Stage.ofIpProtocol_tcp, Stage.tcp, read]
  | udp read => rw [Next.stage, Stage.ofIpProtocol_udp, Stage.udp, read]
  | icmp read => rw [Next.stage, Stage.ofIpProtocol_icmp, Stage.icmp, read]
  | icmpv6 read => rw [Next.stage, Stage.ofIpProtocol_icmpv6, Stage.icmpv6, read]
  | application some found =>
      rw [Next.stage, Stage.ofApplication, if_neg (mt List.isEmpty_iff.mp some), found]

/-- What a transport carries is one message, if a service knows it. -/
theorem Next.Step.of_application {t : Transport} {srcPort dstPort : UInt16} {d : Bytes}
    {span : Span} {onward : Next} (step : (Next.application t srcPort dstPort d).Step span onward) :
    ∃ layer, t.detect? srcPort dstPort d = some layer ∧ span = ⟨layer, d.length, 0⟩ ∧
      onward = .unread [] := by
  cases step with
  | application _ found => exact ⟨_, found, rfl, rfl⟩
  | ipv4 asks | ipv4Fragment asks => rcases asks with asks | asks <;> cases asks
  | ipv6 asks | ipv6Cut asks => rcases asks with asks | asks <;> cases asks

/-! ## Walks -/

theorem walk_of_stage {room : Nat} {next onward : Next} {span : Span}
    (here : next.stage = .header span onward) :
    walk (room + 1) next = (walk room onward).cons span := by
  rw [walk, here, Stage.andThen]

theorem walk_of_step {room : Nat} {next onward : Next} {span : Span}
    (step : next.Step span onward) :
    walk (room + 1) next = (walk room onward).cons span := walk_of_stage step.stage

/-- A walk with so much room, from what is to be looked at. -/
inductive Walked : Nat → Next → Dissection → Prop
  | stop {room : Nat} {next : Next} : Walked room next ⟨[], next.rest.length⟩
  | step {room : Nat} {next onward : Next} {span : Span} {r : Dissection} :
      next.Step span onward → Walked room onward r → Walked (room + 1) next (r.cons span)

theorem walked_walk (room : Nat) (next : Next) : Walked room next (walk room next) := by
  induction room generalizing next with
  | zero => exact .stop
  | succ room ih =>
      have allowed := next.allows_stage
      unfold walk
      cases stage : next.stage with
      | header span onward =>
          rw [stage] at allowed
          exact .step allowed (ih onward)
      | unread rest =>
          rw [stage] at allowed
          cases allowed
          exact .stop

/-- Unread bytes stay unread. -/
theorem Walked.of_unread {room : Nat} {rest : Bytes} {r : Dissection}
    (walked : Walked room (.unread rest) r) : r = ⟨[], rest.length⟩ := by
  cases walked with
  | stop => rfl
  | step step =>
      cases step with
      | ipv4 asks | ipv4Fragment asks => rcases asks with asks | asks <;> cases asks
      | ipv6 asks | ipv6Cut asks => rcases asks with asks | asks <;> cases asks

theorem Walked.nothing_behind {room : Nat} {rest : Bytes} {r : Dissection}
    (walked : Walked room (.unread rest) r) : r.spans = [] := by
  rw [walked.of_unread]

/-! ## Dissections -/

theorem Dissection.layers_unread (n : Nat) :
    Dissection.layers ⟨[], n⟩ = if n = 0 then [] else [.payload n] := by
  simp [layers, headers, payload, trailers]

/-- The trailer of a datagram as a layer, if there is one. -/
def Dissection.trailing (n : Nat) : List Layer := if n = 0 then [] else [.trailer n]

/-- A header stands in front of what is found behind it, and its trailer at the end. -/
theorem Dissection.layers_cons_trailing (span : Span) (r : Dissection) :
    (r.cons span).layers = span.layer :: (r.layers ++ trailing span.trailer) := by
  have last : (r.cons span).trailers = r.trailers ++ trailing span.trailer := by
    rw [trailers, cons, List.map_cons, List.reverse_cons, List.filter_append, List.map_append,
      ← trailers, trailing]
    by_cases none : span.trailer = 0
    · simp [none]
    · simp [none]
  rw [layers, last, ← List.append_assoc]
  rfl

theorem Dissection.layers_cons (layer : Layer) (size : Nat) (r : Dissection) :
    (r.cons ⟨layer, size, 0⟩).layers = layer :: r.layers := by
  rw [layers_cons_trailing]
  exact congrArg _ (List.append_nil _)

/-- A link header that is recognized. -/
inductive LinkStep : LinkType → Bytes → Span → Next → Prop
  | ethernet {d : Bytes} {h : Ethernet} :
      Ethernet.read? d = some h →
      LinkStep .ethernet d ⟨.ethernet h, Ethernet.headerLength, 0⟩
        (.etherType h.etherType (d.drop Ethernet.headerLength))
  | cooked {d : Bytes} {h : CookedCapture} :
      CookedCapture.read? d = some h →
      LinkStep .cooked d ⟨.cooked h, CookedCapture.headerLength, 0⟩
        (.etherType h.protocol (d.drop CookedCapture.headerLength))
  | loopback {d : Bytes} {h : Loopback} {type : UInt16} :
      Loopback.read? d = some h → h.etherType? = some type →
      LinkStep .loopback d ⟨.loopback h, Loopback.headerLength, 0⟩
        (.etherType type (d.drop Loopback.headerLength))
  | loopbackOther {d : Bytes} {h : Loopback} :
      Loopback.read? d = some h → h.etherType? = none →
      LinkStep .loopback d ⟨.loopback h, Loopback.headerLength, 0⟩
        (.unread (d.drop Loopback.headerLength))

theorem dissection_of_linkStep {link : LinkType} {d : Bytes} {span : Span} {onward : Next}
    (step : LinkStep link d span onward) :
    dissection link d = (walk (maxHeaders - 1) onward).cons span := by
  cases step with
  | ethernet read => rw [dissection, Stage.ethernet, read, Stage.andThen]
  | cooked read => rw [dissection, Stage.cooked, read, Stage.andThen]
  | loopback read known | loopbackOther read known =>
      rw [dissection, Stage.loopback, read]
      dsimp only
      rw [known, Stage.andThen]

/-- Behind a link header are the layers of what it carries. -/
theorem dissect_of_linkStep {link : LinkType} {d : Bytes} {span : Span} {onward : Next}
    (step : LinkStep link d span onward) :
    dissect link d = span.layer :: (walk (maxHeaders - 1) onward).layers := by
  rw [dissect, dissection_of_linkStep step]
  cases step with
  | ethernet | cooked | loopback | loopbackOther => exact Dissection.layers_cons _ _ _

/-- How the bytes of a frame can be split. -/
inductive Dissected (d : Bytes) : LinkType → Dissection → Prop
  | unread {link : LinkType} : Dissected d link ⟨[], d.length⟩
  | linked {link : LinkType} {span : Span} {onward : Next} {r : Dissection} :
      LinkStep link d span onward → Walked (maxHeaders - 1) onward r →
      Dissected d link (r.cons span)
  | ip {type : UInt16} {r : Dissection} :
      type = EtherType.ipv4 ∨ type = EtherType.ipv6 → Walked maxHeaders (.etherType type d) r →
      Dissected d .rawIp r

/-- A frame begins with a link header, with an IP header, or with nothing that is known. -/
theorem dissection_cases (link : LinkType) (d : Bytes) :
    (∃ span onward, LinkStep link d span onward) ∨
      (link = .rawIp ∧ ∃ type, (type = EtherType.ipv4 ∨ type = EtherType.ipv6) ∧
        rawIp d = .etherType type d) ∨
      dissection link d = ⟨[], d.length⟩ := by
  cases link with
  | ethernet =>
      cases read : Ethernet.read? d with
      | some h => exact .inl ⟨_, _, .ethernet read⟩
      | none => exact .inr (.inr (by rw [dissection, Stage.ethernet, read, Stage.andThen]))
  | cooked =>
      cases read : CookedCapture.read? d with
      | some h => exact .inl ⟨_, _, .cooked read⟩
      | none => exact .inr (.inr (by rw [dissection, Stage.cooked, read, Stage.andThen]))
  | loopback =>
      cases read : Loopback.read? d with
      | some h =>
          cases named : h.etherType? with
          | some type => exact .inl ⟨_, _, .loopback read named⟩
          | none => exact .inl ⟨_, _, .loopbackOther read named⟩
      | none => exact .inr (.inr (by rw [dissection, Stage.loopback, read, Stage.andThen]))
  | rawIp =>
      rw [dissection, rawIp]
      split
      · exact .inr (.inr rfl)
      split
      · exact .inr (.inl ⟨rfl, _, .inl rfl, rfl⟩)
      split
      · exact .inr (.inl ⟨rfl, _, .inr rfl, rfl⟩)
      · exact .inr (.inr rfl)
  | other number => exact .inr (.inr rfl)

theorem dissected_dissection (link : LinkType) (d : Bytes) :
    Dissected d link (dissection link d) := by
  rcases dissection_cases link d with ⟨span, onward, step⟩ | ⟨rfl, type, ip, named⟩ | nothing
  · rw [dissection_of_linkStep step]
    exact .linked step (walked_walk _ _)
  · rw [dissection, named]
    exact .ip ip (walked_walk _ _)
  · rw [nothing]
    exact .unread

/-! ## What all headers have in common -/

section
variable {P : Span → Prop}

theorem Walked.forall_spans (steps : ∀ {next span onward}, Next.Step next span onward → P span)
    {room : Nat} {next : Next} {r : Dissection} (walked : Walked room next r) :
    ∀ s ∈ r.spans, P s := by
  induction walked with
  | stop =>
      intro s none
      exact absurd none List.not_mem_nil
  | step step _ ih => exact List.forall_mem_cons.mpr ⟨steps step, ih⟩

/-- What each recognized header has, all headers of a dissection have. -/
theorem Dissected.forall_spans
    (links : ∀ {link d span onward}, LinkStep link d span onward → P span)
    (steps : ∀ {next span onward}, Next.Step next span onward → P span)
    {link : LinkType} {d : Bytes} {r : Dissection} (dissected : Dissected d link r) :
    ∀ s ∈ r.spans, P s := by
  cases dissected with
  | unread =>
      intro s none
      exact absurd none List.not_mem_nil
  | linked step walked => exact List.forall_mem_cons.mpr ⟨links step, walked.forall_spans steps⟩
  | ip _ walked => exact walked.forall_spans steps

end

end PacketWatch
