/-
# `PacketWatch.Proofs.Build.Frames` — what was built is found again

A frame is built inside-out: what IP carries (`Cargo`), with any number of tunnels around
it; what Ethernet carries (`Content`), with any number of tags around it; and the Ethernet
header.  Every header says what it carries, with the number of the Ethernet type or of the
protocol that belongs to it.

Building stops where a checksum overflows (`Icmp.echoRequest`), which cannot happen inside an
IP header whose length fits: how long the parts are is known before they are built (`size`).

Splitting such a frame gives one layer for each header, in their order and with the values
that they were built from, and behind them what is recognized of the payload.  It is an
induction over what was built: its outermost header is read back, and the walk goes on with
exactly what was put inside.
-/
import PacketWatch.Proofs.Build.ReadBack
import PacketWatch.Proofs.Dissect.Steps

namespace PacketWatch

/-! ## What is built -/

/-- The protocol numbers that are decoded. -/
def IpProtocol.decoded : List UInt8 := [icmp, ipv4, tcp, udp, ipv6, icmpv6]

/-- The numbers of the extension headers that are passed over. -/
def Ipv6.Extension.kinds : List UInt8 := [hopByHop, routing, fragment, destination]

/-- What an IP header carries. -/
inductive Cargo where
  | tcp (srcPort dstPort : UInt16) (seq : UInt32) (flags : UInt8) (payload : Bytes)
  | udp (srcPort dstPort : UInt16) (payload : Bytes)
  | echo (identifier sequence : UInt16) (payload : Bytes)
  | echo6 (identifier sequence : UInt16) (payload : Bytes)
  /-- Bytes under a protocol number that is not decoded. -/
  | raw (protocol : UInt8) (payload : Bytes)
  | ipv4 (src dst : Ip4) (inner : Cargo)
  | ipv6 (src dst : Ip6) (inner : Cargo)

/-- What an Ethernet header carries. -/
inductive Content where
  | arp (senderMac : Mac) (senderIp targetIp : Ip4)
  | ipv4 (src dst : Ip4) (inner : Cargo)
  | ipv6 (src dst : Ip6) (inner : Cargo)
  /-- A tag; `type` is the number that the header in front of it has for tags. -/
  | vlan (type : UInt16) (vlanId : UInt16) (priority : UInt8) (inner : Content)

/-- A frame to be built. -/
structure Blueprint where
  src : Mac
  dst : Mac
  content : Content

namespace Cargo

/-- The number under which it is carried. -/
def protocol : Cargo → UInt8
  | tcp .. => 6
  | udp .. => 17
  | echo .. => 1
  | echo6 .. => 58
  | raw protocol _ => protocol
  | ipv4 .. => 4
  | ipv6 .. => 41

/-- What is inside is built first. -/
def bytes : Cargo → Except Checksum.Overflow Bytes
  | tcp srcPort dstPort seq flags payload =>
    return Tcp.segment srcPort dstPort seq flags payload
  | udp srcPort dstPort payload => return Udp.datagram srcPort dstPort payload
  | echo identifier sequence payload => Icmp.echoRequest identifier sequence payload
  | echo6 identifier sequence payload => return Icmp.echoRequest6 identifier sequence payload
  | raw _ payload => return payload
  | ipv4 src dst inner => do return Ipv4.packet src dst inner.protocol (← inner.bytes)
  | ipv6 src dst inner => do return Ipv6.packet src dst inner.protocol (← inner.bytes)

/-- How many bytes there are, if they are built. -/
def size : Cargo → Nat
  | tcp _ _ _ _ payload => 20 + payload.length
  | udp _ _ payload | echo _ _ payload | echo6 _ _ payload => 8 + payload.length
  | raw _ payload => payload.length
  | ipv4 _ _ inner => 20 + inner.size
  | ipv6 _ _ inner => 40 + inner.size

def headers : Cargo → Nat
  | tcp .. | udp .. | echo .. | echo6 .. => 1
  | raw .. => 0
  | ipv4 _ _ inner | ipv6 _ _ inner => inner.headers + 1

/-- Every length fits its field, and bytes that are not to be decoded stand under a number
that is not decoded where it stands. -/
def Fits : Cargo → Prop
  | tcp .. | echo .. | echo6 .. => True
  | udp _ _ payload => 8 + payload.length ≤ 65535
  | raw protocol _ => protocol ∉ IpProtocol.decoded
  | ipv4 _ _ inner => 20 + inner.size ≤ 65535 ∧ inner.Fits
  | ipv6 _ _ inner => inner.size ≤ 65535 ∧ inner.protocol ∉ Ipv6.Extension.kinds ∧ inner.Fits

instance decidableFits : (c : Cargo) → Decidable c.Fits
  | tcp .. | echo .. | echo6 .. => isTrue trivial
  | udp _ _ payload => inferInstanceAs (Decidable (8 + payload.length ≤ 65535))
  | raw protocol _ =>
    inferInstanceAs (Decidable (protocol ∉ IpProtocol.decoded))
  | ipv4 _ _ inner =>
    have := decidableFits inner
    inferInstanceAs (Decidable (20 + inner.size ≤ 65535 ∧ inner.Fits))
  | ipv6 _ _ inner =>
    have := decidableFits inner
    inferInstanceAs (Decidable (inner.size ≤ 65535 ∧
      inner.protocol ∉ Ipv6.Extension.kinds ∧ inner.Fits))

end Cargo

namespace Content

def etherType : Content → UInt16
  | arp .. => 0x0806
  | ipv4 .. => 0x0800
  | ipv6 .. => 0x86dd
  | vlan type .. => type

def bytes : Content → Except Checksum.Overflow Bytes
  | arp senderMac senderIp targetIp => return Arp.request senderMac senderIp targetIp
  | ipv4 src dst inner => (Cargo.ipv4 src dst inner).bytes
  | ipv6 src dst inner => (Cargo.ipv6 src dst inner).bytes
  | vlan _ vlanId priority inner => do
    return Vlan.tag vlanId priority inner.etherType (← inner.bytes)

def headers : Content → Nat
  | arp .. => 1
  | ipv4 _ _ inner | ipv6 _ _ inner => inner.headers + 1
  | vlan _ _ _ inner => inner.headers + 1

def Fits : Content → Prop
  | arp .. => True
  | ipv4 src dst inner => (Cargo.ipv4 src dst inner).Fits
  | ipv6 src dst inner => (Cargo.ipv6 src dst inner).Fits
  | vlan type _ _ inner => type ∈ EtherType.vlanTags ∧ inner.Fits

instance decidableFits : (c : Content) → Decidable c.Fits
  | arp .. => isTrue trivial
  | ipv4 src dst inner => inferInstanceAs (Decidable (Cargo.ipv4 src dst inner).Fits)
  | ipv6 src dst inner => inferInstanceAs (Decidable (Cargo.ipv6 src dst inner).Fits)
  | vlan type _ _ inner =>
    have := decidableFits inner
    inferInstanceAs
      (Decidable (type ∈ EtherType.vlanTags ∧ inner.Fits))

end Content

namespace Blueprint

def bytes (b : Blueprint) : Except Checksum.Overflow Bytes := do
  return Ethernet.frame b.src b.dst b.content.etherType (← b.content.bytes)

def headers (b : Blueprint) : Nat := b.content.headers + 1

end Blueprint

/-! ## What is built -/

theorem bind_ok_iff {α β : Type} {x : Except Checksum.Overflow α} {f : α → β} {b : β} :
    (do return f (← x)) = .ok b ↔ ∃ a, x = .ok a ∧ f a = b := by
  cases x with
  | error e => exact ⟨nofun, nofun⟩
  | ok a => exact ⟨fun same => ⟨a, rfl, Except.ok.inj same⟩, fun ⟨_, same, made⟩ => by
      cases same
      exact congrArg Except.ok made⟩

theorem Icmp.exists_of_echoRequest {identifier sequence : UInt16} {payload d : Bytes}
    (built : echoRequest identifier sequence payload = .ok d) :
    ∃ checksum, d = echoWith checksum 8 identifier sequence payload := by
  obtain ⟨checksum, -, rfl⟩ := bind_ok_iff.mp built
  exact ⟨checksum, rfl⟩

namespace Cargo

theorem length_of_bytes {c : Cargo} {d : Bytes} (built : c.bytes = .ok d) :
    d.length = c.size := by
  induction c generalizing d with
  | tcp srcPort dstPort seq flags payload =>
      cases built
      exact Tcp.length_segment ..
  | udp srcPort dstPort payload =>
      cases built
      exact Udp.length_datagram ..
  | echo identifier sequence payload =>
      obtain ⟨checksum, rfl⟩ := Icmp.exists_of_echoRequest built
      exact Icmp.length_echoWith ..
  | echo6 identifier sequence payload =>
      cases built
      exact Icmp.length_echoWith ..
  | raw protocol payload =>
      cases built
      rfl
  | ipv4 src dst inner ih =>
      obtain ⟨d, inside, rfl⟩ := bind_ok_iff.mp built
      rw [Ipv4.length_packet, ih inside, size]
  | ipv6 src dst inner ih =>
      obtain ⟨d, inside, rfl⟩ := bind_ok_iff.mp built
      rw [Ipv6.length_packet, ih inside, size]

/-- What fits into an IP header is built. -/
theorem exists_bytes {c : Cargo} (fits : c.Fits) (short : c.size ≤ 65535) :
    ∃ d, c.bytes = .ok d := by
  induction c with
  | tcp | udp | echo6 | raw => exact ⟨_, rfl⟩
  | echo identifier sequence payload =>
      have short : payload.length ≤ 131066 := by
        rw [size] at short
        omega
      exact ⟨_, Icmp.echoRequest_short identifier sequence short⟩
  | ipv4 src dst inner ih =>
      obtain ⟨room, fits⟩ := fits
      obtain ⟨d, inside⟩ := ih fits (by omega)
      exact ⟨_, bind_ok_iff.mpr ⟨d, inside, rfl⟩⟩
  | ipv6 src dst inner ih =>
      obtain ⟨room, -, fits⟩ := fits
      obtain ⟨d, inside⟩ := ih fits room
      exact ⟨_, bind_ok_iff.mpr ⟨d, inside, rfl⟩⟩

end Cargo

theorem Content.exists_bytes {c : Content} (fits : c.Fits) : ∃ d, c.bytes = .ok d := by
  induction c with
  | arp => exact ⟨_, rfl⟩
  | ipv4 src dst inner =>
      obtain ⟨room, fits⟩ := fits
      obtain ⟨d, inside⟩ := inner.exists_bytes fits (by omega)
      exact ⟨_, bind_ok_iff.mpr ⟨d, inside, rfl⟩⟩
  | ipv6 src dst inner =>
      obtain ⟨room, -, fits⟩ := fits
      obtain ⟨d, inside⟩ := inner.exists_bytes fits room
      exact ⟨_, bind_ok_iff.mpr ⟨d, inside, rfl⟩⟩
  | vlan type vlanId priority inner ih =>
      obtain ⟨d, inside⟩ := ih fits.2
      exact ⟨_, bind_ok_iff.mpr ⟨d, inside, rfl⟩⟩

/-! ## What is to be found -/

/-- Bytes that nothing recognizes. -/
def unrecognized (payload : Bytes) : List Layer :=
  if payload = [] then [] else [.payload payload.length]

/-- What a transport carries, if anything. -/
def carried (t : Transport) (srcPort dstPort : UInt16) (payload : Bytes) : List Layer :=
  if payload = [] then []
  else match t.detect? srcPort dstPort payload with
    | some layer => [layer]
    | none => [.payload payload.length]

namespace Cargo

def layers : Cargo → List Layer
  | tcp srcPort dstPort seq flags payload =>
    .tcp
      { srcPort, dstPort, seq
        ack := if flags &&& 0x10 != 0 then 1 else 0
        flags :=
          { fin := flags &&& 0x01 != 0, syn := flags &&& 0x02 != 0, rst := flags &&& 0x04 != 0
            psh := flags &&& 0x08 != 0, ack := flags &&& 0x10 != 0, urg := flags &&& 0x20 != 0 }
        window := 65535 } :: carried .tcp srcPort dstPort payload
  | udp srcPort dstPort payload =>
    .udp ⟨srcPort, dstPort, UInt16.ofNat (8 + payload.length)⟩ ::
      carried .udp srcPort dstPort payload
  | echo .. => [.icmp ⟨8, 0⟩]
  | echo6 .. => [.icmpv6 ⟨128, 0⟩]
  | raw _ payload => unrecognized payload
  | ipv4 src dst inner =>
    .ipv4 ⟨src, dst, inner.protocol, 64, UInt16.ofNat (20 + inner.size)⟩ :: inner.layers
  | ipv6 src dst inner =>
    .ipv6 ⟨src, dst, inner.protocol, 64, UInt16.ofNat inner.size⟩ :: inner.layers

end Cargo

namespace Content

def layers : Content → List Layer
  | arp _ senderIp targetIp => [.arp ⟨1, some senderIp, some targetIp⟩]
  | ipv4 src dst inner => (Cargo.ipv4 src dst inner).layers
  | ipv6 src dst inner => (Cargo.ipv6 src dst inner).layers
  | vlan _ vlanId priority inner =>
    .vlan ⟨vlanId % 4096, priority % 8, inner.etherType⟩ :: inner.layers

end Content

def Blueprint.layers (b : Blueprint) : List Layer :=
  .ethernet ⟨b.src, b.dst, b.content.etherType⟩ :: b.content.layers

/-! ## Each built header is one step of the walk -/

namespace Stage

theorem ethernet_frame (src dst : Mac) (type : UInt16) (payload : Bytes) :
    ethernet (Ethernet.frame src dst type payload) =
      header ⟨.ethernet ⟨src, dst, type⟩, Ethernet.headerLength, 0⟩ (.etherType type payload) := by
  rw [ethernet, Ethernet.read?_frame, Ethernet.drop_frame]

theorem vlan_tag (vlanId : UInt16) (priority : UInt8) (type : UInt16) (payload : Bytes) :
    vlan (Vlan.tag vlanId priority type payload) =
      header ⟨.vlan ⟨vlanId % 4096, priority % 8, type⟩, Vlan.headerLength, 0⟩
        (.etherType type payload) := by
  rw [vlan, Vlan.read?_tag, Vlan.drop_tag]

theorem arp_request (senderMac : Mac) (senderIp targetIp : Ip4) :
    arp (Arp.request senderMac senderIp targetIp) =
      header ⟨.arp ⟨1, some senderIp, some targetIp⟩, 28, 0⟩ (.unread []) := by
  have nothing : (Arp.request senderMac senderIp targetIp).drop 28 = [] :=
    List.drop_eq_nil_of_le (Nat.le_of_eq (Arp.length_request senderMac senderIp targetIp))
  rw [arp, Arp.read?_request, Arp.messageLength_request, nothing]

theorem ipv4_packet (src dst : Ip4) (protocol : UInt8) {payload : Bytes}
    (fits : 20 + payload.length ≤ 65535) :
    ipv4 (Ipv4.packet src dst protocol payload) =
      header ⟨.ipv4 ⟨src, dst, protocol, 64, UInt16.ofNat (20 + payload.length)⟩, 20, 0⟩
        (.ipProtocol protocol payload) := by
  have read : Ipv4.read? (Ipv4.packet src dst protocol payload) =
      some ⟨src, dst, protocol, 64, UInt16.ofNat (20 + payload.length)⟩ := by
    rw [Ipv4.packet, Ipv4.header, Ipv4.read?_headerWith, Nat.min_eq_left fits]
  have length : Ipv4.headerLength (Ipv4.packet src dst protocol payload) = 20 :=
    Ipv4.headerLength_headerWith _ _ _ _ _ _
  have first : Ipv4.fragmentOffset (Ipv4.packet src dst protocol payload) = 0 :=
    Ipv4.fragmentOffset_headerWith _ _ _ _ _ _
  rw [ipv4, read]
  dsimp only
  rw [length, Ipv4.trailer_packet src dst protocol fits, if_pos first,
    Ipv4.payload_packet src dst protocol fits]

theorem ipv6_packet (src dst : Ip6) {nextHeader : UInt8} {payload : Bytes}
    (fits : payload.length ≤ 65535)
    (upper : Ipv6.Extension.isExtension nextHeader = false) :
    ipv6 (Ipv6.packet src dst nextHeader payload) =
      header ⟨.ipv6 ⟨src, dst, nextHeader, 64, UInt16.ofNat payload.length⟩, 40, 0⟩
        (.ipProtocol nextHeader payload) := by
  rw [ipv6, Ipv6.read?_packet, Nat.min_eq_left fits]
  dsimp only
  rw [Ipv6.trailer_packet src dst nextHeader fits, Ipv6.payload_packet src dst nextHeader fits,
    Ipv6.Extension.skip_upper upper, Nat.sub_self]
  rfl

theorem tcp_segment (srcPort dstPort : UInt16) (seq : UInt32) (flags : UInt8) (payload : Bytes) :
    tcp (Tcp.segment srcPort dstPort seq flags payload) =
      header ⟨.tcp ⟨srcPort, dstPort, seq, Tcp.ackNumber flags, .ofByte flags, 65535⟩, 20, 0⟩
        (.application .tcp srcPort dstPort payload) := by
  rw [tcp, Tcp.read?_segment]
  dsimp only
  rw [Tcp.drop_segment, Tcp.headerLength_segment]

theorem udp_datagram (srcPort dstPort : UInt16) {payload : Bytes}
    (fits : 8 + payload.length ≤ 65535) :
    udp (Udp.datagram srcPort dstPort payload) =
      header ⟨.udp ⟨srcPort, dstPort, UInt16.ofNat (8 + payload.length)⟩, 8, 0⟩
        (.application .udp srcPort dstPort payload) := by
  rw [udp, Udp.read?_datagram, Nat.min_eq_left fits]
  dsimp only
  rw [Udp.payload_datagram srcPort dstPort fits]
  rfl

theorem icmp_echo (checksum identifier sequence : UInt16) (payload : Bytes) :
    icmp (Icmp.echoWith checksum 8 identifier sequence payload) =
      header ⟨.icmp ⟨8, 0⟩, (Icmp.echoWith checksum 8 identifier sequence payload).length, 0⟩
        (.unread []) := by
  rw [icmp, Icmp.read?_echoWith checksum 8 identifier sequence payload]

theorem icmpv6_echo (identifier sequence : UInt16) (payload : Bytes) :
    icmpv6 (Icmp.echoRequest6 identifier sequence payload) =
      header ⟨.icmpv6 ⟨128, 0⟩, (Icmp.echoRequest6 identifier sequence payload).length, 0⟩
        (.unread []) := by
  have read : Icmp.read? (Icmp.echoRequest6 identifier sequence payload) = some ⟨128, 0⟩ :=
    Icmp.read?_echoWith 0 128 identifier sequence payload
  rw [icmpv6, read]

/-! ### What no stage is asked about -/

/-- Bytes under a number that is not decoded stay unread. -/
theorem ofIpProtocol_raw {protocol : UInt8} (notDecoded : protocol ∉ IpProtocol.decoded)
    (d : Bytes) : ofIpProtocol protocol d = unread d := by
  have others : ∀ p ∈ IpProtocol.decoded, protocol ≠ p := by
    intro p mem same
    exact notDecoded (same ▸ mem)
  rw [ofIpProtocol, if_neg (others IpProtocol.tcp (by decide)),
    if_neg (others IpProtocol.udp (by decide)), if_neg (others IpProtocol.icmp (by decide)),
    if_neg (others IpProtocol.icmpv6 (by decide)), if_neg (others IpProtocol.ipv4 (by decide)),
    if_neg (others IpProtocol.ipv6 (by decide))]

end Stage

/-! ## The walk along what was built -/

section
variable {room : Nat} {next onward : Next} {layer : Layer} {size : Nat}

theorem walk_of_stage_eq (same : next.stage = onward.stage) :
    walk (room + 1) next = walk (room + 1) onward := by
  rw [walk, walk, same]

theorem layers_walk_header (here : next.stage = .header ⟨layer, size, 0⟩ onward) :
    (walk (room + 1) next).layers = layer :: (walk room onward).layers := by
  rw [walk, here, Stage.andThen, Dissection.layers_cons]

theorem layers_walk_unread (here : next.stage = .unread next.rest) :
    (walk room next).layers = unrecognized next.rest := by
  have nothing : walk room next = ⟨[], next.rest.length⟩ := by
    cases room with
    | zero => rfl
    | succ room => rw [walk, here, Stage.andThen]
  rw [nothing, Dissection.layers_unread]
  simp only [unrecognized, List.length_eq_zero_iff]

/-- A message that takes all it is given is the last layer. -/
theorem layers_walk_message (here : next.stage = .header ⟨layer, size, 0⟩ (.unread [])) :
    (walk (room + 1) next).layers = [layer] := by
  rw [layers_walk_header here, layers_walk_unread rfl]
  rfl

end

theorem layers_walk_application (room : Nat) (t : Transport) (srcPort dstPort : UInt16)
    (payload : Bytes) :
    (walk (room + 1) (.application t srcPort dstPort payload)).layers =
      carried t srcPort dstPort payload := by
  unfold carried
  by_cases empty : payload = []
  · subst empty
    rw [if_pos rfl, layers_walk_unread rfl]
    rfl
  · have there : payload.isEmpty = false := by simpa using empty
    have asked : (Next.application t srcPort dstPort payload).stage =
        match t.detect? srcPort dstPort payload with
        | some layer => .header ⟨layer, payload.length, 0⟩ (.unread [])
        | none => .unread payload := by
      rw [Next.stage, Stage.ofApplication, there]
      rfl
    rw [if_neg empty]
    cases detected : t.detect? srcPort dstPort payload with
    | some layer =>
        rw [detected] at asked
        exact layers_walk_message asked
    | none =>
        rw [detected] at asked
        rw [layers_walk_unread asked, Next.rest, unrecognized, if_neg empty]

theorem Ipv6.Extension.isExtension_upper {kind : UInt8}
    (upper : kind ∉ Ipv6.Extension.kinds) : isExtension kind = false := by
  simpa [isExtension, kinds, and_assoc] using upper

/-- The induction is on what the header in front carries.  Each header takes one of the
room, and one is kept for the application. -/
theorem layers_walk_cargo {c : Cargo} (fits : c.Fits) {d : Bytes} (built : c.bytes = .ok d)
    {room : Nat} (few : c.headers ≤ room) :
    (walk (room + 1) (.ipProtocol c.protocol d)).layers = c.layers := by
  induction c generalizing d room with
  | tcp srcPort dstPort seq flags payload =>
      cases built
      have here := (Stage.ofIpProtocol_tcp _).trans
        (Stage.tcp_segment srcPort dstPort seq flags payload)
      obtain _ | room := room
      · cases few
      · refine Eq.trans (layers_walk_header here) ?_
        rw [layers_walk_application, Tcp.ackNumber_eq, TcpFlags.ofByte_eq]
        rfl
  | udp srcPort dstPort payload =>
      cases built
      have here := (Stage.ofIpProtocol_udp _).trans (Stage.udp_datagram srcPort dstPort fits)
      obtain _ | room := room
      · cases few
      · refine Eq.trans (layers_walk_header here) ?_
        rw [layers_walk_application]
        rfl
  | echo identifier sequence payload =>
      obtain ⟨checksum, rfl⟩ := Icmp.exists_of_echoRequest built
      exact layers_walk_message
        ((Stage.ofIpProtocol_icmp _).trans (Stage.icmp_echo checksum identifier sequence payload))
  | echo6 identifier sequence payload =>
      cases built
      exact layers_walk_message
        ((Stage.ofIpProtocol_icmpv6 _).trans (Stage.icmpv6_echo identifier sequence payload))
  | raw protocol payload =>
      cases built
      exact layers_walk_unread (Stage.ofIpProtocol_raw fits payload)
  | ipv4 src dst inner ih =>
      obtain ⟨short, fits⟩ := fits
      obtain ⟨d, inside, rfl⟩ := bind_ok_iff.mp built
      rw [← Cargo.length_of_bytes inside] at short
      have here := (Stage.ofIpProtocol_ipv4 _).trans
        (Stage.ipv4_packet src dst inner.protocol short)
      obtain _ | room := room
      · cases few
      · refine Eq.trans (layers_walk_header here) ?_
        rw [ih fits inside (Nat.le_of_succ_le_succ few), Cargo.layers,
          Cargo.length_of_bytes inside]
  | ipv6 src dst inner ih =>
      obtain ⟨short, upper, fits⟩ := fits
      obtain ⟨d, inside, rfl⟩ := bind_ok_iff.mp built
      rw [← Cargo.length_of_bytes inside] at short
      have upper := Ipv6.Extension.isExtension_upper upper
      have here := (Stage.ofIpProtocol_ipv6 _).trans (Stage.ipv6_packet src dst short upper)
      obtain _ | room := room
      · cases few
      · refine Eq.trans (layers_walk_header here) ?_
        rw [ih fits inside (Nat.le_of_succ_le_succ few), Cargo.layers,
          Cargo.length_of_bytes inside]

/-- The induction is on the tags. -/
theorem layers_walk_content {c : Content} (fits : c.Fits) {d : Bytes} (built : c.bytes = .ok d)
    {room : Nat} (few : c.headers ≤ room) :
    (walk (room + 1) (.etherType c.etherType d)).layers = c.layers := by
  induction c generalizing d room with
  | arp senderMac senderIp targetIp =>
      cases built
      exact layers_walk_message
        ((Stage.ofEtherType_arp _).trans (Stage.arp_request senderMac senderIp targetIp))
  | ipv4 src dst inner =>
      refine Eq.trans ?_ (layers_walk_cargo (c := .ipv4 src dst inner) fits built few)
      exact congrArg Dissection.layers (walk_of_stage_eq (Stage.ofEtherType_ipv4 _))
  | ipv6 src dst inner =>
      refine Eq.trans ?_ (layers_walk_cargo (c := .ipv6 src dst inner) fits built few)
      exact congrArg Dissection.layers (walk_of_stage_eq (Stage.ofEtherType_ipv6 _))
  | vlan type vlanId priority inner ih =>
      obtain ⟨tag, fits⟩ := fits
      obtain ⟨d, inside, rfl⟩ := bind_ok_iff.mp built
      have here := (Stage.ofEtherType_vlan tag _).trans
        (Stage.vlan_tag vlanId priority inner.etherType d)
      obtain _ | room := room
      · cases few
      · refine Eq.trans (layers_walk_header here) ?_
        rw [ih fits inside (Nat.le_of_succ_le_succ few)]
        rfl

/-- A link header in front of it. -/
theorem dissect_frame (src dst : Mac) {c : Content} (fits : c.Fits) {d : Bytes}
    (built : c.bytes = .ok d) (few : c.headers ≤ 30) :
    dissect .ethernet (Ethernet.frame src dst c.etherType d) =
      .ethernet ⟨src, dst, c.etherType⟩ :: c.layers := by
  rw [dissect, dissection, Stage.ethernet_frame, Stage.andThen, Dissection.layers_cons]
  change _ :: (walk (30 + 1) _).layers = _
  rw [layers_walk_content fits built few]

/-- A frame of at most 31 headers, each of which fits, is built, and what was built is split into
exactly the layers it was built from, with what is recognized of its payload behind them. -/
theorem dissect_built (b : Blueprint) (fits : b.content.Fits) (few : b.headers ≤ 31) :
    ∃ d, b.bytes = .ok d ∧ dissect .ethernet d = b.layers := by
  obtain ⟨d, built⟩ := Content.exists_bytes fits
  exact ⟨_, bind_ok_iff.mpr ⟨d, built, rfl⟩,
    dissect_frame b.src b.dst fits built (Nat.le_of_succ_le_succ few)⟩

/-- Two tags with too large values, and a time request in IPv4 in IPv6. -/
theorem dissect_built_tunnel :
    let mac (b : UInt8) : Mac := ⟨[2, 0, 0, 0, 0, b], rfl⟩
    let ip4 (b : UInt8) : Ip4 := ⟨[10, 0, 0, b], rfl⟩
    let ip6 (b : UInt8) : Ip6 := ⟨[0xfd, 0, 0, 0, 0, 0, 0, 0, 0, 0, 0, 0, 0, 0, 0, b], rfl⟩
    let request : Bytes := 0x23 :: List.replicate 47 0
    let built : Blueprint :=
      ⟨mac 1, mac 2, .vlan 0x88a8 4097 9 (.vlan 0x8100 7 3 (.ipv6 (ip6 1) (ip6 2)
        (.ipv4 (ip4 1) (ip4 2) (.udp 40000 123 request))))⟩
    built.content.Fits ∧ built.headers ≤ 31 ∧ ∃ d, built.bytes = .ok d ∧
      dissect .ethernet d =
        [.ethernet ⟨mac 1, mac 2, 0x88a8⟩, .vlan ⟨1, 1, 0x8100⟩, .vlan ⟨7, 3, 0x86dd⟩,
          .ipv6 ⟨ip6 1, ip6 2, 4, 64, 76⟩, .ipv4 ⟨ip4 1, ip4 2, 17, 64, 76⟩,
          .udp ⟨40000, 123, 56⟩, .ntp ⟨4, 3⟩] := by
  intro mac ip4 ip6 request built
  have fits : built.content.Fits := by decide
  have few : built.headers ≤ 31 := by decide
  obtain ⟨d, made, found⟩ := dissect_built built fits few
  exact ⟨fits, few, d, made, found.trans (by decide)⟩

end PacketWatch
