/-
Splitting a frame into layers, lowest first.

The walk is a chain of stages.  A stage looks at the bytes it is given and
either recognizes a header, takes its bytes and names what follows (`Next`),
or leaves the bytes unread, which ends the walk.  Each recognized header is a
`Span`: its layer, how many bytes it took, and how many captured bytes lie
behind the datagram that it delimits.  A walk has room for 32 headers, so a
chain of tunnels ends there with its rest unread.

The layers of a dissection are its headers, then the unread bytes as payload,
then the trailers, inner ones first, as they lie in the frame.  Nothing here
can fail: damaged data is payload.
-/
import PacketWatch.Dissect.Service
import PacketWatch.LinkType

namespace PacketWatch

/-- What follows a header. -/
inductive Next where
  /-- Bytes whose kind an Ethernet type names. -/
  | etherType (type : UInt16) (rest : Bytes)
  /-- Bytes whose kind an IP protocol number names. -/
  | ipProtocol (protocol : UInt8) (rest : Bytes)
  /-- What a transport carries between two ports. -/
  | application (transport : Transport) (srcPort dstPort : UInt16) (rest : Bytes)
  /-- Bytes that no stage is asked about; none if the message is complete. -/
  | unread (rest : Bytes)
deriving DecidableEq

/-- The bytes that are still to be looked at. -/
def Next.rest : Next → Bytes
  | etherType _ rest | ipProtocol _ rest | application _ _ _ rest | unread rest => rest

/-- A recognized header. -/
structure Span where
  layer : Layer
  /-- How many bytes it took.  A control or application message takes all it is given. -/
  size : Nat
  /-- How many captured bytes lie behind the datagram that it delimits. -/
  trailer : Nat := 0
deriving DecidableEq

/-- What a stage made of its bytes. -/
inductive Stage where
  | header (span : Span) (next : Next)
  | unread (rest : Bytes)
deriving DecidableEq

namespace Stage

/-! ## Link headers -/

def ethernet (d : Bytes) : Stage :=
  match Ethernet.read? d with
  | some h =>
    header ⟨.ethernet h, Ethernet.headerLength, 0⟩
      (.etherType h.etherType (d.drop Ethernet.headerLength))
  | none => unread d

def cooked (d : Bytes) : Stage :=
  match CookedCapture.read? d with
  | some h =>
    header ⟨.cooked h, CookedCapture.headerLength, 0⟩
      (.etherType h.protocol (d.drop CookedCapture.headerLength))
  | none => unread d

def loopback (d : Bytes) : Stage :=
  match Loopback.read? d with
  | some h =>
    let rest := d.drop Loopback.headerLength
    header ⟨.loopback h, Loopback.headerLength, 0⟩
      (match h.etherType? with
        | some type => .etherType type rest
        | none => .unread rest)
  | none => unread d

def vlan (d : Bytes) : Stage :=
  match Vlan.read? d with
  | some h =>
    header ⟨.vlan h, Vlan.headerLength, 0⟩ (.etherType h.etherType (d.drop Vlan.headerLength))
  | none => unread d

/-! ## Network headers -/

/-- Behind the message lies link padding. -/
def arp (d : Bytes) : Stage :=
  match Arp.read? d with
  | some h => header ⟨.arp h, Arp.messageLength d, 0⟩ (.unread (d.drop (Arp.messageLength d)))
  | none => unread d

/-- A fragment that is not the first carries no upper header. -/
def ipv4 (d : Bytes) : Stage :=
  match Ipv4.read? d with
  | some h =>
    header ⟨.ipv4 h, Ipv4.headerLength d, Ipv4.trailer d⟩
      (if Ipv4.fragmentOffset d = 0 then .ipProtocol h.protocol (Ipv4.payload d)
        else .unread (Ipv4.payload d))
  | none => unread d

/-- The header takes the extension headers that lead to the upper protocol. -/
def ipv6 (d : Bytes) : Stage :=
  match Ipv6.read? d with
  | some h =>
    let payload := Ipv6.payload d
    let walk := Ipv6.Extension.skip h.nextHeader payload
    header ⟨.ipv6 h, Ipv6.headerLength + (payload.length - walk.rest.length), Ipv6.trailer d⟩
      (match walk.upper? with
        | some protocol => .ipProtocol protocol walk.rest
        | none => .unread walk.rest)
  | none => unread d

/-! ## Transport headers and control messages -/

def tcp (d : Bytes) : Stage :=
  match Tcp.read? d with
  | some h =>
    header ⟨.tcp h, Tcp.headerLength d, 0⟩
      (.application .tcp h.srcPort h.dstPort (d.drop (Tcp.headerLength d)))
  | none => unread d

def udp (d : Bytes) : Stage :=
  match Udp.read? d with
  | some h =>
    header ⟨.udp h, Udp.headerLength, 0⟩ (.application .udp h.srcPort h.dstPort (Udp.payload d))
  | none => unread d

def icmp (d : Bytes) : Stage :=
  match Icmp.read? d with
  | some h => header ⟨.icmp h, d.length, 0⟩ (.unread [])
  | none => unread d

def icmpv6 (d : Bytes) : Stage :=
  match Icmp.read? d with
  | some h => header ⟨.icmpv6 h, d.length, 0⟩ (.unread [])
  | none => unread d

/-! ## Choosing a stage -/

def ofEtherType (type : UInt16) (d : Bytes) : Stage :=
  if type = EtherType.ipv4 then ipv4 d
  else if type = EtherType.ipv6 then ipv6 d
  else if type = EtherType.arp then arp d
  else if type ∈ EtherType.vlanTags then vlan d
  else unread d

def ofIpProtocol (protocol : UInt8) (d : Bytes) : Stage :=
  if protocol = IpProtocol.tcp then tcp d
  else if protocol = IpProtocol.udp then udp d
  else if protocol = IpProtocol.icmp then icmp d
  else if protocol = IpProtocol.icmpv6 then icmpv6 d
  else if protocol = IpProtocol.ipv4 then ipv4 d
  else if protocol = IpProtocol.ipv6 then ipv6 d
  else unread d

/-- An empty payload is not offered to any service. -/
def ofApplication (t : Transport) (srcPort dstPort : UInt16) (d : Bytes) : Stage :=
  if d.isEmpty then unread []
  else match t.detect? srcPort dstPort d with
    | some layer => header ⟨layer, d.length, 0⟩ (.unread [])
    | none => unread d

end Stage

/-- The stage that looks at what follows a header. -/
def Next.stage : Next → Stage
  | etherType type rest => Stage.ofEtherType type rest
  | ipProtocol protocol rest => Stage.ofIpProtocol protocol rest
  | application t srcPort dstPort rest => Stage.ofApplication t srcPort dstPort rest
  | unread rest => Stage.unread rest

/-! ## The walk -/

/-- A frame split into headers and an unread rest. -/
structure Dissection where
  /-- The recognized headers, lowest first. -/
  spans : List Span
  /-- How many bytes nothing recognized. -/
  unread : Nat
deriving DecidableEq

namespace Dissection

/-- Puts a header in front. -/
def cons (s : Span) (r : Dissection) : Dissection := { r with spans := s :: r.spans }

/-- The layers of the headers. -/
def headers (r : Dissection) : List Layer := r.spans.map (·.layer)

/-- The unread bytes as a layer, if there are any. -/
def payload (r : Dissection) : List Layer := if r.unread = 0 then [] else [.payload r.unread]

/-- The trailers, inner datagrams first, without empty ones. -/
def trailers (r : Dissection) : List Layer :=
  ((r.spans.map (·.trailer)).reverse.filter (· ≠ 0)).map .trailer

/-- All layers in the order of their bytes. -/
def layers (r : Dissection) : List Layer := r.headers ++ r.payload ++ r.trailers

end Dissection

/-- Goes on behind a stage. -/
def Stage.andThen (onward : Next → Dissection) : Stage → Dissection
  | header span next => (onward next).cons span
  | unread rest => ⟨[], rest.length⟩

/-- Follows the stages as long as there is room for another header. -/
def walk : Nat → Next → Dissection
  | 0, next => ⟨[], next.rest.length⟩
  | room + 1, next => next.stage.andThen (walk room)

/-- The most headers of one frame. -/
def maxHeaders : Nat := 32

/-- An IP packet without a link header; the version in its first byte selects
the kind. -/
def rawIp (d : Bytes) : Next :=
  if d.isEmpty then .unread d
  else if (d.byteAt 0).toNat / 16 = 4 then .etherType EtherType.ipv4 d
  else if (d.byteAt 0).toNat / 16 = 6 then .etherType EtherType.ipv6 d
  else .unread d

/-- Splits a frame into its headers. -/
def dissection (link : LinkType) (d : Bytes) : Dissection :=
  match link with
  | .ethernet => (Stage.ethernet d).andThen (walk (maxHeaders - 1))
  | .cooked => (Stage.cooked d).andThen (walk (maxHeaders - 1))
  | .loopback => (Stage.loopback d).andThen (walk (maxHeaders - 1))
  | .rawIp => walk maxHeaders (rawIp d)
  | .other _ => walk maxHeaders (.unread d)

/-- Splits a frame into its layers. -/
def dissect (link : LinkType) (d : Bytes) : List Layer := (dissection link d).layers

end PacketWatch
