/-
Made-up traffic.

A pattern builds a frame from a sequence number and nothing else, so a script
of frames can be repeated.  Addresses and ports vary with the number.  The
mixed pattern takes the others in turn; garbage is too short for a link
header.
-/
import PacketWatch.Protocol.Arp
import PacketWatch.Protocol.Dns
import PacketWatch.Protocol.Ethernet
import PacketWatch.Protocol.Icmp
import PacketWatch.Protocol.Ipv4
import PacketWatch.Protocol.Ipv6
import PacketWatch.Protocol.Tcp
import PacketWatch.Protocol.Udp
import PacketWatch.Frame

namespace PacketWatch

/-- A kind of made-up traffic. -/
inductive Traffic where
  /-- Requests of a hypertext client. -/
  | tcp
  /-- Queries for addresses of names. -/
  | dns
  /-- Address resolution requests. -/
  | arp
  /-- Echo requests. -/
  | icmp
  /-- Datagrams over IPv6. -/
  | ipv6
  /-- Bytes without a recognizable header. -/
  | garbage
  /-- All of the above in turn. -/
  | mixed
deriving DecidableEq

namespace Traffic

instance : Inhabited Traffic := ⟨mixed⟩

/-- The last byte of the client's address. -/
def host (seq : UInt64) : UInt8 := UInt8.ofNat (seq.toNat % 250 + 2)

def client (seq : UInt64) : Ip4 := ⟨[192, 168, 0, host seq], rfl⟩

def server : Ip4 := ⟨[10, 0, 0, 1], rfl⟩

def client6 (seq : UInt64) : Ip6 := ⟨[0xfd, 0, 0, 0, 0, 0, 0, 0, 0, 0, 0, 0, 0, 0, 0, host seq], rfl⟩

def server6 : Ip6 := ⟨[0xfd, 0, 0, 0, 0, 0, 0, 0, 0, 0, 0, 0, 0, 0, 0, 1], rfl⟩

def clientMac : Mac := ⟨[0x02, 0, 0, 0, 0, 1], rfl⟩

def serverMac : Mac := ⟨[0x02, 0, 0, 0, 0, 2], rfl⟩

def broadcastMac : Mac := ⟨[0xff, 0xff, 0xff, 0xff, 0xff, 0xff], rfl⟩

/-- The client's port. -/
def clientPort (seq : UInt64) : UInt16 := UInt16.ofNat (49152 + seq.toNat % 16000)

/-- The low 16 bits of a sequence number. -/
def low16 (seq : UInt64) : UInt16 := UInt16.ofNat seq.toNat

/-! ## Frames -/

/-- An IPv4 datagram from client to server in a frame. -/
def overIpv4 (seq : UInt64) (protocol : UInt8) (payload : Bytes) : Bytes :=
  Ethernet.frame clientMac serverMac EtherType.ipv4
    (Ipv4.packet (client seq) server protocol payload)

def request (seq : UInt64) : String :=
  "GET /item/" ++ toString seq.toNat ++ " HTTP/1.1\r\nHost: mock\r\n\r\n"

/-- A segment that pushes a request for an item. -/
def tcpFrame (seq : UInt64) : Bytes :=
  overIpv4 seq IpProtocol.tcp
    (Tcp.segment (clientPort seq) 80 (UInt32.ofNat seq.toNat) 0x18 (Bytes.ofText (request seq)))

def hostName (seq : UInt64) : String := "host" ++ toString seq.toNat ++ ".example.com"

def dnsFrame (seq : UInt64) : Bytes :=
  overIpv4 seq IpProtocol.udp
    (Udp.datagram (clientPort seq) 53 (Dns.query (low16 seq) (hostName seq)))

def arpFrame (seq : UInt64) : Bytes :=
  Ethernet.frame clientMac broadcastMac EtherType.arp (Arp.request clientMac (client seq) server)

def icmpFrame (seq : UInt64) : Bytes :=
  overIpv4 seq IpProtocol.icmp
    (Icmp.shortEchoRequest 0x4d4b (low16 seq) (Bytes.ofText "packetscope") (by decide))

def ipv6Frame (seq : UInt64) : Bytes :=
  Ethernet.frame clientMac serverMac EtherType.ipv6
    (Ipv6.packet (client6 seq) server6 IpProtocol.udp
      (Udp.datagram (clientPort seq) 9000 (bytes64 seq)))

/-! ## Garbage -/

/-- One step of a shift register with feedback. -/
def scramble (state : UInt64) : UInt64 :=
  let a := state ^^^ (state <<< 13)
  let b := a ^^^ (a >>> 7)
  b ^^^ (b <<< 17)

/-- The low bytes of successive states. -/
def noise : Nat → UInt64 → Bytes
  | 0, _ => []
  | n + 1, state => (scramble state).toUInt8 :: noise n (scramble state)

/-- One to thirteen bytes; the first state is odd, so the register never stalls. -/
def garbageFrame (seq : UInt64) : Bytes :=
  noise (1 + seq.toNat % 13) ((seq * 0x9e3779b97f4a7c15) ||| 1)

/-! ## Patterns -/

/-- The pattern that the mixed one takes for a sequence number. -/
def inTurn (seq : UInt64) : Traffic :=
  match seq.toNat % 6 with
  | 0 => tcp
  | 1 => dns
  | 2 => arp
  | 3 => icmp
  | 4 => ipv6
  | _ => garbage

/-- The bytes of a frame of a single pattern. -/
def single (seq : UInt64) : Traffic → Bytes
  | tcp => tcpFrame seq
  | dns => dnsFrame seq
  | arp => arpFrame seq
  | icmp => icmpFrame seq
  | ipv6 => ipv6Frame seq
  | garbage | mixed => garbageFrame seq

/-- The bytes of the frame with the given sequence number. -/
def bytes (t : Traffic) (seq : UInt64) : Bytes :=
  match t with
  | mixed => single seq (inTurn seq)
  | t => single seq t

/-- The frame with the given sequence number. -/
def frame (t : Traffic) (seq : UInt64) : Frame := Frame.whole (t.bytes seq)

/-- The first frames of a pattern. -/
def frames (t : Traffic) (count : Nat) : List Frame :=
  (List.range count).map fun i => t.frame (UInt64.ofNat i)

end Traffic

end PacketWatch
