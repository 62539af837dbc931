/-
Address resolution: eight fixed bytes, of which two are the sizes of a
hardware and of a protocol address, then sender and target with one address of
each size.

The network addresses are reported for IPv4 over Ethernet alone.
-/
import PacketWatch.Address
import PacketWatch.Protocol.Numbers

namespace PacketWatch

/-- An address resolution message. -/
structure Arp where
  operation : UInt16
  senderIp : Option Ip4
  targetIp : Option Ip4
deriving DecidableEq

namespace Arp

/-- The declared size of a hardware address. -/
def hardwareSize (d : Bytes) : Nat := (d.byteAt 4).toNat

/-- The declared size of a protocol address. -/
def protocolSize (d : Bytes) : Nat := (d.byteAt 5).toNat

/-- The length that the declared sizes ask for. -/
def messageLength (d : Bytes) : Nat := 8 + 2 * (hardwareSize d + protocolSize d)

/-- Whether the message resolves IPv4 addresses on Ethernet. -/
def resolvesIpv4 (d : Bytes) : Bool :=
  d.word16At 0 == 1 && d.word16At 2 == EtherType.ipv4 && protocolSize d == 4

/-- The network address at an offset, where the message has such. -/
def ip4At? (d : Bytes) (offset : Nat) : Option Ip4 :=
  if resolvesIpv4 d then some (d.octetsAt 4 offset) else none

/-- The message at the start of the given bytes. -/
def read? (d : Bytes) : Option Arp :=
  if d.length < 8 ∨ d.length < messageLength d then none
  else some
    { operation := d.word16At 6
      senderIp := ip4At? d (8 + hardwareSize d)
      targetIp := ip4At? d (8 + 2 * hardwareSize d + protocolSize d) }

/-- Asks who has an IPv4 address on Ethernet. -/
def request (senderMac : Mac) (senderIp targetIp : Ip4) : Bytes :=
  bytes16 1 ++ bytes16 EtherType.ipv4 ++ [6, 4] ++ bytes16 1
    ++ senderMac.toList ++ senderIp.toList ++ List.replicate 6 0 ++ targetIp.toList

def summary (h : Arp) : String :=
  "ARP Layer, " ++
    match h.operation.toNat, h.senderIp, h.targetIp with
    | 1, some sender, some target =>
      "ARP request, who has " ++ ip4Text target ++ " ? Tell " ++ ip4Text sender
    | 2, some sender, some _ => "ARP reply, " ++ ip4Text sender ++ " is at sender MAC"
    | operation, _, _ => "Operation: " ++ toString operation

end Arp

end PacketWatch
