/-
The loopback header: an address family in four bytes, in the byte order of the
host that captured it.

A family is a small number, so one that reads above 16 bits low byte first was
written high byte first.
-/
import PacketWatch.Protocol.Numbers
import PacketWatch.Bytes

namespace PacketWatch

/-- A loopback header. -/
structure Loopback where
  family : UInt32
deriving DecidableEq

namespace Loopback

/-- Length of the header. -/
def headerLength : Nat := 4

/-- The family of four bytes in either byte order. -/
def familyOf (a b c e : UInt8) : UInt32 :=
  let littleEndian := word32 e c b a
  if 0xFFFF < littleEndian then word32 a b c e else littleEndian

/-- The header at the start of a frame. -/
def read? (d : Bytes) : Option Loopback :=
  if d.length < headerLength then none
  else some ⟨familyOf (d.byteAt 0) (d.byteAt 1) (d.byteAt 2) (d.byteAt 3)⟩

/-- The families that stand for IPv6 on one system or another. -/
def ipv6Families : List UInt32 := [24, 28, 30]

/-- The Ethernet type that a family stands for. -/
def etherType? (h : Loopback) : Option UInt16 :=
  if h.family = 2 then some EtherType.ipv4
  else if h.family ∈ ipv6Families then some EtherType.ipv6
  else none

def summary (h : Loopback) : String :=
  "Null/Loopback Layer, Family: " ++ toString h.family.toNat

end Loopback

end PacketWatch
