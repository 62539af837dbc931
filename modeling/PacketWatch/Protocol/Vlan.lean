/-
A VLAN tag: four bytes between a link header and what it carries.  Three bits
of priority, one that is ignored and twelve of identifier, then the type of
what follows.
-/
import PacketWatch.Bytes
import PacketWatch.Text.Number

namespace PacketWatch

/-- A VLAN tag. -/
structure Vlan where
  vlanId : UInt16
  priority : UInt8
  etherType : UInt16
deriving DecidableEq

namespace Vlan

/-- Length of the tag. -/
def headerLength : Nat := 4

/-- The control word of an identifier and a priority, each cut to its field. -/
def controlWord (vlanId : UInt16) (priority : UInt8) : UInt16 :=
  UInt16.ofNat (priority.toNat % 8 * 8192 + vlanId.toNat % 4096)

/-- The tag at the start of the given bytes. -/
def read? (d : Bytes) : Option Vlan :=
  if d.length < headerLength then none
  else some
    { vlanId := UInt16.ofNat ((d.word16At 0).toNat % 4096)
      priority := UInt8.ofNat ((d.word16At 0).toNat / 8192)
      etherType := d.word16At 2 }

/-- A tag and what it carries. -/
def tag (vlanId : UInt16) (priority : UInt8) (etherType : UInt16) (payload : Bytes) : Bytes :=
  bytes16 (controlWord vlanId priority) ++ bytes16 etherType ++ payload

def summary (h : Vlan) : String :=
  "VLAN Layer, Priority: " ++ toString h.priority.toNat
    ++ ", Vlan ID: " ++ toString h.vlanId.toNat
    ++ ", Type: 0x" ++ Text.hexPadded 4 h.etherType.toNat

end Vlan

end PacketWatch
