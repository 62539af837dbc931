/-
The Ethernet II header: destination, source and type, fourteen bytes.
-/
import PacketWatch.Address

namespace PacketWatch

/-- An Ethernet II header. -/
structure Ethernet where
  src : Mac
  dst : Mac
  etherType : UInt16
deriving DecidableEq

namespace Ethernet

/-- Length of the header. -/
def headerLength : Nat := 14

/-- The header at the start of a frame. -/
def read? (d : Bytes) : Option Ethernet :=
  if d.length < headerLength then none
  else some { dst := d.octetsAt 6 0, src := d.octetsAt 6 6, etherType := d.word16At 12 }

/-- A header and what it carries. -/
def frame (src dst : Mac) (etherType : UInt16) (payload : Bytes) : Bytes :=
  dst.toList ++ src.toList ++ bytes16 etherType ++ payload

def summary (h : Ethernet) : String :=
  "Ethernet II Layer, Src: " ++ macText h.src ++ ", Dst: " ++ macText h.dst
    ++ ", Type: 0x" ++ Text.hexPadded 4 h.etherType.toNat

end Ethernet

end PacketWatch
