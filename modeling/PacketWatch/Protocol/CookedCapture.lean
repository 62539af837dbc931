/-
The pseudo-header of a Linux cooked capture: sixteen bytes that stand where
the link header was.  It records the sender's address alone, in a field of
eight bytes of which a length says how many are used.
-/
import PacketWatch.Address

namespace PacketWatch

/-- A Linux cooked capture header. -/
structure CookedCapture where
  packetType : UInt16
  linkAddr : Bytes
  protocol : UInt16
deriving DecidableEq

namespace CookedCapture

/-- Length of the header. -/
def headerLength : Nat := 16

/-- How many bytes of the address field are used; never more than it has. -/
def addressLength (d : Bytes) : Nat := min (d.word16At 4).toNat 8

/-- The header at the start of a frame. -/
def read? (d : Bytes) : Option CookedCapture :=
  if d.length < headerLength then none
  else some
    { packetType := d.word16At 0
      linkAddr := (d.drop 6).take (addressLength d)
      protocol := d.word16At 14 }

def summary (h : CookedCapture) : String :=
  "Linux cooked capture, Packet type: " ++ toString h.packetType.toNat
    ++ ", Src: " ++ h.linkAddr.colonHex
    ++ ", Protocol: 0x" ++ Text.hexPadded 4 h.protocol.toNat

end CookedCapture

end PacketWatch
