/-
The UDP header: ports and a length that counts header and payload.

The payload ends where the length says, inside the captured bytes and never
before the end of the header.
-/
import PacketWatch.Bytes

namespace PacketWatch

/-- A UDP header. -/
structure Udp where
  srcPort : UInt16
  dstPort : UInt16
  length : UInt16
deriving DecidableEq

namespace Udp

/-- Length of the header. -/
def headerLength : Nat := 8

/-- The header at the start of a datagram. -/
def read? (d : Bytes) : Option Udp :=
  if d.length < headerLength then none
  else some { srcPort := d.word16At 0, dstPort := d.word16At 2, length := d.word16At 4 }

/-- Where the declared payload ends among the captured bytes. -/
def payloadEnd (d : Bytes) : Nat := min (max (d.word16At 4).toNat headerLength) d.length

/-- The declared payload, as far as it was captured. -/
def payload (d : Bytes) : Bytes := d.span headerLength (payloadEnd d)

/-- A header without a checksum and what it carries; a length past 16 bits is
declared as the largest. -/
def datagram (srcPort dstPort : UInt16) (payload : Bytes) : Bytes :=
  bytes16 srcPort ++ bytes16 dstPort
    ++ bytes16 (UInt16.ofNat (min (headerLength + payload.length) 65535)) ++ [0, 0] ++ payload

def summary (h : Udp) : String :=
  "UDP Layer, Src port: " ++ toString h.srcPort.toNat ++ ", Dst port: "
    ++ toString h.dstPort.toNat ++ ", Length: " ++ toString h.length.toNat

end Udp

end PacketWatch
