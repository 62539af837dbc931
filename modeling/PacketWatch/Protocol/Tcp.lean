/-
The TCP header: ports, sequence and acknowledgement numbers, control flags and
window.  The data offset counts the header in words of four bytes.
-/
import PacketWatch.Bytes

namespace PacketWatch

/-- The control flags of a segment. -/
structure TcpFlags where
  syn : Bool
  ack : Bool
  fin : Bool
  rst : Bool
  psh : Bool
  urg : Bool
deriving DecidableEq

namespace TcpFlags

/-- The flags of their byte in the header. -/
def ofByte (b : UInt8) : TcpFlags where
  fin := b.toNat.testBit 0
  syn := b.toNat.testBit 1
  rst := b.toNat.testBit 2
  psh := b.toNat.testBit 3
  ack := b.toNat.testBit 4
  urg := b.toNat.testBit 5

/-- The names of the flags that are set, in a fixed order. -/
def names (f : TcpFlags) : List String :=
  [(f.syn, "SYN"), (f.fin, "FIN"), (f.rst, "RST"), (f.psh, "PSH"), (f.ack, "ACK"), (f.urg, "URG")]
    |>.filter (·.1) |>.map (·.2)

def text (f : TcpFlags) : String := "[" ++ String.intercalate ", " f.names ++ "]"

end TcpFlags

/-- A TCP header. -/
structure Tcp where
  srcPort : UInt16
  dstPort : UInt16
  seq : UInt32
  ack : UInt32
  flags : TcpFlags
  window : UInt16
deriving DecidableEq

namespace Tcp

/-- The header length that the data offset declares. -/
def headerLength (d : Bytes) : Nat := 4 * ((d.byteAt 12).toNat / 16)

/-- Whether a whole header is present, at least five words long. -/
def hasHeader (d : Bytes) : Bool :=
  20 ≤ d.length && 20 ≤ headerLength d && headerLength d ≤ d.length

/-- The header at the start of a segment. -/
def read? (d : Bytes) : Option Tcp :=
  if hasHeader d then some
    { srcPort := d.word16At 0
      dstPort := d.word16At 2
      seq := d.word32At 4
      ack := d.word32At 8
      flags := TcpFlags.ofByte (d.byteAt 13)
      window := d.word16At 14 }
  else none

/-- The acknowledgement number of a built segment: one if the flag asks for it. -/
def ackNumber (flags : UInt8) : UInt32 := if flags.toNat.testBit 4 then 1 else 0

/-- A header without options, its checksum left out, and what it carries. -/
def segment (srcPort dstPort : UInt16) (seq : UInt32) (flags : UInt8) (payload : Bytes) : Bytes :=
  bytes16 srcPort ++ bytes16 dstPort ++ bytes32 seq ++ bytes32 (ackNumber flags)
    ++ [0x50, flags] ++ bytes16 65535 ++ [0, 0, 0, 0] ++ payload

def summary (h : Tcp) : String :=
  "TCP Layer, " ++ h.flags.text ++ ", Src port: " ++ toString h.srcPort.toNat
    ++ ", Dst port: " ++ toString h.dstPort.toNat ++ ", Seq: " ++ toString h.seq.toNat
    ++ ", Ack: " ++ toString h.ack.toNat ++ ", Win: " ++ toString h.window.toNat

end Tcp

end PacketWatch
