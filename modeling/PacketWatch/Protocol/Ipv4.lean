/-
The IPv4 header and the datagram it delimits.

The declared total length says where the datagram ends.  Bytes after that end
are a trailer: link padding or a frame check sequence.  A total length of zero
is what segmentation offload leaves behind, and means all captured bytes; a
total length inside the header means an empty payload.
-/
import PacketWatch.Address
import PacketWatch.Protocol.Checksum

namespace PacketWatch

/-- The reported fields of an IPv4 header. -/
structure Ipv4 where
  src : Ip4
  dst : Ip4
  protocol : UInt8
  ttl : UInt8
  totalLength : UInt16
deriving DecidableEq

namespace Ipv4

/-- The header length that the first byte declares. -/
def headerLength (d : Bytes) : Nat := 4 * ((d.byteAt 0).toNat % 16)

/-- Whether a whole header is present: version 4, at least five words long. -/
def hasHeader (d : Bytes) : Bool :=
  20 ≤ d.length && (d.byteAt 0).toNat / 16 == 4 && 20 ≤ headerLength d
    && headerLength d ≤ d.length

/-- The header at the start of the given bytes. -/
def read? (d : Bytes) : Option Ipv4 :=
  if hasHeader d then some
    { src := d.octetsAt 4 12
      dst := d.octetsAt 4 16
      protocol := d.byteAt 9
      ttl := d.byteAt 8
      totalLength := d.word16At 2 }
  else none

/-- Where the datagram ends among the captured bytes. -/
def datagramEnd (d : Bytes) : Nat :=
  let declared := (d.word16At 2).toNat
  if declared = 0 then d.length else min (max declared (headerLength d)) d.length

/-- The captured bytes of the datagram behind the header. -/
def payload (d : Bytes) : Bytes := d.span (headerLength d) (datagramEnd d)

/-- How many captured bytes follow the datagram. -/
def trailer (d : Bytes) : Nat := d.length - datagramEnd d

/-- The offset of a fragment, in units of eight bytes. -/
def fragmentOffset (d : Bytes) : Nat := (d.word16At 6).toNat % 8192

/-- A header without options and with the given checksum. -/
def headerWith (checksum : UInt16) (src dst : Ip4) (protocol : UInt8) (total : UInt16) : Bytes :=
  [0x45, 0x00] ++ bytes16 total ++ [0x00, 0x00, 0x40, 0x00, 64, protocol] ++ bytes16 checksum
    ++ src.toList ++ dst.toList

theorem length_headerWith (checksum : UInt16) (src dst : Ip4) (protocol : UInt8)
    (total : UInt16) : (headerWith checksum src dst protocol total).length = 20 := by
  simp [headerWith, src.length_toList, dst.length_toList]

theorem short_headerWith (checksum : UInt16) (src dst : Ip4) (protocol : UInt8)
    (total : UInt16) : (headerWith checksum src dst protocol total).length ≤ 131074 := by
  rw [length_headerWith]
  decide

/-- A header without options, its checksum computed over the rest of it.  The words of a header
always fit into their sum. -/
def header (src dst : Ip4) (protocol : UInt8) (total : UInt16) : Bytes :=
  headerWith (Checksum.ofShort _ (short_headerWith 0 src dst protocol total))
    src dst protocol total

/-- A header and what it carries; a length past 16 bits is declared as the largest. -/
def packet (src dst : Ip4) (protocol : UInt8) (payload : Bytes) : Bytes :=
  header src dst protocol (UInt16.ofNat (min (20 + payload.length) 65535)) ++ payload

def summary (h : Ipv4) : String :=
  "IPv4 Layer, Src: " ++ ip4Text h.src ++ ", Dst: " ++ ip4Text h.dst
    ++ ", Protocol: " ++ toString h.protocol.toNat ++ ", TTL: " ++ toString h.ttl.toNat
    ++ ", Length: " ++ toString h.totalLength.toNat

end Ipv4

end PacketWatch
