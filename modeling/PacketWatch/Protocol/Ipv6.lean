/-
The IPv6 header, the datagram it delimits, and the extension headers between
it and the upper protocol.

Hop-by-hop options, routing and destination options share one layout: the
number of the next header, then a length in units of eight bytes that leaves
the first unit out.  A fragment header has eight bytes and is passed only by
the first fragment; what a later fragment carries has no header to read.
-/
import PacketWatch.Address

namespace PacketWatch

/-- The reported fields of an IPv6 header. -/
structure Ipv6 where
  src : Ip6
  dst : Ip6
  nextHeader : UInt8
  hopLimit : UInt8
  payloadLength : UInt16
deriving DecidableEq

namespace Ipv6

/-- Length of the fixed header. -/
def headerLength : Nat := 40

/-- Whether a whole header is present: version 6. -/
def hasHeader (d : Bytes) : Bool :=
  headerLength ≤ d.length && (d.byteAt 0).toNat / 16 == 6

/-- The header at the start of the given bytes. -/
def read? (d : Bytes) : Option Ipv6 :=
  if hasHeader d then some
    { src := d.octetsAt 16 8
      dst := d.octetsAt 16 24
      nextHeader := d.byteAt 6
      hopLimit := d.byteAt 7
      payloadLength := d.word16At 4 }
  else none

/-- Where the datagram ends among the captured bytes.  A jumbo datagram declares
zero and has all of them. -/
def datagramEnd (d : Bytes) : Nat :=
  let declared := (d.word16At 4).toNat
  if declared = 0 then d.length else min (headerLength + declared) d.length

/-- The captured bytes of the datagram behind the fixed header. -/
def payload (d : Bytes) : Bytes := d.span headerLength (datagramEnd d)

/-- How many captured bytes follow the datagram. -/
def trailer (d : Bytes) : Nat := d.length - datagramEnd d

/-- A header and what it carries; a length past 16 bits is declared as the largest. -/
def packet (src dst : Ip6) (nextHeader : UInt8) (payload : Bytes) : Bytes :=
  [0x60, 0x00, 0x00, 0x00] ++ bytes16 (UInt16.ofNat (min payload.length 65535))
    ++ [nextHeader, 64] ++ src.toList ++ dst.toList ++ payload

def summary (h : Ipv6) : String :=
  "IPv6 Layer, Src: " ++ ip6Text h.src ++ ", Dst: " ++ ip6Text h.dst
    ++ ", Next header: " ++ toString h.nextHeader.toNat
    ++ ", Hop limit: " ++ toString h.hopLimit.toNat
    ++ ", Payload length: " ++ toString h.payloadLength.toNat

/-! ## Extension headers -/

namespace Extension

def hopByHop : UInt8 := 0
def routing : UInt8 := 43
def fragment : UInt8 := 44
def destination : UInt8 := 60

/-- Whether a number names an extension header that is passed over. -/
def isExtension (kind : UInt8) : Bool :=
  kind == hopByHop || kind == routing || kind == fragment || kind == destination

/-- The length of the header at the front, once it is known to be whole and to
lead on to an upper protocol. -/
def length? (kind : UInt8) (d : Bytes) : Option Nat :=
  if kind = fragment then
    if d.length < 8 ∨ 8 ≤ (d.word16At 2).toNat then none else some 8
  else if d.length < 8 * ((d.byteAt 1).toNat + 1) ∨ d.length < 2 then none
  else some (8 * ((d.byteAt 1).toNat + 1))

theorem length?_bounds {kind : UInt8} {d : Bytes} {n : Nat} (h : length? kind d = some n) :
    8 ≤ n ∧ n ≤ d.length := by
  unfold length? at h
  split at h
  · split at h
    · simp at h
    · simp only [Option.some.injEq] at h
      omega
  · split at h
    · simp at h
    · simp only [Option.some.injEq] at h
      omega

/-- Where a walk over extension headers ends. -/
structure Walk where
  /-- The upper protocol, unless a header was cut short or belongs to a later
  fragment. -/
  upper? : Option UInt8
  /-- What is left from there on. -/
  rest : Bytes
deriving DecidableEq

/-- Passes over the extension headers in front of an upper protocol. -/
def skip (kind : UInt8) (d : Bytes) : Walk :=
  if isExtension kind then
    match _h : length? kind d with
    | none => ⟨none, d⟩
    | some n => skip (d.byteAt 0) (d.drop n)
  else ⟨some kind, d⟩
termination_by d.length
decreasing_by
  have := length?_bounds _h
  simp only [List.length_drop]
  omega

theorem skip_cut {kind : UInt8} {d : Bytes} (extension : isExtension kind = true)
    (cut : length? kind d = none) : skip kind d = ⟨none, d⟩ := by
  rw [skip, if_pos extension]
  split
  · rfl
  · rename_i n passed
    cases passed.symm.trans cut

theorem skip_passed {kind : UInt8} {d : Bytes} {n : Nat} (extension : isExtension kind = true)
    (length : length? kind d = some n) : skip kind d = skip (d.byteAt 0) (d.drop n) := by
  rw [skip, if_pos extension]
  split
  · rename_i cut
    cases cut.symm.trans length
  · rename_i m passed
    cases passed.symm.trans length
    rfl

end Extension

end Ipv6

end PacketWatch
