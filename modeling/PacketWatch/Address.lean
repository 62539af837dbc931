/-
The text of network and hardware addresses.

IPv4 is dotted decimal.  IPv6 is eight groups of lower-case hexadecimal, where
the longest run of two or more zero groups, the first of several longest ones,
is written as two colons; an IPv4 address mapped into IPv6 keeps its dotted
form.
-/
import PacketWatch.Bytes
import PacketWatch.Text.Number

namespace PacketWatch

/-- Two lower-case digits an octet, colons between them. -/
def macText (a : Mac) : String := a.toList.colonHex

/-- Dotted decimal. -/
def ip4Text (a : Ip4) : String :=
  String.intercalate "." (a.toList.map fun b => toString b.toNat)

namespace Ip6Text

/-- The eight groups of an address. -/
def groups (a : Ip6) : List UInt16 :=
  (List.range 8).map fun i => a.toList.word16At (2 * i)

/-- One group, without leading zeros. -/
def groupText (g : UInt16) : String := Text.hexPadded 1 g.toNat

/-- Groups with single colons between them. -/
def plain (gs : List UInt16) : String := String.intercalate ":" (gs.map groupText)

/-- How many zero groups stand at the start. -/
def zeroRun (gs : List UInt16) : Nat := (gs.takeWhile (· = 0)).length

/-- Start and length of the longest run of zero groups, the first of equals. -/
def longestZeroRun (gs : List UInt16) : Nat × Nat :=
  (List.range gs.length).foldl
    (fun best i => if best.2 < zeroRun (gs.drop i) then (i, zeroRun (gs.drop i)) else best)
    (0, 0)

/-- Groups with the longest run of at least two zeros written as two colons. -/
def compressed (gs : List UInt16) : String :=
  let (start, length) := longestZeroRun gs
  if length < 2 then plain gs
  else plain (gs.take start) ++ "::" ++ plain (gs.drop (start + length))

/-- Whether the address is an IPv4 address mapped into IPv6. -/
def isMapped (gs : List UInt16) : Bool := gs.take 6 == [0, 0, 0, 0, 0, 0xFFFF]

end Ip6Text

/-- The canonical text of an IPv6 address. -/
def ip6Text (a : Ip6) : String :=
  let gs := Ip6Text.groups a
  if Ip6Text.isMapped gs then "::ffff:" ++ ip4Text (a.toList.octetsAt 4 12)
  else Ip6Text.compressed gs

end PacketWatch
