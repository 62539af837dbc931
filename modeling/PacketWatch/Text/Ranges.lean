/-
Sets of characters as ranges of code points.
-/

namespace PacketWatch.Text

/-- Ranges of code points, each with its first and its last one. -/
abbrev Ranges := List (Nat × Nat)

/-- Whether a character lies in one of the ranges. -/
def Ranges.contain (ranges : Ranges) (c : Char) : Bool :=
  ranges.any fun r => r.1 ≤ c.toNat && c.toNat ≤ r.2

/-- Whether each range ends before the next one begins, and none is empty. -/
def Ranges.isAscending (ranges : Ranges) : Bool :=
  (ranges.all fun r => r.1 ≤ r.2) && (ranges.zip ranges.tail).all fun p => p.1.2 < p.2.1

end PacketWatch.Text
