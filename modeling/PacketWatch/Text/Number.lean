/-
Numbers as text: lower-case hexadecimal of a fixed width, decimals filled up
with zeros, columns filled up with blanks, and digits read back.

A width is a minimum.  A number that needs more digits, or a text that is
longer than its column, is written in full.
-/

namespace PacketWatch.Text

/-! ## Writing -/

/-- Lower-case hexadecimal, filled up with zeros to a width. -/
def hexPadded (width n : Nat) : String :=
  let digits := Nat.toDigits 16 n
  String.ofList (List.replicate (width - digits.length) '0' ++ digits)

/-- Decimal, filled up with zeros to a width. -/
def decimalPadded (width n : Nat) : String :=
  let digits := Nat.toDigits 10 n
  String.ofList (List.replicate (width - digits.length) '0' ++ digits)

/-- A text at the left of a column. -/
def atLeft (width : Nat) (s : String) : String :=
  s ++ String.ofList (List.replicate (width - s.length) ' ')

/-- A text at the right of a column. -/
def atRight (width : Nat) (s : String) : String :=
  String.ofList (List.replicate (width - s.length) ' ') ++ s

/-! ## Reading -/

/-- The value of a hexadecimal digit of either case. -/
def hexValue? (c : Char) : Option Nat :=
  if '0' ≤ c ∧ c ≤ '9' then some (c.toNat - 48)
  else if 'a' ≤ c ∧ c ≤ 'f' then some (c.toNat - 87)
  else if 'A' ≤ c ∧ c ≤ 'F' then some (c.toNat - 55)
  else none

/-- The number that digits of a base stand for, first digit highest. -/
def ofDigits? (base : Nat) (digits : List Char) : Option Nat := do
  let values ← digits.mapM hexValue?
  if values.all (· < base) then some (values.foldl (fun n v => base * n + v) 0) else none

/-- The number that decimal digits stand for. -/
def ofDecimal (digits : List Char) : Nat :=
  digits.foldl (fun n c => 10 * n + (c.toNat - 48)) 0

end PacketWatch.Text
