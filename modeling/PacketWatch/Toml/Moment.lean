/-
Reading TOML dates and times: a date, a time of day, or both with an optional
offset from universal time.  Values are not kept, but each part must be in
range, and a day must exist in its month and year.

As structured data a moment is a record under a name that nobody asks for, so
it passes where a record may leave out all of its fields.
-/
import PacketWatch.Datum
import PacketWatch.Toml.Character
import PacketWatch.Text.Number

namespace PacketWatch.Toml

/-- A fixed number of digits. -/
def number? (count : Nat) (s : List Char) : Option (Nat × List Char) :=
  let digits := s.take count
  if digits.length = count ∧ digits.all Char.isDigit then
    some (Text.ofDecimal digits, s.drop count)
  else none

/-- Two digits in a range. -/
def part? (least most : Nat) (s : List Char) : Option (Nat × List Char) := do
  let (n, rest) ← number? 2 s
  if least ≤ n ∧ n ≤ most then some (n, rest) else none

def isLeapYear (year : Nat) : Bool := year % 4 == 0 && (year % 100 != 0 || year % 400 == 0)

def daysIn (year month : Nat) : Nat :=
  if month = 2 then (if isLeapYear year then 29 else 28)
  else if month ∈ [4, 6, 9, 11] then 30
  else 31

/-- What follows a date. -/
def date? (s : List Char) : Option (List Char) := do
  let (year, s) ← number? 4 s
  let s ← exactly? ['-'] s
  let (month, s) ← part? 1 12 s
  let s ← exactly? ['-'] s
  let (_, s) ← part? 1 (daysIn year month) s
  return s

/-- What follows a fraction of a second, if there is one. -/
def skipFraction : List Char → List Char
  | '.' :: d :: rest => if d.isDigit then rest.dropWhile Char.isDigit else '.' :: d :: rest
  | s => s

/-- What follows a time of day; a minute may have a leap second. -/
def time? (s : List Char) : Option (List Char) := do
  let (_, s) ← part? 0 23 s
  let s ← exactly? [':'] s
  let (_, s) ← part? 0 59 s
  let s ← exactly? [':'] s
  let (_, s) ← part? 0 60 s
  return skipFraction s

/-- What follows an offset, if there is one. -/
def offset? : List Char → Option (List Char)
  | 'Z' :: rest => some rest
  | 'z' :: rest => some rest
  | c :: rest =>
    if c == '+' || c == '-' then do
      let (_, s) ← part? 0 23 rest
      let s ← exactly? [':'] s
      let (_, s) ← part? 0 59 s
      return s
    else some (c :: rest)
  | [] => some []

/-- What follows the time behind a date; a date may stand without one. -/
def timeAfterDate? : List Char → Option (List Char)
  | c :: rest =>
    if c == 'T' || c == 't' || c == ' ' then
      match time? rest with
      | some s => offset? s
      | none => some (c :: rest)
    else some (c :: rest)
  | [] => some []

/-- A moment as structured data. -/
def momentDatum : Datum := .record [(some "moment", .other)]

/-- A date, a time of day, or both. -/
def moment? (s : List Char) : Option (Datum × List Char) :=
  match date? s with
  | some rest => (timeAfterDate? rest).map fun behind => (momentDatum, behind)
  | none => (time? s).map fun behind => (momentDatum, behind)

end PacketWatch.Toml
