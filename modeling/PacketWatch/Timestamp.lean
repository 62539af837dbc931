/-
Points in time and their text in universal time.

A point is a number of seconds after the first instant of 1970, which may be
negative, and nanoseconds within that second.  The last second of a minute may be
followed by a leap second, which is counted as its second thousand million
nanoseconds and written as second 60.  Dates follow the Gregorian calendar in both
directions.
-/
import PacketWatch.Text.Number

namespace PacketWatch

/-- A point in time. -/
structure Timestamp where
  /-- Whole seconds after the first instant of 1970, rounded down. -/
  seconds : Int
  /-- Nanoseconds within the second, and those of a leap second behind it. -/
  nanos : Nat
  nanos_lt : nanos < 1000000000 ∨ (seconds % 60 = 59 ∧ nanos < 2000000000)
deriving DecidableEq

namespace Timestamp

/-- The point that lies the given seconds and nanoseconds after the first
instant of 1970.  Nanoseconds beyond a second belong to a leap second if there may be
one, and carry over otherwise. -/
def ofParts (seconds : Int) (nanos : Nat) : Timestamp :=
  if h : seconds % 60 = 59 ∧ nanos < 2000000000 then ⟨seconds, nanos, .inr h⟩
  else
    ⟨seconds + (nanos / 1000000000 : Nat), nanos % 1000000000,
      .inl (Nat.mod_lt _ (by decide))⟩

/-- Whether a point lies in a leap second. -/
def isLeap (t : Timestamp) : Bool := 1000000000 ≤ t.nanos

/-- The first instant of 1970. -/
def epoch : Timestamp := ofParts 0 0

instance : Inhabited Timestamp := ⟨epoch⟩

/-- A calendar date. -/
structure Date where
  year : Int
  month : Nat
  day : Nat
deriving DecidableEq

/-- The date of a day counted from the first of January 1970.  Years are taken
to begin in March, so that a leap day is the last day of its year; 400 years
have 146097 days. -/
def dateOfDay (days : Int) : Date :=
  let shifted := days + 719468
  let era := shifted / 146097
  let dayOfEra := (shifted % 146097).toNat
  let yearOfEra := (dayOfEra - dayOfEra / 1460 + dayOfEra / 36524 - dayOfEra / 146096) / 365
  let dayOfYear := dayOfEra - (365 * yearOfEra + yearOfEra / 4 - yearOfEra / 100)
  let fromMarch := (5 * dayOfYear + 2) / 153
  let month := if fromMarch < 10 then fromMarch + 3 else fromMarch - 9
  { year := era * 400 + yearOfEra + (if month ≤ 2 then 1 else 0)
    month := month
    day := dayOfYear - (153 * fromMarch + 2) / 5 + 1 }

/-- A year has four digits; one outside of 0 to 9999 carries a sign. -/
def yearText (year : Int) : String :=
  if year < 0 then "-" ++ Text.decimalPadded 4 year.natAbs
  else if year ≤ 9999 then Text.decimalPadded 4 year.natAbs
  else "+" ++ Text.decimalPadded 4 year.natAbs

def dateText (d : Date) : String :=
  yearText d.year ++ "-" ++ Text.decimalPadded 2 d.month ++ "-" ++ Text.decimalPadded 2 d.day

/-- The second of the day; a leap second counts as the one before it. -/
def secondOfDay (t : Timestamp) : Nat := (t.seconds % 86400).toNat

/-- The second of the minute. -/
def secondOfMinute (t : Timestamp) : Nat := t.secondOfDay % 60 + if t.isLeap then 1 else 0

/-- Hours, minutes and seconds. -/
def clockText (t : Timestamp) : String :=
  Text.decimalPadded 2 (t.secondOfDay / 3600) ++ ":"
    ++ Text.decimalPadded 2 (t.secondOfDay / 60 % 60) ++ ":"
    ++ Text.decimalPadded 2 t.secondOfMinute

/-- Nanoseconds within the second that is written. -/
def fraction (t : Timestamp) : Nat := t.nanos % 1000000000

/-- A fraction of a second in three, six or nine digits, as few as say it
exactly, and nothing for a whole second. -/
def fractionText (nanos : Nat) : String :=
  if nanos = 0 then ""
  else if nanos % 1000000 = 0 then "." ++ Text.decimalPadded 3 (nanos / 1000000)
  else if nanos % 1000 = 0 then "." ++ Text.decimalPadded 6 (nanos / 1000)
  else "." ++ Text.decimalPadded 9 nanos

/-- Date, time of day and zone. -/
def text (t : Timestamp) : String :=
  dateText (dateOfDay (t.seconds / 86400)) ++ " " ++ t.clockText
    ++ fractionText t.fraction ++ " UTC"

/-- Time of day in microseconds, cut and not rounded. -/
def timeOfDayText (t : Timestamp) : String :=
  t.clockText ++ "." ++ Text.decimalPadded 6 (t.fraction / 1000)

end Timestamp

end PacketWatch
