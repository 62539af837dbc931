/-
Reading TOML numbers.

A single underscore may stand between two digits.  A decimal integer has no
leading zero; integers of other bases have no sign.  Integers have 64 bits with
a sign.  A float has a fraction, an exponent or both; its value is not kept,
but a positive one must not be too large for a double.
-/
import PacketWatch.Datum
import PacketWatch.Toml.Character
import PacketWatch.Text.Number

namespace PacketWatch.Toml

/-- Digits from the front, with single underscores between them; at least one. -/
def digits? (isDigit : Char → Bool) : List Char → Option (List Char × List Char)
  | c :: '_' :: rest =>
    if isDigit c then (digits? isDigit rest).map fun (more, behind) => (c :: more, behind) else none
  | [c] => if isDigit c then some ([c], []) else none
  | c :: d :: rest =>
    if !isDigit c then none
    else if isDigit d then
      (digits? isDigit (d :: rest)).map fun (more, behind) => (c :: more, behind)
    else some ([c], d :: rest)
  | [] => none

/-- A sign, if there is one; says whether it is a minus. -/
def sign : List Char → Bool × List Char
  | '-' :: rest => (true, rest)
  | '+' :: rest => (false, rest)
  | s => (false, s)

/-- Decimal digits without a leading zero. -/
def wholeDigits? : List Char → Option (List Char × List Char)
  | '0' :: rest => some (['0'], rest)
  | s => digits? Char.isDigit s

/-- An integer in range. -/
def inRange? (n : Int) : Option Datum :=
  if -9223372036854775808 ≤ n ∧ n < 9223372036854775808 then some (.integer n) else none

/-! ## Integers -/

def decimal? (s : List Char) : Option (Datum × List Char) := do
  let (negative, s) := sign s
  let (digits, rest) ← wholeDigits? s
  let n : Int := Text.ofDecimal digits
  return (← inRange? (if negative then -n else n), rest)

def isHexDigit (c : Char) : Bool := (Text.hexValue? c).isSome

def isOctalDigit (c : Char) : Bool := '0' ≤ c && c ≤ '7'

def isBinaryDigit (c : Char) : Bool := c == '0' || c == '1'

/-- An integer of another base behind its mark. -/
def based? (base : Nat) (isDigit : Char → Bool) (s : List Char) : Option (Datum × List Char) := do
  let (digits, rest) ← digits? isDigit s
  let n ← Text.ofDigits? base digits
  return (← inRange? n, rest)

def integer? : List Char → Option (Datum × List Char)
  | '0' :: 'x' :: rest => based? 16 isHexDigit rest
  | '0' :: 'o' :: rest => based? 8 isOctalDigit rest
  | '0' :: 'b' :: rest => based? 2 isBinaryDigit rest
  | s => decimal? s

/-! ## Floats -/

/-- A fraction: its digits, none if there is no point. -/
def fraction? : List Char → Option (List Char × List Char)
  | '.' :: rest => digits? Char.isDigit rest
  | s => some ([], s)

/-- An exponent behind its letter. -/
def exponentDigits? (s : List Char) : Option (Int × List Char) := do
  let (negative, s) := sign s
  let (digits, rest) ← digits? Char.isDigit s
  let n : Int := Text.ofDecimal digits
  return (if negative then -n else n, rest)

/-- An exponent, if there is one. -/
def exponent? : List Char → Option (Option Int × List Char)
  | 'e' :: rest => (exponentDigits? rest).map fun (n, behind) => (some n, behind)
  | 'E' :: rest => (exponentDigits? rest).map fun (n, behind) => (some n, behind)
  | s => some (none, s)

/-- Whether a decimal rounds to a number past the largest double: from half a
unit above that double on.  Exponents far from the bound decide by themselves. -/
def isTooLarge (mantissa : Nat) (exponent : Int) : Bool :=
  let magnitude : Int := (Nat.toDigits 10 mantissa).length + exponent
  if mantissa = 0 ∨ magnitude ≤ 308 then false
  else if 311 ≤ magnitude then true
  else
    let bound := Nat.pow 2 1024 - Nat.pow 2 970
    if 0 ≤ exponent then bound ≤ mantissa * Nat.pow 10 exponent.toNat
    else bound * Nat.pow 10 (-exponent).toNat ≤ mantissa

/-- A float with digits. -/
def numericFloat? (s : List Char) : Option (Datum × List Char) := do
  let (negative, s) := sign s
  let (whole, s) ← wholeDigits? s
  let (fraction, s) ← fraction? s
  let (exponent, s) ← exponent? s
  if fraction.isEmpty && exponent.isNone then none
  let mantissa := Text.ofDecimal (whole ++ fraction)
  if !negative && isTooLarge mantissa (exponent.getD 0 - fraction.length) then none
  return (.other, s)

/-- Infinity, or what is not a number. -/
def namedFloat? (s : List Char) : Option (Datum × List Char) :=
  let rest := (sign s).2
  match exactly? ['i', 'n', 'f'] rest, exactly? ['n', 'a', 'n'] rest with
  | some behind, _ => some (.other, behind)
  | none, some behind => some (.other, behind)
  | none, none => none

end PacketWatch.Toml
