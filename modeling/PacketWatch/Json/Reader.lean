/-
Reading JSON text.

Numbers are kept as integers where they are written as such, other than minus
zero; a fraction or an exponent makes a number that is no integer.  A text may
name half of a surrogate pair by an escape; such a text is well formed and is
no sequence of characters.  A control character may only be written as an
escape.

Every reader takes characters from the front and returns the rest.  The reader
of values is bounded by a number of steps that the length of the text supplies.
-/
import PacketWatch.Datum
import PacketWatch.Text.Number

namespace PacketWatch.Json

/-- Whether a character may stand between tokens. -/
def isBlank (c : Char) : Bool := c == ' ' || c == '\n' || c == '\t' || c == '\r'

def skipBlanks (s : List Char) : List Char := s.dropWhile isBlank

/-! ## Texts -/

/-- A part of a text: a character, or a 16-bit unit named by an escape. -/
inductive Piece where
  | char (c : Char)
  | unit (u : Nat)
deriving DecidableEq

/-- The character of a one-letter escape. -/
def escape? : Char → Option Char
  | '"' => some '"'
  | '\\' => some '\\'
  | '/' => some '/'
  | 'b' => some '\x08'
  | 'f' => some '\x0c'
  | 'n' => some '\n'
  | 'r' => some '\r'
  | 't' => some '\t'
  | _ => none

/-- The pieces of a text behind its opening quote, and what follows the closing one. -/
def pieces? : List Char → Option (List Piece × List Char)
  | [] => none
  | '"' :: rest => some ([], rest)
  | '\\' :: 'u' :: a :: b :: c :: d :: rest => do
    let u ← Text.ofDigits? 16 [a, b, c, d]
    let (more, behind) ← pieces? rest
    return (.unit u :: more, behind)
  | '\\' :: e :: rest => do
    let c ← escape? e
    let (more, behind) ← pieces? rest
    return (.char c :: more, behind)
  | c :: rest => do
    if c < ' ' ∨ c = '\\' then none
    let (more, behind) ← pieces? rest
    return (.char c :: more, behind)

def isHighHalf (u : Nat) : Bool := 0xD800 ≤ u && u < 0xDC00

def isLowHalf (u : Nat) : Bool := 0xDC00 ≤ u && u < 0xE000

/-- The characters of a text, if it names no half of a pair alone. -/
def characters? : List Piece → Option (List Char)
  | [] => some []
  | .char c :: more => (characters? more).map (c :: ·)
  | .unit high :: .unit low :: more =>
    if isHighHalf high && isLowHalf low then
      (characters? more).map
        (Char.ofNat (0x10000 + (high - 0xD800) * 0x400 + (low - 0xDC00)) :: ·)
    else if isHighHalf high || isLowHalf high then none
    else (characters? (.unit low :: more)).map (Char.ofNat high :: ·)
  | .unit u :: more =>
    if isHighHalf u || isLowHalf u then none else (characters? more).map (Char.ofNat u :: ·)

/-- A text behind its opening quote; none inside if it is no sequence of characters. -/
def text? (s : List Char) : Option (Option String × List Char) := do
  let (pieces, rest) ← pieces? s
  return ((characters? pieces).map String.ofList, rest)

/-! ## Numbers -/

/-- At least one digit. -/
def digits? (s : List Char) : Option (List Char × List Char) :=
  let digits := s.takeWhile Char.isDigit
  if digits.isEmpty then none else some (digits, s.dropWhile Char.isDigit)

/-- The digits in front of a fraction; a leading zero stands alone. -/
def whole? : List Char → Option (Nat × List Char)
  | '0' :: rest => some (0, rest)
  | s => (digits? s).map fun (digits, rest) => (Text.ofDecimal digits, rest)

/-- Skips a fraction; says whether there was one. -/
def fraction? : List Char → Option (Bool × List Char)
  | '.' :: rest => (digits? rest).map fun (_, behind) => (true, behind)
  | s => some (false, s)

/-- Skips the sign of an exponent. -/
def skipSign : List Char → List Char
  | '+' :: rest => rest
  | '-' :: rest => rest
  | s => s

/-- Skips an exponent; says whether there was one. -/
def exponent? : List Char → Option (Bool × List Char)
  | 'e' :: rest => (digits? (skipSign rest)).map fun (_, behind) => (true, behind)
  | 'E' :: rest => (digits? (skipSign rest)).map fun (_, behind) => (true, behind)
  | s => some (false, s)

/-- A number without its sign. -/
def unsigned? (negative : Bool) (s : List Char) : Option (Datum × List Char) := do
  let (n, s) ← whole? s
  let (hasFraction, s) ← fraction? s
  let (hasExponent, s) ← exponent? s
  if hasFraction || hasExponent || (negative && n == 0) then return (.other, s)
  else return (.integer (if negative then -n else n), s)

/-! ## Values -/

/-- Takes a fixed word. -/
def word? (word : List Char) (s : List Char) : Option (List Char) :=
  if word.isPrefixOf s then some (s.drop word.length) else none

/-- A value without inner values. -/
def scalar? : List Char → Option (Datum × List Char)
  | '"' :: rest => do
    let (s, rest) ← text? rest
    return (match s with | some s => .text s | none => .other, rest)
  | '-' :: rest => unsigned? true rest
  | s =>
    match word? ['n', 'u', 'l', 'l'] s, word? ['t', 'r', 'u', 'e'] s,
        word? ['f', 'a', 'l', 's', 'e'] s with
    | some rest, _, _ => some (.null, rest)
    | _, some rest, _ => some (.bool true, rest)
    | _, _, some rest => some (.bool false, rest)
    | none, none, none => unsigned? false s

mutual

/-- A value, and what follows it. -/
def value? : Nat → List Char → Option (Datum × List Char)
  | 0, _ => none
  | fuel + 1, s =>
    match skipBlanks s with
    | '[' :: rest =>
      match skipBlanks rest with
      | ']' :: behind => some (.list [], behind)
      | _ => do
        let (items, behind) ← items? fuel rest
        return (.list items, behind)
    | '{' :: rest =>
      match skipBlanks rest with
      | '}' :: behind => some (.record [], behind)
      | _ => do
        let (members, behind) ← members? fuel rest
        return (.record members, behind)
    | rest => scalar? rest

/-- The items of a list from the next one on. -/
def items? : Nat → List Char → Option (List Datum × List Char)
  | 0, _ => none
  | fuel + 1, s => do
    let (item, rest) ← value? fuel s
    match skipBlanks rest with
    | ',' :: rest => do
      let (more, behind) ← items? fuel rest
      return (item :: more, behind)
    | ']' :: behind => return ([item], behind)
    | _ => none

/-- The members of a record from the next one on. -/
def members? : Nat → List Char → Option (List (Option String × Datum) × List Char)
  | 0, _ => none
  | fuel + 1, s =>
    match skipBlanks s with
    | '"' :: rest => do
      let (name, rest) ← text? rest
      let rest ← word? [':'] (skipBlanks rest)
      let (value, rest) ← value? fuel rest
      match skipBlanks rest with
      | ',' :: rest => do
        let (more, behind) ← members? fuel rest
        return ((name, value) :: more, behind)
      | '}' :: behind => return ([(name, value)], behind)
      | _ => none
    | _ => none

end

/-- The value that a whole text is. -/
def read? (s : String) : Option Datum := do
  let (value, rest) ← value? (2 * s.length + 2) s.toList
  if (skipBlanks rest).isEmpty then some value else none

end PacketWatch.Json
