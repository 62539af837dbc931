/-
Reading TOML text.

A document is a sequence of lines; `Toml.Table` puts them together.  Lists and
tables in braces may stand inside each other 79 deep, and a key may have 79
parts.  A table in braces is written on one line and has no comma at its end;
a list may be spread over lines and may.

Every reader takes characters from the front and returns the rest.  Where a
reader goes on with itself it is bounded by a number of steps that the length
of the text supplies.
-/
import PacketWatch.Toml.Moment
import PacketWatch.Toml.Number
import PacketWatch.Toml.Quoted
import PacketWatch.Toml.Table

namespace PacketWatch.Toml

/-- How deep values may stand inside each other, and how many parts a key may have. -/
def maxDepth : Nat := 79

/-! ## Keys -/

/-- One part of a key: quoted, or bare and not empty. -/
def keyPart? (s : List Char) : Option (String × List Char) :=
  match lineString? s with
  | some (key, rest) => some (String.ofList key, rest)
  | none =>
    let key := s.takeWhile isBareKey
    if key.isEmpty then none else some (String.ofList key, s.dropWhile isBareKey)

/-- The parts of a key with points between them. -/
def keyParts? : Nat → List Char → Option (List String × List Char)
  | 0, _ => none
  | fuel + 1, s => do
    let (part, rest) ← keyPart? (skipBlanks s)
    match skipBlanks rest with
    | '.' :: rest => do
      let (more, behind) ← keyParts? fuel rest
      return (part :: more, behind)
    | rest => return ([part], rest)

/-- A key, and what follows it and the blanks behind it. -/
def key? (s : List Char) : Option (List String × List Char) := keyParts? maxDepth s

/-! ## Values -/

/-- A value without inner values. -/
def scalarValue? (s : List Char) : Option (Datum × List Char) :=
  match s with
  | '"' :: _ | '\'' :: _ => (string? s).map fun (text, rest) => (.text (String.ofList text), rest)
  | 't' :: _ => (exactly? ['t', 'r', 'u', 'e'] s).map fun rest => (.bool true, rest)
  | 'f' :: _ => (exactly? ['f', 'a', 'l', 's', 'e'] s).map fun rest => (.bool false, rest)
  | _ => moment? s <|> numericFloat? s <|> namedFloat? s <|> integer? s

mutual

/-- A value, and what follows it; `room` says how deep lists may still go. -/
def value? : Nat → Nat → List Char → Option (Datum × List Char)
  | 0, _, _ => none
  | _ + 1, 0, s =>
    match s with
    | '[' :: _ | '\x7b' :: _ => none
    | s => scalarValue? s
  | fuel + 1, room + 1, s =>
    match s with
    | '[' :: rest => do
      let (items, behind) ← items? fuel room rest
      return (.list items, behind)
    | '\x7b' :: rest =>
      match skipBlanks rest with
      | '\x7d' :: behind => some (.record [], behind)
      | _ => do
        let (pairs, behind) ← inlinePairs? fuel room rest
        return (← inlineTable? pairs, behind)
    | s => scalarValue? s

/-- The items of a list from the next one on, up to its end. -/
def items? : Nat → Nat → List Char → Option (List Datum × List Char)
  | 0, _, _ => none
  | fuel + 1, room, s =>
    match skipLines s.length s with
    | ']' :: behind => some ([], behind)
    | s => do
      let (item, rest) ← value? fuel room s
      match skipLines rest.length rest with
      | ',' :: rest => do
        let (more, behind) ← items? fuel room rest
        return (item :: more, behind)
      | ']' :: behind => return ([item], behind)
      | _ => none

/-- The values of a table in braces from the next one on. -/
def inlinePairs? : Nat → Nat → List Char → Option (List (List String × Datum) × List Char)
  | 0, _, _ => none
  | fuel + 1, room, s => do
    let (path, rest) ← key? s
    let rest ← exactly? ['='] rest
    let (d, rest) ← value? fuel room (skipBlanks rest)
    match skipBlanks rest with
    | ',' :: rest => do
      let (more, behind) ← inlinePairs? fuel room rest
      return ((path, d) :: more, behind)
    | '\x7d' :: behind => return ([(path, d)], behind)
    | _ => none

end

/-! ## Documents -/

/-- A header in single brackets, behind the opening one. -/
def tableHeader? (s : List Char) : Option (Line × List Char) := do
  let (path, rest) ← key? s
  let rest ← exactly? [']'] rest
  return (.table path, ← lineEnd? rest)

/-- A header in double brackets, behind the opening ones. -/
def elementHeader? (s : List Char) : Option (Line × List Char) := do
  let (path, rest) ← key? s
  let rest ← exactly? [']', ']'] rest
  return (.element path, ← lineEnd? rest)

/-- A value under a key. -/
def pair? (s : List Char) : Option (Line × List Char) := do
  let (path, rest) ← key? s
  let rest ← exactly? ['='] rest
  let (d, rest) ← value? (2 * rest.length + 2) maxDepth (skipBlanks rest)
  return (.pair path d, ← lineEnd? rest)

/-- A line that is not empty. -/
def line? : List Char → Option (Line × List Char)
  | '[' :: '[' :: rest => elementHeader? rest
  | '[' :: rest => tableHeader? rest
  | s => pair? s

/-- The lines of a document. -/
def lines? : Nat → List Char → Option (List Line)
  | 0, _ => none
  | fuel + 1, s =>
    match skipBlanks s with
    | [] => some []
    | s =>
      match lineEnd? s with
      | some rest => lines? fuel rest
      | none => do
        let (line, rest) ← line? s
        let more ← lines? fuel rest
        return line :: more

/-- Drops a byte order mark at the front. -/
def dropMark : List Char → List Char
  | '\uFEFF' :: rest => rest
  | s => s

/-- The document that a text is. -/
def read? (s : String) : Option Datum := do
  let lines ← lines? (s.length + 1) (dropMark s.toList)
  assemble? lines

end PacketWatch.Toml
