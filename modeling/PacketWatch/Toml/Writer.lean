/-
Writing TOML text.

Sections are written as tables with an empty line between them.  A value of
nothing is left out, and a number that needs more than 63 bits has no form.

A string is written in the first of five ways that suits it: between double
quotes, between single quotes, between three double quotes, between three
single quotes, and between double quotes (three if it has several lines) with
everything escaped that has to be.  Here a control character is one below the
blank other than tab and line feed, or the delete character.
-/
import PacketWatch.Datum
import PacketWatch.Text.Number

namespace PacketWatch.Toml

/-! ## Escapes -/

def isControl (c : Char) : Bool := (c < ' ' && c != '\t' && c != '\n') || c == '\x7f'

/-- The escape of a character, other than a double quote, that needs one. -/
def escapeOf? (severalLines : Bool) (c : Char) : Option String :=
  if c = '\x08' then some "\\b"
  else if c = '\t' then some "\\t"
  else if c = '\n' then (if severalLines then none else some "\\n")
  else if c = '\x0c' then some "\\f"
  else if c = '\r' then some "\\r"
  else if c = '\\' then some "\\\\"
  else if c < ' ' ∨ c = '\x7f' then some ("\\u" ++ (Text.hexPadded 4 c.toNat).toUpper)
  else none

/-- Escapes characters; `run` counts the double quotes that stand unescaped in
front, and `allowed` says how many may. -/
def escapeAll (severalLines : Bool) (allowed : Nat) : Nat → List Char → String
  | _, [] => ""
  | run, '"' :: rest =>
    if run < allowed then "\"" ++ escapeAll severalLines allowed (run + 1) rest
    else "\\\"" ++ escapeAll severalLines allowed 0 rest
  | _, c :: rest =>
    (escapeOf? severalLines c).getD (String.singleton c) ++ escapeAll severalLines allowed 0 rest

/-! ## Strings -/

/-- Whether a character stands three times in a row. -/
def hasTriple (c : Char) : List Char → Bool
  | x :: y :: z :: rest => (x == c && y == c && z == c) || hasTriple c (y :: z :: rest)
  | _ => false

/-- The line end behind opening quotes of a string that has line ends. -/
def openingLine (s : List Char) : String := if s.contains '\n' then "\n" else ""

/-- Between double quotes, escaped. -/
def basicString (s : List Char) : String := "\"" ++ escapeAll false 0 0 s ++ "\""

/-- Between three double quotes, escaped. -/
def basicLinesString (s : List Char) : String :=
  "\"\"\"" ++ openingLine s ++ escapeAll true 2 0 s ++ "\"\"\""

/-- Between single quotes, as it is. -/
def literalString (s : List Char) : String := "'" ++ String.ofList s ++ "'"

/-- Between three single quotes, as it is. -/
def literalLinesString (s : List Char) : String :=
  "'''" ++ openingLine s ++ String.ofList s ++ "'''"

/-- A string in the first way that suits it. -/
def quoted (text : String) : String :=
  let s := text.toList
  let plain := !s.any isControl
  if plain && !s.contains '\\' && !s.contains '"' && !s.contains '\n' then basicString s
  else if plain && !s.contains '\'' && !s.contains '\n' then literalString s
  else if plain && !s.contains '\\' && !hasTriple '"' s then basicLinesString s
  else if plain && !hasTriple '\'' s then literalLinesString s
  else if s.contains '\n' then basicLinesString s
  else basicString s

/-! ## Tables -/

/-- Why a value has no form. -/
inductive Unwritable where
  | tooLarge
deriving DecidableEq

def Unwritable.message : Unwritable → String
  | tooLarge => "out-of-range value for u64 type"

/-- The text of a value; none for a value that is left out. -/
def scalarText? : Scalar → Except Unwritable (Option String)
  | .null => .ok none
  | .bool b => .ok (some (if b then "true" else "false"))
  | .natural n => if n < 9223372036854775808 then .ok (some (toString n)) else .error .tooLarge
  | .text s => .ok (some (quoted s))

/-- The line of a field. -/
def fieldLine (f : String × Scalar) : Except Unwritable String := do
  match ← scalarText? f.2 with
  | some text => return f.1 ++ " = " ++ text ++ "\n"
  | none => return ""

/-- The lines of a table. -/
def sectionText (s : Section) : Except Unwritable String := do
  let lines ← s.fields.mapM fieldLine
  return "[" ++ s.name ++ "]\n" ++ String.join lines

/-- Sections as a document of tables. -/
def write (sections : List Section) : Except Unwritable String := do
  let tables ← sections.mapM sectionText
  return String.intercalate "\n" tables

end PacketWatch.Toml
