/-
Writing JSON text.

A quote, a backslash and the control characters below the blank are escaped,
all else stands for itself.  Sections are written over several lines, two
blanks a level; the end of the text has no line break.
-/
import PacketWatch.Datum
import PacketWatch.Text.Number

namespace PacketWatch.Json

/-- How a character is written inside quotes. -/
def escaped (c : Char) : String :=
  if c = '"' then "\\\""
  else if c = '\\' then "\\\\"
  else if c = '\x08' then "\\b"
  else if c = '\t' then "\\t"
  else if c = '\n' then "\\n"
  else if c = '\x0c' then "\\f"
  else if c = '\r' then "\\r"
  else if c < ' ' then "\\u" ++ Text.hexPadded 4 c.toNat
  else String.singleton c

/-- A text in quotes. -/
def quoted (s : String) : String := "\"" ++ String.join (s.toList.map escaped) ++ "\""

def scalarText : Scalar → String
  | .null => "null"
  | .bool b => if b then "true" else "false"
  | .natural n => toString n
  | .text s => quoted s

/-- Members in braces on one line, nothing between the tokens. -/
def compactRecord (members : List (String × String)) : String :=
  "\x7b" ++ String.intercalate "," (members.map fun m => quoted m.1 ++ ":" ++ m.2) ++ "\x7d"

/-- Blanks at the start of a line. -/
def indent (level : Nat) : String := String.ofList (List.replicate (2 * level) ' ')

/-- Members in braces, each on its own line; empty braces for no members. -/
def prettyRecord (level : Nat) (members : List (String × String)) : String :=
  if members.isEmpty then "\x7b\x7d"
  else
    "\x7b\n"
      ++ String.intercalate ",\n"
        (members.map fun m => indent (level + 1) ++ quoted m.1 ++ ": " ++ m.2)
      ++ "\n" ++ indent level ++ "\x7d"

/-- Sections as a record of records. -/
def write (sections : List Section) : String :=
  prettyRecord 0 (sections.map fun s =>
    (s.name, prettyRecord 1 (s.fields.map fun f => (f.1, scalarText f.2))))

end PacketWatch.Json
