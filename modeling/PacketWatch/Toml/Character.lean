/-
Characters and line ends of a TOML text.

Tab is the one control character that may stand for itself.  A line ends with
a line feed, which a carriage return may precede; a carriage return elsewhere
is refused.  Readers take characters from the front and return the rest.
-/

namespace PacketWatch.Toml

/-- A blank or a tab. -/
def isBlank (c : Char) : Bool := c == ' ' || c == '\t'

/-- Whether a character may stand for itself in a comment. -/
def isPlain (c : Char) : Bool := c == '\t' || (' ' ≤ c && c != '\x7f')

/-- Whether a character may stand for itself between double quotes. -/
def isBasic (c : Char) : Bool := isPlain c && c != '"' && c != '\\'

/-- Whether a character may stand for itself between single quotes. -/
def isLiteral (c : Char) : Bool := isPlain c && c != '\''

/-- Whether a character may stand in a bare key. -/
def isBareKey (c : Char) : Bool := c.isAlphanum || c == '_' || c == '-'

def skipBlanks (s : List Char) : List Char := s.dropWhile isBlank

/-- What follows a line end. -/
def newline? : List Char → Option (List Char)
  | '\n' :: rest => some rest
  | '\r' :: '\n' :: rest => some rest
  | _ => none

/-- Skips a comment, up to and without the end of its line. -/
def skipComment : List Char → List Char
  | '#' :: rest => rest.dropWhile isPlain
  | s => s

/-- What follows the rest of a line that holds blanks and a comment at most. -/
def lineEnd? (s : List Char) : Option (List Char) :=
  match skipComment (skipBlanks s) with
  | [] => some []
  | s => newline? s

/-- Skips blanks, comments and line ends between the items of a list. -/
def skipLines : Nat → List Char → List Char
  | 0, s => s
  | fuel + 1, s =>
    match skipBlanks s with
    | [] => []
    | s =>
      match newline? (skipComment s) with
      | some rest => skipLines fuel rest
      | none => s

/-- Takes a fixed sequence of characters. -/
def exactly? (word : List Char) (s : List Char) : Option (List Char) :=
  if word.isPrefixOf s then some (s.drop word.length) else none

end PacketWatch.Toml
