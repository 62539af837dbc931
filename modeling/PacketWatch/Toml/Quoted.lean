/-
Reading TOML strings.

There are four kinds: basic strings in double quotes, where a backslash begins
an escape; literal strings in single quotes, where nothing does; and both over
several lines, in three quotes each.  In a string of several lines one or two
quotes may stand anywhere, also in front of the closing three; a line end right
behind the opening quotes is dropped, other line ends become line feeds; and in
a basic one, a backslash at the end of a line drops the blanks and line ends up
to the next character.
-/
import PacketWatch.Text.Number
import PacketWatch.Toml.Character

namespace PacketWatch.Toml

/-- The character of a one-letter escape. -/
def escape? : Char → Option Char
  | 'b' => some '\x08'
  | 't' => some '\t'
  | 'n' => some '\n'
  | 'f' => some '\x0c'
  | 'r' => some '\r'
  | '"' => some '"'
  | '\\' => some '\\'
  | _ => none

/-- The character of a number, which is not a surrogate and not too large. -/
def scalar? (n : Nat) : Option Char :=
  if h : n.isValidChar then some (Char.ofNatAux n h) else none

/-- The character that hexadecimal digits name. -/
def named? (digits : List Char) : Option Char := (Text.ofDigits? 16 digits).bind scalar?

/-- A basic string behind its opening quote, and what follows the closing one. -/
def basic? : List Char → Option (List Char × List Char)
  | [] => none
  | '"' :: rest => some ([], rest)
  | '\\' :: 'u' :: a :: b :: c :: d :: rest => do
    let x ← named? [a, b, c, d]
    let (more, behind) ← basic? rest
    return (x :: more, behind)
  | '\\' :: 'U' :: a :: b :: c :: d :: e :: f :: g :: h :: rest => do
    let x ← named? [a, b, c, d, e, f, g, h]
    let (more, behind) ← basic? rest
    return (x :: more, behind)
  | '\\' :: e :: rest => do
    let x ← escape? e
    let (more, behind) ← basic? rest
    return (x :: more, behind)
  | c :: rest => do
    if !isBasic c then none
    let (more, behind) ← basic? rest
    return (c :: more, behind)

/-- A literal string behind its opening quote. -/
def literal? (s : List Char) : Option (List Char × List Char) :=
  match s.dropWhile isLiteral with
  | '\'' :: rest => some (s.takeWhile isLiteral, rest)
  | _ => none

/-- Whether nothing but blanks stands in front of a line end. -/
def endsLine (s : List Char) : Bool := (newline? (skipBlanks s)).isSome

/-- A basic string of several lines, from any of its characters on.  While
trimming, blanks and line ends are dropped. -/
def basicLines? (trimming : Bool) : List Char → Option (List Char × List Char)
  | [] => none
  | '"' :: '"' :: '"' :: '"' :: '"' :: rest => some (['"', '"'], rest)
  | '"' :: '"' :: '"' :: '"' :: rest => some (['"'], rest)
  | '"' :: '"' :: '"' :: rest => some ([], rest)
  | '"' :: rest => do
    let (more, behind) ← basicLines? false rest
    return ('"' :: more, behind)
  | '\r' :: '\n' :: rest => do
    let (more, behind) ← basicLines? trimming rest
    return (if trimming then more else '\n' :: more, behind)
  | '\n' :: rest => do
    let (more, behind) ← basicLines? trimming rest
    return (if trimming then more else '\n' :: more, behind)
  | '\\' :: 'u' :: a :: b :: c :: d :: rest => do
    let x ← named? [a, b, c, d]
    let (more, behind) ← basicLines? false rest
    return (x :: more, behind)
  | '\\' :: 'U' :: a :: b :: c :: d :: e :: f :: g :: h :: rest => do
    let x ← named? [a, b, c, d, e, f, g, h]
    let (more, behind) ← basicLines? false rest
    return (x :: more, behind)
  | '\\' :: e :: rest =>
    if endsLine (e :: rest) then basicLines? true (e :: rest)
    else do
      let x ← escape? e
      let (more, behind) ← basicLines? false rest
      return (x :: more, behind)
  | c :: rest => do
    if !isBasic c then none
    let (more, behind) ← basicLines? (trimming && isBlank c) rest
    return (if trimming && isBlank c then more else c :: more, behind)

/-- A literal string of several lines, from any of its characters on. -/
def literalLines? : List Char → Option (List Char × List Char)
  | [] => none
  | '\'' :: '\'' :: '\'' :: '\'' :: '\'' :: rest => some (['\'', '\''], rest)
  | '\'' :: '\'' :: '\'' :: '\'' :: rest => some (['\''], rest)
  | '\'' :: '\'' :: '\'' :: rest => some ([], rest)
  | '\r' :: '\n' :: rest => do
    let (more, behind) ← literalLines? rest
    return ('\n' :: more, behind)
  | c :: rest => do
    if !isPlain c && c != '\n' then none
    let (more, behind) ← literalLines? rest
    return (c :: more, behind)

/-- Drops a line end at the front. -/
def dropNewline (s : List Char) : List Char := (newline? s).getD s

/-- A string of any kind. -/
def string? : List Char → Option (List Char × List Char)
  | '"' :: '"' :: '"' :: rest => basicLines? false (dropNewline rest)
  | '"' :: rest => basic? rest
  | '\'' :: '\'' :: '\'' :: rest => literalLines? (dropNewline rest)
  | '\'' :: rest => literal? rest
  | _ => none

/-- A string of one line, as a key may be. -/
def lineString? : List Char → Option (List Char × List Char)
  | '"' :: rest => basic? rest
  | '\'' :: rest => literal? rest
  | _ => none

end PacketWatch.Toml
