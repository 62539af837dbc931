/-
Paths as text.

A path is read part by part: empty parts and single points stand for where one is,
and double points lead back.  How it ends says whether it has to name a directory.
-/
import PacketWatch.Text.Number
import PacketWatch.Text.Visible

namespace PacketWatch.Path

/-! ## Parts -/

/-- What stands between slashes. -/
def pieces (path : String) : List String := (path.toList.splitOn '/').map String.ofList

/-- Whether a piece leads away from where one is. -/
def leadsOn (piece : String) : Bool := piece != "" && piece != "."

/-- The parts of a path, without those that lead nowhere. -/
def parts (path : String) : List String := (pieces path).filter leadsOn

/-- The path of the directory that the last part stands in, which is empty for the
directory one is in. -/
def parent (path : String) : String :=
  let before := ((pieces path).reverse.dropWhile fun p => !leadsOn p).drop 1
  String.intercalate "/" (before.dropWhile fun p => !leadsOn p).reverse

/-- How a path ends: its last part may stand by itself, or something behind it says
that it names a directory. -/
inductive Ending where
  | name
  | slash
  | point
deriving DecidableEq

/-- Slashes behind a single point say no more than the point. -/
def ending (path : String) : Ending :=
  if ((pieces path).filter (· != "")).getLast? == some "." then .point
  else if path.toList.getLast? == some '/' then .slash
  else .name

/-- Whether a path says that it names a directory. -/
def namesDirectory (path : String) : Bool := ending path != .name

/-! ## Limits -/

/-- The most bytes that a path may have. -/
def lengthLimit : Nat := 4095

/-- The most bytes that a part of a path may have. -/
def partLimit : Nat := 255

/-! ## Joining -/

/-- Whether a path starts from the root of all files. -/
def isAbsolute (path : String) : Bool := path.toList.head? == some '/'

/-- A path from a directory on; an absolute one replaces it. -/
def join (directory path : String) : String :=
  if isAbsolute path || directory.isEmpty then path
  else if directory.toList.getLast? == some '/' then directory ++ path
  else directory ++ "/" ++ path

/-! ## Extensions -/

/-- What stands behind the last point of the last part, unless that point is its
first character or the part leads back. -/
def extension? (path : String) : Option String :=
  match (parts path).getLast? with
  | none => none
  | some name =>
    if name = ".." then none
    else
      let pieces := name.toList.splitOn '.'
      match pieces.reverse with
      | last :: before :: others =>
        if others.isEmpty && before.isEmpty then none else some (String.ofList last)
      | _ => none

/-! ## Quoting -/

/-- How a character of a path is quoted. -/
def quotedChar (c : Char) : String :=
  if c = '"' then "\\\""
  else if c = '\\' then "\\\\"
  else if c = '\t' then "\\t"
  else if c = '\n' then "\\n"
  else if c = '\r' then "\\r"
  else if c = '\x00' then "\\0"
  else if Text.isVisible c then String.singleton c
  else "\\u\x7b" ++ Text.hexPadded 1 c.toNat ++ "\x7d"

/-- A path in quotes, with quotes, backslashes and all that does not show escaped. -/
def quoted (path : String) : String := "\"" ++ String.join (path.toList.map quotedChar) ++ "\""

end PacketWatch.Path
