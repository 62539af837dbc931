/-
Putting a TOML document together from its lines.

A table comes about in one of three ways: a header or braces write it, the
path of a longer header implies it, or a dotted key makes it.  Each table is
written once.  A header may still write a table that was only implied; a
dotted key may go on with a table that was implied or made by dotted keys, but
may put values only into one that dotted keys made.  A path that leads to a
list of tables goes on in its last table.
-/
import PacketWatch.Datum

namespace PacketWatch.Toml

/-- How a table came about. -/
inductive Origin where
  | written
  | implied
  | dotted
deriving DecidableEq

/-- What a key stands for. -/
inductive Node where
  | value (d : Datum)
  | table (origin : Origin) (entries : List (String × Node))
  /-- A list of tables, of which the last is being written. -/
  | tables (earlier : List (List (String × Node))) (last : List (String × Node))

/-- The keys of a table. -/
abbrev Entries := List (String × Node)

namespace Entries

def get? (entries : Entries) (key : String) : Option Node :=
  (entries.find? (·.1 == key)).map (·.2)

/-- Replaces what a key stands for, or adds the key at the end. -/
def set (entries : Entries) (key : String) (node : Node) : Entries :=
  if (get? entries key).isSome then entries.map fun e => if e.1 == key then (key, node) else e
  else entries ++ [(key, node)]

/-- Follows a path and changes the table at its end.  Tables that are missing
come about as implied, or as dotted if the path is that of a dotted key; a
dotted key does not enter a table that is already written. -/
def follow (isKey : Bool) (change : Origin → Entries → Option Entries) :
    List String → Origin → Entries → Option Entries
  | [], origin, entries => change origin entries
  | key :: more, _, entries =>
    match get? entries key with
    | none => do
      let origin := if isKey then .dotted else .implied
      let inner ← follow isKey change more origin []
      return set entries key (.table origin inner)
    | some (.value _) => none
    | some (.table origin inner) => do
      if isKey && origin == .written then none
      let inner ← follow isKey change more origin inner
      return set entries key (.table origin inner)
    | some (.tables earlier last) => do
      let last ← follow isKey change more .written last
      return set entries key (.tables earlier last)

/-- Puts a value into a table under a key that is new; along a dotted path, the
table has to be one that dotted keys made. -/
def putValue (isDotted : Bool) (key : String) (d : Datum) (origin : Origin) (entries : Entries) :
    Option Entries :=
  if (origin == .dotted) != isDotted || (get? entries key).isSome then none
  else some (entries ++ [(key, .value d)])

/-- Puts a value under a path of keys. -/
def put (entries : Entries) (path : List String) (d : Datum) : Option Entries :=
  match path.getLast? with
  | none => none
  | some key =>
    let tables := path.dropLast
    follow true (putValue (!tables.isEmpty) key d) tables .written entries

/-- Writes a table that a header names. -/
def openTable (key : String) (_ : Origin) (entries : Entries) : Option Entries :=
  match get? entries key with
  | none => some (set entries key (.table .written []))
  | some (.table .implied inner) => some (set entries key (.table .written inner))
  | some _ => none

/-- Adds a table to a list of tables that a header names. -/
def openElement (key : String) (_ : Origin) (entries : Entries) : Option Entries :=
  match get? entries key with
  | none => some (set entries key (.tables [] []))
  | some (.tables earlier last) => some (set entries key (.tables (earlier ++ [last]) []))
  | some _ => none

end Entries

mutual

/-- What a key stands for, as structured data. -/
def Node.datum : Node → Datum
  | .value d => d
  | .table _ entries => .record (fieldsOf entries)
  | .tables earlier last => .list (recordsOf earlier ++ [.record (fieldsOf last)])

/-- The fields of a table. -/
def fieldsOf : List (String × Node) → List (Option String × Datum)
  | [] => []
  | (key, node) :: more => (some key, node.datum) :: fieldsOf more

/-- The tables of a list. -/
def recordsOf : List (List (String × Node)) → List Datum
  | [] => []
  | entries :: more => .record (fieldsOf entries) :: recordsOf more

end

/-- One line of a document, other than a comment. -/
inductive Line where
  /-- A header that writes a table. -/
  | table (path : List String)
  /-- A header that adds a table to a list. -/
  | element (path : List String)
  /-- A value under a key. -/
  | pair (path : List String) (d : Datum)

/-- The table that is being put together, and the path of the part that values go into. -/
structure Draft where
  root : Entries
  current : List String

namespace Draft

/-- Changes the parent of the table that a header names, and goes on in that table. -/
def enter (draft : Draft) (path : List String)
    (openAt : String → Origin → Entries → Option Entries) : Option Draft := do
  let key ← path.getLast?
  let root ← Entries.follow false (openAt key) path.dropLast .written draft.root
  return ⟨root, path⟩

/-- Takes one more line. -/
def add (draft : Draft) : Line → Option Draft
  | .table path => draft.enter path Entries.openTable
  | .element path => draft.enter path Entries.openElement
  | .pair path d => do
    let root ← Entries.follow false (fun _ entries => entries.put path d) draft.current .written
      draft.root
    return { draft with root := root }

end Draft

/-- The document of the given lines. -/
def assemble? (lines : List Line) : Option Datum := do
  let draft ← lines.foldlM Draft.add ⟨[], []⟩
  return .record (fieldsOf draft.root)

/-- The table in braces that holds the given values. -/
def inlineTable? (pairs : List (List String × Datum)) : Option Datum := do
  let entries ← pairs.foldlM (fun entries pair => Entries.put entries pair.1 pair.2) []
  return .record (fieldsOf entries)

end PacketWatch.Toml
