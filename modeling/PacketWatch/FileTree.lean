/-
Files and directories as a value.

A tree is seen from one directory, and paths are relative to it.  What cannot be
done is refused with the reason that an operating system gives, in its words.
Directories that were made before a refusal stay.

Of the directories that lie around that one, nothing is known but that they are
there, so a path that leads out of it does not find the way back in.
-/
import PacketWatch.Path
import PacketWatch.Text.Utf8

namespace PacketWatch

/-- Why something cannot be done with a file. -/
inductive FileFault where
  | notFound
  | exists
  | notDirectory
  | isDirectory
  | nameTooLong
  | nameHasNul
  | notUtf8
deriving DecidableEq

namespace FileFault

def message : FileFault → String
  | notFound => "No such file or directory (os error 2)"
  | «exists» => "File exists (os error 17)"
  | notDirectory => "Not a directory (os error 20)"
  | isDirectory => "Is a directory (os error 21)"
  | nameTooLong => "File name too long (os error 36)"
  | nameHasNul => "file name contained an unexpected NUL byte"
  | notUtf8 => "stream did not contain valid UTF-8"

end FileFault

/-! ## Places -/

/-- The names that lead to a place, the last one first.  Double points stand only at
its end, and lead out of the directory that the tree is seen from. -/
abbrev Place := List String

namespace Place

/-- The place that a part of a path leads to. -/
def step (place : Place) (part : String) : Place :=
  if part = ".." then
    match place with
    | [] => [".."]
    | name :: outer => if name = ".." then ".." :: place else outer
  else part :: place

/-- Whether a place is the directory that the tree is seen from, or one around it. -/
def isAround (place : Place) : Bool := place.all (· == "..")

/-- The shortest path to a place. -/
def path (place : Place) : String := String.intercalate "/" place.reverse

/-- Whether a place may not exist because of the length of its name. -/
def isTooLong (place : Place) : Bool := place.head?.any (Path.partLimit < ·.utf8ByteSize)

end Place

/-! ## Trees -/

/-- What stands at a place. -/
inductive Entry where
  | file (content : Bytes)
  | directory
deriving DecidableEq

/-- Files and directories by the path of their place. -/
structure FileTree where
  entries : List (String × Entry)
deriving DecidableEq

namespace FileTree

/-- No files. -/
def empty : FileTree := ⟨[]⟩

/-- What stands at a place. -/
def at? (tree : FileTree) (place : Place) : Option Entry :=
  if place.isAround then some .directory
  else
    let path := place.path
    (tree.entries.find? (·.1 == path)).map (·.2)

/-- Puts something at a place. -/
def put (tree : FileTree) (place : Place) (entry : Entry) : FileTree :=
  let path := place.path
  ⟨(path, entry) :: tree.entries.filter (·.1 != path)⟩

/-- What is found at a place. -/
def look (tree : FileTree) (place : Place) : Except FileFault Entry :=
  if place.isTooLong then .error .nameTooLong
  else
    match tree.at? place with
    | some entry => .ok entry
    | none => .error .notFound

/-- Refuses a place that is no directory. -/
def enter (tree : FileTree) (place : Place) : Except FileFault Unit := do
  match ← tree.look place with
  | .directory => .ok ()
  | .file _ => .error .notDirectory

/-- The place that parts of a path lead to.  Every one but the last has to lead to a
directory; nobody looks at the last. -/
def walk (tree : FileTree) : Place → List String → Except FileFault Place
  | here, [] => .ok here
  | here, part :: more => do
    tree.enter here
    walk tree (here.step part) more

/-- Refuses a path that no file can have. -/
def checkPath (path : String) : Except FileFault Unit :=
  if path.toList.contains '\x00' then .error .nameHasNul
  else if Path.lengthLimit < path.utf8ByteSize then .error .nameTooLong
  else .ok ()

/-- The place of a path.  An empty path leads nowhere. -/
def resolve (tree : FileTree) (path : String) : Except FileFault Place := do
  checkPath path
  if path.isEmpty then .error .notFound else tree.walk [] (Path.parts path)

/-- Whether anything stands where a path leads. -/
def «exists» (tree : FileTree) (path : String) : Bool :=
  match tree.resolve path >>= tree.look with
  | .ok .directory => true
  | .ok (.file _) => !Path.namesDirectory path
  | .error _ => false

/-- The bytes of a file. -/
def read (tree : FileTree) (path : String) : Except FileFault Bytes := do
  let place ← tree.resolve path
  match ← tree.look place with
  | .directory => .error .isDirectory
  | .file content => if Path.namesDirectory path then .error .notDirectory else .ok content

/-- The text of a file. -/
def readText (tree : FileTree) (path : String) : Except FileFault String := do
  let content ← tree.read path
  match Text.Utf8.decode? content with
  | some text => .ok text
  | none => .error .notUtf8

/-- Writes a file, which need not exist before; its directory has to.  A path that
ends with a slash is taken for a directory before anybody looks. -/
def write (tree : FileTree) (path : String) (content : Bytes) : Except FileFault FileTree := do
  let place ← tree.resolve path
  match Path.ending path, tree.look place with
  | .slash, _ => .error .isDirectory
  | _, .ok .directory => .error .isDirectory
  | .point, .ok (.file _) => .error .notDirectory
  | .name, .ok (.file _) => .ok (tree.put place (.file content))
  | .name, .error .notFound => .ok (tree.put place (.file content))
  | _, .error e => .error e

/-- Makes the directories that lead on from a place, as far as they are missing.  A
file in the way is no directory as long as everything before it was there; at the end,
or behind a directory that had to be made, it is something that exists already. -/
def makeFrom : FileTree → Bool → Place → List String → Except FileFault Unit × FileTree
  | tree, _, _, [] => (.ok (), tree)
  | tree, hasMade, here, part :: more =>
    let place := here.step part
    match tree.look place with
    | .ok .directory => makeFrom tree hasMade place more
    | .ok (.file _) =>
      (.error (if hasMade || more.isEmpty then .exists else .notDirectory), tree)
    | .error .notFound => makeFrom (tree.put place .directory) true place more
    | .error e => (.error e, tree)

/-- Makes a directory and those that lead to it.  Those that were made before one is
refused stay. -/
def makeDirectories (tree : FileTree) (path : String) : Except FileFault Unit × FileTree :=
  match checkPath path with
  | .ok () => tree.makeFrom false [] (Path.parts path)
  | .error e => (.error e, tree)

end FileTree

end PacketWatch
