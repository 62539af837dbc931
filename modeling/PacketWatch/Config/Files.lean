/-
Configurations in files.

The format is chosen by the name of the file: JSON if its extension says so in
any case, TOML otherwise.  What the formats make of a configuration is up to
the libraries that write and read them, and any two will do here.  A file that
is read is also validated, so a configuration that can be written need not be
one that can be read back.
-/
import PacketWatch.Config.Basic
import PacketWatch.FileTree
import PacketWatch.Log

namespace PacketWatch

/-- A library that writes configurations and reads them. -/
structure Codec where
  /-- The text of a configuration, or why it has none. -/
  write : Config → Except String String
  /-- The configuration of a text, or why it holds none. -/
  read : String → Except String Config

/-- The libraries of the two formats. -/
structure Formats where
  json : Codec
  toml : Codec

namespace Config

/-! ## Formats -/

/-- How a configuration is written down. -/
inductive Format where
  | json
  | toml
deriving DecidableEq

/-- The format of a file of the given path. -/
def formatOf (path : String) : Format :=
  match Path.extension? path with
  | some e => if e.toLower == "json" then .json else .toml
  | none => .toml

/-- The library for a file of the given path. -/
def codecOf (formats : Formats) (path : String) : Codec :=
  match formatOf path with
  | .json => formats.json
  | .toml => formats.toml

/-! ## Files -/

variable (formats : Formats)

/-- Reads a configuration from a file and validates it. -/
def load (tree : FileTree) (path : String) : Except Error Config := do
  let text ← (tree.readText path).mapError fun e =>
    .configuration (.unreadable (Path.quoted path) e.message)
  let c ← ((codecOf formats path).read text).mapError fun reason =>
    .configuration (.unparsable (Path.quoted path) reason)
  c.validate
  return c

/-- Reads a configuration from a file; any failure is reported and gives the default. -/
def loadOrDefault (tree : FileTree) (path : String) : Logged Config :=
  match load formats tree path with
  | .ok c => pure c
  | .error e => do
    report .warn ("Failed to load config, using defaults: " ++ e.message)
    return default

/-- Writes a configuration to a file, in the format of its path, and makes the directory
for it.  The directory comes first, whether the configuration has a text or not; a
failure leaves the tree that was reached by then. -/
def save (c : Config) (tree : FileTree) (path : String) : Except Error Unit × FileTree :=
  match tree.makeDirectories (Path.parent path) with
  | (.error e, tree) => (.error (.configuration (.noDirectory e.message)), tree)
  | (.ok (), tree) =>
    match (codecOf formats path).write c with
    | .error reason => (.error (.configuration (.unwritableValue reason)), tree)
    | .ok text =>
      match tree.write path (Bytes.ofText text) with
      | .error e => (.error (.configuration (.unwritable (Path.quoted path) e.message)), tree)
      | .ok tree => (.ok (), tree)

end Config

end PacketWatch
