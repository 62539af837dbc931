/-
Configurations as JSON and as TOML.

Values are written in their order, and the first one without a form is what is
reported: a count in TOML, or the directory of the log, which is the last value
in either format.  Surplus items of a list are refused by JSON and ignored by
TOML.
-/
import PacketWatch.Config.Files
import PacketWatch.Json.Reader
import PacketWatch.Json.Writer
import PacketWatch.Toml.Reader
import PacketWatch.Toml.Writer

namespace PacketWatch

namespace Codec

/-- What was read, if anything was. -/
def found : Option Config → Except String Config
  | some c => .ok c
  | none => .error "not a configuration"

/-- A configuration as JSON. -/
def jsonText (c : Config) : Except String String := do
  return Json.write (c.sections (← c.directoryText))

/-- Sections as TOML. -/
def tables (sections : List Section) : Except String String :=
  (Toml.write sections).mapError Toml.Unwritable.message

/-- A configuration as TOML. -/
def tomlText (c : Config) : Except String String := do
  -- a count that is too large comes before the directory
  let _ ← tables (c.sections none)
  tables (c.sections (← c.directoryText))

def json : Codec where
  write := jsonText
  read text := found ((Json.read? text).bind (Config.ofDatum? .refused))

def toml : Codec where
  write := tomlText
  read text := found ((Toml.read? text).bind (Config.ofDatum? .ignored))

end Codec

def Formats.standard : Formats := ⟨.json, .toml⟩

end PacketWatch
