/-
Capture devices, as a source reports them, and how a device and a link type
are stored.

A link type is stored under its short identifier; one that is not known is
stored as a record of that identifier and its number.  A known one may also be
read from a record that gives nothing for it.
-/
import PacketWatch.Json.Reader
import PacketWatch.Json.Writer
import PacketWatch.LinkType

namespace PacketWatch

/-- A capture device. -/
structure Device where
  name : String
  description : String
deriving DecidableEq

namespace Device

/-- The name, and the description in brackets unless it is empty. -/
def text (d : Device) : String :=
  if d.description.isEmpty then d.name else d.name ++ " (" ++ d.description ++ ")"

/-- The first device of a name. -/
def find? (devices : List Device) (name : String) : Option Device :=
  devices.find? (·.name == name)

def json (d : Device) : String :=
  Json.compactRecord [("name", Json.quoted d.name), ("description", Json.quoted d.description)]

def ofDatum? (d : Datum) : Option Device := do
  let fields ← d.fields? .refused ["name", "description"]
  match fields with
  | [name, description] =>
    return ⟨← Datum.required Datum.text? name, ← Datum.required Datum.text? description⟩
  | _ => none

def ofJson? (s : String) : Option Device := (Json.read? s).bind ofDatum?

end Device

namespace LinkType

def json : LinkType → String
  | other n => Json.compactRecord [("Other", toString n.toInt)]
  | l => Json.quoted l.identifier

/-- The framing of an identifier that stands alone. -/
def ofIdentifier? (name : String) : Option LinkType :=
  [loopback, ethernet, rawIp, cooked].find? (·.identifier == name)

def ofDatum? : Datum → Option LinkType
  | .text name => ofIdentifier? name
  | .record [(some name, value)] =>
    if name == "Other" then value.int32?.map other
    else match value with
      | .null => ofIdentifier? name
      | _ => none
  | _ => none

def ofJson? (s : String) : Option LinkType := (Json.read? s).bind ofDatum?

end LinkType

end PacketWatch
