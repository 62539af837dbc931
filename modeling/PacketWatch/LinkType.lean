/-
How the link layer of a captured frame is framed.

Capture files number the framings.  Some numbers name one framing twice; a
framing has one canonical number, and a number that names none of the known
framings is kept as it is.
-/

namespace PacketWatch

/-- The framing of a captured frame. -/
inductive LinkType where
  /-- An address family in front of an IP packet. -/
  | loopback
  | ethernet
  /-- An IP packet without a link header. -/
  | rawIp
  /-- The pseudo-header of a Linux cooked capture. -/
  | cooked
  /-- A framing that is not decoded. -/
  | other (number : Int32)
deriving DecidableEq

namespace LinkType

instance : Inhabited LinkType := ⟨ethernet⟩

/-- The framing that a number names. -/
def ofNumber (n : Int32) : LinkType :=
  if n = 0 then loopback
  else if n = 1 then ethernet
  else if n = 12 ∨ n = 14 ∨ n = 101 then rawIp
  else if n = 113 then cooked
  else other n

/-- The canonical number of a framing. -/
def number : LinkType → Int32
  | loopback => 0
  | ethernet => 1
  | rawIp => 101
  | cooked => 113
  | other n => n

/-- The name of a framing. -/
def text : LinkType → String
  | loopback => "Null/Loopback"
  | ethernet => "Ethernet"
  | rawIp => "Raw IP"
  | cooked => "Linux cooked"
  | other n => "DLT " ++ toString n.toInt

/-- The short identifier under which a framing is stored. -/
def identifier : LinkType → String
  | loopback => "Null"
  | ethernet => "Ethernet"
  | rawIp => "RawIp"
  | cooked => "LinuxSll"
  | other _ => "Other"

/-- The identifier, with the number of a framing that is not known. -/
def debugText : LinkType → String
  | other n => "Other(" ++ toString n.toInt ++ ")"
  | l => l.identifier

end LinkType

end PacketWatch
