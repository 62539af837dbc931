/-
Secure shell.  Only the identification line is plain text; every later packet
is encrypted and known by its port alone.
-/
import PacketWatch.Protocol.TextLine

namespace PacketWatch

/-- A packet, with the identification line where it is one. -/
structure Ssh where
  banner : Option String
deriving DecidableEq

namespace Ssh

/-- Whether a payload is an identification line. -/
def hasBanner (d : Bytes) : Bool := d.startsWith (Bytes.ofText "SSH-")

/-- Any payload is a packet. -/
def read (d : Bytes) : Ssh := ⟨if hasBanner d then some (TextLine.first d) else none⟩

def summary (h : Ssh) : String :=
  match h.banner with
  | some banner => "SSH Layer, " ++ banner
  | none => "SSH Layer, Encrypted packet"

end Ssh

end PacketWatch
