/-
The control channel of file transfer: one line of printable ASCII.
-/
import PacketWatch.Protocol.TextLine

namespace PacketWatch

/-- A line of the control channel. -/
structure Ftp where
  line : String
deriving DecidableEq

namespace Ftp

/-- Whether a character is an ASCII letter, digit or mark, or a blank. -/
def isPrintable (c : Char) : Bool := ' ' ≤ c && c ≤ '~'

/-- The first line of a payload, where it is printable and not empty. -/
def read? (d : Bytes) : Option Ftp :=
  let line := TextLine.first d
  if !line.isEmpty && line.toList.all isPrintable then some ⟨line⟩ else none

def summary (h : Ftp) : String := "FTP Layer, " ++ h.line

end Ftp

end PacketWatch
