/-
The start line of a hypertext request or status message.
-/
import PacketWatch.Protocol.TextLine

namespace PacketWatch

/-- A message, by its start line. -/
structure Http where
  startLine : String
deriving DecidableEq

namespace Http

/-- How a message begins: a method and a blank, or the protocol name of a status line. -/
def openings : List String :=
  ["GET ", "POST ", "PUT ", "DELETE ", "HEAD ", "OPTIONS ", "PATCH ", "CONNECT ", "TRACE ",
    "HTTP/1."]

/-- The message of a payload that begins like one. -/
def read? (d : Bytes) : Option Http :=
  if openings.any fun o => d.startsWith (Bytes.ofText o) then some ⟨TextLine.first d⟩ else none

def summary (h : Http) : String := "HTTP Layer, " ++ h.startLine

end Http

end PacketWatch
