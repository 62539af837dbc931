/-
Frames as they are captured and packets as they are kept.

A frame says how many of its bytes were captured and how long it was on the
wire; a capture that cuts frames short makes the two differ.  A packet carries
its own copy of the bytes together with what was decoded from them.  Ids begin
at one, and a packet that no store has taken has id zero.
-/
import PacketWatch.Bytes
import PacketWatch.LinkType
import PacketWatch.Timestamp

namespace PacketWatch

/-- A captured frame. -/
structure Frame where
  timestamp : Timestamp
  data : Bytes
  /-- How many bytes were captured; a well-formed frame has as many. -/
  capturedLength : Nat
  /-- The length on the wire. -/
  frameLength : Nat
  link : LinkType
deriving DecidableEq

namespace Frame

/-- A frame that was captured whole. -/
def whole (data : Bytes) (link : LinkType := .ethernet) (timestamp : Timestamp := .epoch) : Frame where
  timestamp := timestamp
  data := data
  capturedLength := data.length
  frameLength := data.length
  link := link

/-- Whether the declared number of captured bytes is there. -/
def isWellFormed (f : Frame) : Bool := f.capturedLength == f.data.length

/-- Whether the capture cut the frame short. -/
def isTruncated (f : Frame) : Bool := f.capturedLength < f.frameLength

end Frame

/-- A decoded packet. -/
structure Packet where
  /-- The number that a store gave it, or zero. -/
  id : Nat
  timestamp : Timestamp
  data : Bytes
  capturedLength : Nat
  frameLength : Nat
  src : String
  dst : String
  /-- The label of the highest recognized layer. -/
  protocol : String
  /-- The summary of the highest recognized layer. -/
  info : String
  /-- One line a layer, lowest first. -/
  summaries : List String
deriving DecidableEq

namespace Packet

/-- The label of a packet of which nothing was recognized. -/
def unknown : String := "Unknown"

/-- Whether a store has numbered the packet. -/
def isStored (p : Packet) : Bool := p.id != 0

/-- Whether nothing of the packet was recognized. -/
def isUnknown (p : Packet) : Bool := p.protocol == unknown

end Packet

end PacketWatch
