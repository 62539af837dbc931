/-
A capture source that is driven by hand.

It has no devices and starts on any name, unless it was given an error to
refuse with.  It keeps the sink for good and passes frames to it even after it
was stopped, so it is the source that a pipeline has to withstand.
-/
import PacketWatch.Source.Basic

namespace PacketWatch

/-- A source that is driven by hand. -/
structure ManualSource where
  /-- The error that a start is refused with. -/
  startError : Option Error := none
  /-- Whether a sink was ever given. -/
  hasSink : Bool := false
  isRunning : Bool := false
  captured : UInt64 := 0
deriving DecidableEq

namespace ManualSource

instance : Inhabited ManualSource := ⟨{}⟩

/-- What is done to a manual source. -/
inductive Action where
  /-- Passes a frame to the sink and counts it. -/
  | inject (frame : Frame)
  | setCaptured (count : UInt64)
  | setStartError (e : Option Error)
deriving DecidableEq

def start (s : ManualSource) : Except Error ManualSource :=
  match s.startError with
  | some e => .error e
  | none => .ok { s with hasSink := true, isRunning := true }

def act (s : ManualSource) : Action → ManualSource × Option Frame
  | .inject frame =>
    if s.hasSink then ({ s with captured := s.captured + 1 }, some frame) else (s, none)
  | .setCaptured count => ({ s with captured := count }, none)
  | .setStartError e => ({ s with startError := e }, none)

/-- A manual source as a pipeline uses it. -/
def source : CaptureSource ManualSource Action where
  devices _ := []
  isRunning := ManualSource.isRunning
  captured s := s.captured.toNat
  start? s _ := some s.start
  halt? s := some { s with isRunning := false }
  finishHalt? s := some s
  turn? s a := some (s.act a)
  startLines _ := []
  haltLines _ := []
  threads := []
  turnBound _ := 0

end ManualSource

end PacketWatch
