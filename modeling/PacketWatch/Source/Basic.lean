/-
What a capture source is to a pipeline.

A source delivers frames to a sink once it has been started, from threads of
its own or for callers that hand frames in.  Stopping it takes two steps: it is
told to halt, and the call returns when its threads have finished.  A source
that is refused to start stays as it was.
-/
import PacketWatch.Device
import PacketWatch.Error
import PacketWatch.Frame
import PacketWatch.Log

namespace PacketWatch

/-- A capture source with states of type `σ`; `α` names what its own threads and
its other callers do. -/
structure CaptureSource (σ α : Type) where
  devices : σ → List Device
  isRunning : σ → Bool
  /-- How many frames were delivered since the source was made. -/
  captured : σ → Nat
  /-- Starts to deliver from a device; nothing while the caller has to wait. -/
  start? : σ → String → Option (Except Error σ)
  /-- Tells the source to halt; nothing while the caller has to wait. -/
  halt? : σ → Option σ
  /-- The call to halt returns; nothing while it has to wait. -/
  finishHalt? : σ → Option σ
  /-- One turn of another thread, with the frame that it passes to the sink. -/
  turn? : σ → α → Option (σ × Option Frame)
  /-- What is reported of a start on a device. -/
  startLines : String → List LogLine
  /-- What is reported when the call to halt returns. -/
  haltLines : σ → List LogLine
  /-- The threads that go on by themselves. -/
  threads : List α
  /-- More turns than those threads can take until the next start has ended. -/
  turnBound : σ → Nat

namespace CaptureSource

variable {σ α : Type}

/-- The first device of a name. -/
def findDevice? (S : CaptureSource σ α) (s : σ) (name : String) : Option Device :=
  Device.find? (S.devices s) name

end CaptureSource

end PacketWatch
