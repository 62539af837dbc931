/-
A capture source that replays a script.

Every start replays the script from its first frame, in a thread of its own;
other callers may hand frames in while a capture is active.  One lock guards
the active device, the sink and the replay; a caller that hands a frame in holds
it until the frame is counted, and a caller that stops the capture holds it
until the replay has ended.  The replay looks whether it has to stop before each
frame, and counts a frame after it was delivered.

The operating system may deny the thread of the replay.  That is found last, when
the flag that tells a replay to stop has been taken back already.
-/
import PacketWatch.Machine
import PacketWatch.Source.Basic
import PacketWatch.Traffic

namespace PacketWatch

/-- How far a replay has come. -/
inductive Replay where
  /-- About to look whether it has to stop. -/
  | looking (rest : List Frame)
  | delivering (frame : Frame) (rest : List Frame)
  /-- A frame was delivered and is not counted yet. -/
  | counting (rest : List Frame)
  | finished
deriving DecidableEq

/-- Who holds the lock of a scripted source. -/
inductive ScriptLock where
  | free
  /-- A caller that handed a frame in, which is not counted yet. -/
  | injecting
  /-- A caller that stops the capture on a device. -/
  | stopping (device : String)
deriving DecidableEq

/-- A source that replays a script. -/
structure ScriptedSource where
  devices : List Device :=
    [⟨"mock0", "Mock Ethernet adapter"⟩, ⟨"mock1", "Mock loopback adapter"⟩]
  script : List Frame := []
  failOpen : Bool := false
  failStart : Bool := false
  lock : ScriptLock := .free
  /-- The device of the active capture. -/
  device : Option String := none
  /-- Whether a sink is kept for callers that hand frames in. -/
  hasSink : Bool := false
  replay : Option Replay := none
  isRunning : Bool := false
  stopRequested : Bool := false
  captured : Nat := 0
deriving DecidableEq

namespace ScriptedSource

instance : Inhabited ScriptedSource := ⟨{}⟩

/-- Whether no replay is under way. -/
def isReplayed (s : ScriptedSource) : Bool :=
  match s.replay with
  | none => true
  | some .finished => true
  | some _ => false

/-! ## Starting and stopping -/

/-- Why a start is refused, if it is. -/
def refusal? (s : ScriptedSource) (device : String) (withSink : Bool) : Option Error :=
  if !withSink then some .noFrameSink
  else match s.device with
    | some active => some (.alreadyCapturing active)
    | none =>
      if (Device.find? s.devices device).isNone then some (.deviceNotFound device)
      else if s.failOpen then some (.deviceOpen device "simulated open failure")
      else if s.failStart then some (.captureStart device "simulated start failure")
      else none

/-- The source while it captures on a device. -/
def begin (s : ScriptedSource) (device : String) : ScriptedSource :=
  { s with
    device := some device
    hasSink := true
    replay := some (.looking s.script)
    isRunning := true
    stopRequested := false }

/-- Starts a capture.  Without a sink it is refused before the lock is asked for. -/
def start? (s : ScriptedSource) (device : String) (withSink : Bool) :
    Option (Except Error ScriptedSource) :=
  if withSink ∧ s.lock ≠ .free then none
  else match s.refusal? device withSink with
    | some e => some (.error e)
    | none => some (.ok (s.begin device))

/-- Starts a capture while the operating system denies the thread, for the given reason.
Whatever else stands in the way is found first. -/
def startDenied? (s : ScriptedSource) (device : String) (withSink : Bool) (reason : String) :
    Option (ScriptedSource × Error) :=
  if withSink ∧ s.lock ≠ .free then none
  else match s.refusal? device withSink with
    | some e => some (s, e)
    | none => some ({ s with stopRequested := false }, .captureStart device reason)

/-- Tells the replay to stop; nothing happens without a capture. -/
def halt? (s : ScriptedSource) : Option ScriptedSource :=
  if s.lock ≠ .free then none
  else match s.device with
    | none => some s
    | some device =>
      some { s with
        lock := .stopping device
        device := none
        hasSink := false
        stopRequested := true }

/-- The call that stops the capture returns once the replay has ended. -/
def finishHalt? (s : ScriptedSource) : Option ScriptedSource :=
  match s.lock with
  | .stopping _ =>
    if s.isReplayed then some { s with lock := .free, replay := none, isRunning := false } else none
  | _ => some s

def startLines (device : String) : List LogLine :=
  [⟨.info, "Mock capture started on " ++ device, false⟩]

def haltLines (s : ScriptedSource) : List LogLine :=
  match s.lock with
  | .stopping device => [⟨.info, "Mock capture stopped on " ++ device, false⟩]
  | _ => []

/-! ## Delivering -/

/-- What its other threads do to a scripted source. -/
inductive Delivery where
  /-- The replay goes on. -/
  | replay
  /-- A caller hands a frame in. -/
  | inject (frame : Frame)
  /-- That caller counts the frame and leaves. -/
  | countInjected
deriving DecidableEq

/-- The replay goes on, and may pass a frame to the sink. -/
def replayNext? (s : ScriptedSource) : Option (ScriptedSource × Option Frame) :=
  match s.replay with
  | some (.looking []) => some ({ s with replay := some .finished }, none)
  | some (.looking (f :: rest)) =>
    some ({ s with
      replay := some (if s.stopRequested then .finished else .delivering f rest) }, none)
  | some (.delivering f rest) => some ({ s with replay := some (.counting rest) }, some f)
  | some (.counting rest) =>
    some ({ s with replay := some (.looking rest), captured := s.captured + 1 }, none)
  | _ => none

/-- A caller hands a frame in: it is passed to the sink if one is kept. -/
def inject? (s : ScriptedSource) (frame : Frame) : Option (ScriptedSource × Option Frame) :=
  if s.lock ≠ .free then none
  else if s.hasSink then some ({ s with lock := .injecting }, some frame)
  else some (s, none)

/-- The frame that was handed in is counted. -/
def countInjected? (s : ScriptedSource) : Option (ScriptedSource × Option Frame) :=
  match s.lock with
  | .injecting => some ({ s with lock := .free, captured := s.captured + 1 }, none)
  | _ => none

def deliver? (s : ScriptedSource) : Delivery → Option (ScriptedSource × Option Frame)
  | .replay => s.replayNext?
  | .inject frame => s.inject? frame
  | .countInjected => s.countInjected?

/-- How many frames a replay may still deliver. -/
def framesAhead (s : ScriptedSource) : Nat :=
  match s.replay with
  | some (.looking rest) => rest.length
  | some (.delivering _ rest) => rest.length + 1
  | some (.counting rest) => rest.length + 1
  | _ => 0

/-- More turns than the replay can take, even if the source is yet to be started. -/
def turnBound (s : ScriptedSource) : Nat := 3 * (s.framesAhead + s.script.length) + 2

/-- A scripted source as a pipeline uses it, where its thread is not denied. -/
def source : CaptureSource ScriptedSource Delivery where
  devices := ScriptedSource.devices
  isRunning := ScriptedSource.isRunning
  captured := ScriptedSource.captured
  start? s device := s.start? device true
  halt? := halt?
  finishHalt? := finishHalt?
  turn? := deliver?
  startLines := startLines
  haltLines := haltLines
  threads := [.replay, .countInjected]
  turnBound := turnBound

/-! ## Its switches -/

/-- What other threads do to a scripted source whose switches can be thrown. -/
inductive Handling where
  | deliver (d : Delivery)
  | setFailOpen (fail : Bool)
  | setFailStart (fail : Bool)
deriving DecidableEq

def handle? (s : ScriptedSource) : Handling → Option (ScriptedSource × Option Frame)
  | .deliver d => s.deliver? d
  | .setFailOpen fail => some ({ s with failOpen := fail }, none)
  | .setFailStart fail => some ({ s with failStart := fail }, none)

/-- A scripted source whose switches are thrown while a pipeline uses it. -/
def switched : CaptureSource ScriptedSource Handling :=
  { source with turn? := handle?, threads := source.threads.map .deliver }

/-! ## A source by itself -/

/-- What one thread does to a scripted source. -/
inductive Turn where
  | start (device : String) (withSink : Bool)
  /-- A start while the operating system denies the thread. -/
  | startDenied (device : String) (withSink : Bool) (reason : String)
  | stop
  /-- The call that stops the capture goes on. -/
  | goOnStopping
  | deliver (d : Delivery)
  | setFailOpen (fail : Bool)
  | setFailStart (fail : Bool)
deriving DecidableEq

/-- What is seen of a turn. -/
inductive Event where
  | started (device : String)
  | refused (e : Error)
  | stopped
  /-- The replay passed a frame to the sink. -/
  | replayed (frame : Frame)
  /-- A frame that was handed in was passed to the sink. -/
  | injected (frame : Frame)
  /-- A frame that was handed in was dropped. -/
  | declined (frame : Frame)
  | reported (line : LogLine)
deriving DecidableEq

/-- What is seen of a delivery. -/
def eventsOf : Delivery → Option Frame → List Event
  | .inject _, some f => [.injected f]
  | .inject f, none => [.declined f]
  | _, some f => [.replayed f]
  | _, none => []

/-- The call that stops the capture goes on. -/
def goOnStopping? (s : ScriptedSource) : Option (ScriptedSource × List Event) :=
  match s.lock with
  | .stopping _ => s.finishHalt?.map (·, s.haltLines.map .reported ++ [.stopped])
  | _ => none

/-- One turn, unless it has to wait. -/
def turn? (s : ScriptedSource) : Turn → Option (ScriptedSource × List Event)
  | .start device withSink =>
    (s.start? device withSink).map fun
      | .ok t => (t, (startLines device).map .reported ++ [.started device])
      | .error e => (s, [.refused e])
  | .startDenied device withSink reason =>
    (s.startDenied? device withSink reason).map fun r => (r.1, [.refused r.2])
  | .stop => s.halt?.map (·, if s.device.isNone then [.stopped] else [])
  | .goOnStopping => s.goOnStopping?
  | .deliver d => (s.deliver? d).map fun r => (r.1, eventsOf d r.2)
  | .setFailOpen fail => some ({ s with failOpen := fail }, [])
  | .setFailStart fail => some ({ s with failStart := fail }, [])

/-- A scripted source and its callers. -/
def machine : Machine ScriptedSource Turn Event := ⟨turn?⟩

/-- Lets the replay and a call that stops it go on until neither can move. -/
def settle (s : ScriptedSource) : ScriptedSource × List Event :=
  machine.settle [.deliver .replay, .goOnStopping] s.turnBound s

/-- Lets the replay go on until it has delivered so many frames; the last of them
is not counted yet. -/
def replayUpTo (s : ScriptedSource) (frames : Nat) : ScriptedSource × List Event :=
  machine.takeAll s (List.replicate (3 * frames - 1) (.deliver .replay))

/-- Hands a frame in and counts it. -/
def inject (s : ScriptedSource) (frame : Frame) : ScriptedSource × List Event :=
  machine.takeAll s [.deliver (.inject frame), .deliver .countInjected]

/-- The frames that were passed to the sink. -/
def sunkOf (seen : List Event) : List Frame :=
  seen.filterMap fun
    | .replayed f => some f
    | .injected f => some f
    | _ => none

/-- What was reported on the way. -/
def linesOf (seen : List Event) : List LogLine :=
  seen.filterMap fun
    | .reported line => some line
    | _ => none

end ScriptedSource

end PacketWatch
