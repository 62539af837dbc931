/-
The program's own thread beside the threads of its pipeline.

It starts the pipeline, looks at the store from time to time and prints what is
new, until the time is over or as many packets are stored as the limit says.
Then it stops the pipeline, looks once more and reads the two counts for the
last line, one after the other.  While a call goes on, the thread waits for its
answer.

When the time is over is not up to the program: a turn of its thread is told.
-/
import PacketWatch.CommandLine.Printing
import PacketWatch.Pipeline.Schedule

namespace PacketWatch

/-- How far the program's own thread has come. -/
inductive Watch.Place where
  /-- About to start the pipeline. -/
  | starting (device : String)
  | awaitingStart
  /-- The pipeline did not start; the thread gives up. -/
  | refused
  /-- Looks at the store, unless the time is over. -/
  | watching
  /-- Has looked; compares the number of stored packets with the limit. -/
  | comparing
  /-- About to stop the pipeline. -/
  | stopping
  | awaitingStop
  /-- The pipeline has stopped; looks at the store for the last time. -/
  | looking
  /-- About to read how many frames were captured. -/
  | counting
  /-- About to read how many packets are stored, and to print the last line. -/
  | summing (captured : Nat)
  | done
deriving DecidableEq

/-- A pipeline, and the thread that watches it. -/
structure Watch (σ : Type) where
  pipeline : Pipeline σ
  place : Watch.Place
  printing : Printing := {}

namespace Watch

variable {σ α : Type}

/-- What one thread does. -/
inductive Turn (α : Type) where
  /-- A thread of the pipeline, or the call that is going on. -/
  | pipeline (t : Pipeline.Turn α)
  /-- The program's own thread, which is told whether the time is over. -/
  | own (late : Bool)

/-- What is seen of a turn. -/
inductive Event where
  | pipeline (e : Pipeline.Event)
  /-- A look at the store printed these packets. -/
  | looked (packets : List Packet)
  /-- The counts of the last line. -/
  | summed (captured decoded printed : Nat)
deriving DecidableEq

/-- A pipeline that is about to be started. -/
def ofSource (source : σ) (workerCount : Nat) (device : String) : Watch σ where
  pipeline := Pipeline.ofSource source workerCount
  place := .starting device

/-- The thread hears the answer that it waits for. -/
def Place.hear : Place → Pipeline.Event → Place
  | awaitingStart, .returned answer => if answer then watching else refused
  | awaitingStop, .returned _ => looking
  | place, _ => place

/-- Calls the pipeline and waits for the answer, which may come at once. -/
def call? (S : CaptureSource σ α) (w : Watch σ) (c : Pipeline.Call) (place : Place) :
    Option (Watch σ × List Event) :=
  (w.pipeline.turn? S (.call c)).map fun
    | (p, seen) => ({ w with pipeline := p, place := seen.foldl Place.hear place },
        seen.map .pipeline)

/-- Looks at the store and prints what is new, as far as the limit allows. -/
def look (limit : Option Nat) (w : Watch σ) (place : Place) : Watch σ × List Event :=
  let (packets, printing) := w.printing.poll limit w.pipeline.store
  ({ w with place := place, printing := printing }, [.looked packets])

/-- Whether as many packets are stored as a limit says. -/
def isReached (limit : Option Nat) (count : Nat) : Bool := limit.any (· ≤ count)

/-- The program's own thread goes on. -/
def own? (S : CaptureSource σ α) (limit : Option Nat) (w : Watch σ) (late : Bool) :
    Option (Watch σ × List Event) :=
  match w.place with
  | .starting device => w.call? S (.start device) .awaitingStart
  | .watching =>
    if late then some ({ w with place := .stopping }, []) else some (w.look limit .comparing)
  | .comparing =>
    some ({ w with
      place := if isReached limit w.pipeline.processed then .stopping else .watching }, [])
  | .stopping => w.call? S .stop .awaitingStop
  | .looking => some (w.look limit .counting)
  | .counting => some ({ w with place := .summing (w.pipeline.captured S) }, [])
  | .summing captured =>
    some ({ w with place := .done },
      [.summed captured w.pipeline.processed w.printing.printed])
  | .awaitingStart | .awaitingStop | .refused | .done => none

/-- One turn, unless it has to wait.  Nobody but the program's own thread calls the pipeline, and
its one start finds a pool that is open. -/
def turn? (S : CaptureSource σ α) (limit : Option Nat) (w : Watch σ) :
    Turn α → Option (Watch σ × List Event)
  | .pipeline (.call _) => none
  | .pipeline (.callDenied _) => none
  | .pipeline t =>
    (w.pipeline.turn? S t).map fun
      | (p, seen) => ({ w with pipeline := p, place := seen.foldl Place.hear w.place },
          seen.map .pipeline)
  | .own late => w.own? S limit late

/-- The program's own thread and the threads of its pipeline. -/
def machine (S : CaptureSource σ α) (limit : Option Nat) : Machine (Watch σ) (Turn α) Event :=
  ⟨turn? S limit⟩

/-- Lets the threads of the pipeline go on until none can move. -/
def settle (S : CaptureSource σ α) (limit : Option Nat) (w : Watch σ) : Watch σ × List Event :=
  (machine S limit).settle ((w.pipeline.threads S).map .pipeline) (w.pipeline.roundBound S) w

/-- One order of the threads.  The program's own thread looks once while the pipeline runs, if
it has time to, and once after the pipeline was stopped. -/
def settleAll (S : CaptureSource σ α) (limit : Option Nat) (w : Watch σ) (late : Bool) :
    Watch σ × List Event :=
  let m := machine S limit
  let calling := m.take w (.own late)
  let starting := calling.1.settle S limit
  let watching := m.takeAll starting.1 [.own late, .own true, .own true, .own true]
  let stopping := watching.1.settle S limit
  let ending := m.takeAll stopping.1 [.own true, .own true, .own true]
  (ending.1, calling.2 ++ starting.2 ++ watching.2 ++ stopping.2 ++ ending.2)

/-- The packets that were printed, one look behind the other. -/
def printedOf (seen : List Event) : List Packet :=
  seen.flatMap fun
    | .looked packets => packets
    | _ => []

end Watch

end PacketWatch
