/-
The pipeline from a capture source to the store.

  source, sink -> queue, dispatcher -> pool, decode -> store

A pipeline is stopped or running.  One lock serializes the calls that start,
stop and restart it; `Control` says how far the holder of that lock has come.
What a pipeline answers about itself is read off its state.
-/
import PacketWatch.Decode
import PacketWatch.Dispatch
import PacketWatch.Pool
import PacketWatch.Source.Basic
import PacketWatch.Store

namespace PacketWatch

/-- What follows when a running pipeline has been stopped. -/
inductive AfterStop where
  | done
  /-- The data is discarded and the capture starts again on a device. -/
  | restart (device : String)
deriving DecidableEq

/-- How far the holder of the control lock has come. -/
inductive Control where
  /-- Nobody holds the lock. -/
  | free
  /-- About to start the source. -/
  | opening (device : String)
  /-- The source has started; about to set the dispatcher to work. -/
  | spawning (device : String)
  /-- About to tell the source to halt. -/
  | stopping (after : AfterStop)
  /-- Waits until the source has halted. -/
  | halting (after : AfterStop)
  /-- About to put the end marker into the queue. -/
  | marking (after : AfterStop)
  /-- Waits until the dispatcher is gone. -/
  | joining (after : AfterStop)
  /-- Closes the pool. -/
  | closing (after : AfterStop)
  /-- About to clear the store. -/
  | clearing (device : String)
  /-- Clears the queue; so many items were dropped. -/
  | discarding (device : String) (count : Nat)
  /-- About to replace the pool. -/
  | renewing (device : String)
  /-- Closes the pool that is replaced. -/
  | retiring (device : String)
  /-- The dispatcher was denied its thread; about to tell the source to halt. -/
  | withdrawing
  /-- Waits until the source that was started in vain has halted. -/
  | awaiting
  /-- Drops what that source has delivered. -/
  | emptying
deriving DecidableEq

/-- A pipeline around a source with states of type `σ`. -/
structure Pipeline (σ : Type) where
  source : σ
  queue : Queue Frame := {}
  dispatcher : Dispatcher Frame := .absent
  pool : Pool Frame
  store : PacketStore := {}
  control : Control := .free
  isRunning : Bool := false
  /-- How many workers a pool gets. -/
  workerCount : Nat
  /-- The count of the source at the last restart. -/
  baseline : Nat := 0
  /-- The device of the last start that succeeded. -/
  device : Option String := none

namespace Pipeline

variable {σ α : Type}

/-- A stopped pipeline around a source, with at least one worker.  There is none where a worker is
denied its thread. -/
def ofSource (source : σ) (workerCount : Nat) : Pipeline σ where
  source := source
  pool := Pool.ofSize workerCount
  workerCount := max workerCount 1

/-- What is reported when a pipeline is made. -/
def openingLines (p : Pipeline σ) : List LogLine := [Pool.openingLine p.workerCount]

/-- How many frames the source has delivered since the last restart. -/
def captured (S : CaptureSource σ α) (p : Pipeline σ) : Nat := S.captured p.source - p.baseline

/-- How many packets are stored. -/
def processed (p : Pipeline σ) : Nat := p.store.count

/-- What a reader of logs sees of a pipeline. -/
def text (p : Pipeline σ) : String :=
  "PipelineController \x7b running: " ++ toString p.isRunning ++ ", worker_count: " ++
    toString p.workerCount ++ ", queue_size: " ++ toString p.queue.size ++ ", processed: " ++
    toString p.processed ++ " \x7d"

end Pipeline

end PacketWatch
