/-
A pool of workers.

Tasks wait in one channel, and each worker takes the next, performs it and
counts how it ended; a task that fails or crashes costs nothing but itself.
Closing the pool stops further tasks, then sends one message to leave for each
worker, behind all tasks that were accepted, and waits until all workers have
left.  Only the first call to close does so.

There is a pool only if the operating system grants every worker its thread.
-/
import PacketWatch.Error
import PacketWatch.Log
import PacketWatch.Machine

namespace PacketWatch

/-- How a task ended. -/
inductive Outcome where
  | completed
  | failed (e : Error)
  /-- The task was cut off; what it left behind is text or nothing readable. -/
  | crashed (left : Option String)
deriving DecidableEq

namespace Outcome

def isCompleted : Outcome → Bool
  | completed => true
  | _ => false

/-- What a worker reports of it. -/
def lines : Outcome → List LogLine
  | completed => []
  | failed e => [⟨.error, "Task failed: " ++ e.message, true⟩]
  | crashed left => [⟨.error, "Task panicked: " ++ left.getD "unknown panic payload", true⟩]

end Outcome

/-- What waits for a worker. -/
inductive Message (τ : Type) where
  | run (task : τ)
  | leave
deriving DecidableEq

/-- What a worker is doing. -/
inductive Worker (τ : Type) where
  | waiting
  | holding (task : τ)
  /-- The task has ended and is not counted yet. -/
  | counting (outcome : Outcome)
  | gone
deriving DecidableEq

/-- How far the call that closes a pool has come. -/
inductive Closing where
  | notBegun
  /-- So many messages to leave are still to be sent; then it waits. -/
  | sending (left : Nat)
  | returned
deriving DecidableEq

/-- Workers and what waits for them. -/
structure Pool (τ : Type) where
  channel : List (Message τ)
  workers : List (Worker τ)
  closing : Closing
  completed : Nat
  failed : Nat
deriving DecidableEq

namespace Pool

variable {τ : Type}

/-- A pool of waiting workers, at least one. -/
def ofSize (count : Nat) : Pool τ where
  channel := []
  workers := List.replicate (max count 1) .waiting
  closing := .notBegun
  completed := 0
  failed := 0

instance : Inhabited (Pool τ) := ⟨ofSize 1⟩

/-- Why there is no pool, where a worker was denied its thread. -/
def denial (reason : String) : Error :=
  (Error.io reason []).withContext "Failed to spawn worker thread"

def size (p : Pool τ) : Nat := p.workers.length

def isStopped (p : Pool τ) : Bool := p.closing != .notBegun

/-- How many tasks have ended one way or another. -/
def executed (p : Pool τ) : Nat := p.completed + p.failed

/-- What a reader of logs sees of a pool. -/
def text (p : Pool τ) : String :=
  "WorkerPool \x7b worker_count: " ++ toString p.size ++ ", stopped: " ++ toString p.isStopped ++
    ", stats: PoolStats \x7b tasks_completed: " ++ toString p.completed ++ ", tasks_failed: " ++
    toString p.failed ++ " \x7d \x7d"

/-- What is reported when a pool of so many workers is made. -/
def openingLine (count : Nat) : LogLine :=
  ⟨.debug, "Creating worker pool with " ++ toString count ++ " threads", false⟩

def closingLine (p : Pool τ) : LogLine :=
  ⟨.debug, "Shutting down worker pool (" ++ toString p.size ++ " workers)", false⟩

def closedLine : LogLine := ⟨.debug, "Worker pool stopped", false⟩

/-! ## Turns -/

/-- What one thread does to a pool. -/
inductive Turn (τ : Type) where
  /-- Somebody hands in a task. -/
  | submit (task : τ)
  /-- Somebody calls for the pool to be closed. -/
  | close
  /-- The call that closes the pool goes on. -/
  | goOnClosing
  /-- A worker goes on. -/
  | work (index : Nat)
deriving DecidableEq

/-- What is seen of a turn. -/
inductive Event (τ : Type) where
  | accepted (task : τ)
  | rejected (task : τ)
  | performed (task : τ)
  /-- The call that closed the pool returns. -/
  | closed
  | reported (line : LogLine)
deriving DecidableEq

/-- Hands in a task; refused once the pool is being closed. -/
def submit (p : Pool τ) (task : τ) : Bool × Pool τ :=
  if p.isStopped then (false, p) else (true, { p with channel := p.channel ++ [.run task] })

/-- Begins to close the pool, unless that has begun. -/
def close (p : Pool τ) : Pool τ :=
  if p.isStopped then p else { p with closing := .sending p.size }

/-- The call that closes the pool sends one more message to leave; after the
last it returns as soon as no worker is left. -/
def goOnClosing? (p : Pool τ) : Option (Pool τ) :=
  match p.closing with
  | .sending (left + 1) => some { p with channel := p.channel ++ [.leave], closing := .sending left }
  | .sending 0 =>
    if p.workers.all fun w => w matches .gone then some { p with closing := .returned } else none
  | _ => none

def setWorker (p : Pool τ) (index : Nat) (w : Worker τ) : Pool τ :=
  { p with workers := p.workers.set index w }

/-- Counts how a task ended. -/
def count (p : Pool τ) (outcome : Outcome) : Pool τ :=
  if outcome.isCompleted then { p with completed := p.completed + 1 }
  else { p with failed := p.failed + 1 }

/-- A worker takes the next message. -/
def receive? (p : Pool τ) (index : Nat) : Option (Pool τ) :=
  match p.channel with
  | [] => none
  | .run task :: rest => some ({ p with channel := rest }.setWorker index (.holding task))
  | .leave :: rest => some ({ p with channel := rest }.setWorker index .gone)

/-- A worker goes on; `perform` says how a task ends. -/
def work? (perform : τ → Outcome) (p : Pool τ) (index : Nat) : Option (Pool τ × List (Event τ)) :=
  match p.workers[index]? with
  | some .waiting => (p.receive? index).map (·, [])
  | some (.holding task) =>
    some (p.setWorker index (.counting (perform task)), [.performed task])
  | some (.counting outcome) =>
    some ((p.count outcome).setWorker index .waiting, outcome.lines.map .reported)
  | _ => none

/-- One turn, unless it has to wait. -/
def turn? (perform : τ → Outcome) (p : Pool τ) : Turn τ → Option (Pool τ × List (Event τ))
  | .submit task =>
    match p.submit task with
    | (true, q) => some (q, [.accepted task])
    | (false, q) => some (q, [.rejected task])
  | .close => some (p.close, if p.isStopped then [] else [.reported p.closingLine])
  | .goOnClosing =>
    p.goOnClosing?.map fun q =>
      (q, if q.closing = .returned then [.reported closedLine, .closed] else [])
  | .work index => p.work? perform index

/-- The threads that hand in tasks, the call that closes the pool, and the
workers. -/
def machine (perform : τ → Outcome) : Machine (Pool τ) (Turn τ) (Event τ) := ⟨turn? perform⟩

/-! ## Without a sender -/

/-- Whether nobody can send to the workers any more: behind the last message to leave, the call
that closes the pool drops the sender. -/
def isCutOff (p : Pool τ) : Bool := p.closing matches .sending 0 | .returned

/-- A worker goes on; one that finds the channel empty and the sender gone gives up and leaves. -/
def workOrGiveUp? (perform : τ → Outcome) (p : Pool τ) (index : Nat) :
    Option (Pool τ × List (Event τ)) :=
  match p.workers[index]?, p.channel with
  | some .waiting, [] => if p.isCutOff then some (p.setWorker index .gone, []) else none
  | _, _ => p.work? perform index

/-- One turn of a pool whose workers may give up. -/
def turnOrGiveUp? (perform : τ → Outcome) (p : Pool τ) : Turn τ → Option (Pool τ × List (Event τ))
  | .work index => p.workOrGiveUp? perform index
  | t => p.turn? perform t

/-- The threads of a pool whose workers may give up.  None ever does, so nothing else of the
project asks for it. -/
def impatient (perform : τ → Outcome) : Machine (Pool τ) (Turn τ) (Event τ) :=
  ⟨turnOrGiveUp? perform⟩

/-! ## Settling -/

/-- The threads that go on by themselves. -/
def threads (p : Pool τ) : List (Turn τ) :=
  .goOnClosing :: (List.range p.size).map .work

/-- More turns than the pool can take by itself. -/
def turnBound (p : Pool τ) : Nat := 3 * p.channel.length + 6 * p.size + 2

/-- Lets all threads go on until none can move. -/
def settle (perform : τ → Outcome) (p : Pool τ) : Pool τ × List (Event τ) :=
  (machine perform).settle p.threads p.turnBound p

/-- What was reported on the way. -/
def linesOf (seen : List (Event τ)) : List LogLine :=
  seen.filterMap fun
    | .reported line => some line
    | _ => none

/-- The tasks that were performed on the way. -/
def performedOf (seen : List (Event τ)) : List τ :=
  seen.filterMap fun
    | .performed task => some task
    | _ => none

end Pool

end PacketWatch
