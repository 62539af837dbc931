/-
The turns of the threads of a pipeline.

A turn touches the shared state once: a thread of the source passes a frame to
the sink, the dispatcher takes a frame out of the queue or hands it to the pool,
a worker takes, decodes or counts a task, a caller gets the control lock, or the
holder of that lock goes on.  To stop, the holder halts the source first, so
that a source which keeps its promise has nothing left to deliver when the end
marker goes into the queue; then it waits for the dispatcher, and only then
closes the pool.

The operating system may deny a thread wherever one is asked for.  A call that
gets no new pool ends there.  A start that gets no dispatcher has started the
source already: it halts the source again and empties the queue.
-/
import PacketWatch.Pipeline.Basic

namespace PacketWatch.Pipeline

variable {σ α : Type}

/-- What a caller asks for once it has the control lock. -/
inductive Call where
  | start (device : String)
  | stop
  | restart
deriving DecidableEq

/-- What one thread does to a pipeline. -/
inductive Turn (α : Type) where
  /-- A thread of the source. -/
  | source (a : α)
  | dispatch
  | work (index : Nat)
  /-- A caller gets the control lock. -/
  | call (c : Call)
  /-- The holder of the control lock goes on. -/
  | control
  /-- A caller gets the control lock to start the pipeline, and is denied the threads of a pool. -/
  | callDenied (reason : String)
  /-- The holder of the control lock is denied a thread. -/
  | controlDenied (reason : String)
deriving DecidableEq

/-- What is seen of a turn. -/
inductive Event where
  /-- A frame went into the queue. -/
  | sunk (frame : Frame)
  /-- The source has started: a run begins. -/
  | opened
  /-- The dispatcher of a run was set to work. -/
  | spawned
  /-- The end marker of a run went into the queue. -/
  | marked
  /-- The dispatcher met an end marker and left. -/
  | ended
  /-- A new pool took the place of the old one. -/
  | renewed
  /-- The dispatcher handed a frame to the pool. -/
  | handed (frame : Frame)
  /-- The pool refused a frame. -/
  | dropped (frame : Frame)
  /-- A worker decoded a frame, and stored its packet if it has one. -/
  | performed (frame : Frame)
  /-- A restart cleared the store. -/
  | cleared
  /-- A restart dropped an item of the queue. -/
  | discarded (item : QueueItem Frame)
  /-- A thread was denied. -/
  | denied
  /-- A start that got no dispatcher dropped an item of the queue. -/
  | abandoned (item : QueueItem Frame)
  /-- A call released the control lock with an answer. -/
  | returned (answer : Bool)
  | reported (line : LogLine)
deriving DecidableEq

/-- Lines as they are seen. -/
def reports (lines : List LogLine) : List Event := lines.map .reported

/-- A line of the thread that holds the control lock. -/
def say (level : LogLevel) (message : String) : Event := .reported ⟨level, message, false⟩

/-! ## The source, the dispatcher and the workers -/

/-- A thread of the source goes on. -/
def sourceTurn? (S : CaptureSource σ α) (p : Pipeline σ) (a : α) :
    Option (Pipeline σ × List Event) :=
  (S.turn? p.source a).map fun
    | (source, none) => ({ p with source := source }, [])
    | (source, some frame) =>
      ({ p with source := source, queue := p.queue.push (.data frame) }, [.sunk frame])

/-- The dispatcher takes the next item out. -/
def fetch? (p : Pipeline σ) : Option (Pipeline σ × List Event) :=
  match p.queue.pop? with
  | none => none
  | some (.data frame, rest) => some ({ p with queue := rest, dispatcher := .holding frame }, [])
  | some (.endOfStream, rest) => some ({ p with queue := rest, dispatcher := .gone }, [.ended])

/-- Hands a frame to a pool. -/
def hand (pool : Pool Frame) (frame : Frame) : Handing × Pool Frame :=
  match pool.submit frame with
  | (true, pool) => (.accepted, pool)
  | (false, pool) => (.refused, pool)

/-- The dispatcher goes on. -/
def dispatch? (p : Pipeline σ) : Option (Pipeline σ × List Event) :=
  match p.dispatcher with
  | .waiting => p.fetch?
  | .holding frame =>
    let (handing, pool) := hand p.pool frame
    some ({ p with pool := pool, dispatcher := .waiting },
      (if handing = .accepted then .handed frame else .dropped frame) :: reports handing.lines)
  | _ => none

/-- What a worker makes of a frame. -/
def decoded (frame : Frame) : Except Error Packet :=
  withContext ("Frame captured at " ++ frame.timestamp.text) (decode frame)

/-- How the task of a frame ends. -/
def outcome (frame : Frame) : Outcome :=
  match decoded frame with
  | .ok _ => .completed
  | .error e => .failed e

/-- The store after the task of a frame. -/
def storeAfter (store : PacketStore) (frame : Frame) : PacketStore :=
  match decoded frame with
  | .ok packet => (store.add packet).2
  | .error _ => store

/-- What is seen of a worker's turn. -/
def workerEvent? : Pool.Event Frame → Option Event
  | .performed frame => some (.performed frame)
  | .reported line => some (.reported line)
  | _ => none

/-- A worker goes on; the packet of a frame is stored while it is performed. -/
def work? (p : Pipeline σ) (index : Nat) : Option (Pipeline σ × List Event) :=
  (p.pool.work? outcome index).map fun
    | (pool, seen) =>
      ({ p with
        pool := pool
        store := (Pool.performedOf seen).foldl storeAfter p.store }, seen.filterMap workerEvent?)

/-! ## Calls -/

/-- A caller begins to start the pipeline; a pool that was closed is replaced. -/
def beginStart (p : Pipeline σ) (device : String) : Pipeline σ × List Event :=
  if p.isRunning then
    (p, [say .warn ("Capture already running; ignoring start on " ++ device), .returned false])
  else if p.pool.isStopped then
    ({ p with pool := Pool.ofSize p.workerCount, control := .opening device },
      [.reported (Pool.openingLine p.workerCount), .renewed])
  else ({ p with control := .opening device }, [])

/-- A caller begins to stop the pipeline. -/
def beginStop (p : Pipeline σ) : Pipeline σ × List Event :=
  if p.isRunning then ({ p with control := .stopping .done }, []) else (p, [.returned true])

/-- A caller begins to restart the pipeline. -/
def beginRestart (p : Pipeline σ) : Pipeline σ × List Event :=
  match p.device with
  | none => (p, [say .warn "Restart requested before any capture was started", .returned false])
  | some device =>
    if p.isRunning then ({ p with control := .stopping (.restart device) }, [])
    else ({ p with control := .clearing device }, [])

/-- A caller gets the control lock, if nobody holds it. -/
def call? (p : Pipeline σ) (c : Call) : Option (Pipeline σ × List Event) :=
  match p.control with
  | .free =>
    match c with
    | .start device => some (p.beginStart device)
    | .stop => some p.beginStop
    | .restart => some p.beginRestart
  | _ => none

/-! ## The holder of the control lock -/

/-- Starts the source, which may refuse. -/
def open? (S : CaptureSource σ α) (p : Pipeline σ) (device : String) :
    Option (Pipeline σ × List Event) :=
  (S.start? p.source device).map fun
    | .ok source =>
      ({ p with source := source, control := .spawning device },
        .opened :: reports (S.startLines device))
    | .error e =>
      ({ p with control := .free },
        [say .warn ("Failed to start capture on " ++ device ++ ": " ++ e.message), .returned false])

/-- Sets the dispatcher to work; the pipeline is running. -/
def spawn (p : Pipeline σ) (device : String) : Pipeline σ × List Event :=
  ({ p with
    dispatcher := .waiting
    device := some device
    isRunning := true
    control := .free },
    [.spawned,
      say .info ("Capture started on " ++ device ++ " with " ++ toString p.pool.size ++ " workers"),
      .returned true])

/-- The pipeline has stopped; what follows? -/
def finishStop (S : CaptureSource σ α) (p : Pipeline σ) (after : AfterStop) :
    Pipeline σ × List Event :=
  let line := say .info
    ("Capture stopped: " ++ toString (p.captured S) ++ " captured, " ++ toString p.processed ++
      " processed")
  match after with
  | .done => ({ p with isRunning := false, control := .free }, [line, .returned true])
  | .restart device => ({ p with isRunning := false, control := .clearing device }, [line])

/-- Begins to close the pool, in a turn that leads to the given place. -/
def closePool (p : Pipeline σ) (next : Control) : Pipeline σ × List Event :=
  ({ p with pool := p.pool.close, control := next },
    if p.pool.isStopped then [] else [.reported p.pool.closingLine])

/-- Waits until the dispatcher is gone, and begins to close the pool. -/
def join? (p : Pipeline σ) (after : AfterStop) : Option (Pipeline σ × List Event) :=
  match p.dispatcher with
  | .waiting => none
  | .holding _ => none
  | _ => some ({ p with dispatcher := .absent }.closePool (.closing after))

/-- Goes on closing the pool, and does what follows once that is done. -/
def goOnClosing? (p : Pipeline σ) (next : Pipeline σ → Pipeline σ × List Event) :
    Option (Pipeline σ × List Event) :=
  if p.pool.closing = .returned then some (next p)
  else
    p.pool.goOnClosing?.map fun pool =>
      ({ p with pool := pool },
        if pool.closing = .returned then [.reported Pool.closedLine] else [])

/-- Clears the store; what the source has delivered so far no longer counts. -/
def clearStore (S : CaptureSource σ α) (p : Pipeline σ) (device : String) :
    Pipeline σ × List Event :=
  ({ p with
    store := p.store.clear
    baseline := S.captured p.source
    control := .discarding device 0 }, [.cleared])

/-- Drops one item of the queue, or is done if there is none. -/
def discard (p : Pipeline σ) (device : String) (count : Nat) : Pipeline σ × List Event :=
  match p.queue.pop? with
  | some (item, rest) =>
    ({ p with queue := rest, control := .discarding device (count + 1) }, [.discarded item])
  | none =>
    ({ p with control := .renewing device },
      if count = 0 then []
      else [say .debug ("Discarded " ++ toString count ++ " queued items on restart")])

/-- Begins to replace the pool. -/
def renewPool (p : Pipeline σ) (device : String) : Pipeline σ × List Event :=
  let (q, seen) := p.closePool (.retiring device)
  (q, .reported (Pool.openingLine p.workerCount) :: seen)

/-- Takes a new pool and begins to start. -/
def startAgain (device : String) (p : Pipeline σ) : Pipeline σ × List Event :=
  let (q, seen) := { p with pool := Pool.ofSize p.workerCount }.beginStart device
  (q, .renewed :: say .info ("Restarting capture on " ++ device) :: seen)

/-- Drops one item of the queue after a start in vain, or is done if there is none. -/
def abandon (p : Pipeline σ) : Pipeline σ × List Event :=
  match p.queue.pop? with
  | some (item, rest) => ({ p with queue := rest }, [.abandoned item])
  | none => ({ p with control := .free }, [.returned false])

/-- The holder of the control lock goes on. -/
def control? (S : CaptureSource σ α) (p : Pipeline σ) : Option (Pipeline σ × List Event) :=
  match p.control with
  | .free => none
  | .opening device => p.open? S device
  | .spawning device => some (p.spawn device)
  | .stopping after =>
    (S.halt? p.source).map fun source => ({ p with source := source, control := .halting after }, [])
  | .halting after =>
    (S.finishHalt? p.source).map fun source =>
      ({ p with source := source, control := .marking after }, reports (S.haltLines p.source))
  | .marking after =>
    some ({ p with queue := p.queue.push .endOfStream, control := .joining after }, [.marked])
  | .joining after => p.join? after
  | .closing after => p.goOnClosing? fun q => q.finishStop S after
  | .clearing device => some (p.clearStore S device)
  | .discarding device count => some (p.discard device count)
  | .renewing device => some (p.renewPool device)
  | .retiring device => p.goOnClosing? (startAgain device)
  | .withdrawing =>
    (S.halt? p.source).map fun source => ({ p with source := source, control := .awaiting }, [])
  | .awaiting =>
    (S.finishHalt? p.source).map fun source =>
      ({ p with source := source, control := .emptying }, reports (S.haltLines p.source))
  | .emptying => some p.abandon

/-! ## Threads that are denied -/

/-- What is seen of a call that gets no pool. -/
def poolDenied (p : Pipeline σ) (reason : String) : List Event :=
  [.reported (Pool.openingLine p.workerCount), .denied,
    say .error ("Failed to create worker pool: " ++ (Pool.denial reason).message), .returned false]

/-- A caller gets the control lock to start the pipeline, which needs a new pool and gets none. -/
def callDenied? (p : Pipeline σ) (reason : String) : Option (Pipeline σ × List Event) :=
  match p.control with
  | .free => if !p.isRunning && p.pool.isStopped then some (p, p.poolDenied reason) else none
  | _ => none

/-- The holder of the control lock asks for a thread and does not get it. -/
def controlDenied? (p : Pipeline σ) (reason : String) : Option (Pipeline σ × List Event) :=
  match p.control with
  | .spawning _ =>
    some ({ p with control := .withdrawing },
      [.denied, say .error ("Failed to spawn dispatcher thread: " ++ reason)])
  | .renewing _ => some ({ p with control := .free }, p.poolDenied reason)
  | _ => none

/-! ## All threads -/

/-- One turn, unless it has to wait. -/
def turn? (S : CaptureSource σ α) (p : Pipeline σ) : Turn α → Option (Pipeline σ × List Event)
  | .source a => p.sourceTurn? S a
  | .dispatch => p.dispatch?
  | .work index => p.work? index
  | .call c => p.call? c
  | .control => p.control? S
  | .callDenied reason => p.callDenied? reason
  | .controlDenied reason => p.controlDenied? reason

/-- A pipeline around a source, and all its threads. -/
def machine (S : CaptureSource σ α) : Machine (Pipeline σ) (Turn α) Event := ⟨turn? S⟩

end PacketWatch.Pipeline
