/-
One order of the threads of a pipeline.

All threads take turns in a circle until none can move: everything that the
source delivers has been decoded, or waits in the queue of a pipeline that is
stopped.
-/
import PacketWatch.Pipeline.Turn

namespace PacketWatch.Pipeline

variable {σ α : Type}

/-- The threads that go on by themselves. -/
def threads (S : CaptureSource σ α) (p : Pipeline σ) : List (Turn α) :=
  S.threads.map .source ++ .dispatch :: (List.range p.workerCount).map .work ++ [.control]

/-- More rounds than the threads can go. -/
def roundBound (S : CaptureSource σ α) (p : Pipeline σ) : Nat :=
  8 * (S.turnBound p.source + p.queue.size + p.pool.channel.length + p.workerCount + 4)

/-- Lets all threads go on until none can move. -/
def settle (S : CaptureSource σ α) (p : Pipeline σ) : Pipeline σ × List Event :=
  (machine S).settle (p.threads S) (p.roundBound S) p

/-- Takes a turn, then lets all threads go on. -/
def settleAfter (S : CaptureSource σ α) (p : Pipeline σ) (t : Turn α) : Pipeline σ × List Event :=
  let (q, seen) := (machine S).take p t
  let (r, later) := q.settle S
  (r, seen ++ later)

/-- Takes the turns of a caller of the source, then lets all threads go on. -/
def settleAfterAll (S : CaptureSource σ α) (p : Pipeline σ) (turns : List α) :
    Pipeline σ × List Event :=
  let (q, seen) := (machine S).takeAll p (turns.map .source)
  let (r, later) := q.settle S
  (r, seen ++ later)

/-- Calls the pipeline and waits for the answer. -/
def call (S : CaptureSource σ α) (p : Pipeline σ) (c : Call) : Pipeline σ × List Event :=
  p.settleAfter S (.call c)

/-- Stops the pipeline for good and closes its pool. -/
def release (S : CaptureSource σ α) (p : Pipeline σ) : Pipeline σ × List Event :=
  let (q, seen) := p.call S .stop
  let machine := Pool.machine outcome
  let (pool, closing) := machine.take q.pool .close
  let (pool, closed) := pool.settle outcome
  ({ q with pool := pool }, seen ++ (closing ++ closed).filterMap workerEvent?)

/-- The answer of a call. -/
def answerOf (seen : List Event) : Bool :=
  (seen.findSome? fun
    | .returned answer => some answer
    | _ => none).getD false

/-- The frames that went into the queue. -/
def sunkOf (seen : List Event) : List Frame :=
  seen.filterMap fun
    | .sunk frame => some frame
    | _ => none

/-- What was reported on the way. -/
def linesOf (seen : List Event) : List LogLine :=
  seen.filterMap fun
    | .reported line => some line
    | _ => none

end PacketWatch.Pipeline
