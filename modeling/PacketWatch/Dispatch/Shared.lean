/-
A dispatcher between threads.

The dispatcher takes the oldest item out of the queue in one turn and hands it on in the next.
In front of, between and behind these turns any thread may put items into the queue, and any may
change what handing on works on: it may close the pool, say.  However handing an item on ends,
the dispatcher goes on with the next one; it leaves when it has taken out the marker.
-/
import PacketWatch.Dispatch
import PacketWatch.Machine

namespace PacketWatch

/-- A queue, its dispatcher, and what handing on works on. -/
structure SharedDispatcher (σ α : Type) where
  queue : Queue α
  dispatcher : Dispatcher α := .waiting
  state : σ

namespace SharedDispatcher

/-- What one thread does. -/
inductive Turn (σ α : Type) where
  /-- Another thread puts an item into the queue. -/
  | push (item : QueueItem α)
  /-- Another thread changes what handing on works on. -/
  | change (f : σ → σ)
  /-- The dispatcher goes on. -/
  | dispatch

/-- What is seen of a turn. -/
inductive Event (α : Type) where
  | pushed (item : QueueItem α)
  /-- The dispatcher handed an item on, and this is how it ended. -/
  | handed (a : α) (handing : Handing)
  /-- The dispatcher took the marker out and left. -/
  | ended
  | reported (line : LogLine)
deriving DecidableEq

variable {σ α : Type}

/-- The dispatcher takes the oldest item out; it waits while there is none. -/
def fetch? (d : SharedDispatcher σ α) : Option (SharedDispatcher σ α × List (Event α)) :=
  match d.queue.pop? with
  | none => none
  | some (.data a, rest) => some ({ d with queue := rest, dispatcher := .holding a }, [])
  | some (.endOfStream, rest) =>
    some ({ d with queue := rest, dispatcher := .gone }, [.ended])

/-- The dispatcher goes on; `hand` says how handing on ends and what becomes of what it works
on. -/
def dispatch? (hand : σ → α → Handing × σ) (d : SharedDispatcher σ α) :
    Option (SharedDispatcher σ α × List (Event α)) :=
  match d.dispatcher with
  | .waiting => d.fetch?
  | .holding a =>
    let (handing, state) := hand d.state a
    some ({ d with dispatcher := .waiting, state := state },
      .handed a handing :: handing.lines.map .reported)
  | _ => none

/-- One turn, unless it has to wait. -/
def turn? (hand : σ → α → Handing × σ) (d : SharedDispatcher σ α) :
    Turn σ α → Option (SharedDispatcher σ α × List (Event α))
  | .push item => some ({ d with queue := d.queue.push item }, [.pushed item])
  | .change f => some ({ d with state := f d.state }, [])
  | .dispatch => d.dispatch? hand

/-- A dispatcher and the threads around it. -/
def machine (hand : σ → α → Handing × σ) :
    Machine (SharedDispatcher σ α) (Turn σ α) (Event α) := ⟨turn? hand⟩

end SharedDispatcher

end PacketWatch
