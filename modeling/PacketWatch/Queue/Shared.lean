/-
A queue between threads.

Any number of producers put items in, and one consumer takes them out.  A consumer
that clears the queue removes one item a turn, so items may come in between, and it
is done when it finds the queue empty.
-/
import PacketWatch.Machine
import PacketWatch.Queue

namespace PacketWatch

/-- A queue and its consumer. -/
structure SharedQueue (α : Type) where
  queue : Queue α := {}
  /-- How many items the consumer has dropped, while it clears the queue. -/
  clearing : Option Nat := none

namespace SharedQueue

/-- What one thread does to a queue; producers are named by `ι`. -/
inductive Turn (ι α : Type) where
  /-- A producer puts an item in, whichever it is. -/
  | push (producer : ι) (item : QueueItem α)
  | pushData (producer : ι) (value : α)
  | pushEndOfStream (producer : ι)
  /-- The consumer takes an item out; it waits while there is none. -/
  | pop
  /-- The consumer takes an item out if there is one. -/
  | tryPop
  | beginClear
  /-- The consumer goes on clearing. -/
  | clear

/-- What is seen of a turn. -/
inductive Event (ι α : Type) where
  | pushed (producer : ι) (item : QueueItem α)
  | popped (item : QueueItem α)
  /-- The consumer asked for an item and there was none. -/
  | missed
  | clearBegun
  /-- The consumer dropped an item while clearing. -/
  | dropped (item : QueueItem α)
  /-- The consumer found the queue empty after it had dropped so many. -/
  | cleared (count : Nat)
deriving DecidableEq

variable {ι α : Type}

/-- A producer puts an item in. -/
def push (s : SharedQueue α) (producer : ι) (item : QueueItem α) :
    SharedQueue α × List (Event ι α) :=
  ({ s with queue := s.queue.push item }, [.pushed producer item])

/-- The consumer takes the oldest item out, or sees that there is none. -/
def tryPop (s : SharedQueue α) : SharedQueue α × List (Event ι α) :=
  match s.queue.pop? with
  | some (item, rest) => ({ s with queue := rest }, [.popped item])
  | none => (s, [.missed])

/-- The consumer drops one more item, or is done if there is none. -/
def clearNext (s : SharedQueue α) (count : Nat) : SharedQueue α × List (Event ι α) :=
  match s.queue.pop? with
  | some (item, rest) => ({ queue := rest, clearing := some (count + 1) }, [.dropped item])
  | none => ({ s with clearing := none }, [.cleared count])

/-- One turn, unless it has to wait. -/
def turn? (s : SharedQueue α) : Turn ι α → Option (SharedQueue α × List (Event ι α))
  | .push producer item => some (s.push producer item)
  | .pushData producer value => some (s.push producer (.data value))
  | .pushEndOfStream producer => some (s.push producer .endOfStream)
  | .pop => if s.clearing.isSome || s.queue.isEmpty then none else some s.tryPop
  | .tryPop => if s.clearing.isSome then none else some s.tryPop
  | .beginClear =>
    if s.clearing.isSome then none else some ({ s with clearing := some 0 }, [.clearBegun])
  | .clear => s.clearing.map s.clearNext

/-- Producers and the consumer of a queue. -/
def machine (ι α : Type) : Machine (SharedQueue α) (Turn ι α) (Event ι α) := ⟨turn?⟩

end SharedQueue

end PacketWatch
