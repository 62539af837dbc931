/-
A queue with an end marker.

Items leave in the order in which they came.  An item is data or the marker
that ends the stream; data without any contents is still data.
-/

namespace PacketWatch

/-- What a queue holds. -/
inductive QueueItem (α : Type) where
  | data (value : α)
  /-- Tells the consumer to leave. -/
  | endOfStream
deriving DecidableEq

/-- A queue, oldest item first. -/
structure Queue (α : Type) where
  items : List (QueueItem α) := []
deriving DecidableEq

namespace Queue

variable {α : Type}

instance : Inhabited (Queue α) := ⟨{}⟩

def size (q : Queue α) : Nat := q.items.length

def isEmpty (q : Queue α) : Bool := q.items.isEmpty

/-- Puts an item behind all others. -/
def push (q : Queue α) (item : QueueItem α) : Queue α := ⟨q.items ++ [item]⟩

/-- Takes the oldest item out, if there is one. -/
def pop? (q : Queue α) : Option (QueueItem α × Queue α) :=
  match q.items with
  | [] => none
  | item :: rest => some (item, ⟨rest⟩)

/-- Drops all items and says how many there were. -/
def clear (q : Queue α) : Nat × Queue α := (q.size, {})

/-- What a reader of logs sees of a queue. -/
def text (q : Queue α) : String := "IngestQueue \x7b len: " ++ toString q.size ++ " \x7d"

end Queue

end PacketWatch
