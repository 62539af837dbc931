/-
A store between threads.

Any number of threads add, look up, poll, list, count and clear.  An operation holds the
lock of the store from its beginning to its end, so each is one turn, and no thread ever
waits for more than the lock.
-/
import PacketWatch.Machine
import PacketWatch.Store

namespace PacketWatch.PacketStore

/-- What a thread asks of a store. -/
inductive Request where
  | add (p : Packet)
  | clear
  | get (id : Nat)
  | since (id : Nat)
  | all
  | count

/-- What was asked, and the answer. -/
inductive Event where
  | added (p : Packet) (id : Nat)
  | cleared
  | got (id : Nat) (answer : Except Error Packet)
  | polled (after : Nat) (packets : List Packet)
  | listed (packets : List Packet)
  | counted (count : Nat)

/-- The store after an operation, and what is seen of it. -/
def respond (s : PacketStore) : Request → PacketStore × Event
  | .add p => ((s.add p).2, .added p (s.add p).1)
  | .clear => (s.clear, .cleared)
  | .get id => (s, .got id (s.get id))
  | .since id => (s, .polled id (s.since id))
  | .all => (s, .listed s.packets)
  | .count => (s, .counted s.count)

/-- The threads of a store, each operation by whichever thread asks for it. -/
def machine : Machine PacketStore Request Event :=
  ⟨fun s request => some ((s.respond request).1, [(s.respond request).2])⟩

end PacketWatch.PacketStore
