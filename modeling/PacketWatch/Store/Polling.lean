/-
A store and a reader that polls it.

The reader keeps the number of the last packet it has seen, at first none.  A poll holds
the lock of the store while it asks for what lies beyond that number; the number itself is
the reader's own.  Between two polls other threads do to the store what they like.
-/
import PacketWatch.Store.Shared

namespace PacketWatch

/-- A store and how far its reader has seen. -/
structure PolledStore where
  store : PacketStore := {}
  cursor : Cursor := {}

namespace PolledStore

/-- What one thread does to a store that is polled. -/
inductive Turn where
  /-- Another thread asks something of the store. -/
  | other (request : PacketStore.Request)
  /-- The reader asks for what it has not seen. -/
  | poll

/-- What is seen of a turn. -/
inductive Event where
  /-- Another thread got its answer. -/
  | other (answer : PacketStore.Event)
  /-- The reader got these packets. -/
  | polled (packets : List Packet)

/-- One turn; nobody waits for more than the lock of the store. -/
def turn? (s : PolledStore) : Turn → Option (PolledStore × List Event)
  | .other request =>
    some ({ s with store := (s.store.respond request).1 }, [.other (s.store.respond request).2])
  | .poll =>
    some ({ s with cursor := (s.cursor.poll s.store).2 }, [.polled (s.cursor.poll s.store).1])

/-- A store, its reader and the other threads. -/
def machine : Machine PolledStore Turn Event := ⟨turn?⟩

end PolledStore

end PacketWatch
