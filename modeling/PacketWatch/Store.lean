/-
The store of decoded packets.

A packet gets the next number when it is added, beginning at one, and stands
at the place before its number.  Clearing the store begins a new numbering.

A reader that polls keeps the number of the last packet it has seen and asks
for what lies beyond.
-/
import PacketWatch.Error
import PacketWatch.Frame

namespace PacketWatch

/-- Packets in the order of their numbers. -/
structure PacketStore where
  packets : List Packet := []
  /-- The number that was given last. -/
  lastId : Nat := 0
deriving DecidableEq

namespace PacketStore

instance : Inhabited PacketStore := ⟨{}⟩

def count (s : PacketStore) : Nat := s.packets.length

def isEmpty (s : PacketStore) : Bool := s.count == 0

/-- Adds a packet under the next number, which it answers. -/
def add (s : PacketStore) (p : Packet) : Nat × PacketStore :=
  let id := s.lastId + 1
  (id, { packets := s.packets ++ [{ p with id := id }], lastId := id })

/-- The packet of a number. -/
def get (s : PacketStore) (id : Nat) : Except Error Packet :=
  match id with
  | 0 => .error (.outOfRange 0 s.count)
  | place + 1 =>
    match s.packets[place]? with
    | some p => .ok p
    | none => .error (.outOfRange id s.count)

/-- The packets beyond a number. -/
def since (s : PacketStore) (id : Nat) : List Packet := s.packets.drop (min id s.count)

/-- Drops all packets and begins a new numbering. -/
def clear (_ : PacketStore) : PacketStore := {}

/-- What changes a store. -/
inductive Change where
  | add (p : Packet)
  | clear

/-- A store after a change. -/
def apply (s : PacketStore) : Change → PacketStore
  | .add p => (s.add p).2
  | .clear => s.clear

/-- A store after changes by any number of threads, in the order in which they
took hold. -/
def applyAll (s : PacketStore) (changes : List Change) : PacketStore := changes.foldl apply s

end PacketStore

/-! ## Polling -/

/-- How far a reader has seen. -/
structure Cursor where
  lastSeen : Nat := 0
deriving DecidableEq

namespace Cursor

/-- The cursor behind the given packets. -/
def past (c : Cursor) (packets : List Packet) : Cursor :=
  match packets.getLast? with
  | some p => ⟨p.id⟩
  | none => c

/-- The packets that were not seen before. -/
def poll (c : Cursor) (s : PacketStore) : List Packet × Cursor :=
  (s.since c.lastSeen, c.past (s.since c.lastSeen))

end Cursor

end PacketWatch
