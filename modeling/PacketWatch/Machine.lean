/-
Threads that take turns on a shared state.

A machine says what one turn of one thread makes of the state and what is seen
of it; a thread that has to wait has no turn.  Whatever order the threads run
in is a sequence of turns, so `Run` covers every interleaving of them.  `settle`
is the one order that the program itself shows: all threads in a circle, until
none can move.
-/

namespace PacketWatch

/-- A state of type `σ`, threads that are named by `τ`, and what is seen of
their turns, of type `ε`. -/
structure Machine (σ τ ε : Type) where
  /-- The state after a turn and what is seen of it; nothing while the thread
  has to wait. -/
  turn? : σ → τ → Option (σ × List ε)

namespace Machine

variable {σ τ ε : Type} (m : Machine σ τ ε)

/-- The machine can go from one state to another, and so much is seen on the
way. -/
inductive Run : σ → List ε → σ → Prop where
  | here (s : σ) : Run s [] s
  | turn {s u v : σ} {t : τ} {seen now : List ε} :
      Run s seen u → m.turn? u t = some (v, now) → Run s (seen ++ now) v

/-- Takes a turn; a thread that has to wait changes nothing. -/
def take (s : σ) (t : τ) : σ × List ε := (m.turn? s t).getD (s, [])

/-- Takes turns one after the other. -/
def takeAll (s : σ) : List τ → σ × List ε
  | [] => (s, [])
  | t :: more =>
    let (u, seen) := m.take s t
    let (v, later) := takeAll u more
    (v, seen ++ later)

/-- Gives each thread its turn and passes over those that have to wait; nothing
if all of them have to. -/
def round? (s : σ) : List τ → Option (σ × List ε)
  | [] => none
  | t :: more =>
    match m.turn? s t with
    | none => round? s more
    | some (u, seen) =>
      match round? u more with
      | none => some (u, seen)
      | some (v, later) => some (v, seen ++ later)

/-- Goes round until no thread can move, or so many rounds have passed. -/
def settle (threads : List τ) : Nat → σ → σ × List ε
  | 0, s => (s, [])
  | rounds + 1, s =>
    match m.round? s threads with
    | none => (s, [])
    | some (u, seen) =>
      let (v, later) := settle threads rounds u
      (v, seen ++ later)

end Machine

end PacketWatch
