/-
# `PacketWatch.Proofs.Store.History` — what a store holds is what its history says

A history is read backwards to the last time the store was cleared: the packets that were
added since then, as they came, are the generation.  In every order of the operations of
any number of threads

    the store holds the generation, numbered from one on without a gap,
    the number that was given last is their count,

and each answer is the one that the generation before it calls for.  So within one
generation numbers only grow, and a look-up finds the packet of a number exactly if the
number is one of those that were given.

Numbers are natural numbers here; a generation of fewer than 2^64 packets has none that a
word of 64 bits could not hold.
-/
import PacketWatch.Decode
import PacketWatch.Proofs.Runs
import PacketWatch.Store.Shared

namespace PacketWatch.PacketStore

/-! ## What a history says -/

/-- The packets that count after one more event. -/
def Event.next (g : List Packet) : Event → List Packet
  | added p _ => g ++ [p]
  | cleared => []
  | _ => g

/-- The packets that were added since the store was cleared last. -/
def generation (seen : List Event) : List Packet := seen.foldl Event.next []

/-- Packets under the numbers from one on, and otherwise as they are. -/
def numbered (g : List Packet) : List Packet := g.mapIdx fun i p => { p with id := i + 1 }

/-- The answer that a generation calls for. -/
def Event.Answers (g : List Packet) : Event → Prop
  | added _ id => id = g.length + 1
  | cleared => True
  | got id answer =>
    if 1 ≤ id ∧ id ≤ g.length then
      ∃ p, g[id - 1]? = some p ∧ answer = .ok { p with id := id }
    else answer = .error (.outOfRange id g.length)
  | polled after packets => packets = (numbered g).drop after
  | listed packets => packets = numbered g
  | counted count => count = g.length

theorem generation_snoc (seen : List Event) (e : Event) :
    generation (seen ++ [e]) = e.next (generation seen) := by
  rw [generation, List.foldl_append]
  rfl

theorem length_numbered (g : List Packet) : (numbered g).length = g.length := List.length_mapIdx

theorem numbered_snoc (g : List Packet) (p : Packet) :
    numbered (g ++ [p]) = numbered g ++ [{ p with id := g.length + 1 }] := List.mapIdx_concat

theorem getElem?_numbered (g : List Packet) (i : Nat) :
    (numbered g)[i]? = g[i]?.map fun p => { p with id := i + 1 } := List.getElem?_mapIdx

theorem ids_numbered (g : List Packet) : (numbered g).map (·.id) = List.range' 1 g.length := by
  apply List.ext_getElem
  · rw [List.length_map, length_numbered, List.length_range']
  · intro i _ _
    rw [List.getElem_map, List.getElem_range']
    simp only [numbered, List.getElem_mapIdx]
    omega

/-! ## One operation -/

/-- A store that holds a generation. -/
structure Holds (g : List Packet) (s : PacketStore) : Prop where
  lastId : s.lastId = g.length
  packets : s.packets = numbered g

namespace Holds

variable {g : List Packet} {s : PacketStore}

theorem count (holds : Holds g s) : s.count = g.length := by
  rw [PacketStore.count, holds.packets, length_numbered]

theorem get (holds : Holds g s) (id : Nat) : (Event.got id (s.get id)).Answers g := by
  cases id with
  | zero =>
      dsimp only [Event.Answers]
      rw [if_neg (by omega), ← holds.count]
      rfl
  | succ place =>
      dsimp only [Event.Answers, PacketStore.get]
      rw [holds.packets, getElem?_numbered, holds.count, Nat.add_sub_cancel]
      by_cases inside : place < g.length
      · rw [if_pos ⟨by omega, inside⟩, List.getElem?_eq_getElem inside]
        exact ⟨g[place], rfl, rfl⟩
      · rw [if_neg (by omega), List.getElem?_eq_none (by omega)]
        rfl

theorem since (holds : Holds g s) (after : Nat) : s.since after = (numbered g).drop after := by
  rw [PacketStore.since, holds.count, holds.packets]
  by_cases beyond : after ≤ g.length
  · rw [Nat.min_eq_left beyond]
  · have length := length_numbered g
    rw [List.drop_eq_nil_of_le (by omega), List.drop_eq_nil_of_le (by omega)]

/-- Every operation answers what the generation calls for. -/
theorem answers (holds : Holds g s) (request : Request) :
    (s.respond request).2.Answers g := by
  cases request with
  | add p => exact congrArg (· + 1) holds.lastId
  | clear => trivial
  | get id => exact holds.get id
  | since after => exact holds.since after
  | all => exact holds.packets
  | count => exact holds.count

/-- Every operation leaves a store that holds what counts then. -/
theorem respond (holds : Holds g s) (request : Request) :
    Holds ((s.respond request).2.next g) (s.respond request).1 := by
  cases request with
  | add p =>
      refine ⟨?_, ?_⟩
      · change s.lastId + 1 = (g ++ [p]).length
        rw [holds.lastId, List.length_append]
        rfl
      · change s.packets ++ [{ p with id := s.lastId + 1 }] = numbered (g ++ [p])
        rw [holds.packets, holds.lastId, numbered_snoc]
  | clear => exact ⟨rfl, rfl⟩
  | get | since | all | count => exact holds

end Holds

/-! ## All operations -/

theorem holds_of_run {seen : List Event} {s : PacketStore} (run : machine.Run {} seen s) :
    Holds (generation seen) s := by
  induction run with
  | here => exact ⟨rfl, rfl⟩
  | @turn u v request seen now _ turn ih =>
      obtain ⟨rfl, rfl⟩ := Prod.mk.inj (Option.some.inj turn)
      rw [generation_snoc]
      exact ih.respond request

/-- Each answer is the one that the history before it calls for. -/
theorem answers_of_run {before after : List Event} {e : Event} {s : PacketStore}
    (run : machine.Run {} (before ++ e :: after) s) : e.Answers (generation before) := by
  obtain ⟨u, v, request, first, front, back, -, early, turn, -, rfl, -⟩ := run.split
  obtain ⟨-, now⟩ := Prod.mk.inj (Option.some.inj turn)
  -- an operation is seen as one event, so nothing stands in front of it in its turn
  cases front with
  | nil =>
      obtain ⟨rfl, -⟩ := List.cons.inj now
      rw [List.append_nil]
      exact (holds_of_run early).answers request
  | cons head front =>
      have length := congrArg List.length now
      simp at length

/-- As long as nothing is cleared, a generation grows. -/
theorem length_generation_le (g : List Packet) {seen : List Event}
    (uncleared : Event.cleared ∉ seen) : g.length ≤ (seen.foldl Event.next g).length := by
  induction seen generalizing g with
  | nil => exact Nat.le_refl _
  | cons e seen ih =>
      obtain ⟨here, later⟩ := not_or.mp (mt List.mem_cons.mpr uncleared)
      refine Nat.le_trans ?_ (ih (e.next g) later)
      cases e with
      | added p id =>
          change g.length ≤ (g ++ [p]).length
          rw [List.length_append]
          exact Nat.le_add_right _ _
      | cleared => exact absurd rfl here
      | got | polled | listed | counted => exact Nat.le_refl _

/-- Of two numbers of one generation, the one that was given later is larger. -/
theorem lt_of_run {before between after : List Event} {p q : Packet} {id later : Nat}
    {s : PacketStore}
    (run : machine.Run {} (before ++ .added p id :: between ++ .added q later :: after) s)
    (uncleared : Event.cleared ∉ between) : id < later := by
  have second : later = (generation (before ++ .added p id :: between)).length + 1 :=
    answers_of_run run
  rw [List.append_assoc] at run
  have first : id = (generation before).length + 1 := answers_of_run run
  have grown := length_generation_le (generation before ++ [p]) uncleared
  have whole : generation (before ++ .added p id :: between) =
      between.foldl Event.next (generation before ++ [p]) := by
    rw [generation, List.foldl_append]
    rfl
  rw [List.length_append, ← whole] at grown
  simp only [List.length_cons, List.length_nil] at grown
  omega

/-- **The representation of a store.**  In every order of the operations of any number of
threads: the last number is the count, and each packet stands at the place before its
number and is otherwise what was added.  Every answer, and whatever is asked next, is what
the packets added since the last clearing call for; adding answers the new count, numbers
grow until the store is cleared, and a listing has the numbers from one on without a gap. -/
theorem store_represents_history {seen : List Event} {s : PacketStore}
    (run : machine.Run {} seen s) :
    s.lastId = s.count ∧
      (∀ i : Nat, s.packets[i]? = (generation seen)[i]?.map fun p => { p with id := i + 1 }) ∧
      (∀ before e after, seen = before ++ e :: after → e.Answers (generation before)) ∧
      (∀ request, (s.respond request).2.Answers (generation seen)) ∧
      (∀ p, (s.add p).1 = (s.add p).2.count) ∧
      (∀ before p id between q later after,
        seen = before ++ .added p id :: between ++ .added q later :: after →
          .cleared ∉ between → id < later) ∧
      (∀ before packets after, seen = before ++ .listed packets :: after →
        packets.map (·.id) = List.range' 1 packets.length) := by
  have holds := holds_of_run run
  refine ⟨?_, ?_, ?_, ?_, ?_, ?_, ?_⟩
  · exact holds.lastId.trans holds.count.symm
  · intro i
    rw [holds.packets, getElem?_numbered]
  · rintro before e after rfl
    exact answers_of_run run
  · exact holds.answers
  · intro p
    have added : (s.add p).1 = (generation seen).length + 1 := holds.answers (.add p)
    have count : (s.add p).2.count = (generation seen ++ [p]).length :=
      (holds.respond (.add p)).count
    rw [added, count, List.length_append]
    rfl
  · rintro before p id between q later after rfl uncleared
    exact lt_of_run run uncleared
  · rintro before packets after rfl
    have listed : packets = numbered (generation before) := answers_of_run run
    rw [listed, ids_numbered, length_numbered]

/-- Two packets, a clearing, and one packet more: the number two is found before the
clearing and not after it, and neither zero nor the largest word is ever found. -/
theorem store_represents_history_cleared :
    let p := Packet.ofLayers (.whole [0xde]) []
    let q := Packet.ofLayers (.whole [0xad]) []
    let requests : List Request :=
      [.add p, .add q, .get 2, .clear, .add q, .get 2, .get 0, .get 0xFFFFFFFFFFFFFFFF, .all]
    let r := machine.takeAll {} requests
    r.1.lastId = r.1.count ∧
      r.2 = [.added p 1, .added q 2, .got 2 (.ok { q with id := 2 }), .cleared, .added q 1,
        .got 2 (.error (.outOfRange 2 1)), .got 0 (.error (.outOfRange 0 1)),
        .got 0xFFFFFFFFFFFFFFFF (.error (.outOfRange 0xFFFFFFFFFFFFFFFF 1)),
        .listed [{ q with id := 1 }]] ∧
      (Event.got 2 (.ok { q with id := 2 })).Answers [p, q] ∧
      (Event.got 0xFFFFFFFFFFFFFFFF (.error (.outOfRange 0xFFFFFFFFFFFFFFFF 1))).Answers [q] ∧
      ([{ q with id := 1 }] : List Packet).map (·.id) = List.range' 1 1 := by
  intro p q requests r
  have run : machine.Run {} r.2 r.1 := Machine.Run.takeAll _ requests
  obtain ⟨lastId, -, answered, -, -, -, gapless⟩ := store_represents_history run
  refine ⟨lastId, rfl, ?_, ?_, ?_⟩
  · exact answered [.added p 1, .added q 2] _ _ rfl
  · exact answered (r.2.take 7) _ (r.2.drop 8) rfl
  · exact gapless (r.2.take 8) _ [] rfl

end PacketWatch.PacketStore
