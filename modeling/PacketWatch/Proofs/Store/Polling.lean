/-
# `PacketWatch.Proofs.Store.Polling` — a reader that polls sees every packet once

The reader's number is that of a packet and its use is that of a place: it asks for what
stands behind so many packets.  The two agree because packets are numbered from one on
without a gap (`Holds`), so after any turns of any threads, as long as nothing is cleared,

    what the reader got = the packets up to its number, each once and in order.

A poll moves the number to the count.  From then on nothing is unseen until the next
packet is added, which is read off the equation: what was got cannot be more than all.
-/
import PacketWatch.Proofs.Store.History
import PacketWatch.Store.Polling
import Mathlib.Data.List.Induction

namespace PacketWatch

/-! ## What lies beyond a number -/

namespace PacketStore

/-- Of numbered packets, those beyond a number are those behind so many. -/
theorem filter_numbered (g : List Packet) (n : Nat) :
    (numbered g).filter (fun p => decide (n < p.id)) = (numbered g).drop n := by
  induction g using List.reverseRecOn with
  | nil => exact List.drop_nil.symm
  | append_singleton g p ih =>
      have length := length_numbered g
      rw [numbered_snoc, List.filter_append, ih]
      by_cases beyond : n ≤ g.length
      · rw [List.drop_append_of_le_length (by omega), List.filter_cons_of_pos, List.filter_nil]
        exact decide_eq_true (Nat.lt_succ_of_le beyond)
      · rw [List.drop_eq_nil_of_le (by omega), List.drop_eq_nil_of_le, List.filter_cons_of_neg]
        · rfl
        · simp only [decide_eq_true_eq]
          omega
        · rw [List.length_append, length, List.length_singleton]
          omega

/-- Asking for what lies beyond a number answers the packets with a larger one, in order. -/
theorem Holds.since_eq_filter {g : List Packet} {s : PacketStore} (holds : Holds g s) (n : Nat) :
    s.since n = s.packets.filter (fun p => decide (n < p.id)) := by
  rw [holds.since, holds.packets, filter_numbered]

/-- Answers to requests that neither add nor clear leave a generation as it is. -/
theorem foldl_next_of_quiet (g : List Packet) {seen : List Event} (uncleared : Event.cleared ∉ seen)
    (unchanged : ∀ p id, Event.added p id ∉ seen) : seen.foldl Event.next g = g := by
  induction seen with
  | nil => rfl
  | cons e seen ih =>
      obtain ⟨here, later⟩ := not_or.mp (mt List.mem_cons.mpr uncleared)
      have rest := ih later fun p id added => unchanged p id (List.mem_cons_of_mem _ added)
      cases e with
      | added p id => exact absurd List.mem_cons_self (unchanged p id)
      | cleared => exact absurd rfl here
      | got | polled | listed | counted => exact rest

end PacketStore

namespace PolledStore

open PacketStore (Holds generation numbered)

/-! ## What is seen of a run -/

/-- The packets that the reader got, one poll behind the other. -/
def gotOf (seen : List Event) : List Packet :=
  seen.flatMap fun
    | .polled packets => packets
    | .other _ => []

/-- The answers that the other threads got. -/
def othersOf (seen : List Event) : List PacketStore.Event :=
  seen.filterMap fun
    | .other answer => some answer
    | .polled _ => none

theorem gotOf_append (seen later : List Event) : gotOf (seen ++ later) = gotOf seen ++ gotOf later :=
  List.flatMap_append ..

theorem othersOf_append (seen later : List Event) :
    othersOf (seen ++ later) = othersOf seen ++ othersOf later :=
  List.filterMap_append ..

theorem mem_othersOf {seen : List Event} {answer : PacketStore.Event} :
    answer ∈ othersOf seen ↔ .other answer ∈ seen := by
  rw [othersOf, List.mem_filterMap]
  constructor
  · rintro ⟨e, he, shown⟩
    cases e with
    | other a => cases shown; exact he
    | polled packets => cases shown
  · intro here
    exact ⟨_, here, rfl⟩

/-! ## One turn -/

/-- A reader that got just the packets up to its number, of a store that holds a generation. -/
structure UpToDate (g got : List Packet) (s : PolledStore) : Prop where
  store : Holds g s.store
  within : s.cursor.lastSeen ≤ g.length
  got : got = (numbered g).take s.cursor.lastSeen

/-- After a poll the reader's number is the count. -/
theorem lastSeen_poll {g : List Packet} {s : PacketStore} {c : Cursor} (holds : Holds g s)
    (within : c.lastSeen ≤ g.length) : (c.poll s).2.lastSeen = g.length := by
  have length := PacketStore.length_numbered g
  show (c.past (s.since c.lastSeen)).lastSeen = g.length
  rw [holds.since]
  rcases Nat.lt_or_eq_of_le within with more | all
  · -- the last packet that is left is the last of all, and its number is the count
    have last : ((numbered g).drop c.lastSeen).getLast? =
        g[g.length - 1]?.map fun p => { p with id := g.length - 1 + 1 } := by
      rw [List.getLast?_drop, if_neg (by omega), List.getLast?_eq_getElem?, length,
        PacketStore.getElem?_numbered]
    rw [List.getElem?_eq_getElem (by omega), Option.map_some] at last
    unfold Cursor.past
    rw [last]
    show g.length - 1 + 1 = g.length
    omega
  · rw [List.drop_eq_nil_of_le (by omega)]
    exact all

/-- A poll gets what is missing. -/
theorem UpToDate.poll {g got : List Packet} {s : PolledStore} (upToDate : UpToDate g got s) :
    UpToDate g (got ++ (s.cursor.poll s.store).1)
        { s with cursor := (s.cursor.poll s.store).2 } ∧
      got ++ (s.cursor.poll s.store).1 = numbered g := by
  obtain ⟨holds, within, rfl⟩ := upToDate
  have all : (numbered g).take s.cursor.lastSeen ++ (s.cursor.poll s.store).1 = numbered g := by
    show _ ++ s.store.since s.cursor.lastSeen = _
    rw [holds.since]
    exact List.take_append_drop _ _
  have moved := lastSeen_poll holds within
  refine ⟨⟨holds, Nat.le_of_eq moved, all.trans ?_⟩, all⟩
  rw [moved, ← PacketStore.length_numbered g, List.take_length]

/-- What others do, other than clear, changes nothing about the packets up to the reader's
number. -/
theorem UpToDate.other {g got : List Packet} {s : PolledStore} (upToDate : UpToDate g got s)
    (request : PacketStore.Request) (uncleared : (s.store.respond request).2 ≠ .cleared) :
    UpToDate ((s.store.respond request).2.next g) got
      { s with store := (s.store.respond request).1 } := by
  have ⟨holds, within, same⟩ := upToDate
  have holds' := holds.respond request
  cases request with
  | add p =>
      refine ⟨holds', ?_, ?_⟩
      · show s.cursor.lastSeen ≤ (g ++ [p]).length
        rw [List.length_append]
        exact Nat.le_add_right_of_le within
      · show got = (numbered (g ++ [p])).take s.cursor.lastSeen
        rw [PacketStore.numbered_snoc, List.take_append_of_le_length, ← same]
        rwa [PacketStore.length_numbered]
  | clear => exact absurd rfl uncleared
  | get | since | all | count => exact ⟨holds', within, same⟩

/-! ## All turns -/

theorem upToDate_of_run {early : List PacketStore.Event} {s : PacketStore}
    (before : PacketStore.machine.Run {} early s) {seen : List Event} {p : PolledStore}
    (run : machine.Run ⟨s, {}⟩ seen p) (uncleared : .other .cleared ∉ seen) :
    UpToDate (generation (early ++ othersOf seen)) (gotOf seen) p := by
  induction run with
  | here =>
      have nothing : early ++ othersOf [] = early := List.append_nil _
      rw [nothing]
      exact ⟨PacketStore.holds_of_run before, Nat.zero_le _, rfl⟩
  | @turn u v t seen now _ turn ih =>
      obtain ⟨earlier, here⟩ := not_or.mp (mt List.mem_append.mpr uncleared)
      have upToDate := ih earlier
      rw [gotOf_append, othersOf_append, ← List.append_assoc]
      cases t with
      | other request =>
          obtain ⟨rfl, rfl⟩ := Prod.mk.inj (Option.some.inj turn)
          have kept : (u.store.respond request).2 ≠ .cleared := by
            intro cleared
            exact here (cleared ▸ List.mem_cons_self)
          have none : gotOf [.other (u.store.respond request).2] = [] := rfl
          rw [none, List.append_nil]
          show UpToDate (generation (_ ++ [(u.store.respond request).2])) _ _
          rw [PacketStore.generation_snoc]
          exact upToDate.other request kept
      | poll =>
          obtain ⟨rfl, rfl⟩ := Prod.mk.inj (Option.some.inj turn)
          have none : othersOf [.polled (u.cursor.poll u.store).1] = [] := rfl
          have some : gotOf [.polled (u.cursor.poll u.store).1] = (u.cursor.poll u.store).1 :=
            List.append_nil _
          rw [none, List.append_nil, some]
          exact upToDate.poll.1

/-- At the moment of a poll the reader has got everything. -/
theorem got_of_poll {early : List PacketStore.Event} {s : PacketStore}
    (before : PacketStore.machine.Run {} early s) {earlier later : List Event}
    {packets : List Packet} {p : PolledStore}
    (run : machine.Run ⟨s, {}⟩ (earlier ++ .polled packets :: later) p)
    (uncleared : .other .cleared ∉ earlier) :
    gotOf earlier ++ packets = numbered (generation (early ++ othersOf earlier)) := by
  obtain ⟨u, v, t, first, front, back, rest, start, turn, -, rfl, -⟩ := run.split
  cases t with
  | other request =>
      obtain ⟨-, now⟩ := Prod.mk.inj (Option.some.inj turn)
      rcases List.singleton_eq_append_iff.mp now with ⟨-, same⟩ | ⟨-, same⟩ <;> cases same
  | poll =>
      obtain ⟨-, now⟩ := Prod.mk.inj (Option.some.inj turn)
      rcases List.singleton_eq_append_iff.mp now with ⟨rfl, same⟩ | ⟨-, same⟩
      · cases same
        rw [List.append_nil] at uncleared ⊢
        exact (upToDate_of_run before start uncleared).poll.2
      · cases same

/-- **A reader that polls sees every packet once.**  Whatever other threads do to the store
between and beside the polls, as long as none of them clears it: the packets that the reader
got are those up to its number, in order and each once, as they were added; behind a poll
after the last packet was added it has got all.  In every store, asking for what lies beyond
a number answers the packets with a larger one, in order. -/
theorem polled_once {early : List PacketStore.Event} {s : PacketStore}
    (before : PacketStore.machine.Run {} early s) {seen : List Event} {p : PolledStore}
    (run : machine.Run ⟨s, {}⟩ seen p) (uncleared : .other .cleared ∉ seen) :
    p.store.packets = numbered (generation (early ++ othersOf seen)) ∧
      gotOf seen = p.store.packets.take p.cursor.lastSeen ∧
      (gotOf seen).map (·.id) = List.range' 1 p.cursor.lastSeen ∧
      (∀ earlier packets later, seen = earlier ++ .polled packets :: later →
        (∀ q id, .other (.added q id) ∉ later) →
          gotOf seen = p.store.packets ∧ p.cursor.lastSeen = p.store.count) ∧
      ∀ n, s.since n = s.packets.filter (fun q => decide (n < q.id)) := by
  have upToDate := upToDate_of_run before run uncleared
  have stored := upToDate.store.packets
  have got : gotOf seen = p.store.packets.take p.cursor.lastSeen := by
    rw [stored]
    exact upToDate.got
  refine ⟨stored, got, ?_, ?_, ?_⟩
  · rw [got, stored, List.map_take, PacketStore.ids_numbered]
    exact List.take_range'_of_length_ge upToDate.within
  · rintro earlier packets later rfl unchanged
    obtain ⟨quiet, quiet'⟩ := not_or.mp (mt List.mem_append.mpr uncleared)
    have later_uncleared : .other .cleared ∉ later :=
      fun cleared => quiet' (List.mem_cons_of_mem _ cleared)
    -- nothing was added since, so what was all at the poll is all now
    have same : generation (early ++ othersOf (earlier ++ .polled packets :: later)) =
        generation (early ++ othersOf earlier) := by
      rw [othersOf_append, ← List.append_assoc, generation, List.foldl_append]
      refine PacketStore.foldl_next_of_quiet _ ?_ fun q id added => ?_
      · exact fun cleared => later_uncleared (mem_othersOf.mp cleared)
      · exact unchanged q id (mem_othersOf.mp added)
    have all := got_of_poll before run quiet
    rw [← same, ← stored] at all
    have more : gotOf (earlier ++ .polled packets :: later) = p.store.packets ++ gotOf later := by
      rw [gotOf_append, ← all, List.append_assoc]
      rfl
    have length := congrArg List.length (more.symm.trans got)
    rw [List.length_append, List.length_take] at length
    have within : p.cursor.lastSeen ≤ p.store.count := upToDate.store.count ▸ upToDate.within
    have count : p.store.count = p.store.packets.length := rfl
    have nothing : gotOf later = [] := List.eq_nil_of_length_eq_zero (by omega)
    refine ⟨?_, by omega⟩
    rw [more, nothing, List.append_nil]
  · exact (PacketStore.holds_of_run before).since_eq_filter

/-- A store that was cleared once holds a packet when the reader comes; two more are added
between its first poll and its second, and nothing before its third. -/
theorem polled_once_batches :
    let p := Packet.ofLayers (.whole [0xde]) []
    let q := Packet.ofLayers (.whole [0xad]) []
    let early := PacketStore.machine.takeAll {} [.add p, .clear, .add q]
    let turns : List Turn :=
      [.poll, .other (.add p), .other .count, .other (.add q), .poll, .other (.get 2), .poll]
    let r := machine.takeAll ⟨early.1, {}⟩ turns
    gotOf r.2 = r.1.store.packets ∧ r.1.cursor.lastSeen = r.1.store.count ∧
      gotOf r.2 = [{ q with id := 1 }, { p with id := 2 }, { q with id := 3 }] ∧
      (gotOf r.2).map (·.id) = List.range' 1 3 ∧
      early.1.since 0 = early.1.packets.filter (fun x => decide (0 < x.id)) ∧
      early.1.since 0xFFFFFFFFFFFFFFFF =
        early.1.packets.filter (fun x => decide (0xFFFFFFFFFFFFFFFF < x.id)) := by
  intro p q early turns r
  have before : PacketStore.machine.Run {} early.2 early.1 := Machine.Run.takeAll _ _
  have run : machine.Run ⟨early.1, {}⟩ r.2 r.1 := Machine.Run.takeAll _ turns
  have uncleared : .other .cleared ∉ r.2 := by simp [r, turns, Machine.takeAll, Machine.take,
    machine, turn?, PacketStore.respond]
  obtain ⟨-, -, ids, caughtUp, beyond⟩ := polled_once before run uncleared
  obtain ⟨all, last⟩ := caughtUp (r.2.take 6) _ [] rfl (by simp)
  exact ⟨all, last, rfl, ids, beyond 0, beyond 0xFFFFFFFFFFFFFFFF⟩

end PolledStore

end PacketWatch
