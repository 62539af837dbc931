/-
# `PacketWatch.Proofs.Queue.Conservation` — nothing is lost, repeated or overtaken on the way

What is seen of a queue between threads says what its producers put in (`pushesOf`) and what its
consumer took out, in whichever way (`removedOf`).  Between the two stands the queue itself:

    removed ++ queued   =   pushed

One turn is one event (`Step`), and one of six things happens in it.  Each of them keeps the
account, so by induction every run does, and a moment in the middle of a run is the end of a
shorter one.  The rest is read off the account: the item that leaves as the n-th is the one that
came as the n-th, whoever put it in.

Clearing takes many turns, and producers go on in between.  What the consumer has to remember is
how many items it has dropped, so the second thing that every run keeps is how that number follows
from what has been seen since it began (`Counting`).
-/
import PacketWatch.Proofs.Runs
import PacketWatch.Queue.Shared

namespace PacketWatch

namespace SharedQueue

variable {ι α : Type}

/-! ## What is seen -/

/-- The items that were put in, each with its producer. -/
def pushesOf (seen : List (Event ι α)) : List (ι × QueueItem α) :=
  seen.filterMap fun
    | .pushed producer item => some (producer, item)
    | _ => none

/-- The items that were put in. -/
def pushedOf (seen : List (Event ι α)) : List (QueueItem α) := (pushesOf seen).map (·.2)

/-- The items that the consumer took out, to use or to drop them. -/
def removedOf (seen : List (Event ι α)) : List (QueueItem α) :=
  seen.filterMap fun
    | .popped item => some item
    | .dropped item => some item
    | _ => none

/-- The pushes whose items have left: as many as have left, from the first one on. -/
def leftOf (seen : List (Event ι α)) : List (ι × QueueItem α) :=
  (pushesOf seen).take (removedOf seen).length

/-- The items of one producer. -/
def itemsBy [DecidableEq ι] (producer : ι) (pushes : List (ι × QueueItem α)) :
    List (QueueItem α) :=
  (pushes.filter (·.1 = producer)).map (·.2)

theorem pushedOf_append (seen later : List (Event ι α)) :
    pushedOf (seen ++ later) = pushedOf seen ++ pushedOf later := by
  rw [pushedOf, pushesOf, List.filterMap_append, List.map_append]
  rfl

theorem removedOf_append (seen later : List (Event ι α)) :
    removedOf (seen ++ later) = removedOf seen ++ removedOf later :=
  List.filterMap_append

/-! ## One turn -/

/-- What happens in a turn, by what is seen of it. -/
inductive Step (s : SharedQueue α) : Event ι α → SharedQueue α → Prop
  | push (producer : ι) (item : QueueItem α) :
      Step s (.pushed producer item) { s with queue := s.queue.push item }
  | pop {item : QueueItem α} {rest : List (QueueItem α)} :
      s.clearing = none → s.queue.items = item :: rest →
      Step s (.popped item) { s with queue := ⟨rest⟩ }
  | miss : s.clearing = none → s.queue.items = [] → Step s .missed s
  | begin : s.clearing = none → Step s .clearBegun { s with clearing := some 0 }
  | drop {count : Nat} {item : QueueItem α} {rest : List (QueueItem α)} :
      s.clearing = some count → s.queue.items = item :: rest →
      Step s (.dropped item) ⟨⟨rest⟩, some (count + 1)⟩
  | done {count : Nat} :
      s.clearing = some count → s.queue.items = [] →
      Step s (.cleared count) { s with clearing := none }

theorem step_of_tryPop {s u : SharedQueue α} {now : List (Event ι α)}
    (free : s.clearing = none) (turn : s.tryPop = (u, now)) : ∃ e, now = [e] ∧ Step s e u := by
  unfold tryPop Queue.pop? at turn
  cases items : s.queue.items with
  | nil =>
      rw [items] at turn
      cases turn
      exact ⟨.missed, rfl, .miss free items⟩
  | cons item rest =>
      rw [items] at turn
      cases turn
      exact ⟨.popped item, rfl, .pop free items⟩

theorem step_of_clearNext {s u : SharedQueue α} {now : List (Event ι α)} {count : Nat}
    (clearing : s.clearing = some count) (turn : s.clearNext count = (u, now)) :
    ∃ e, now = [e] ∧ Step s e u := by
  unfold clearNext Queue.pop? at turn
  cases items : s.queue.items with
  | nil =>
      rw [items] at turn
      cases turn
      exact ⟨.cleared count, rfl, .done clearing items⟩
  | cons item rest =>
      rw [items] at turn
      cases turn
      exact ⟨.dropped item, rfl, .drop clearing items⟩

/-- One turn is one event. -/
theorem step_of_turn {s u : SharedQueue α} {t : Turn ι α} {now : List (Event ι α)}
    (turn : (machine ι α).turn? s t = some (u, now)) : ∃ e, now = [e] ∧ Step s e u := by
  cases t with
  | push producer item =>
      cases turn
      exact ⟨_, rfl, .push producer item⟩
  | pushData producer value =>
      cases turn
      exact ⟨_, rfl, .push producer (.data value)⟩
  | pushEndOfStream producer =>
      cases turn
      exact ⟨_, rfl, .push producer .endOfStream⟩
  | pop =>
      obtain ⟨ready, turn⟩ := Option.ite_none_left_eq_some.mp turn
      simp only [Bool.or_eq_true, not_or, Bool.not_eq_true, Option.isSome_eq_false_iff,
        Option.isNone_iff_eq_none] at ready
      exact step_of_tryPop ready.1 (Option.some.inj turn)
  | tryPop =>
      obtain ⟨free, turn⟩ := Option.ite_none_left_eq_some.mp turn
      rw [Option.not_isSome_iff_eq_none] at free
      exact step_of_tryPop free (Option.some.inj turn)
  | beginClear =>
      obtain ⟨free, turn⟩ := Option.ite_none_left_eq_some.mp turn
      rw [Option.not_isSome_iff_eq_none] at free
      cases turn
      exact ⟨_, rfl, .begin free⟩
  | clear =>
      obtain ⟨count, clearing, turn⟩ := Option.map_eq_some_iff.mp turn
      exact step_of_clearNext clearing turn

/-! ## The account -/

/-- A turn moves an item from one side of the account to the other, or leaves it alone. -/
theorem Step.account {s u : SharedQueue α} {e : Event ι α} (step : Step s e u) :
    removedOf [e] ++ u.queue.items = s.queue.items ++ pushedOf [e] := by
  cases step with
  | push => rfl
  | pop _ items =>
      rw [items]
      exact (List.append_nil _).symm
  | miss => exact (List.append_nil _).symm
  | begin => exact (List.append_nil _).symm
  | drop _ items =>
      rw [items]
      exact (List.append_nil _).symm
  | done => exact (List.append_nil _).symm

/-- Every run keeps the account. -/
theorem account_of_run {s u : SharedQueue α} {seen : List (Event ι α)}
    (run : (machine ι α).Run s seen u) :
    removedOf seen ++ u.queue.items = s.queue.items ++ pushedOf seen := by
  induction run with
  | here => exact (List.append_nil _).symm
  | turn _ turn ih =>
      obtain ⟨e, rfl, step⟩ := step_of_turn turn
      rw [removedOf_append, pushedOf_append, List.append_assoc, step.account,
        ← List.append_assoc, ih, List.append_assoc]

/-! ## Clearing -/

/-- Whether an event may be seen while the consumer clears: it drops items, and others push. -/
def Event.isWhileClearing : Event ι α → Bool
  | .pushed .. => true
  | .dropped _ => true
  | _ => false

/-- The consumer has cleared for a while and removed so many items. -/
def Cleared (seen : List (Event ι α)) (count : Nat) : Prop :=
  ∃ before during, seen = before ++ .clearBegun :: during ∧
    during.all Event.isWhileClearing = true ∧ (removedOf during).length = count

theorem Cleared.push {seen : List (Event ι α)} {count : Nat} (cleared : Cleared seen count)
    (producer : ι) (item : QueueItem α) : Cleared (seen ++ [.pushed producer item]) count := by
  obtain ⟨before, during, rfl, still, length⟩ := cleared
  refine ⟨before, during ++ [.pushed producer item], by simp, ?_, ?_⟩
  · rw [List.all_append, still]
    rfl
  · rw [removedOf_append, ← length]
    exact congrArg List.length (List.append_nil _)

theorem Cleared.drop {seen : List (Event ι α)} {count : Nat} (cleared : Cleared seen count)
    (item : QueueItem α) : Cleared (seen ++ [.dropped item]) (count + 1) := by
  obtain ⟨before, during, rfl, still, length⟩ := cleared
  refine ⟨before, during ++ [.dropped item], by simp, ?_, ?_⟩
  · rw [List.all_append, still]
    rfl
  · rw [removedOf_append, ← length]
    exact List.length_append

/-- While the consumer clears, it knows how many items it has removed. -/
def Counting (seen : List (Event ι α)) (s : SharedQueue α) : Prop :=
  ∀ count, s.clearing = some count → Cleared seen count

theorem Step.counting {s u : SharedQueue α} {e : Event ι α} {seen : List (Event ι α)}
    (step : Step s e u) (counting : Counting seen s) : Counting (seen ++ [e]) u := by
  intro n clearing
  cases step with
  | push producer item => exact (counting n clearing).push producer item
  | pop free => exact absurd (free.symm.trans clearing) nofun
  | miss free => exact absurd (free.symm.trans clearing) nofun
  | begin =>
      cases clearing
      exact ⟨seen, [], rfl, rfl, rfl⟩
  | @drop count item _ before =>
      cases clearing
      exact (counting count before).drop item
  | done => cases clearing

theorem counting_of_run {s u : SharedQueue α} {seen : List (Event ι α)}
    (free : s.clearing = none) (run : (machine ι α).Run s seen u) : Counting seen u := by
  induction run with
  | here => exact fun count clearing => absurd (free.symm.trans clearing) nofun
  | turn _ turn ih =>
      obtain ⟨e, rfl, step⟩ := step_of_turn turn
      exact step.counting ih

/-- When nobody pushes meanwhile, the consumer drops one item after the other. -/
theorem takeAll_clear (items : List (QueueItem α)) (count : Nat) :
    (machine ι α).takeAll ⟨⟨items⟩, some count⟩ (List.replicate (items.length + 1) .clear) =
      ({}, items.map .dropped ++ [.cleared (count + items.length)]) := by
  induction items generalizing count with
  | nil => rfl
  | cons item items ih =>
      have first : (machine ι α).take ⟨⟨item :: items⟩, some count⟩ .clear =
          (⟨⟨items⟩, some (count + 1)⟩, [.dropped item]) := rfl
      have sum : count + (items.length + 1) = count + 1 + items.length := by omega
      rw [List.length_cons, List.replicate_succ, Machine.takeAll, first, sum]
      dsimp only
      rw [ih (count + 1)]
      rfl

/-- Then clearing is what `Queue.clear` says. -/
theorem takeAll_clear_alone (q : Queue α) :
    (machine ι α).takeAll ⟨q, none⟩ (.beginClear :: List.replicate (q.size + 1) .clear) =
      (⟨q.clear.2, none⟩, .clearBegun :: q.items.map .dropped ++ [.cleared q.clear.1]) := by
  have first : (machine ι α).take ⟨q, none⟩ .beginClear = (⟨q, some 0⟩, [.clearBegun]) := rfl
  rw [Machine.takeAll, first]
  dsimp only
  rw [Queue.size, takeAll_clear q.items 0, Nat.zero_add]
  rfl

/-! ## Every run -/

/-- A run comes to the turn in which an event is seen. -/
theorem exists_step {s q : SharedQueue α} {e : Event ι α} {before after : List (Event ι α)}
    (run : (machine ι α).Run s (before ++ e :: after) q) :
    ∃ u v, (machine ι α).Run s before u ∧ Step u e v := by
  obtain ⟨u, v, t, first, front, back, rest, early, turn, late, rfl, rfl⟩ := run.split
  obtain ⟨e', same, step⟩ := step_of_turn turn
  -- the turn is this one event, so all before it was seen before the turn
  obtain ⟨rfl, only⟩ := List.append_eq_singleton_iff.mp same |>.resolve_right
    (fun h => absurd h.2 nofun)
  obtain rfl : e = e' := (List.cons.inj only).1
  exact ⟨u, v, by simpa using early, step⟩

/-- What a queue makes of any number of producers and one consumer. -/
structure InOrder [DecidableEq ι] (seen : List (Event ι α)) (s : SharedQueue α) : Prop where
  /-- Nothing is lost, nothing comes twice and nothing overtakes. -/
  account : removedOf seen ++ s.queue.items = pushedOf seen
  /-- The item that leaves as the n-th is the one that came as the n-th: data as that data, be it
  empty, and the marker as the marker. -/
  unchanged : ∀ (n : Nat) (item : QueueItem α),
    (removedOf seen)[n]? = some item → (pushedOf seen)[n]? = some item
  /-- So what has left has left by some pushes, -/
  left : (leftOf seen).map (·.2) = removedOf seen
  /-- and for each producer these are its first ones, in its order. -/
  producers : ∀ producer, itemsBy producer (leftOf seen) <+: itemsBy producer (pushesOf seen)
  /-- The consumer is told that there is no item only if all of them had left. -/
  missed : ∀ before after, seen = before ++ .missed :: after → removedOf before = pushedOf before
  /-- Clearing says how many items it has removed since it began, and nobody else removed any;
  it ends when all of them have left. -/
  cleared : ∀ before count after, seen = before ++ .cleared count :: after →
    Cleared before count ∧ removedOf before = pushedOf before

/-- **A queue neither loses, repeats nor reorders**, whatever its producers and its consumer do
and in whatever order their turns come. -/
theorem conserves_order [DecidableEq ι] {seen : List (Event ι α)} {s : SharedQueue α}
    (run : (machine ι α).Run {} seen s) : InOrder seen s := by
  have account {seen : List (Event ι α)} {s : SharedQueue α}
      (run : (machine ι α).Run {} seen s) : removedOf seen ++ s.queue.items = pushedOf seen :=
    account_of_run run
  -- at a moment when the queue is empty, all has left
  have empty {before : List (Event ι α)} {u : SharedQueue α}
      (early : (machine ι α).Run {} before u) (items : u.queue.items = []) :
      removedOf before = pushedOf before := by
    have left := account early
    rwa [items, List.append_nil] at left
  have left : (leftOf seen).map (·.2) = removedOf seen := by
    rw [leftOf, List.map_take]
    show (pushedOf seen).take _ = _
    rw [← account run, List.take_left]
  refine ⟨account run, ?_, left, ?_, ?_, ?_⟩
  · intro n item removed
    have inside := (List.getElem?_eq_some_iff.mp removed).1
    rw [← account run, List.getElem?_append_left inside, removed]
  · intro producer
    exact ((List.take_prefix _ _).filter _).map _
  · rintro before after rfl
    obtain ⟨u, v, early, step⟩ := exists_step run
    cases step with
    | miss _ items => exact empty early items
  · rintro before count after rfl
    obtain ⟨u, v, early, step⟩ := exists_step run
    cases step with
    | done clearing items => exact ⟨counting_of_run rfl early count clearing, empty early items⟩

/-- Two producers push while the consumer clears; data without contents leaves as data. -/
theorem conserves_order_cleared :
    let turns : List (Turn Nat (List Nat)) :=
      [.pushData 0 [], .pushEndOfStream 1, .pop, .beginClear, .pushData 0 [7], .clear, .clear,
        .pushData 1 [8], .clear, .clear, .tryPop, .push 1 .endOfStream]
    let r := (machine Nat (List Nat)).takeAll {} turns
    (machine Nat (List Nat)).Run {} r.2 r.1 ∧
      removedOf r.2 = [.data [], .endOfStream, .data [7], .data [8]] ∧
      removedOf r.2 ++ r.1.queue.items = pushedOf r.2 ∧
      itemsBy 1 (leftOf r.2) = [.endOfStream, .data [8]] ∧
      Cleared (r.2.take 9) 3 := by
  intro turns r
  have run : (machine Nat (List Nat)).Run {} r.2 r.1 := Machine.Run.takeAll _ turns
  have inOrder : InOrder r.2 r.1 := conserves_order run
  exact ⟨run, rfl, inOrder.account, rfl, (inOrder.cleared (r.2.take 9) 3 (r.2.drop 10) rfl).1⟩

end SharedQueue

end PacketWatch
