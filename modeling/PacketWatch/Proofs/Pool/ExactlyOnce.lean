/-
# `PacketWatch.Proofs.Pool.ExactlyOnce` — a task that was accepted is performed once

Two accounts are kept by every turn.  Tasks: what was accepted has been performed
or is still pending, in the channel or in a worker's hands.  Outcomes: what was
performed has been counted, or a worker is about to count it.

Both are stated for every predicate on tasks at once, as equations between
numbers, so a turn is arithmetic; equality of the lists up to order is read off
at the end.  Nothing is pending in a pool whose closing call has returned
(`Sound.drained`), and such a pool never changes again.
-/
import PacketWatch.Proofs.Pool.Steps
import PacketWatch.Proofs.Runs
import Mathlib.Data.List.Perm.Subperm

namespace PacketWatch

namespace Message

variable {τ : Type}

/-- Whether a message is a task with a property. -/
@[simp] def carries (P : τ → Bool) : Message τ → Bool
  | run task => P task
  | leave => false

end Message

namespace Worker

variable {τ : Type}

/-- Whether a worker holds a task with a property. -/
@[simp] def holds (P : τ → Bool) : Worker τ → Bool
  | holding task => P task
  | _ => false

/-- Whether a worker is about to count a task that completed, or one that did not. -/
@[simp] def counts (completed : Bool) : Worker τ → Bool
  | counting outcome => outcome.isCompleted == completed
  | _ => false

end Worker

namespace Pool

variable {τ : Type} {perform : τ → Outcome}

/-! ## What is seen of a run -/

/-- The tasks that were accepted on the way. -/
def acceptedOf (seen : List (Event τ)) : List τ :=
  seen.filterMap fun
    | .accepted task => some task
    | _ => none

/-- The tasks that were handed in and refused. -/
def rejectedOf (seen : List (Event τ)) : List τ :=
  seen.filterMap fun
    | .rejected task => some task
    | _ => none

/-- The tasks that were handed in, whatever came of it. -/
def submittedOf (seen : List (Event τ)) : List τ :=
  seen.filterMap fun
    | .accepted task => some task
    | .rejected task => some task
    | _ => none

theorem acceptedOf_append (seen later : List (Event τ)) :
    acceptedOf (seen ++ later) = acceptedOf seen ++ acceptedOf later :=
  List.filterMap_append ..

theorem performedOf_append (seen later : List (Event τ)) :
    performedOf (seen ++ later) = performedOf seen ++ performedOf later :=
  List.filterMap_append ..

@[simp] theorem acceptedOf_reported (lines : List LogLine) :
    acceptedOf (lines.map .reported : List (Event τ)) = [] := by
  induction lines with
  | nil => rfl
  | cons line lines ih => exact ih

@[simp] theorem performedOf_reported (lines : List LogLine) :
    performedOf (lines.map .reported : List (Event τ)) = [] := by
  induction lines with
  | nil => rfl
  | cons line lines ih => exact ih

/-! ## The two accounts -/

/-- How many tasks with a property were accepted and not performed. -/
def pending (P : τ → Bool) (p : Pool τ) : Nat :=
  p.channel.countP (Message.carries P) + p.workers.countP (Worker.holds P)

/-- How many tasks completed, or did not, whether they are counted yet or not. -/
def tally (completed : Bool) (p : Pool τ) : Nat :=
  (if completed then p.completed else p.failed) + p.workers.countP (Worker.counts completed)

/-- A task is accepted into what is pending and performed out of it. -/
theorem Step.pending {t : Turn τ} {p q : Pool τ} {seen : List (Event τ)}
    (step : Step perform t p seen q) (P : τ → Bool) :
    (performedOf seen).countP P + q.pending P = p.pending P + (acceptedOf seen).countP P := by
  cases step with
  | reject | close | closeAgain | finish | send => simp [Pool.pending, performedOf, acceptedOf]
  | @accept _ task opened =>
      cases hP : P task <;> simp [Pool.pending, performedOf, acceptedOf, hP]
      omega
  | leave workers channel => simp [Pool.pending, performedOf, acceptedOf, workers, channel]
  | @receive _ front back task rest workers channel =>
      cases hP : P task <;>
        simp [Pool.pending, performedOf, acceptedOf, workers, channel, hP]
      omega
  | @perform _ front back task workers =>
      cases hP : P task <;> simp [Pool.pending, performedOf, acceptedOf, workers, hP]
      omega
  | count workers => simp [Pool.pending, workers]

/-- A task is tallied when it is performed, and counting keeps the tally. -/
theorem Step.tally {t : Turn τ} {p q : Pool τ} {seen : List (Event τ)}
    (step : Step perform t p seen q) (completed : Bool) :
    q.tally completed = p.tally completed +
      (performedOf seen).countP fun task => (perform task).isCompleted == completed := by
  cases step with
  | accept | reject | close | closeAgain | send | finish => simp [Pool.tally, performedOf]
  | receive workers channel | leave workers channel => simp [Pool.tally, performedOf, workers]
  | @perform _ front back task workers =>
      cases ended : (perform task).isCompleted <;> cases completed <;>
        simp [Pool.tally, performedOf, workers, ended] <;> omega
  | @count _ front back outcome workers =>
      cases ended : outcome.isCompleted <;> cases completed <;>
        simp [Pool.tally, Pool.count, workers, ended] <;> omega

/-- Both accounts begin at nothing. -/
theorem pending_of_new (count : Nat) (P : τ → Bool) : (ofSize count : Pool τ).pending P = 0 := by
  simp [Pool.pending, Pool.ofSize, List.countP_replicate]

theorem tally_of_new (count : Nat) (completed : Bool) :
    (ofSize count : Pool τ).tally completed = 0 := by
  simp [Pool.tally, Pool.ofSize, List.countP_replicate]

/-- The two accounts of a run. -/
theorem pending_of_run {count : Nat} {seen : List (Event τ)} {p : Pool τ}
    (run : (machine perform).Run (ofSize count) seen p) (P : τ → Bool) :
    (performedOf seen).countP P + p.pending P = (acceptedOf seen).countP P := by
  induction run with
  | here => exact (Nat.zero_add _).trans (pending_of_new count P)
  | turn _ turn ih =>
      have step := (step_of_turn turn).pending P
      simp only [performedOf_append, acceptedOf_append, List.countP_append]
      omega

theorem tally_of_run {count : Nat} {seen : List (Event τ)} {p : Pool τ}
    (run : (machine perform).Run (ofSize count) seen p) (completed : Bool) :
    p.tally completed =
      (performedOf seen).countP fun task => (perform task).isCompleted == completed := by
  induction run with
  | here => exact tally_of_new count completed
  | turn _ turn ih =>
      have step := (step_of_turn turn).tally completed
      simp only [performedOf_append, List.countP_append]
      omega

theorem sound_of_run {count : Nat} {seen : List (Event τ)} {p : Pool τ}
    (run : (machine perform).Run (ofSize count) seen p) :
    Sound p ∧ p.size = max count 1 := by
  induction run with
  | here => exact ⟨.ofSize count, by simp [size, Pool.ofSize]⟩
  | turn _ turn ih =>
      have step := step_of_turn turn
      exact ⟨step.sound ih.1, step.size.trans ih.2⟩

/-! ## After the closing call has returned -/

/-- Closing goes one way. -/
theorem Step.returned {t : Turn τ} {p q : Pool τ} {seen : List (Event τ)}
    (step : Step perform t p seen q) (returned : p.closing = .returned) :
    q.closing = .returned := by
  cases step with
  | reject | closeAgain | receive | leave | perform => exact returned
  | accept opened | close opened => exact absurd (opened.symm.trans returned) (by simp)
  | send sending | finish sending => exact absurd (sending.symm.trans returned) (by simp)
  | count => exact (count_closing _ _).trans returned

/-- The call returns in the turn that is seen as its return. -/
theorem Step.closed {t : Turn τ} {p q : Pool τ} {seen : List (Event τ)}
    (step : Step perform t p seen q) (closed : Event.closed ∈ seen) : q.closing = .returned := by
  cases step with
  | finish => rfl
  | accept | reject | close | closeAgain | send | receive | leave | perform | count =>
      simp at closed

theorem closed_of_run {count : Nat} {seen : List (Event τ)} {p : Pool τ}
    (run : (machine perform).Run (ofSize count) seen p) (closed : Event.closed ∈ seen) :
    p.closing = .returned := by
  induction run with
  | here => simp at closed
  | turn _ turn ih =>
      have step := step_of_turn turn
      rcases List.mem_append.mp closed with before | now
      · exact step.returned (ih before)
      · exact step.closed now

/-- A closed pool stands still: no worker is left to move, and nothing is accepted. -/
theorem Step.still {t : Turn τ} {p q : Pool τ} {seen : List (Event τ)}
    (step : Step perform t p seen q) (sound : Sound p) (returned : p.closing = .returned) :
    q = p ∧ performedOf seen = [] := by
  have everyone := (sound.drained returned).2
  cases step with
  | reject | closeAgain => exact ⟨rfl, rfl⟩
  | accept opened | close opened => exact absurd (opened.symm.trans returned) (by simp)
  | send sending | finish sending => exact absurd (sending.symm.trans returned) (by simp)
  | receive workers | leave workers | perform workers | count workers =>
      have left := everyone _ (workers ▸ List.mem_append_right _ List.mem_cons_self)
      simp at left

theorem still_of_run {p q : Pool τ} {later : List (Event τ)} (run : (machine perform).Run p later q)
    (sound : Sound p) (returned : p.closing = .returned) : q = p ∧ performedOf later = [] := by
  induction run with
  | here => exact ⟨rfl, rfl⟩
  | turn _ turn ih =>
      obtain ⟨rfl, nothing⟩ := ih
      obtain ⟨rfl, idle⟩ := (step_of_turn turn).still sound returned
      exact ⟨rfl, by rw [performedOf_append, nothing, idle]; rfl⟩

/-! ## Exactly once -/

/-- A pool without pending tasks has performed what it accepted. -/
theorem pending_of_closed {p : Pool τ} (sound : Sound p) (returned : p.closing = .returned)
    (P : τ → Bool) : p.pending P = 0 := by
  obtain ⟨empty, everyone⟩ := sound.drained returned
  simp only [pending, empty, List.countP_nil, Nat.zero_add, List.countP_eq_zero]
  intro w hw
  rw [everyone w hw]
  exact Bool.false_ne_true

theorem tally_of_closed {p : Pool τ} (sound : Sound p) (returned : p.closing = .returned)
    (completed : Bool) : p.tally completed = if completed then p.completed else p.failed := by
  have everyone := (sound.drained returned).2
  simp only [tally, Nat.add_eq_left, List.countP_eq_zero]
  intro w hw
  rw [everyone w hw]
  exact Bool.false_ne_true

/-- Lists that every property counts alike are equal up to order. -/
theorem perm_of_countP {α : Type} {l k : List α} (h : ∀ P : α → Bool, l.countP P = k.countP P) :
    l.Perm k := by
  classical
  exact List.perm_iff_count.mpr fun a => h (· == a)

theorem submittedOf_perm (seen : List (Event τ)) :
    (submittedOf seen).Perm (acceptedOf seen ++ rejectedOf seen) := by
  apply perm_of_countP
  intro P
  induction seen with
  | nil => rfl
  | cons e seen ih =>
      simp only [submittedOf, acceptedOf, rejectedOf, List.countP_append] at ih ⊢
      cases e <;> simp only [List.filterMap_cons, List.countP_cons] <;> omega

/-- **Exactly once.**  Whatever the order of the threads: no task is performed
more often than it was accepted; where every call hands in a task of its own,
none is performed twice and no refused task is performed.  When the call that
closed the pool has returned, the accepted tasks have been performed exactly
once, all workers have left, and the counters are the numbers of accepted tasks
that completed and that did not.  A further call to close changes nothing, and
after that return nothing does. -/
theorem exactly_once {count : Nat} {seen : List (Event τ)} {p : Pool τ}
    (run : (machine perform).Run (ofSize count) seen p) :
    (performedOf seen).Subperm (acceptedOf seen) ∧
      ((submittedOf seen).Nodup →
        (performedOf seen).Nodup ∧ ∀ task ∈ rejectedOf seen, task ∉ performedOf seen) ∧
      (Event.closed ∈ seen →
        (performedOf seen).Perm (acceptedOf seen) ∧
          p.workers = List.replicate (max count 1) .gone ∧
          p.completed = (acceptedOf seen).countP (fun task => (perform task).isCompleted) ∧
          p.failed = (acceptedOf seen).countP (fun task => !(perform task).isCompleted)) ∧
      (p.isStopped → p.turn? perform .close = some (p, [])) ∧
      (Event.closed ∈ seen → ∀ (later : List (Event τ)) (q : Pool τ),
        (machine perform).Run p later q → q = p ∧ performedOf later = []) := by
  obtain ⟨sound, size⟩ := sound_of_run run
  have account := pending_of_run run
  have once : (performedOf seen).Subperm (acceptedOf seen) := by
    classical
    refine List.subperm_iff_count.mpr fun task => ?_
    exact Nat.le.intro (account (· == task))
  refine ⟨once, ?_, ?_, ?_, ?_⟩
  · intro distinct
    have split := (submittedOf_perm seen).nodup_iff.mp distinct
    obtain ⟨accepted, -, apart⟩ := List.nodup_append.mp split
    obtain ⟨some, same, sublist⟩ := once
    refine ⟨same.nodup_iff.mp (accepted.sublist sublist), ?_⟩
    intro task rejected performed
    exact apart task (sublist.subset (same.mem_iff.mpr performed)) task rejected rfl
  · intro closed
    have returned := closed_of_run run closed
    have all : (performedOf seen).Perm (acceptedOf seen) := by
      apply perm_of_countP
      intro P
      have balance := account P
      rwa [pending_of_closed sound returned, Nat.add_zero] at balance
    refine ⟨all, ?_, ?_, ?_⟩
    · rw [← size]
      exact List.eq_replicate_iff.mpr ⟨rfl, (sound.drained returned).2⟩
    · have counted := tally_of_run run true
      rw [tally_of_closed sound returned, all.countP_eq] at counted
      simpa using counted
    · have counted := tally_of_run run false
      rw [tally_of_closed sound returned, all.countP_eq] at counted
      simpa using counted
  · intro stopped
    simp only [turn?, Pool.close, stopped, if_true]
  · intro closed later q more
    exact still_of_run more sound (closed_of_run run closed)

/-- Two tasks, one of which crashes, and a third that comes too late for a pool
that was made without workers and so has one. -/
theorem exactly_once_crash :
    let turns : List (Turn Outcome) :=
      [.submit .completed, .submit (.crashed none), .close, .submit (.crashed (some "late")),
        .work 0, .goOnClosing, .work 0, .work 0, .work 0, .close, .work 0, .work 0, .work 0,
        .goOnClosing]
    let r := (machine id).takeAll (ofSize 0) turns
    (submittedOf r.2).Nodup ∧ Event.closed ∈ r.2 ∧ r.1.isStopped ∧
      (performedOf r.2).Perm (acceptedOf r.2) ∧ r.1.completed = 1 ∧ r.1.failed = 1 ∧
      Outcome.crashed (some "late") ∉ performedOf r.2 := by
  intro turns r
  have run : (machine id).Run (ofSize 0) r.2 r.1 := Machine.Run.takeAll _ turns
  have distinct : (submittedOf r.2).Nodup := by decide
  have closed : Event.closed ∈ r.2 := by decide
  have accepted : acceptedOf r.2 = [.completed, .crashed none] := by decide
  obtain ⟨-, once, counted, -, -⟩ := exactly_once run
  obtain ⟨all, -, completed, failed⟩ := counted closed
  rw [accepted] at completed failed
  exact ⟨distinct, closed, by decide, all, completed, failed, (once distinct).2 _ (by decide)⟩

end Pool

end PacketWatch
