/-
# `PacketWatch.Proofs.Pool.Steps` — what one turn of a pool can do

`Step` lists the turns of a pool with the state that each of them needs, so a
proof about turns is one case for each constructor and never opens `turn?`.
A worker is named by the workers in front of it and behind it: counts over all
workers then split at the one that moves.

The second half is the order inside the channel (`Sound`).  Tasks stand before
messages to leave, and each worker that has not left has exactly one such
message in the channel or still to be sent.  A worker that has left therefore
took its message from a channel without tasks, and nothing is queued behind it.
-/
import PacketWatch.Pool
import Mathlib.Data.List.Basic

namespace PacketWatch

/-- Whether a worker has left. -/
@[simp] def Worker.isGone {τ : Type} : Worker τ → Bool
  | .gone => true
  | _ => false

namespace Pool

variable {τ : Type} {perform : τ → Outcome}

/-- A turn, what is seen of it, and the states before and after. -/
inductive Step (perform : τ → Outcome) : Turn τ → Pool τ → List (Event τ) → Pool τ → Prop
  | accept {p : Pool τ} {task : τ} :
      p.closing = .notBegun →
      Step perform (.submit task) p [.accepted task]
        { p with channel := p.channel ++ [.run task] }
  | reject {p : Pool τ} {task : τ} :
      p.closing ≠ .notBegun → Step perform (.submit task) p [.rejected task] p
  | close {p : Pool τ} :
      p.closing = .notBegun →
      Step perform .close p [.reported p.closingLine] { p with closing := .sending p.size }
  | closeAgain {p : Pool τ} :
      p.closing ≠ .notBegun → Step perform .close p [] p
  | send {p : Pool τ} {left : Nat} :
      p.closing = .sending (left + 1) →
      Step perform .goOnClosing p []
        { p with channel := p.channel ++ [.leave], closing := .sending left }
  | finish {p : Pool τ} :
      p.closing = .sending 0 → (∀ w ∈ p.workers, w = .gone) →
      Step perform .goOnClosing p [.reported closedLine, .closed] { p with closing := .returned }
  | receive {p : Pool τ} {front back : List (Worker τ)} {task : τ} {rest : List (Message τ)} :
      p.workers = front ++ .waiting :: back → p.channel = .run task :: rest →
      Step perform (.work front.length) p []
        { p with channel := rest, workers := front ++ .holding task :: back }
  | leave {p : Pool τ} {front back : List (Worker τ)} {rest : List (Message τ)} :
      p.workers = front ++ .waiting :: back → p.channel = .leave :: rest →
      Step perform (.work front.length) p []
        { p with channel := rest, workers := front ++ .gone :: back }
  | perform {p : Pool τ} {front back : List (Worker τ)} {task : τ} :
      p.workers = front ++ .holding task :: back →
      Step perform (.work front.length) p [.performed task]
        { p with workers := front ++ .counting (perform task) :: back }
  | count {p : Pool τ} {front back : List (Worker τ)} {outcome : Outcome} :
      p.workers = front ++ .counting outcome :: back →
      Step perform (.work front.length) p (outcome.lines.map .reported)
        { p.count outcome with workers := front ++ .waiting :: back }

/-! ## Every turn is one of these -/

theorem isStopped_iff {p : Pool τ} : p.isStopped = true ↔ p.closing ≠ .notBegun := by
  simp [isStopped]

theorem not_isStopped_iff {p : Pool τ} : p.isStopped = false ↔ p.closing = .notBegun := by
  simp [isStopped]

/-- Counting an outcome changes counters only. -/
@[simp] theorem count_channel (p : Pool τ) (o : Outcome) : (p.count o).channel = p.channel := by
  unfold Pool.count; split <;> rfl

@[simp] theorem count_workers (p : Pool τ) (o : Outcome) : (p.count o).workers = p.workers := by
  unfold Pool.count; split <;> rfl

@[simp] theorem count_closing (p : Pool τ) (o : Outcome) : (p.count o).closing = p.closing := by
  unfold Pool.count; split <;> rfl

/-- A list around one of its places. -/
theorem exists_around {α : Type} {l : List α} {i : Nat} {a : α} (h : l[i]? = some a) :
    ∃ front back, l = front ++ a :: back ∧ i = front.length ∧
      ∀ b, l.set i b = front ++ b :: back := by
  obtain ⟨hi, rfl⟩ := List.getElem?_eq_some_iff.mp h
  refine ⟨l.take i, l.drop (i + 1), ?_, ?_, ?_⟩
  · simp
  · simp only [List.length_take]; omega
  · intro b
    exact List.set_eq_take_append_cons_drop.trans (if_pos hi)

theorem step_of_submit {p q : Pool τ} {task : τ} {seen : List (Event τ)}
    (turn : p.turn? perform (.submit task) = some (q, seen)) :
    Step perform (.submit task) p seen q := by
  cases stopped : p.isStopped with
  | false =>
      have opened : p.closing = .notBegun := not_isStopped_iff.mp stopped
      simp only [turn?, submit, stopped, Bool.false_eq_true, if_false, Option.some.injEq,
        Prod.mk.injEq] at turn
      obtain ⟨rfl, rfl⟩ := turn
      exact .accept opened
  | true =>
      simp only [turn?, submit, stopped, if_true, Option.some.injEq, Prod.mk.injEq] at turn
      obtain ⟨rfl, rfl⟩ := turn
      exact .reject (isStopped_iff.mp stopped)

theorem step_of_close {p q : Pool τ} {seen : List (Event τ)}
    (turn : p.turn? perform .close = some (q, seen)) : Step perform .close p seen q := by
  cases stopped : p.isStopped with
  | false =>
      have opened : p.closing = .notBegun := not_isStopped_iff.mp stopped
      simp only [turn?, Pool.close, stopped, Bool.false_eq_true, if_false, Option.some.injEq,
        Prod.mk.injEq] at turn
      obtain ⟨rfl, rfl⟩ := turn
      exact .close opened
  | true =>
      simp only [turn?, Pool.close, stopped, if_true, Option.some.injEq, Prod.mk.injEq] at turn
      obtain ⟨rfl, rfl⟩ := turn
      exact .closeAgain (isStopped_iff.mp stopped)

theorem step_of_goOnClosing {p q : Pool τ} {seen : List (Event τ)}
    (turn : p.turn? perform .goOnClosing = some (q, seen)) :
    Step perform .goOnClosing p seen q := by
  simp only [turn?, goOnClosing?] at turn
  split at turn
  · rename_i left sending
    simp only [Option.map_some, reduceCtorEq, if_false, Option.some.injEq, Prod.mk.injEq] at turn
    obtain ⟨rfl, rfl⟩ := turn
    exact .send sending
  · rename_i sending
    split at turn
    · rename_i gone
      simp only [Option.map_some, if_true, Option.some.injEq, Prod.mk.injEq] at turn
      obtain ⟨rfl, rfl⟩ := turn
      refine .finish sending ?_
      intro w hw
      have left := List.all_eq_true.mp gone w hw
      cases w with
      | gone => rfl
      | waiting | holding | counting => simp at left
    · simp at turn
  · simp at turn

theorem step_of_work {p q : Pool τ} {index : Nat} {seen : List (Event τ)}
    (turn : p.turn? perform (.work index) = some (q, seen)) :
    Step perform (.work index) p seen q := by
  simp only [turn?, work?] at turn
  split at turn
  · rename_i here
    obtain ⟨front, back, workers, rfl, set⟩ := exists_around here
    simp only [receive?] at turn
    split at turn
    · simp at turn
    · rename_i task rest channel
      simp only [setWorker, set, Option.map_some, Option.some.injEq, Prod.mk.injEq] at turn
      obtain ⟨rfl, rfl⟩ := turn
      exact .receive workers channel
    · rename_i rest channel
      simp only [setWorker, set, Option.map_some, Option.some.injEq, Prod.mk.injEq] at turn
      obtain ⟨rfl, rfl⟩ := turn
      exact .leave workers channel
  · rename_i task here
    obtain ⟨front, back, workers, rfl, set⟩ := exists_around here
    simp only [setWorker, set, Option.some.injEq, Prod.mk.injEq] at turn
    obtain ⟨rfl, rfl⟩ := turn
    exact .perform workers
  · rename_i outcome here
    obtain ⟨front, back, workers, rfl, set⟩ := exists_around here
    simp only [setWorker, count_workers, set, Option.some.injEq, Prod.mk.injEq] at turn
    obtain ⟨rfl, rfl⟩ := turn
    exact .count workers
  · simp at turn

/-- Every turn of a pool is a step. -/
theorem step_of_turn {p q : Pool τ} {t : Turn τ} {seen : List (Event τ)}
    (turn : p.turn? perform t = some (q, seen)) : Step perform t p seen q := by
  cases t with
  | submit task => exact step_of_submit turn
  | close => exact step_of_close turn
  | goOnClosing => exact step_of_goOnClosing turn
  | work index => exact step_of_work turn

/-! ## The order inside the channel -/

/-- How many workers have left. -/
def gone (p : Pool τ) : Nat := p.workers.countP Worker.isGone

/-- How many messages to leave are still to be sent. -/
def unsent (p : Pool τ) : Nat :=
  match p.closing with
  | .notBegun => p.size
  | .sending left => left
  | .returned => 0

/-- What every pool keeps: it has workers; its channel holds tasks and then
messages to leave, one for each worker that has not taken its own yet; who has
left, left a channel without tasks; and nobody is left when the call that closes
the pool has returned. -/
structure Sound (p : Pool τ) : Prop where
  manned : 0 < p.size
  lined : ∃ (tasks : List τ) (leaves : Nat),
    p.channel = tasks.map .run ++ List.replicate leaves .leave ∧
      p.gone + leaves + p.unsent = p.size ∧ (0 < p.gone → tasks = [])
  emptied : p.closing = .returned → p.gone = p.size

theorem gone_eq_size_iff {p : Pool τ} : p.gone = p.size ↔ ∀ w ∈ p.workers, w = .gone := by
  rw [gone, size, List.countP_eq_length]
  constructor
  · intro all w hw
    have left := all w hw
    cases w with
    | gone => rfl
    | waiting | holding | counting => simp at left
  · intro all w hw
    rw [all w hw, Worker.isGone]

/-- A new pool. -/
theorem Sound.ofSize (count : Nat) : Sound (ofSize count : Pool τ) where
  manned := by simp only [size, Pool.ofSize, List.length_replicate]; omega
  lined := by
    refine ⟨[], 0, rfl, ?_, fun _ => rfl⟩
    simp [gone, unsent, size, Pool.ofSize, List.countP_replicate]
  emptied := by intro returned; exact absurd returned (by simp [Pool.ofSize])

/-- Before the pool is being closed nobody has left, and nobody is told to. -/
theorem Sound.opened {p : Pool τ} (sound : Sound p) (opened : p.closing = .notBegun) :
    p.gone = 0 ∧ ∃ tasks : List τ, p.channel = tasks.map .run := by
  obtain ⟨tasks, leaves, channel, counted, -⟩ := sound.lined
  have unsent : p.unsent = p.size := by simp only [Pool.unsent, opened]
  have noLeaves : leaves = 0 := by omega
  refine ⟨by omega, tasks, ?_⟩
  rw [channel, noLeaves, List.replicate_zero, List.append_nil]

/-- Once the call that closes the pool has returned, nothing is left. -/
theorem Sound.drained {p : Pool τ} (sound : Sound p) (returned : p.closing = .returned) :
    p.channel = [] ∧ ∀ w ∈ p.workers, w = .gone := by
  obtain ⟨tasks, leaves, channel, counted, empty⟩ := sound.lined
  have all := sound.emptied returned
  have manned := sound.manned
  have noLeaves : leaves = 0 := by omega
  have noTasks : tasks = [] := empty (by omega)
  refine ⟨?_, gone_eq_size_iff.mp all⟩
  rw [channel, noTasks, noLeaves]
  rfl

/-- A worker that moves without leaving does not change who has left. -/
theorem gone_of_moved {p q : Pool τ} {front back : List (Worker τ)} {w v : Worker τ}
    (before : p.workers = front ++ w :: back) (after : q.workers = front ++ v :: back)
    (same : w.isGone = v.isGone) : q.gone = p.gone := by
  simp only [gone, before, after, List.countP_append, List.countP_cons, same]

theorem size_of_moved {p q : Pool τ} {front back : List (Worker τ)} {w v : Worker τ}
    (before : p.workers = front ++ w :: back) (after : q.workers = front ++ v :: back) :
    q.size = p.size := by
  simp only [size, before, after, List.length_append, List.length_cons]

/-- The number of workers never changes. -/
theorem Step.size {t : Turn τ} {p q : Pool τ} {seen : List (Event τ)}
    (step : Step perform t p seen q) : q.size = p.size := by
  cases step with
  | accept | reject | close | closeAgain | send | finish => rfl
  | receive workers | leave workers | perform workers | count workers =>
      exact size_of_moved workers rfl

/-- A worker that moves and stays leaves the order as it was, if at most a task
was taken from the front of the channel. -/
theorem Sound.moved {p q : Pool τ} {front back : List (Worker τ)} {w v : Worker τ}
    (sound : Sound p) (before : p.workers = front ++ w :: back)
    (after : q.workers = front ++ v :: back) (same : w.isGone = v.isGone)
    (closing : q.closing = p.closing)
    (channel : q.channel = p.channel ∨ ∃ task, p.channel = .run task :: q.channel) : Sound q := by
  have size := size_of_moved (q := q) before after
  have gone := gone_of_moved (q := q) before after same
  have unsent : q.unsent = p.unsent := by simp only [Pool.unsent, closing, size]
  refine ⟨size ▸ sound.manned, ?_, fun returned => ?_⟩
  · obtain ⟨tasks, leaves, lined, counted, empty⟩ := sound.lined
    rw [size, gone, unsent]
    rcases channel with channel | ⟨task, channel⟩
    · exact ⟨tasks, leaves, channel.trans lined, counted, empty⟩
    · cases tasks with
      | nil =>
          -- a message to leave is no task
          rw [lined] at channel
          cases leaves <;> simp [List.replicate_succ] at channel
      | cons head tail =>
          rw [lined] at channel
          refine ⟨tail, leaves, (List.cons.inj channel).2.symm, counted, fun some => ?_⟩
          exact absurd (empty some) (List.cons_ne_nil _ _)
  · rw [size, gone]
    exact sound.emptied (closing ▸ returned)

/-- A worker takes the message to leave: there was no task in front of it. -/
theorem Sound.left {p : Pool τ} {front back : List (Worker τ)} {rest : List (Message τ)}
    (sound : Sound p) (before : p.workers = front ++ .waiting :: back)
    (channel : p.channel = .leave :: rest) :
    Sound { p with channel := rest, workers := front ++ .gone :: back } := by
  let q : Pool τ := { p with channel := rest, workers := front ++ .gone :: back }
  have size : q.size = p.size := size_of_moved before rfl
  have gone : q.gone = p.gone + 1 := by
    simp only [q, Pool.gone, before, List.countP_append, List.countP_cons, Worker.isGone]
    simp only [if_true, Bool.false_eq_true, if_false]
    omega
  have unsent : q.unsent = p.unsent := by simp only [Pool.unsent, size]; rfl
  obtain ⟨tasks, leaves, lined, counted, -⟩ := sound.lined
  have noTasks : tasks = [] := by
    cases tasks with
    | nil => rfl
    | cons head tail => rw [lined] at channel; simp at channel
  subst noTasks
  cases leaves with
  | zero => rw [lined] at channel; simp at channel
  | succ leaves =>
      refine ⟨size ▸ sound.manned, ⟨[], leaves, ?_, ?_, fun _ => rfl⟩, fun returned => ?_⟩
      · rw [lined] at channel
        exact (List.cons.inj channel).2.symm
      · change q.gone + leaves + q.unsent = q.size
        omega
      · have all : p.gone = p.size := sound.emptied returned
        omega

/-- A pool that holds tasks only, and still has to send all messages to leave. -/
theorem Sound.of_tasks {q : Pool τ} (tasks : List τ) (manned : 0 < q.size)
    (noneGone : q.gone = 0) (channel : q.channel = tasks.map .run)
    (unsent : q.unsent = q.size) : Sound q := by
  refine ⟨manned, ⟨tasks, 0, ?_, by omega, fun some => by omega⟩, fun returned => ?_⟩
  · rw [channel, List.replicate_zero, List.append_nil]
  · simp only [Pool.unsent, returned] at unsent
    omega

/-- Every turn keeps the order. -/
theorem Step.sound {t : Turn τ} {p q : Pool τ} {seen : List (Event τ)}
    (step : Step perform t p seen q) (sound : Sound p) : Sound q := by
  cases step with
  | reject | closeAgain => exact sound
  | @accept _ task opened =>
      obtain ⟨noneGone, tasks, channel⟩ := sound.opened opened
      refine .of_tasks (tasks ++ [task]) sound.manned noneGone ?_ ?_
      · simp only [channel, List.map_append, List.map_cons, List.map_nil]
      · simp only [unsent, opened]
  | close opened =>
      obtain ⟨noneGone, tasks, channel⟩ := sound.opened opened
      exact .of_tasks tasks sound.manned noneGone channel rfl
  | @send _ left sending =>
      obtain ⟨tasks, leaves, channel, counted, empty⟩ := sound.lined
      refine ⟨sound.manned, ⟨tasks, leaves + 1, ?_, ?_, empty⟩, fun returned => ?_⟩
      · simp only [channel, List.replicate_succ', List.append_assoc]
      · simp only [unsent, sending] at counted
        change p.gone + (leaves + 1) + left = p.size
        omega
      · exact absurd returned (by simp)
  | finish sending everyone =>
      obtain ⟨tasks, leaves, channel, counted, empty⟩ := sound.lined
      simp only [unsent, sending] at counted
      exact ⟨sound.manned, ⟨tasks, leaves, channel, counted, empty⟩,
        fun _ => gone_eq_size_iff.mpr everyone⟩
  | receive workers channel => exact sound.moved workers rfl rfl rfl (.inr ⟨_, channel⟩)
  | perform workers => exact sound.moved workers rfl rfl rfl (.inl rfl)
  | count workers =>
      exact sound.moved workers rfl rfl (count_closing _ _) (.inl (count_channel _ _))
  | @leave _ front back rest workers channel => exact sound.left workers channel

end Pool

end PacketWatch
