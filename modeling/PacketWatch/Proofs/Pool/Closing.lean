/-
# `PacketWatch.Proofs.Pool.Closing` — closing a pool never gets stuck

The call that closes a pool waits for all workers, and a worker waits for messages; so the
call would wait forever if one message to leave were missing.  `Sound` keeps the balance

    messages to leave in the channel + those still to be sent = workers that stay,

and once all are sent, a worker that stays finds the channel filled.  It has a turn, each
of its turns leaves less to do (`toil`), and nobody adds to it any more: so the workers
come to an end, and the call returns (`Sound.comes_to_end`).

A worker would also leave if it found the channel empty and the sender gone.  By the balance
no worker ever does, so the pools whose workers may give up (`impatient`) run as those
whose workers only wait, and what is proved of the one is proved of the other.
-/
import PacketWatch.Proofs.Pool.ExactlyOnce
import Mathlib.Algebra.GroupWithZero.Nat

namespace PacketWatch

/-- How many turns of a worker a message asks for: to receive it, and for a task to perform
and to count it. -/
@[simp] def Message.toil {τ : Type} : Message τ → Nat
  | .run _ => 3
  | .leave => 1

/-- How many turns a worker still takes before it waits again. -/
@[simp] def Worker.toil {τ : Type} : Worker τ → Nat
  | .holding _ => 2
  | .counting _ => 1
  | .waiting | .gone => 0

/-- Whether a worker has a task in its hands. -/
@[simp] def Worker.isBusy {τ : Type} : Worker τ → Bool
  | .holding _ | .counting _ => true
  | .waiting | .gone => false

namespace Pool

variable {τ : Type} {perform : τ → Outcome}

/-- How many workers have not taken a message to leave. -/
def staying (p : Pool τ) : Nat := p.workers.countP fun w => !w.isGone

/-- How many turns the workers take until the channel is empty and none has anything to do. -/
def toil (p : Pool τ) : Nat :=
  (p.channel.map Message.toil).sum + (p.workers.map Worker.toil).sum

/-! ## The balance -/

theorem gone_add_staying (p : Pool τ) : p.gone + p.staying = p.size := by
  have split := List.length_eq_countP_add_countP Worker.isGone (l := p.workers)
  rw [size, split, gone, staying]
  simp

theorem isCutOff_iff {p : Pool τ} :
    p.isCutOff = true ↔ p.closing = .sending 0 ∨ p.closing = .returned := by
  unfold isCutOff
  cases p.closing with
  | notBegun | returned => simp
  | sending left => cases left <;> simp

theorem unsent_of_isCutOff {p : Pool τ} (cutOff : p.isCutOff = true) : p.unsent = 0 := by
  unfold unsent
  rcases isCutOff_iff.mp cutOff with here | here <;> rw [here]

/-- The tasks in the channel stand before the messages to leave, and these are as many as the
workers that stay, but for those still to be sent. -/
theorem Sound.balance {p : Pool τ} (sound : Sound p) :
    ∃ (tasks : List τ) (leaves : Nat),
      p.channel = tasks.map .run ++ List.replicate leaves .leave ∧
        leaves + p.unsent = p.staying := by
  obtain ⟨tasks, leaves, channel, counted, -⟩ := sound.lined
  have parts := gone_add_staying p
  exact ⟨tasks, leaves, channel, by omega⟩

theorem Sound.balance_of_isCutOff {p : Pool τ} (sound : Sound p) (cutOff : p.isCutOff = true) :
    ∃ tasks : List τ, p.channel = tasks.map .run ++ List.replicate p.staying .leave := by
  obtain ⟨tasks, leaves, channel, counted⟩ := sound.balance
  rw [unsent_of_isCutOff cutOff, Nat.add_zero] at counted
  exact ⟨tasks, counted ▸ channel⟩

/-- A worker that stays when all messages are sent finds the channel filled. -/
theorem Sound.filled {p : Pool τ} (sound : Sound p) (cutOff : p.isCutOff = true) {w : Worker τ}
    (here : w ∈ p.workers) (stays : w ≠ .gone) : p.channel ≠ [] := by
  obtain ⟨tasks, channel⟩ := sound.balance_of_isCutOff cutOff
  have some : 0 < p.staying := by
    refine List.countP_pos_iff.mpr ⟨w, here, ?_⟩
    cases w with
    | gone => exact absurd rfl stays
    | waiting | holding | counting => rfl
  intro empty
  rw [empty] at channel
  have length := congrArg List.length channel
  simp only [List.length_nil, List.length_append, List.length_replicate] at length
  omega

/-! ## Nobody gives up -/

theorem Sound.turnOrGiveUp?_eq {p : Pool τ} (sound : Sound p) (t : Turn τ) :
    p.turnOrGiveUp? perform t = p.turn? perform t := by
  cases t with
  | submit | close | goOnClosing => rfl
  | work index =>
      show p.workOrGiveUp? perform index = p.work? perform index
      unfold workOrGiveUp?
      split
      · rename_i waiting empty
        have nothing : p.work? perform index = none := by
          simp only [work?, waiting, receive?, empty, Option.map_none]
        split
        · rename_i cutOff
          exact absurd empty (sound.filled cutOff (List.mem_of_getElem? waiting) (by simp))
        · exact nothing.symm
      · rfl

/-- Workers that may give up run as those that only wait. -/
theorem run_of_impatient {count : Nat} {seen : List (Event τ)} {p : Pool τ}
    (run : (impatient perform).Run (ofSize count) seen p) :
    (machine perform).Run (ofSize count) seen p := by
  induction run with
  | here => exact .here _
  | @turn u q t seen now _ turn ih =>
      have sound := (sound_of_run ih).1
      exact .turn ih ((sound.turnOrGiveUp?_eq t).symm.trans turn)

/-! ## Less and less to do -/

/-- A worker's turn leaves one turn less to do. -/
theorem Step.toil_of_work {index : Nat} {p q : Pool τ} {seen : List (Event τ)}
    (step : Step perform (.work index) p seen q) : q.toil + 1 = p.toil := by
  cases step with
  | receive workers channel | leave workers channel =>
      simp only [toil, workers, channel, List.map_cons, List.map_append, List.sum_cons,
        List.sum_append, Message.toil, Worker.toil]
      omega
  | «perform» workers =>
      simp only [toil, workers, List.map_cons, List.map_append, List.sum_cons, List.sum_append,
        Worker.toil]
      omega
  | count workers =>
      simp only [toil, workers, count_channel, List.map_cons, List.map_append, List.sum_cons,
        List.sum_append, Worker.toil]
      omega

/-- Once all messages to leave are sent, nobody adds anything to do. -/
theorem Step.toil_le {t : Turn τ} {p q : Pool τ} {seen : List (Event τ)}
    (step : Step perform t p seen q) (cutOff : p.isCutOff = true) :
    q.isCutOff = true ∧ q.toil ≤ p.toil := by
  have kept (closing : q.closing = p.closing) : q.isCutOff = true := by
    rwa [isCutOff, closing]
  have fewer {index : Nat} (work : Step perform (.work index) p seen q) : q.toil ≤ p.toil := by
    have less := work.toil_of_work
    omega
  cases step with
  | reject | closeAgain => exact ⟨cutOff, Nat.le_refl _⟩
  | accept opened | close opened =>
      rw [isCutOff, opened] at cutOff
      cases cutOff
  | send sending =>
      rw [isCutOff, sending] at cutOff
      cases cutOff
  | finish => exact ⟨rfl, Nat.le_refl _⟩
  | receive workers channel => exact ⟨kept rfl, fewer (.receive workers channel)⟩
  | leave workers channel => exact ⟨kept rfl, fewer (.leave workers channel)⟩
  | «perform» workers => exact ⟨kept rfl, fewer (.perform workers)⟩
  | count workers => exact ⟨kept (count_closing _ _), fewer (.count workers)⟩

/-- A worker that stays has a turn, unless it waits at an empty channel. -/
theorem isSome_turn_of_stays {p : Pool τ} {index : Nat} {w : Worker τ}
    (here : p.workers[index]? = some w) (stays : w ≠ .gone)
    (filled : w.isBusy = true ∨ p.channel ≠ []) :
    (p.turn? perform (.work index)).isSome = true := by
  cases w with
  | gone => exact absurd rfl stays
  | holding task | counting outcome => simp only [turn?, work?, here, Option.isSome_some]
  | waiting =>
      simp only [turn?, work?, here, receive?, Option.isSome_map]
      cases channel : p.channel with
      | nil => exact absurd channel (filled.resolve_left (by simp))
      | cons message rest => cases message <;> rfl

/-- The call that closes the pool does not wait while it has messages to send. -/
theorem turn_of_sending {p : Pool τ} {left : Nat} (sending : p.closing = .sending (left + 1)) :
    p.turn? perform .goOnClosing =
      some ({ p with channel := p.channel ++ [.leave], closing := .sending left }, []) := by
  simp only [turn?, goOnClosing?, sending, Option.map_some, reduceCtorEq, if_false]

/-- It returns as soon as all workers have left. -/
theorem turn_of_everyone_gone {p : Pool τ} (sending : p.closing = .sending 0)
    (everyone : ∀ w ∈ p.workers, w = .gone) :
    p.turn? perform .goOnClosing =
      some ({ p with closing := .returned }, [.reported closedLine, .closed]) := by
  simp only [turn?, goOnClosing?, sending]
  split
  · simp only [Option.map_some, if_true]
  · rename_i some
    refine absurd (List.all_eq_true.mpr fun w hw => ?_) some
    rw [everyone w hw]

/-! ## To the end -/

/-- A turn of the call that closes the pool, or of a worker. -/
def Moves (perform : τ → Outcome) (p q : Pool τ) : Prop :=
  ∃ t seen, (t = .goOnClosing ∨ ∃ index, t = .work index) ∧ p.turn? perform t = some (q, seen)

/-- How many turns are left until all messages are sent and nothing is to do. -/
def distance (p : Pool τ) : Nat := 2 * p.unsent + p.toil

/-- Once all messages to leave are sent, some worker has a turn until all have left. -/
theorem Sound.worker_moves {p : Pool τ} (sound : Sound p) (cutOff : p.isCutOff = true)
    (unfinished : ¬∀ w ∈ p.workers, w = .gone) :
    ∃ index q seen, p.turn? perform (.work index) = some (q, seen) := by
  obtain ⟨w, here, stays⟩ : ∃ w ∈ p.workers, w ≠ .gone := by
    simpa only [not_forall, exists_prop] using unfinished
  obtain ⟨index, place⟩ := List.mem_iff_getElem?.mp here
  have ready : (p.turn? perform (.work index)).isSome = true :=
    isSome_turn_of_stays place stays (.inr (sound.filled cutOff here stays))
  obtain ⟨⟨q, seen⟩, turn⟩ := Option.isSome_iff_exists.mp ready
  exact ⟨index, q, seen, turn⟩

/-- A pool that is being closed has a turn that brings it nearer to its end, until the call
returns. -/
theorem Sound.moves {p : Pool τ} (sound : Sound p) (begun : p.closing ≠ .notBegun)
    (waits : p.closing ≠ .returned) :
    ∃ q, Moves perform p q ∧ Sound q ∧ q.closing ≠ .notBegun ∧
      (q.closing = .returned ∨ q.distance < p.distance) := by
  cases closing : p.closing with
  | notBegun => exact absurd closing begun
  | returned => exact absurd closing waits
  | sending left =>
      cases left with
      | succ left =>
          have turn : p.turn? perform .goOnClosing = some _ := turn_of_sending closing
          refine ⟨_, ⟨_, _, .inl rfl, turn⟩, (step_of_turn turn).sound sound, by simp, .inr ?_⟩
          simp only [distance, unsent, toil, closing, List.map_append, List.map_cons, List.map_nil,
            List.sum_append, List.sum_cons, List.sum_nil, Message.toil]
          omega
      | zero =>
          by_cases everyone : ∀ w ∈ p.workers, w = .gone
          · have turn : p.turn? perform .goOnClosing = some _ :=
              turn_of_everyone_gone closing everyone
            exact ⟨_, ⟨_, _, .inl rfl, turn⟩, (step_of_turn turn).sound sound, by simp, .inl rfl⟩
          · have cutOff : p.isCutOff = true := isCutOff_iff.mpr (.inl closing)
            obtain ⟨index, q, seen, turn⟩ :
                ∃ index q seen, p.turn? perform (.work index) = some (q, seen) :=
              sound.worker_moves cutOff everyone
            have step := step_of_turn turn
            have still := (step.toil_le cutOff).1
            have less := step.toil_of_work
            refine ⟨q, ⟨_, _, .inr ⟨index, rfl⟩, turn⟩, step.sound sound, ?_, .inr ?_⟩
            · rcases isCutOff_iff.mp still with here | here <;> simp [here]
            · rw [distance, distance, unsent_of_isCutOff cutOff, unsent_of_isCutOff still]
              omega

/-- A pool that is being closed can come to the end of that. -/
theorem Sound.comes_to_end {p : Pool τ} (sound : Sound p) (begun : p.closing ≠ .notBegun) :
    ∃ q, Relation.ReflTransGen (Moves perform) p q ∧ q.closing = .returned := by
  by_cases returned : p.closing = .returned
  · exact ⟨p, .refl, returned⟩
  · obtain ⟨q, moves, stillSound, stillBegun, ended⟩ := sound.moves begun returned
    rcases ended with ended | nearer
    · exact ⟨q, .single moves, ended⟩
    · obtain ⟨r, way, ended⟩ := stillSound.comes_to_end stillBegun
      exact ⟨r, .head moves way, ended⟩
termination_by p.distance

/-! ## Never stuck -/

/-- **Closing never gets stuck.**  Whatever the order of the threads, and whatever the tasks do:
no worker leaves before the pool is being closed, and the call that closes it sends its
messages without waiting.  Once all are sent, the tasks in the channel stand before the messages
to leave, of which there is one for each worker that has not taken its own.  So each worker
that has not left has a task in its hands or finds the channel filled: it has a turn, and
leaves less to do.  Nobody adds to that any more, and when all workers have left the call
returns. -/
theorem closing_never_stuck {count : Nat} {seen : List (Event τ)} {p : Pool τ}
    (run : (impatient perform).Run (ofSize count) seen p) :
    (p.isStopped = false → ∀ w ∈ p.workers, w ≠ .gone) ∧
      (∀ left, p.closing = .sending (left + 1) →
        ∃ q, p.turnOrGiveUp? perform .goOnClosing = some (q, []) ∧ q.closing = .sending left) ∧
      (p.isCutOff = true →
        (∃ tasks : List τ,
            p.channel = tasks.map .run ++ List.replicate p.staying .leave) ∧
          (∀ index w, p.workers[index]? = some w → w ≠ .gone →
            (w.isBusy = true ∨ p.channel ≠ []) ∧
              ∃ q now, p.turnOrGiveUp? perform (.work index) = some (q, now) ∧
                q.toil < p.toil) ∧
          (∀ t q now, p.turnOrGiveUp? perform t = some (q, now) →
            q.isCutOff = true ∧ q.toil ≤ p.toil) ∧
          ((∀ w ∈ p.workers, w = .gone) → p.closing ≠ .returned →
            ∃ q now, p.turnOrGiveUp? perform .goOnClosing = some (q, now) ∧ .closed ∈ now)) := by
  have sound := (sound_of_run (run_of_impatient run)).1
  simp only [sound.turnOrGiveUp?_eq]
  refine ⟨?_, ?_, fun cutOff => ⟨sound.balance_of_isCutOff cutOff, ?_, ?_, ?_⟩⟩
  · intro opened w here gone
    have none := (sound.opened (not_isStopped_iff.mp opened)).1
    have some : 0 < p.gone := List.countP_pos_iff.mpr ⟨w, here, by rw [gone, Worker.isGone]⟩
    omega
  · intro left sending
    exact ⟨_, turn_of_sending sending, rfl⟩
  · intro index w here stays
    have filled := sound.filled cutOff (List.mem_of_getElem? here) stays
    have moves : (p.turn? perform (.work index)).isSome = true :=
      isSome_turn_of_stays here stays (.inr filled)
    obtain ⟨⟨q, now⟩, turn⟩ := Option.isSome_iff_exists.mp moves
    have less := (step_of_turn turn).toil_of_work
    exact ⟨.inr filled, q, now, turn, by omega⟩
  · intro t q now turn
    exact (step_of_turn turn).toil_le cutOff
  · intro everyone waits
    have sending := (isCutOff_iff.mp cutOff).resolve_right waits
    exact ⟨_, _, turn_of_everyone_gone sending everyone, by simp⟩

/-- Two workers, a task that crashes, a second one, and a third that comes too late: when the
messages to leave are sent and a second call to close came to nothing, the worker behind the
crash is still there, and the other has a turn. -/
theorem closing_never_stuck_crash :
    let turns : List (Turn Outcome) :=
      [.submit (.crashed none), .submit .completed, .work 0, .close, .close, .work 0,
        .submit (.crashed (some "late")), .goOnClosing, .goOnClosing]
    let p := ((impatient id).takeAll (ofSize 2) turns).1
    p.isCutOff = true ∧ p.staying = 2 ∧
      (∃ tasks : List Outcome, p.channel = tasks.map .run ++ List.replicate 2 .leave) ∧
      p.workers[0]? = some (.counting (.crashed none)) ∧ p.workers[1]? = some .waiting ∧
      p.channel ≠ [] ∧
      ∃ q now, p.turnOrGiveUp? id (.work 1) = some (q, now) ∧ q.toil < p.toil := by
  intro turns p
  have run : (impatient id).Run (ofSize 2) _ p := Machine.Run.takeAll _ turns
  have cutOff : p.isCutOff = true := by decide
  have two : p.staying = 2 := by decide
  have waiting : p.workers[1]? = some .waiting := by decide
  obtain ⟨-, -, stuck⟩ := closing_never_stuck run
  obtain ⟨lined, moves, -, -⟩ := stuck cutOff
  obtain ⟨busy | filled, next⟩ := moves 1 .waiting waiting (by simp)
  · exact absurd busy Bool.false_ne_true
  · exact ⟨cutOff, two, two ▸ lined, by decide, waiting, filled, next⟩

end Pool

end PacketWatch
