/-
# `PacketWatch.Proofs.Pipeline.Calls` — a call, from the control lock to its answer

A call gets the control lock in one turn and releases it with its answer, in the same turn
or in a later one.  All threads take turns in between, in any order, so what a call does is
what holds of every way from the one turn to the other.

    Underway   the call has got the lock and has not answered yet
    Returns    the call has answered

Both stop and restart first stop a pipeline that is running, and what the holder of the lock
does next is told by its place (`Step.stopping`).  A stop that returns leaves the pipeline
stopped (`Returns.stopped`).
-/
import PacketWatch.Proofs.Pipeline.Conservation

namespace PacketWatch

/-- What follows when the pipeline has been stopped, at the places that lead there. -/
def Control.afterStop? : Control → Option AfterStop
  | .stopping after | .halting after | .marking after | .joining after | .closing after =>
      some after
  | .free | .opening _ | .spawning _ | .clearing _ | .discarding _ _ | .renewing _
  | .retiring _ | .withdrawing | .awaiting | .emptying => none

namespace Pipeline

variable {σ α : Type} {S : CaptureSource σ α}

/-! ## From the lock to the answer -/

/-- A call got the control lock of a pipeline, and has not answered yet. -/
inductive Underway (S : CaptureSource σ α) (c : Call) (p : Pipeline σ) :
    List Event → Pipeline σ → Prop
  | begin {q : Pipeline σ} {now : List Event} :
      p.turn? S (.call c) = some (q, now) → (∀ answer, .returned answer ∉ now) →
      Underway S c p now q
  | turn {u q : Pipeline σ} {t : Turn α} {seen now : List Event} :
      Underway S c p seen u → u.turn? S t = some (q, now) →
      (∀ answer, .returned answer ∉ now) → Underway S c p (seen ++ now) q

/-- A call got the control lock of a pipeline, and has answered. -/
inductive Returns (S : CaptureSource σ α) (c : Call) (p : Pipeline σ) :
    List Event → Bool → Pipeline σ → Prop
  | atOnce {q : Pipeline σ} {now : List Event} {answer : Bool} :
      p.turn? S (.call c) = some (q, now) → .returned answer ∈ now → Returns S c p now answer q
  | later {u q : Pipeline σ} {t : Turn α} {seen now : List Event} {answer : Bool} :
      Underway S c p seen u → u.turn? S t = some (q, now) → .returned answer ∈ now →
      Returns S c p (seen ++ now) answer q

theorem Underway.run {c : Call} {p q : Pipeline σ} {during : List Event}
    (underway : Underway S c p during q) : (machine S).Run p during q := by
  induction underway with
  | begin turn _ => exact .single (t := Turn.call c) turn
  | turn _ turn _ ih => exact .turn ih turn

theorem Returns.run {c : Call} {p q : Pipeline σ} {during : List Event} {answer : Bool}
    (returns : Returns S c p during answer q) : (machine S).Run p during q := by
  cases returns with
  | atOnce turn _ => exact .single (t := Turn.call c) turn
  | later underway turn _ => exact .turn underway.run turn

theorem free_of_call {c : Call} {p q : Pipeline σ} {now : List Event}
    (turn : p.turn? S (.call c) = some (q, now)) : p.control = .free := by
  cases step_of_turn turn with
  | startRunning free | startRenewing free | start free | stop free | stopIdle free | restart free
  | restartIdle free | restartNever free => exact free

theorem Underway.free {c : Call} {p q : Pipeline σ} {during : List Event}
    (underway : Underway S c p during q) : p.control = .free := by
  induction underway with
  | begin turn => exact free_of_call turn
  | turn _ _ _ ih => exact ih

theorem Returns.free {c : Call} {p q : Pipeline σ} {during : List Event} {answer : Bool}
    (returns : Returns S c p during answer q) : p.control = .free := by
  cases returns with
  | atOnce turn => exact free_of_call turn
  | later underway => exact underway.free

/-- While a call is under way a thread was denied only if a start is withdrawn. -/
theorem Underway.withdrawn {c : Call} {p q : Pipeline σ} {during : List Event}
    (underway : Underway S c p during q) (denied : .denied ∈ during) :
    q.control.isWithdrawn = true := by
  induction underway with
  | begin turn unanswered => exact (step_of_turn turn).denied unanswered denied
  | turn _ turn unanswered ih =>
      rcases List.mem_append.mp denied with early | late
      · rcases (step_of_turn turn).withdrawing (ih early) with ⟨still, -⟩ | ⟨-, -, rfl⟩
        · exact still
        · exact absurd List.mem_cons_self (unanswered false)
      · exact (step_of_turn turn).denied unanswered late

/-- A call that is under way stays so in turns that answer nothing. -/
theorem Underway.takeAll {c : Call} {p q : Pipeline σ} {during : List Event}
    (underway : Underway S c p during q) (turns : List (Turn α))
    (unanswered : ∀ answer, .returned answer ∉ ((machine S).takeAll q turns).2) :
    Underway S c p (during ++ ((machine S).takeAll q turns).2) ((machine S).takeAll q turns).1 := by
  induction turns generalizing q during with
  | nil =>
      show Underway S c p (during ++ []) q
      rwa [List.append_nil]
  | cons t turns ih =>
      have now (answer : Bool) : .returned answer ∉ ((machine S).take q t).2 :=
        fun here => unanswered answer (List.mem_append_left _ here)
      have rest (answer : Bool) :
          .returned answer ∉ ((machine S).takeAll ((machine S).take q t).1 turns).2 :=
        fun here => unanswered answer (List.mem_append_right _ here)
      have next : Underway S c p (during ++ ((machine S).take q t).2) ((machine S).take q t).1 := by
        cases turn : (machine S).turn? q t with
        | none => simpa [Machine.take, turn] using underway
        | some r =>
            have taken : (machine S).take q t = r := by rw [Machine.take, turn]; rfl
            rw [taken] at now ⊢
            exact .turn underway turn now
      have whole := ih next rest
      rwa [List.append_assoc] at whole

/-- An answer is seen in a turn that is taken. -/
theorem turn_of_answer {p : Pipeline σ} {t : Turn α} {answer : Bool}
    (returned : .returned answer ∈ ((machine S).take p t).2) :
    p.turn? S t = some ((machine S).take p t) := by
  have taken : (machine S).take p t = (p.turn? S t).getD (p, []) := rfl
  cases turn : p.turn? S t with
  | none =>
      rw [taken, turn] at returned
      exact absurd returned List.not_mem_nil
  | some r =>
      rw [taken, turn]
      rfl

/-- A call whose answer is seen in the last of some turns, and not before. -/
theorem Returns.takeAll {c : Call} {p : Pipeline σ} {answer : Bool} (turns : List (Turn α))
    (last : Turn α) (begins : (p.turn? S (.call c)).isSome = true) :
    let b := (machine S).take p (.call c)
    let u := (machine S).takeAll b.1 turns
    let l := (machine S).take u.1 last
    (∀ answer, .returned answer ∉ b.2 ++ u.2) → .returned answer ∈ l.2 →
      Returns S c p (b.2 ++ u.2 ++ l.2) answer l.1 := by
  intro b u l unanswered returned
  have first : p.turn? S (.call c) = some b := by
    obtain ⟨r, turn⟩ := Option.isSome_iff_exists.mp begins
    have taken : b = (p.turn? S (.call c)).getD (p, []) := rfl
    rw [taken, turn]
    rfl
  have start : Underway S c p b.2 b.1 :=
    .begin first fun answer here => unanswered answer (List.mem_append_left _ here)
  have underway := start.takeAll turns
    fun answer here => unanswered answer (List.mem_append_right _ here)
  exact .later underway (turn_of_answer returned) returned

/-! ## Stopping -/

/-- On the way to a stopped pipeline the holder of the lock gives no answer and does not turn
aside, and the way ends where the pool has been closed. -/
theorem Step.stopping {t : Turn α} {p q : Pipeline σ} {now : List Event} {after : AfterStop}
    (step : Step S t p now q) (stopping : p.control.afterStop? = some after) :
    (q.control.afterStop? = some after ∧ ∀ answer, .returned answer ∉ now) ∨
      p.control = .closing after ∧ q = (p.finishStop S after).1 ∧
        now = (p.finishStop S after).2 := by
  cases step with
  | rest | sink | fetch | meet | hand => exact .inl ⟨stopping, by simp⟩
  | drop => exact .inl ⟨stopping, by simp [reports]⟩
  | work => exact .inl ⟨stopping, by simp [workerEvent?_eq_some]⟩
  | halt here =>
      rw [here] at stopping
      exact .inl ⟨stopping, by simp⟩
  | finishHalt here =>
      rw [here] at stopping
      exact .inl ⟨stopping, by simp [reports]⟩
  | mark here | join here =>
      rw [here] at stopping
      exact .inl ⟨stopping, by simp⟩
  | shut here => exact .inl ⟨stopping, by simp⟩
  | finishStop here =>
      rw [here] at stopping
      cases stopping
      exact .inr ⟨here, rfl, rfl⟩
  | startRunning here | startRenewing here | start here | stop here | stopIdle here | restart here
  | restartIdle here | restartNever here | «open» here | refuse here | spawn here | clear here
  | discard here | discardDone here | renew here | retire here | again here
  | againRunning here | denyStart here | denyRenew here | denySpawn here | withdraw here
  | awaitHalt here | abandon here | giveUp here =>
      rw [here] at stopping
      cases stopping

/-- A stop that is under way is on its way. -/
theorem Underway.stopping {p q : Pipeline σ} {during : List Event}
    (underway : Underway S .stop p during q) : q.control.afterStop? = some .done := by
  induction underway with
  | begin turn quiet =>
      cases step_of_turn turn with
      | stop => rfl
      | stopIdle => exact absurd List.mem_cons_self (quiet true)
  | turn _ turn quiet ih =>
      rcases (step_of_turn turn).stopping ih with ⟨still, -⟩ | ⟨-, -, rfl⟩
      · exact still
      · exact absurd (List.mem_cons_of_mem _ List.mem_cons_self) (quiet true)

/-- A stop answers yes, and leaves the pipeline stopped. -/
theorem Returns.stopped {p q : Pipeline σ} {during : List Event} {answer : Bool}
    (returns : Returns S .stop p during answer q) : answer = true ∧ q.IsStopped := by
  cases returns with
  | atOnce turn returned =>
      cases step_of_turn turn with
      | stop => exact absurd returned List.not_mem_nil
      | stopIdle free resting =>
          have same : answer = true := by simpa using returned
          exact ⟨same, free, resting⟩
  | later underway turn returned =>
      rcases (step_of_turn turn).stopping underway.stopping with ⟨-, quiet⟩ | ⟨-, rfl, rfl⟩
      · exact absurd returned (quiet answer)
      · have same : answer = true := by simpa [finishStop, say] using returned
        exact ⟨same, rfl, rfl⟩

end Pipeline

end PacketWatch
