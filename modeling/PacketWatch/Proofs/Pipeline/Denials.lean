/-
# `PacketWatch.Proofs.Pipeline.Denials` — what is withdrawn was denied

A start that is denied its dispatcher is withdrawn: the source is halted again, and
what it has delivered meanwhile is dropped with all that was in the queue.  No other
turn leads to the places where that is done, so a run in which no thread is denied
abandons nothing.
-/
import PacketWatch.Proofs.Pipeline.Steps
import PacketWatch.Proofs.Runs

namespace PacketWatch

/-- Whether a start is being withdrawn. -/
@[simp] def Control.isWithdrawn : Control → Bool
  | .withdrawing | .awaiting | .emptying => true
  | _ => false

namespace Pipeline

variable {σ α : Type} {S : CaptureSource σ α}

theorem Step.withdrawn {t : Turn α} {p q : Pipeline σ} {now : List Event} (step : Step S t p now q)
    (withdrawn : q.control.isWithdrawn = true) :
    p.control.isWithdrawn = true ∨ .denied ∈ now := by
  cases step with
  | rest | sink | fetch | meet | hand | drop | work | startRunning | stopIdle | restartNever
  | shut | retire | againRunning | denyStart | abandon => exact .inl withdrawn
  | denySpawn => exact .inr List.mem_cons_self
  | withdraw here | awaitHalt here => exact .inl (by rw [here]; rfl)
  | @finishStop _ after => cases after <;> simp [Pipeline.finishStop] at withdrawn
  | _ => simp [Pipeline.spawn, clearStore] at withdrawn

/-- A start is withdrawn until the queue is empty, and then answers no. -/
theorem Step.withdrawing {t : Turn α} {p q : Pipeline σ} {now : List Event}
    (step : Step S t p now q) (withdrawn : p.control.isWithdrawn = true) :
    (q.control.isWithdrawn = true ∧ ∀ answer, .returned answer ∉ now) ∨
      p.control = .emptying ∧ q = { p with control := .free } ∧ now = [.returned false] := by
  cases step with
  | rest | sink | fetch | meet | hand | abandon => exact .inl ⟨withdrawn, by simp⟩
  | drop => exact .inl ⟨withdrawn, by simp [reports]⟩
  | work => exact .inl ⟨withdrawn, by simp [workerEvent?_eq_some]⟩
  | withdraw => exact .inl ⟨rfl, by simp⟩
  | awaitHalt => exact .inl ⟨rfl, by simp [reports]⟩
  | giveUp here => exact .inr ⟨here, rfl, rfl⟩
  | startRunning here | startRenewing here | start here | stop here | stopIdle here | restart here
  | restartIdle here | restartNever here | «open» here | refuse here | spawn here | halt here
  | finishHalt here | mark here | join here | shut here | finishStop here | clear here
  | discard here | discardDone here | renew here | retire here | again here | againRunning here
  | denyStart here | denyRenew here | denySpawn here =>
      rw [here] at withdrawn
      cases withdrawn

/-- Who is denied a thread gives his answer at once, or withdraws. -/
theorem Step.denied {t : Turn α} {p q : Pipeline σ} {now : List Event} (step : Step S t p now q)
    (unanswered : ∀ answer, .returned answer ∉ now) (denied : .denied ∈ now) :
    q.control.isWithdrawn = true := by
  cases step with
  | denySpawn => rfl
  | denyStart | denyRenew => exact absurd (by simp [poolDenied]) (unanswered false)
  | work => simp [workerEvent?_eq_some] at denied
  | @finishStop _ after => cases after <;> simp [Pipeline.finishStop, say] at denied
  | _ => simp [reports, say, Pipeline.spawn] at denied

/-- Nothing is withdrawn unless a thread is denied on the way. -/
theorem withdrawn_of_run {p q : Pipeline σ} {seen : List Event} (run : (machine S).Run p seen q)
    (withdrawn : q.control.isWithdrawn = true) :
    p.control.isWithdrawn = true ∨ .denied ∈ seen := by
  induction run with
  | here => exact .inl withdrawn
  | turn _ turn ih =>
      rcases (step_of_turn turn).withdrawn withdrawn with before | denied
      · exact (ih before).imp_right (List.mem_append_left _)
      · exact .inr (List.mem_append_right _ denied)

theorem Step.abandoned {t : Turn α} {p q : Pipeline σ} {now : List Event} {item : QueueItem Frame}
    (step : Step S t p now q) (abandoned : .abandoned item ∈ now) : p.control = .emptying := by
  cases step with
  | abandon here => exact here
  | work => simp [workerEvent?_eq_some] at abandoned
  | @finishStop _ after => cases after <;> simp [Pipeline.finishStop, say] at abandoned
  | denyStart | denyRenew => simp [poolDenied, say] at abandoned
  | _ => simp [reports, say, Pipeline.spawn] at abandoned

/-- The frames that were abandoned on the way. -/
def abandonedOf (seen : List Event) : List Frame :=
  seen.filterMap fun
    | .abandoned (.data frame) => some frame
    | _ => none

/-- Items are abandoned only where a thread was denied. -/
theorem denied_of_abandoned {p q : Pipeline σ} {seen : List Event} {item : QueueItem Frame}
    (run : (machine S).Run p seen q) (abandoned : .abandoned item ∈ seen) :
    p.control.isWithdrawn = true ∨ .denied ∈ seen := by
  induction run with
  | here => exact absurd abandoned List.not_mem_nil
  | turn run turn ih =>
      refine Or.imp_right (List.mem_append_left _) ?_
      rcases List.mem_append.mp abandoned with early | late
      · exact ih early
      · refine withdrawn_of_run run ?_
        rw [(step_of_turn turn).abandoned late]
        rfl

/-- Where no thread is denied, nothing is abandoned. -/
theorem not_abandoned_of_run {p q : Pipeline σ} {seen : List Event} (run : (machine S).Run p seen q)
    (settled : p.control.isWithdrawn = false) (granted : .denied ∉ seen) (item : QueueItem Frame) :
    .abandoned item ∉ seen := by
  intro abandoned
  rcases denied_of_abandoned run abandoned with withdrawn | denied
  · exact absurd (withdrawn.symm.trans settled) (by simp)
  · exact granted denied

theorem abandonedOf_eq_nil {seen : List Event} (none : ∀ item, .abandoned item ∉ seen) :
    abandonedOf seen = [] := by
  refine List.filterMap_eq_nil_iff.mpr fun e here => ?_
  cases e with
  | abandoned item => exact absurd here (none item)
  | _ => rfl

end Pipeline

end PacketWatch
