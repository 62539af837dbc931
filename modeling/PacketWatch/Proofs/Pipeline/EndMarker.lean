/-
# `PacketWatch.Proofs.Pipeline.EndMarker` — a dispatcher leaves on the marker of its own run

A stop puts an end marker into the queue while threads of the source may still
push frames.  A marker too many would end a later run at once, without an error;
so each must be taken by the dispatcher that it was meant for.

The life of a dispatcher shows in three events: it is set to work, a marker is
pushed, it leaves.  `OnCourse` ties the first two to the state.  When a dispatcher
leaves, the account of the queue (`fifo_of_run`) says which marker it has taken: as
much has left the queue as had gone into it in front of that marker.
-/
import PacketWatch.Proofs.Pipeline.Fifo

namespace PacketWatch.Pipeline

variable {σ α : Type} {S : CaptureSource σ α}

/-! ## The marker of a run -/

/-- What is seen of the life of a dispatcher. -/
def Event.isMilestone : Event → Bool
  | .spawned | .marked | .ended => true
  | _ => false

/-- Since the last dispatcher was set to work, one marker was pushed, and no
dispatcher left. -/
def MarkedSince (seen : List Event) : Prop :=
  ∃ before early late, seen = before ++ .spawned :: early ++ .marked :: late ∧
    ∀ e ∈ early ++ late, e.isMilestone = false

/-- Since the last dispatcher was set to work, no marker was pushed. -/
def UnmarkedSince (seen : List Event) : Prop :=
  ∃ before since, seen = before ++ .spawned :: since ∧ ∀ e ∈ since, e.isMilestone = false

/-- As long as a dispatcher is at work, a marker is in the queue just if one was
pushed since it was set to work. -/
def OnCourse (seen : List Event) (p : Pipeline σ) : Prop :=
  p.dispatcher.isBusy = true →
    (.endOfStream ∉ p.queue.items → UnmarkedSince seen) ∧
      (.endOfStream ∈ p.queue.items → MarkedSince seen)

theorem UnmarkedSince.append {seen now : List Event} (since : UnmarkedSince seen)
    (quiet : ∀ e ∈ now, e.isMilestone = false) : UnmarkedSince (seen ++ now) := by
  obtain ⟨before, since, rfl, still⟩ := since
  refine ⟨before, since ++ now, by simp, fun e he => ?_⟩
  rcases List.mem_append.mp he with old | new
  · exact still e old
  · exact quiet e new

theorem UnmarkedSince.mark {seen : List Event} (since : UnmarkedSince seen) :
    MarkedSince (seen ++ [.marked]) := by
  obtain ⟨before, since, rfl, still⟩ := since
  exact ⟨before, since, [], rfl, by simpa using still⟩

theorem MarkedSince.append {seen now : List Event} (since : MarkedSince seen)
    (quiet : ∀ e ∈ now, e.isMilestone = false) : MarkedSince (seen ++ now) := by
  obtain ⟨before, early, late, rfl, still⟩ := since
  refine ⟨before, early, late ++ now, by simp, fun e he => ?_⟩
  rw [← List.append_assoc] at he
  rcases List.mem_append.mp he with old | new
  · exact still e old
  · exact quiet e new

/-- A turn that is no milestone. -/
theorem OnCourse.further {seen now : List Event} {p q : Pipeline σ} (course : OnCourse seen p)
    (quiet : ∀ e ∈ now, e.isMilestone = false)
    (busy : q.dispatcher.isBusy = true → p.dispatcher.isBusy = true)
    (marker : QueueItem.endOfStream ∈ q.queue.items ↔ .endOfStream ∈ p.queue.items) :
    OnCourse (seen ++ now) q := by
  intro atWork
  obtain ⟨unmarked, marked⟩ := course (busy atWork)
  exact ⟨fun h => (unmarked fun h' => h (marker.mpr h')).append quiet,
    fun h => (marked (marker.mp h)).append quiet⟩

/-- A turn after which no dispatcher is at work. -/
theorem OnCourse.of_idle {seen : List Event} {p : Pipeline σ} (idle : p.dispatcher.isBusy = false) :
    OnCourse seen p := by
  intro busy
  rw [idle] at busy
  exact absurd busy Bool.false_ne_true

theorem reports_quiet (lines : List LogLine) : ∀ e ∈ reports lines, e.isMilestone = false :=
  forall_reports (fun _ => rfl) lines

theorem worker_quiet (inside : List (Pool.Event Frame)) :
    ∀ e ∈ inside.filterMap workerEvent?, e.isMilestone = false :=
  forall_worker (fun _ => rfl) (fun _ => rfl) inside

/-- A dispatcher that leaves has just taken a marker from the front of the queue. -/
theorem Step.ended {t : Turn α} {p q : Pipeline σ} {now : List Event}
    (step : Step S t p now q) (ended : Event.ended ∈ now) :
    now = [.ended] ∧ p.dispatcher = .waiting ∧ p.queue.items = .endOfStream :: q.queue.items := by
  cases step with
  | meet waiting items => exact ⟨rfl, waiting, items⟩
  | finishHalt | awaitHalt =>
      exact absurd (reports_quiet _ _ ended) (by simp [Event.isMilestone])
  | work => exact absurd (worker_quiet _ _ ended) (by simp [Event.isMilestone])
  | «open» | drop =>
      rcases List.mem_cons.mp ended with other | line
      · cases other
      · exact absurd (reports_quiet _ _ line) (by simp [Event.isMilestone])
  | shut | retire | discardDone | join => split at ended <;> simp [say] at ended
  | renew =>
      rcases List.mem_cons.mp ended with other | line
      · cases other
      · split at line <;> simp at line
  | @finishStop _ after => cases after <;> simp [Pipeline.finishStop, say] at ended
  | spawn => simp [Pipeline.spawn, say] at ended
  | denyStart | denyRenew => simp [poolDenied, say] at ended
  | _ => simp [say] at ended

/-- A dispatcher at work stays at work in every other turn. -/
theorem Step.leaves {t : Turn α} {p q : Pipeline σ} {now : List Event}
    (step : Step S t p now q) (busy : p.dispatcher.isBusy = true)
    (idle : q.dispatcher.isBusy = false) : now = [.ended] := by
  cases step with
  | meet => rfl
  | fetch | hand | drop | spawn => simp [Pipeline.spawn] at idle
  | join joining left => rcases left with left | left <;> rw [left] at busy <;> simp at busy
  | @finishStop _ after =>
      cases after <;> exact absurd (busy.symm.trans idle) (by simp)
  | _ => exact absurd (busy.symm.trans idle) (by simp)

end PacketWatch.Pipeline
