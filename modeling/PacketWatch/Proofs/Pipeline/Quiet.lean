/-
# `PacketWatch.Proofs.Pipeline.Quiet` — a stop leaves nothing behind a silent source

With a source that is silent when idle, nothing is pushed behind the end marker: the
call to halt has returned when the marker goes into the queue.  So a pipeline that
is stopped has an empty queue, and a restart finds nothing to discard.

Two things are followed through every turn.  The holder of the control lock uses the
source in order (`Step.reached`), and nothing is stranded (`Step.unstranded`), except
that frames may wait between the start of the source and that of the dispatcher, or
until the start is withdrawn because there is no dispatcher.
-/
import PacketWatch.Proofs.Pipeline.Stranded
import PacketWatch.Proofs.Source.Contract

namespace PacketWatch

open CaptureSource (Activity Move Reached SilentWhenIdle)

/-- What the source is doing at a place, in a pipeline that is running or not. -/
def Control.activity (running : Bool) : Control → Activity
  | .free => if running then .active else .idle
  | .spawning _ | .stopping _ | .withdrawing => .active
  | .halting _ | .awaiting => .halting
  | .opening _ | .marking _ | .joining _ | .closing _ | .clearing _ | .discarding _ _
  | .renewing _ | .retiring _ | .emptying => .idle

/-- Whether the source has started and there is no dispatcher. -/
@[simp] def Control.isUnattended : Control → Bool
  | .spawning _ | .withdrawing | .awaiting | .emptying => true
  | _ => false

/-- A source that is not idle delivers to a dispatcher at work, unless it is unattended. -/
theorem Control.phase_of_activity {control : Control} {running : Bool}
    (busy : control.activity running ≠ .idle) (attended : control.isUnattended = false) :
    control.phase running = .working := by
  cases control with
  | free => cases running <;> simp [Control.activity, Control.phase] at busy ⊢
  | stopping | halting => rfl
  | spawning | withdrawing | awaiting | emptying => simp at attended
  | «opening» | marking | joining | closing | clearing | discarding | renewing | retiring =>
      simp [Control.activity] at busy

namespace Pipeline

variable {σ α : Type} {S : CaptureSource σ α} {new : σ}

/-- A coherent pipeline that uses its source in order and strands nothing. -/
structure Orderly (S : CaptureSource σ α) (new : σ) (p : Pipeline σ) : Prop where
  coherent : p.Coherent
  source : Reached S new (p.control.activity p.isRunning) p.source
  stranded : p.control.isUnattended = false → p.stranded = []

/-- The source is used in order: each turn moves it along the circle, or leaves it alone. -/
theorem Step.move {t : Turn α} {p q : Pipeline σ} {now : List Event} (step : Step S t p now q)
    (coherent : p.Coherent) :
    Move S (p.control.activity p.isRunning) p.source (sunkOf now)
      (q.control.activity q.isRunning) q.source := by
  cases step with
  | rest moved | sink moved =>
      have turned : Move S (p.control.activity p.isRunning) p.source _ _ _ := .turn moved
      exact turned
  | fetch | meet | hand | drop | startRunning | stopIdle | restartNever | againRunning | denyStart
  | abandon => exact .stay
  | work =>
      rw [sunkOf_worker]
      exact .stay
  | shut | retire => split <;> exact .stay
  | startRenewing free resting | start free resting | restartIdle free _ resting =>
      rw [free, resting]
      exact .stay
  | stop free runs | restart free _ runs =>
      rw [free, runs]
      exact .stay
  | @«open» _ device source opening started =>
      rw [opening]
      show Move S .idle p.source (sunkOf (reports (S.startLines device))) .active source
      rw [sunkOf_reports]
      exact .start started
  | refuse opening =>
      have resting : p.isRunning = false := coherent.runs_at opening rfl
      rw [opening]
      show Move S .idle p.source [] (Control.activity p.isRunning .free) p.source
      rw [resting]
      exact .stay
  | spawn here | mark here | clear here | discard here | again here | denySpawn here =>
      rw [here]
      exact .stay
  | denyRenew here | giveUp here =>
      have resting : p.isRunning = false := coherent.runs_at here rfl
      rw [here]
      show Move S .idle p.source [] (Control.activity p.isRunning .free) p.source
      rw [resting]
      exact .stay
  | join here | discardDone here | renew here =>
      rw [here]
      split <;> exact .stay
  | halt here halted | withdraw here halted =>
      rw [here]
      exact .halt halted
  | finishHalt here halted | awaitHalt here halted =>
      rw [here, sunkOf_reports]
      exact .finishHalt halted
  | @finishStop _ after closing =>
      rw [closing]
      cases after <;> exact .stay

theorem Step.reached {t : Turn α} {p q : Pipeline σ} {now : List Event} (step : Step S t p now q)
    (coherent : p.Coherent) (reached : Reached S new (p.control.activity p.isRunning) p.source) :
    Reached S new (q.control.activity q.isRunning) q.source :=
  reached.move (step.move coherent)

/-- An unattended source stays so until a dispatcher is set to work or the queue is empty. -/
theorem Step.unattended {t : Turn α} {p q : Pipeline σ} {now : List Event}
    (step : Step S t p now q) (quiet : ∀ e ∈ now, e.stirs = false)
    (unattended : p.control.isUnattended = true) :
    q.control.isUnattended = true ∨ q.queue.items = [] := by
  cases step with
  | rest | sink | fetch | meet | hand | drop | work => exact .inl unattended
  | spawn | abandon => exact absurd (quiet _ List.mem_cons_self) (by simp [Event.stirs])
  | denySpawn | withdraw | awaitHalt => exact .inl rfl
  | giveUp _ empty => exact .inr empty
  | startRunning here | startRenewing here | start here | stop here | stopIdle here | restart here
  | restartIdle here | restartNever here | «open» here | refuse here | halt here | finishHalt here
  | mark here | join here | shut here | finishStop here | clear here | discard here
  | discardDone here | renew here | retire here | again here | againRunning here | denyStart here
  | denyRenew here =>
      rw [here] at unattended
      cases unattended

/-- Where no dispatcher is at work, nothing is in the queue, unless the source is unattended. -/
theorem Orderly.queue_empty {p : Pipeline σ} (orderly : Orderly S new p)
    (absent : p.dispatcher = .absent) (plain : p.Plain)
    (attended : p.control.isUnattended = false) : p.queue.items = [] := by
  rw [← map_data_stranded absent plain, orderly.stranded attended]
  rfl

/-- A restart finds nothing to discard. -/
theorem Orderly.nothing_to_discard {p : Pipeline σ} {device : String} {count : Nat}
    (orderly : Orderly S new p) (discarding : p.control = .discarding device count) :
    p.queue.items = [] := by
  have phase := orderly.coherent.phase
  rw [discarding] at phase
  exact orderly.queue_empty phase.1 phase.2.2 (by simp [discarding])

/-- A silent source strands nothing. -/
theorem Step.unstranded {t : Turn α} {p q : Pipeline σ} {now : List Event}
    (step : Step S t p now q) (silent : SilentWhenIdle S new) (orderly : Orderly S new p)
    (attended : q.control.isUnattended = false) : q.stranded = [] := by
  have reached := orderly.source
  have phase := orderly.coherent.phase
  rcases step.still_or with still | ⟨device, spawning, -, rfl⟩ |
    ⟨how, item, rest, drops, items, -, -, -, later⟩
  · cases before : p.control.isUnattended with
    | true =>
        rcases step.unattended still before with unattended | empty
        · exact absurd (unattended.symm.trans attended) (by simp)
        · unfold Pipeline.stranded
          rw [empty]
          split <;> rfl
    | false =>
        rcases step.stranded still with same | ⟨_, _, frame, passed, past, -⟩
        · rw [same]
          exact orderly.stranded before
        · -- a source that delivers is not idle, so the dispatcher is still at work
          have busy : p.control.activity p.isRunning ≠ .idle := by
            intro idle
            rw [idle] at reached
            exact silent reached passed
          rw [Control.phase_of_activity busy before] at phase
          rcases past with idle | marker
          · exact absurd (phase.1.symm.trans idle) (by simp)
          · exact absurd marker phase.2.2
  · rw [spawning] at phase
    have plain : p.Plain := phase.2.2
    show framesOf (behindMarker p.queue.items) = []
    rw [behindMarker_plain plain]
    rfl
  · rcases later.eq with ⟨-, -, -, rfl⟩ | ⟨emptying, -⟩
    · rcases drops.eq with ⟨device, count, discarding, -⟩ | ⟨-, other⟩
      · rw [orderly.nothing_to_discard discarding] at items
        cases items
      · exact absurd (congrFun other item) (by simp)
    · rw [emptying] at attended
      cases attended

theorem Step.orderly {t : Turn α} {p q : Pipeline σ} {now : List Event} (step : Step S t p now q)
    (silent : SilentWhenIdle S new) (orderly : Orderly S new p) : Orderly S new q where
  coherent := step.coherent orderly.coherent
  source := step.reached orderly.coherent orderly.source
  stranded := step.unstranded silent orderly

theorem Orderly.ofSource (S : CaptureSource σ α) (new : σ) (count : Nat) :
    Orderly S new (ofSource new count) :=
  ⟨.ofSource new count, .new, fun _ => rfl⟩

theorem orderly_of_run {p q : Pipeline σ} {seen : List Event} (run : (machine S).Run p seen q)
    (silent : SilentWhenIdle S new) (orderly : Orderly S new p) : Orderly S new q := by
  induction run with
  | here => exact orderly
  | turn _ turn ih => exact (step_of_turn turn).orderly silent ih

theorem Step.not_discarded {t : Turn α} {p q : Pipeline σ} {now : List Event}
    {item : QueueItem Frame} (step : Step S t p now q) (orderly : Orderly S new p) :
    .discarded item ∉ now := by
  intro discarded
  cases step with
  | discard here items =>
      rw [orderly.nothing_to_discard here] at items
      cases items
  | work => simp [workerEvent?_eq_some] at discarded
  | @finishStop _ after => cases after <;> simp [Pipeline.finishStop, say] at discarded
  | denyStart | denyRenew => simp [poolDenied, say] at discarded
  | _ => simp [reports, say, Pipeline.spawn] at discarded

end Pipeline

end PacketWatch
