/-
# `PacketWatch.Proofs.Pipeline.Agreement` — flag, dispatcher, pool and source agree

A start changes the pool, the source, the dispatcher and the flag one after another, a stop
the same in another order; in between a source may refuse, and a thread may be denied.
While nobody holds the control lock the four say the same:

    the pipeline is running  =  a dispatcher is there  =  the source captures,

and then the pool is open.  On the way the flag and the source may differ, but not the
dispatcher and its pool: the pool is closed in the turn that sees the dispatcher gone, and
no new one takes its place before.  So a frame that the dispatcher holds is accepted.

All of it is read off the phases (`Coherent`), which every turn keeps, and the circle in
which the source is used (`Orderly`); here no turn is opened but to see what it reports.
-/
import PacketWatch.Proofs.Pipeline.Conservation

namespace PacketWatch.Pipeline

open CaptureSource (Reached TellsActivity)

variable {σ α : Type} {S : CaptureSource σ α} {new : σ}

/-! ## While nobody holds the control lock -/

/-- A dispatcher is there just while the pipeline is running. -/
theorem Coherent.running_iff_present {p : Pipeline σ} (coherent : p.Coherent)
    (free : p.control = .free) : p.isRunning = true ↔ p.dispatcher ≠ .absent := by
  have phase := coherent.phase
  rw [free] at phase
  cases running : p.isRunning with
  | true =>
      rw [running] at phase
      have busy : p.dispatcher.isBusy = true := phase.1
      refine ⟨fun _ absent => ?_, fun _ => rfl⟩
      rw [absent] at busy
      exact absurd busy Bool.false_ne_true
  | false =>
      rw [running] at phase
      have absent : p.dispatcher = .absent := phase.1
      exact ⟨fun told => absurd told Bool.false_ne_true, fun present => absurd absent present⟩

/-- A source that tells its activity says that it is running just while the pipeline is. -/
theorem running_iff_capturing {p : Pipeline σ} (tells : TellsActivity S new)
    (reached : Reached S new (p.control.activity p.isRunning) p.source)
    (free : p.control = .free) : p.isRunning = true ↔ S.isRunning p.source = true := by
  rw [free] at reached
  cases running : p.isRunning with
  | true =>
      rw [running] at reached
      rw [tells.active reached]
  | false =>
      rw [running] at reached
      rw [tells.idle reached]

/-- The source is used in order, whatever it does. -/
theorem reached_of_run {count : Nat} {p : Pipeline σ} {seen : List Event}
    (run : (machine S).Run (ofSource new count) seen p) :
    Reached S new (p.control.activity p.isRunning) p.source := by
  induction run with
  | here => exact .new
  | turn run turn ih => exact (step_of_turn turn).reached (coherent_of_run run (.ofSource _ _)) ih

/-! ## While a dispatcher is there -/

/-- A dispatcher that is there has an open pool. -/
theorem Coherent.opened_of_present {p : Pipeline σ} (coherent : p.Coherent)
    (present : p.dispatcher ≠ .absent) : p.pool.closing = .notBegun := by
  have phase := coherent.phase
  cases here : p.control.phase p.isRunning with
  | resting | ready | closing =>
      rw [here] at phase
      exact absurd phase.1 present
  | working => rw [here] at phase; exact phase.2.1
  | draining => rw [here] at phase; exact phase.1

/-- No new pool takes the place of the one that a dispatcher hands its frames to. -/
theorem Step.not_renewed {t : Turn α} {p q : Pipeline σ} {now : List Event}
    (step : Step S t p now q) (coherent : p.Coherent) (present : p.dispatcher ≠ .absent) :
    .renewed ∉ now := by
  have opened := coherent.opened_of_present present
  intro renewed
  cases step with
  | startRenewing _ _ closed => exact closed opened
  | again _ returned | againRunning _ returned =>
      exact absurd (opened.symm.trans returned) (by simp)
  | work => simp [workerEvent?_eq_some] at renewed
  | @finishStop _ after => cases after <;> simp [Pipeline.finishStop, say] at renewed
  | denyStart | denyRenew => simp [poolDenied, say] at renewed
  | _ => simp [reports, say, Pipeline.spawn] at renewed

/-- A frame that the dispatcher holds is accepted by its pool, and nothing else is seen of
that. -/
theorem Coherent.accepted {p : Pipeline σ} (coherent : p.Coherent) {frame : Frame}
    (holding : p.dispatcher = .holding frame) :
    (p.pool.submit frame).1 = true ∧
      p.turn? S .dispatch = some
        ({ p with pool := (p.pool.submit frame).2, dispatcher := .waiting }, [.handed frame]) := by
  have opened : p.pool.isStopped = false :=
    Pool.not_isStopped_iff.mpr (coherent.opened_of_present (by simp [holding]))
  have accepted : p.pool.submit frame =
      (true, { p.pool with channel := p.pool.channel ++ [.run frame] }) := by
    simp [Pool.submit, opened]
  refine ⟨by rw [accepted], ?_⟩
  simp only [turn?, dispatch?, holding, hand, accepted, if_true, Handing.lines]
  rfl

/-! ## Whatever the calls and the refusals -/

/-- **Flag, dispatcher, pool and source agree.**  Whatever was called, whatever the source
refused and whatever thread was denied: while nobody holds the control lock, the pipeline is
running just if a dispatcher is there, and just if the source says that it is running, and then
its pool is open.  At any time, as long as a dispatcher is there, its pool is open and no new one
takes its place; a frame that it holds is accepted, and none was ever refused. -/
theorem control_agrees {count : Nat} {p : Pipeline σ} {seen : List Event}
    (tells : TellsActivity S new) (run : (machine S).Run (ofSource new count) seen p) :
    (p.control = .free →
        (p.isRunning = true ↔ p.dispatcher ≠ .absent) ∧
          (p.isRunning = true ↔ S.isRunning p.source = true) ∧
          (p.isRunning = true → p.pool.isStopped = false)) ∧
      (p.dispatcher ≠ .absent →
        p.pool.isStopped = false ∧
          ∀ t q now, p.turn? S t = some (q, now) → .renewed ∉ now) ∧
      (∀ frame, p.dispatcher = .holding frame →
        (p.pool.submit frame).1 = true ∧
          p.turn? S .dispatch = some
            ({ p with pool := (p.pool.submit frame).2, dispatcher := .waiting },
              [.handed frame])) ∧
      ∀ frame, .dropped frame ∉ seen := by
  have coherent := coherent_of_run run (.ofSource new count)
  have opened (present : p.dispatcher ≠ .absent) : p.pool.isStopped = false :=
    Pool.not_isStopped_iff.mpr (coherent.opened_of_present present)
  refine ⟨?_, ?_, ?_, ?_⟩
  · intro free
    have present := coherent.running_iff_present free
    refine ⟨present, running_iff_capturing tells (reached_of_run run) free, ?_⟩
    intro running
    exact opened (present.mp running)
  · intro present
    refine ⟨opened present, ?_⟩
    intro t q now turn
    exact (step_of_turn turn).not_renewed coherent present
  · intro frame holding
    exact coherent.accepted holding
  · intro frame
    exact not_dropped_of_run run (.ofSource new count)

/-- A start that is refused, one that succeeds, a frame that the dispatcher holds, and a stop
that waits for it. -/
theorem control_agrees_refused :
    let frame : Frame := .whole [0xca, 0xfe]
    let does (h : ScriptedSource.Handling) : Turn ScriptedSource.Handling := .source h
    let turns := [does (.setFailOpen true), .call (.start "mock0"), .control,
      does (.setFailOpen false), .call (.start "mock0"), .control, .control,
      does (.deliver (.inject frame)), does (.deliver .countInjected), .dispatch]
    let r := (machine ScriptedSource.switched).takeAll (ofSource {} 1) turns
    let l := (machine ScriptedSource.switched).takeAll r.1 [.call .stop, .control]
    Event.returned false ∈ r.2 ∧ r.1.control = .free ∧ r.1.isRunning = true ∧
      r.1.dispatcher ≠ .absent ∧ r.1.source.isRunning = true ∧ r.1.pool.isStopped = false ∧
      l.1.control = .halting .done ∧ l.1.pool.isStopped = false ∧
      (l.1.pool.submit frame).1 = true := by
  intro frame does turns r l
  have tells : TellsActivity ScriptedSource.switched {} :=
    ScriptedSource.switched_tellsActivity ⟨rfl, rfl, rfl⟩ rfl
  have run : (machine ScriptedSource.switched).Run (ofSource {} 1) r.2 r.1 :=
    Machine.Run.takeAll _ turns
  have more : (machine ScriptedSource.switched).Run (ofSource {} 1) (r.2 ++ l.2) l.1 :=
    run.trans (Machine.Run.takeAll _ _)
  have free : r.1.control = .free := by decide +kernel
  have runs : r.1.isRunning = true := by decide +kernel
  have holding : l.1.dispatcher = .holding frame := by decide +kernel
  obtain ⟨present, capturing, opened⟩ := (control_agrees tells run).1 free
  obtain ⟨-, stillOpen, accepted, -⟩ := control_agrees tells more
  exact ⟨by decide +kernel, free, runs, present.mp runs, capturing.mp runs, opened runs,
    by decide +kernel, (stillOpen (by simp [holding])).1, (accepted frame holding).1⟩

end PacketWatch.Pipeline
