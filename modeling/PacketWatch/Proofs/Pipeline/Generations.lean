/-
# `PacketWatch.Proofs.Pipeline.Generations` — a restart begins a new generation

A restart clears the store, sets the count of the source as the new baseline, clears the
queue, replaces the pool and starts the source, one after another and each in turns of its
own.  What was captured before must not show afterwards, in any of the four places.

    stopping   clearing   discarding   renewing   retiring   opening   spawning
               cleared  |------ the source is idle, nothing is sunk ----|  the source runs

The store and the count speak of what was sunk since the clearing, at any time
(`performed_since_cleared`, `captured_since_cleared`).  `Restarting` follows the holder of
the lock along the way above: a source that is silent when idle sinks nothing before it is
started again, so the clearing and that start begin the same generation.

A thread may be denied at two places of this way.  Without workers for a new pool the restart
ends there; without a dispatcher the start is withdrawn, and what the source has delivered
meanwhile counts as captured and is abandoned.
-/
import PacketWatch.Proofs.Pipeline.Calls

namespace PacketWatch

open CaptureSource (Reached Delivered KeepsCount SilentWhenIdle)

/-- The device of a restart, at the places between its clearing and its start. -/
def Control.clearedFor? : Control → Option String
  | .discarding device _ | .renewing device | .retiring device | .opening device => some device
  | .free | .spawning _ | .stopping _ | .halting _ | .marking _ | .joining _ | .closing _
  | .clearing _ | .withdrawing | .awaiting | .emptying => none

theorem Control.idle_of_cleared {control : Control} {device : String} (running : Bool)
    (cleared : control.clearedFor? = some device) : control.activity running = .idle := by
  cases control with
  | discarding | renewing | retiring | «opening» => rfl
  | free | spawning | stopping | halting | marking | joining | closing | clearing | withdrawing
  | awaiting | emptying => cases cleared

namespace Pipeline

variable {σ α : Type} {S : CaptureSource σ α} {new : σ}

/-! ## What counts since the last clearing -/

theorem since_of_mem {e : Event} (seen : List Event) {later : List Event} (here : e ∈ later) :
    since e (seen ++ later) = since e later := by
  rcases since_cases e later with ⟨-, never⟩ | ⟨before, last⟩
  · exact absurd here never
  · have none := notMem_since e later
    generalize since e later = recent at last none
    rw [last, ← List.append_assoc, since_append_cons _ none]

/-- The source has passed to the sink what was sunk. -/
theorem delivered_of_run {count : Nat} {p : Pipeline σ} {seen : List Event}
    (run : (machine S).Run (ofSource new count) seen p) :
    Delivered S new (p.control.activity p.isRunning) (sunkOf seen).length p.source := by
  induction run with
  | here => exact .new
  | turn run turn ih =>
      rw [sunkOf_append, List.length_append]
      exact .move ih ((step_of_turn turn).move (coherent_of_run run (.ofSource _ _)))

theorem Step.baseline {t : Turn α} {p q : Pipeline σ} {now : List Event} (step : Step S t p now q)
    (kept : .cleared ∉ now) : q.baseline = p.baseline := by
  cases step with
  | clear => exact absurd List.mem_cons_self kept
  | @finishStop _ after => cases after <;> rfl
  | _ => rfl

theorem baseline_of_run {p q : Pipeline σ} {seen : List Event} (run : (machine S).Run p seen q)
    (kept : .cleared ∉ seen) : q.baseline = p.baseline := by
  induction run with
  | here => rfl
  | turn _ turn ih =>
      obtain ⟨before, now⟩ := not_or.mp (mt List.mem_append.mpr kept)
      exact ((step_of_turn turn).baseline now).trans (ih before)

/-- What counts as captured was sunk since the last clearing, and all of that counts while the
source is idle. -/
theorem captured_since_cleared {count : Nat} {p : Pipeline σ} {seen : List Event}
    (keeps : KeepsCount S new) (run : (machine S).Run (ofSource new count) seen p)
    (cleared : .cleared ∈ seen) :
    p.captured S ≤ (sunkOf (since .cleared seen)).length ∧
      (p.control.activity p.isRunning = .idle →
        p.captured S = (sunkOf (since .cleared seen)).length) := by
  obtain ⟨u, first, early, late, split, blank, base⟩ := run_since_cleared run
  have before := delivered_of_run early
  have after := delivered_of_run run
  rw [blank.idle] at before
  have start := keeps.whenIdle before
  have baseline : p.baseline = S.captured u.source :=
    (baseline_of_run late (notMem_since .cleared seen)).trans (base cleared)
  have length : (sunkOf seen).length =
      (sunkOf first).length + (sunkOf (since .cleared seen)).length := by
    rw [← List.length_append, ← sunkOf_append, split]
  have most := keeps.atMost after
  rw [captured]
  refine ⟨by omega, fun idle => ?_⟩
  rw [idle] at after
  have all := keeps.whenIdle after
  omega

/-- No frame is handed to the pool before a dispatcher is set to work. -/
theorem Step.unspawned {t : Turn α} {p q : Pipeline σ} {now : List Event} (step : Step S t p now q)
    (absent : p.dispatcher = .absent) (never : .spawned ∉ now) :
    q.dispatcher = .absent ∧ handedOf now = [] := by
  cases step with
  | fetch busy | meet busy | hand busy | drop busy => rw [absent] at busy; cases busy
  | spawn => exact absurd List.mem_cons_self never
  | work => exact ⟨absent, handedOf_worker _⟩
  | «open» | finishHalt | awaitHalt => exact ⟨absent, handedOf_reports _⟩
  | join => exact ⟨rfl, by split <;> rfl⟩
  | shut | retire | discardDone | renew => exact ⟨absent, by split <;> rfl⟩
  | @finishStop _ after => cases after <;> exact ⟨absent, rfl⟩
  | _ => exact ⟨absent, rfl⟩

theorem unspawned_of_run {p q : Pipeline σ} {seen : List Event} (run : (machine S).Run p seen q)
    (absent : p.dispatcher = .absent) (never : .spawned ∉ seen) :
    q.dispatcher = .absent ∧ handedOf seen = [] := by
  induction run with
  | here => exact ⟨absent, rfl⟩
  | turn _ turn ih =>
      obtain ⟨before, now⟩ := not_or.mp (mt List.mem_append.mpr never)
      obtain ⟨still, none⟩ := ih before
      obtain ⟨last, nothing⟩ := (step_of_turn turn).unspawned still now
      exact ⟨last, by rw [handedOf_append, none, nothing]; rfl⟩

/-- Where no dispatcher was set to work since the last clearing, nothing was performed. -/
theorem nothing_performed {count : Nat} {p : Pipeline σ} {seen : List Event}
    (silent : SilentWhenIdle S new) (run : (machine S).Run (ofSource new count) seen p)
    (never : .spawned ∉ since .cleared seen) : performedOf (since .cleared seen) = [] := by
  obtain ⟨u, first, early, late, -, blank, -⟩ := run_since_cleared run
  have orderly := orderly_of_run early silent (.ofSource S new count)
  have phase := orderly.coherent.phase
  rw [blank.resting] at phase
  have account := pending_of_run late orderly.coherent fun _ => true
  rw [(orderly.drained_of_blank blank).pool, (unspawned_of_run late phase.1 never).2,
    List.countP_true] at account
  exact List.eq_nil_of_length_eq_zero (Nat.eq_zero_of_add_eq_zero_right account)

/-- The device is remembered when the dispatcher is set to work, and at no other time. -/
theorem Step.device {t : Turn α} {p q : Pipeline σ} {now : List Event} (step : Step S t p now q) :
    q.device = p.device ∧ .spawned ∉ now ∨
      ∃ device, p.control = .spawning device ∧ q = (p.spawn device).1 ∧
        now = (p.spawn device).2 := by
  cases step with
  | spawn here => exact .inr ⟨_, here, rfl, rfl⟩
  | work => exact .inl ⟨rfl, by simp [workerEvent?_eq_some]⟩
  | @finishStop _ after => cases after <;> exact .inl ⟨rfl, by simp [Pipeline.finishStop, say]⟩
  | denyStart | denyRenew => exact .inl ⟨rfl, by simp [poolDenied, say]⟩
  | _ => exact .inl ⟨rfl, by simp [reports, say]⟩

/-- On the way from one pipeline to another the source was started on a device, and not again;
so much was seen in all, and so much since. -/
inductive StartsOn (S : CaptureSource σ α) (device : String) (p : Pipeline σ) :
    List Event → List Event → Pipeline σ → Prop
  | intro {u v q : Pipeline σ} {front back : List Event} :
      (machine S).Run p front u → S.start? u.source device = some (.ok v.source) →
      u.turn? S .control = some (v, .opened :: reports (S.startLines device)) →
      (machine S).Run v back q → .opened ∉ back →
      StartsOn S device p (front ++ .opened :: reports (S.startLines device) ++ back) back q

theorem StartsOn.turn {device : String} {p u q : Pipeline σ} {t : Turn α}
    {during back now : List Event} (starts : StartsOn S device p during back u)
    (turn : u.turn? S t = some (q, now)) (once : .opened ∉ now) :
    StartsOn S device p (during ++ now) (back ++ now) q := by
  obtain ⟨before, started, opened, since, none⟩ := starts
  rw [List.append_assoc]
  refine .intro before started opened (.turn since turn) ?_
  rw [List.mem_append]
  exact not_or.mpr ⟨none, once⟩

/-- How far a restart on a device has come. -/
inductive Restarting (S : CaptureSource σ α) (device : String) (p : Pipeline σ) :
    List Event → Pipeline σ → Prop
  | stopping {during : List Event} {q : Pipeline σ} :
      q.control.afterStop? = some (.restart device) → Restarting S device p during q
  | clearing {during : List Event} {q : Pipeline σ} :
      q.control = .clearing device → Restarting S device p during q
  | cleared {during : List Event} {q : Pipeline σ} :
      q.control.clearedFor? = some device → .cleared ∈ during →
      sunkOf (since .cleared during) = [] → Restarting S device p during q
  | spawning {during back : List Event} {q : Pipeline σ} :
      q.control = .spawning device → .cleared ∈ during →
      sunkOf (since .cleared during) = sunkOf back → StartsOn S device p during back q →
      Restarting S device p during q
  | withdrawn {during : List Event} {q : Pipeline σ} :
      q.control.isWithdrawn = true → .cleared ∈ during → .denied ∈ during →
      Restarting S device p during q

/-- An idle source sinks nothing. -/
theorem Step.silent {t : Turn α} {p q : Pipeline σ} {now : List Event} (step : Step S t p now q)
    (silent : SilentWhenIdle S new) (orderly : Orderly S new p)
    (idle : p.control.activity p.isRunning = .idle) : sunkOf now = [] := by
  have reached := orderly.source
  have move := step.move orderly.coherent
  rw [idle] at reached move
  exact move.silent silent reached

/-- The holder of the lock stays before the clearing until it clears. -/
theorem Step.clearing {t : Turn α} {p q : Pipeline σ} {now : List Event} {device : String}
    (step : Step S t p now q) (clearing : p.control = .clearing device) (kept : .cleared ∉ now) :
    q.control = .clearing device := by
  cases step with
  | rest | sink | fetch | meet | hand | drop | work => exact clearing
  | clear => exact absurd List.mem_cons_self kept
  | startRunning here | startRenewing here | start here | stop here | stopIdle here | restart here
  | restartIdle here | restartNever here | «open» here | refuse here | spawn here | halt here
  | finishHalt here | mark here | join here | shut here | finishStop here | discard here
  | discardDone here | renew here | retire here | again here | againRunning here | denyStart here
  | denyRenew here | denySpawn here | withdraw here | awaitHalt here | abandon here
  | giveUp here =>
      rw [clearing] at here
      cases here

/-- Behind the clearing the holder of the lock comes to start the source, if it does not give
an answer. -/
theorem Step.afterClearing {t : Turn α} {p q : Pipeline σ} {now : List Event} {device : String}
    (step : Step S t p now q) (unanswered : ∀ answer, .returned answer ∉ now)
    (cleared : p.control.clearedFor? = some device) :
    q.control.clearedFor? = some device ∨
      t = .control ∧ S.start? p.source device = some (.ok q.source) ∧
        now = .opened :: reports (S.startLines device) ∧ q.control = .spawning device := by
  cases step with
  | rest | sink | fetch | meet | hand | drop | work | retire => exact .inl cleared
  | discard here | discardDone here | renew here | again here =>
      rw [here] at cleared
      exact .inl cleared
  | «open» here started =>
      rw [here] at cleared
      cases cleared
      exact .inr ⟨rfl, started, rfl, rfl⟩
  | refuse => exact absurd (List.mem_cons_of_mem _ List.mem_cons_self) (unanswered false)
  | againRunning => exact absurd (by simp) (unanswered false)
  | denyRenew => exact absurd (by simp [poolDenied]) (unanswered false)
  | startRunning here | startRenewing here | start here | stop here | stopIdle here | restart here
  | restartIdle here | restartNever here | spawn here | halt here | finishHalt here | mark here
  | join here | shut here | finishStop here | clear here | denyStart here | denySpawn here
  | withdraw here | awaitHalt here | abandon here | giveUp here =>
      rw [here] at cleared
      cases cleared

/-- Behind the start of the source the holder of the lock waits for the dispatcher, and withdraws
if it is denied. -/
theorem Step.spawning {t : Turn α} {p q : Pipeline σ} {now : List Event} {device : String}
    (step : Step S t p now q) (unanswered : ∀ answer, .returned answer ∉ now)
    (spawning : p.control = .spawning device) :
    q.control = .spawning device ∨ q.control.isWithdrawn = true ∧ .denied ∈ now := by
  cases step with
  | rest | sink | fetch | meet | hand | drop | work => exact .inl spawning
  | spawn => exact absurd (by simp [Pipeline.spawn]) (unanswered true)
  | denySpawn => exact .inr ⟨rfl, List.mem_cons_self⟩
  | startRunning here | startRenewing here | start here | stop here | stopIdle here | restart here
  | restartIdle here | restartNever here | «open» here | refuse here | halt here | finishHalt here
  | mark here | join here | shut here | finishStop here | clear here | discard here
  | discardDone here | renew here | retire here | again here | againRunning here | denyStart here
  | denyRenew here | withdraw here | awaitHalt here | abandon here | giveUp here =>
      rw [spawning] at here
      cases here

/-- A turn that gives no answer takes a restart further, or leaves it where it is. -/
theorem Restarting.turn {t : Turn α} {device : String} {p u q : Pipeline σ}
    {during now : List Event} (restarting : Restarting S device p during u)
    (silent : SilentWhenIdle S new) (orderly : Orderly S new u)
    (run : (machine S).Run p during u) (turn : u.turn? S t = some (q, now))
    (unanswered : ∀ answer, .returned answer ∉ now) :
    Restarting S device p (during ++ now) q := by
  have step := step_of_turn turn
  -- the store is cleared at one place only
  have kept (elsewhere : ∀ device, u.control ≠ .clearing device) : .cleared ∉ now := by
    intro cleared
    obtain ⟨device, clearing, -⟩ := step.cleared cleared
    exact elsewhere device clearing
  cases restarting with
  | stopping here =>
      rcases step.stopping here with ⟨still, -⟩ | ⟨-, rfl, rfl⟩
      · exact .stopping still
      · exact .clearing rfl
  | clearing here =>
      by_cases cleared : .cleared ∈ now
      · obtain ⟨device', clearing, rfl, rfl⟩ := step.cleared cleared
        cases here.symm.trans clearing
        refine .cleared rfl (List.mem_append_right _ cleared) ?_
        rw [since_append_cons _ List.not_mem_nil]
        rfl
      · exact .clearing (step.clearing here cleared)
  | cleared here cleared nothing =>
      have quiet := kept fun device clearing => by rw [clearing] at here; cases here
      have none := step.silent silent orderly (Control.idle_of_cleared _ here)
      have still : sunkOf (since .cleared (during ++ now)) = [] := by
        rw [since_append _ quiet, sunkOf_append, nothing, none]
        rfl
      rcases step.afterClearing unanswered here with before | ⟨rfl, started, rfl, spawning⟩
      · exact .cleared before (List.mem_append_left _ cleared) still
      · have starts := StartsOn.intro run started turn (.here q) List.not_mem_nil
        rw [List.append_nil] at starts
        have sunk : sunkOf _ = sunkOf [] := still
        exact .spawning spawning (List.mem_append_left _ cleared) sunk starts
  | spawning here cleared same starts =>
      have quiet := kept fun device clearing => by rw [clearing] at here; cases here
      have once : .opened ∉ now := by
        intro opened
        obtain ⟨_, _, opening, -, -⟩ := step.opened opened
        exact absurd (here.symm.trans opening) (by simp)
      rcases step.spawning unanswered here with still | ⟨withdrawn, denied⟩
      · refine .spawning still (List.mem_append_left _ cleared) ?_ (starts.turn turn once)
        rw [since_append _ quiet, sunkOf_append, sunkOf_append, same]
      · exact .withdrawn withdrawn (List.mem_append_left _ cleared) (List.mem_append_right _ denied)
  | withdrawn here cleared denied =>
      rcases step.withdrawing here with ⟨still, -⟩ | ⟨-, -, rfl⟩
      · exact .withdrawn still (List.mem_append_left _ cleared) (List.mem_append_left _ denied)
      · exact absurd List.mem_cons_self (unanswered false)

/-- A restart that is under way is on its way, and the device stays. -/
theorem Underway.restarting {count : Nat} {device : String} {p q : Pipeline σ}
    {seen during : List Event} (silent : SilentWhenIdle S new)
    (run : (machine S).Run (ofSource new count) seen p) (known : p.device = some device)
    (underway : Underway S .restart p during q) :
    q.device = some device ∧ Restarting S device p during q := by
  induction underway with
  | begin turn unanswered =>
      cases step_of_turn turn with
      | restart _ remembered =>
          cases known.symm.trans remembered
          exact ⟨known, .stopping rfl⟩
      | restartIdle _ remembered =>
          cases known.symm.trans remembered
          exact ⟨known, .clearing rfl⟩
      | restartNever => exact absurd (by simp) (unanswered false)
  | @turn u q t seen' now underway turn unanswered ih =>
      have orderly := orderly_of_run (run.trans underway.run) silent (.ofSource S new count)
      refine ⟨?_, ih.2.turn silent orderly underway.run turn unanswered⟩
      rcases (step_of_turn turn).device with ⟨same, -⟩ | ⟨_, -, -, rfl⟩
      · exact same.trans ih.1
      · exact absurd (by simp [Pipeline.spawn]) (unanswered true)

/-! ## The answer -/

/-- Where an answer is given. -/
theorem Step.answers {t : Turn α} {p q : Pipeline σ} {now : List Event} {answer : Bool}
    (step : Step S t p now q) (coherent : p.Coherent) (returned : .returned answer ∈ now) :
    p.control = .free ∨ p.control = .closing .done ∨
      (answer = false ∧ q = { p with control := .free } ∧
        ((∃ device e, p.control = .opening device ∧ S.start? p.source device = some (.error e)) ∨
          (∃ device, p.control = .renewing device) ∧ .denied ∈ now ∨ p.control = .emptying)) ∨
      answer = true ∧ ∃ device, p.control = .spawning device ∧ q = (p.spawn device).1 ∧
        now = (p.spawn device).2 := by
  cases step with
  | startRunning free | stopIdle free | restartNever free => exact .inl free
  | denyStart free => exact .inl free
  | refuse opening refused =>
      have no : answer = false := by simpa [say] using returned
      exact .inr (.inr (.inl ⟨no, rfl, .inl ⟨_, _, opening, refused⟩⟩))
  | denyRenew renewing =>
      have no : answer = false := by simpa [poolDenied, say] using returned
      exact .inr (.inr (.inl ⟨no, rfl, .inr (.inl ⟨⟨_, renewing⟩, by simp [poolDenied]⟩)⟩))
  | giveUp emptying =>
      have no : answer = false := by simpa using returned
      exact .inr (.inr (.inl ⟨no, rfl, .inr (.inr emptying)⟩))
  | spawn spawning =>
      have yes : answer = true := by simpa [Pipeline.spawn, say] using returned
      exact .inr (.inr (.inr ⟨yes, _, spawning, rfl, rfl⟩))
  | @finishStop _ after closing =>
      cases after with
      | done => exact .inr (.inl closing)
      | restart device => simp [Pipeline.finishStop, say] at returned
  | againRunning retiring _ runs =>
      have resting : p.isRunning = false := coherent.runs_at retiring rfl
      exact absurd (runs.symm.trans resting) (by simp)
  | work => simp [workerEvent?_eq_some] at returned
  | _ => simp [reports, say] at returned

/-- A restart that has not set the pipeline to work again: a thread was denied, or the source has
refused. -/
structure Refused (S : CaptureSource σ α) (device : String) (during : List Event)
    (q : Pipeline σ) : Prop where
  stopped : q.IsStopped
  remembers : q.device = some device
  cleared : .cleared ∈ during
  reason : .denied ∈ during ∨ q.HasNewPool ∧ ∃ e, S.start? q.source device = some (.error e)

/-- A restart that has set the pipeline to work again. -/
structure Restarted (S : CaptureSource σ α) (device : String) (p : Pipeline σ)
    (during back : List Event) (q : Pipeline σ) : Prop where
  free : q.control = .free
  running : q.isRunning = true
  remembers : q.device = some device
  cleared : .cleared ∈ during
  granted : .denied ∉ during
  sunk : sunkOf (since .cleared during) = sunkOf back
  starts : StartsOn S device p during back q

/-- On its way a restart holds the lock, and is not about to end as a stop does. -/
theorem Restarting.held {device : String} {p q : Pipeline σ} {during : List Event}
    (restarting : Restarting S device p during q) :
    q.control ≠ .free ∧ q.control ≠ .closing .done := by
  constructor
  · intro free
    cases restarting with
    | stopping here | clearing here | cleared here | spawning here | withdrawn here =>
        rw [free] at here
        cases here
  · intro closing
    cases restarting with
    | stopping here | clearing here | cleared here | spawning here | withdrawn here =>
        rw [closing] at here
        cases here

/-- The turn that gives the answer of a restart ends it one way or the other. -/
theorem Restarting.answers {t : Turn α} {device : String} {p u q : Pipeline σ}
    {during now : List Event} {answer : Bool} (restarting : Restarting S device p during u)
    (coherent : u.Coherent) (withdrawn : .denied ∈ during → u.control.isWithdrawn = true)
    (remembers : u.device = some device) (turn : u.turn? S t = some (q, now))
    (returned : .returned answer ∈ now) :
    answer = false ∧ Refused S device (during ++ now) q ∨
      answer = true ∧ ∃ back, Restarted S device p (during ++ now) back q := by
  have phase := coherent.phase
  have step := step_of_turn turn
  rcases step.answers coherent returned with free | closing |
    ⟨no, rfl, ⟨device', e, opening, refused⟩ | ⟨⟨device', renewing⟩, denied⟩ | emptying⟩ |
    ⟨yes, device', spawning, rfl, rfl⟩
  · exact absurd free restarting.held.1
  · exact absurd closing restarting.held.2
  · have resting : u.isRunning = false := coherent.runs_at opening rfl
    cases restarting with
    | cleared here cleared =>
        rw [opening] at here phase
        cases here
        exact .inl ⟨no, ⟨rfl, resting⟩, remembers, List.mem_append_left _ cleared,
          .inr ⟨phase.2.1, e, refused⟩⟩
    | stopping here | clearing here | spawning here | withdrawn here =>
        rw [opening] at here
        cases here
  · have resting : u.isRunning = false := coherent.runs_at renewing rfl
    cases restarting with
    | cleared here cleared =>
        exact .inl ⟨no, ⟨rfl, resting⟩, remembers, List.mem_append_left _ cleared,
          .inl (List.mem_append_right _ denied)⟩
    | stopping here | clearing here | spawning here | withdrawn here =>
        rw [renewing] at here
        cases here
  · have resting : u.isRunning = false := coherent.runs_at emptying rfl
    cases restarting with
    | withdrawn here cleared denied =>
        exact .inl ⟨no, ⟨rfl, resting⟩, remembers, List.mem_append_left _ cleared,
          .inl (List.mem_append_left _ denied)⟩
    | stopping here | clearing here | cleared here | spawning here =>
        rw [emptying] at here
        cases here
  · cases restarting with
    | spawning here cleared same starts =>
        cases here.symm.trans spawning
        have granted : .denied ∉ during := fun denied => by
          have place := withdrawn denied
          rw [spawning] at place
          cases place
        refine .inr ⟨yes, _, rfl, rfl, rfl, List.mem_append_left _ cleared, ?_, ?_,
          starts.turn turn (by simp [Pipeline.spawn, say])⟩
        · rw [List.mem_append]
          exact not_or.mpr ⟨granted, by simp [Pipeline.spawn, say]⟩
        · rw [since_append _ (by simp [Pipeline.spawn, say]), sunkOf_append, sunkOf_append, same]
    | stopping here | clearing here | cleared here | withdrawn here =>
        rw [spawning] at here
        cases here

theorem Underway.not_spawned {c : Call} {p q : Pipeline σ} {during : List Event}
    (underway : Underway S c p during q) : .spawned ∉ during := by
  have silent {t : Turn α} {u v : Pipeline σ} {now : List Event} (turn : u.turn? S t = some (v, now))
      (unanswered : ∀ answer, .returned answer ∉ now) : .spawned ∉ now := by
    rcases (step_of_turn turn).device with ⟨-, none⟩ | ⟨_, -, -, rfl⟩
    · exact none
    · exact absurd (by simp [Pipeline.spawn]) (unanswered true)
  induction underway with
  | begin turn unanswered => exact silent turn unanswered
  | turn _ turn unanswered ih =>
      rw [List.mem_append]
      exact not_or.mpr ⟨ih, silent turn unanswered⟩

/-- A call that answers no has set no dispatcher to work. -/
theorem Returns.not_spawned {c : Call} {p q : Pipeline σ} {during : List Event}
    (returns : Returns S c p during false q) : .spawned ∉ during := by
  have last {t : Turn α} {u v : Pipeline σ} {now : List Event} (turn : u.turn? S t = some (v, now))
      (returned : .returned false ∈ now) : .spawned ∉ now := by
    rcases (step_of_turn turn).device with ⟨-, none⟩ | ⟨_, -, -, rfl⟩
    · exact none
    · simp [Pipeline.spawn, say] at returned
  cases returns with
  | atOnce turn returned => exact last turn returned
  | later underway turn returned =>
      rw [List.mem_append]
      exact not_or.mpr ⟨underway.not_spawned, last turn returned⟩

/-- A restart that was refused leaves nothing of the old generation. -/
theorem Refused.empty {count : Nat} {device : String} {p q : Pipeline σ}
    {seen during : List Event} (refused : Refused S device during q)
    (returns : Returns S .restart p during false q) (silent : SilentWhenIdle S new)
    (keeps : KeepsCount S new) (run : (machine S).Run (ofSource new count) (seen ++ during) q) :
    q.store = {} ∧ q.queue.items = [] ∧
      q.captured S = (abandonedOf (since .cleared during)).length := by
  have same : since .cleared (seen ++ during) = since .cleared during :=
    since_of_mem seen refused.cleared
  have never : .spawned ∉ since .cleared (seen ++ during) := by
    rw [same]
    exact fun here => returns.not_spawned (mem_of_mem_since here)
  have performed := nothing_performed silent run never
  have drained := (orderly_of_run run silent (.ofSource S new count)).drained_of_stopped
    refused.stopped
  have captured := (captured_since_cleared keeps run
    (List.mem_append_right _ refused.cleared)).2 refused.stopped.idle
  have abandoned := (performed_since_restart silent run refused.stopped).length_eq
  rw [performed, List.nil_append] at abandoned
  refine ⟨?_, (List.append_eq_nil_iff.mp drained.queue).2, ?_⟩
  · rw [store_since_cleared run, performed]
    rfl
  · rw [captured, ← abandoned, same]

end Pipeline

end PacketWatch
