/-
# `PacketWatch.Proofs.Pipeline.Phases` — what holds at each place of the control lock

The holder of the control lock passes through five phases.

    resting    stopped; no dispatcher; the pool is new or closed
    ready      as resting, and the pool is new: a start is under way, or is withdrawn
    working    running; the dispatcher is busy; no end marker
    draining   running; the marker of this run is in the queue, or the dispatcher
               has taken it and left
    closing    no dispatcher; the pool is being closed

`Coherent` says that a pipeline is in the phase its control lock tells.  It is
kept by every turn of every thread, whatever the source does: nothing is
assumed of `S`, so a source that keeps the sink and uses it at any moment is
included.  What a source may push is frames, and frames are all that stays in
the queue outside of `draining`.
-/
import PacketWatch.Proofs.Pipeline.Steps

namespace PacketWatch

/-- Whether a dispatcher is at work. -/
@[simp] def Dispatcher.isBusy {α : Type} : Dispatcher α → Bool
  | .waiting | .holding _ => true
  | .absent | .gone => false

/-- A phase of the control lock. -/
inductive Phase where
  | resting
  | ready
  | working
  | draining
  | closing

/-- The phase of a place, in a pipeline that is running or not. -/
def Control.phase (running : Bool) : Control → Phase
  | .free => if running then .working else .resting
  | .opening _ | .spawning _ | .withdrawing | .awaiting | .emptying => .ready
  | .stopping _ | .halting _ | .marking _ => .working
  | .joining _ => .draining
  | .closing _ | .retiring _ => .closing
  | .clearing _ | .discarding _ _ | .renewing _ => .resting

/-- Whether the pipeline is running at a place, as far as the place tells. -/
def Control.running? : Control → Option Bool
  | .free => none
  | .stopping _ | .halting _ | .marking _ | .joining _ | .closing _ => some true
  | .opening _ | .spawning _ | .clearing _ | .discarding _ _ | .renewing _ | .retiring _
  | .withdrawing | .awaiting | .emptying => some false

/-- Work goes on only in a pipeline that is running. -/
theorem Control.runs_of_phase {control : Control} {runs : Bool}
    (phase : control.phase runs = .working ∨ control.phase runs = .draining) :
    runs = true ∨ control.running? = some true := by
  cases control with
  | free => cases runs <;> simp [Control.phase] at phase ⊢
  | stopping | halting | marking | joining => exact .inr rfl
  | «opening» | spawning | closing | clearing | discarding | renewing | retiring | withdrawing
  | awaiting | emptying =>
      simp [Control.phase] at phase

namespace Pipeline

variable {σ α : Type} {S : CaptureSource σ α}

/-- There is no end marker in the queue. -/
def Plain (p : Pipeline σ) : Prop := QueueItem.endOfStream ∉ p.queue.items

/-- There is one end marker in the queue, and the dispatcher will come to it. -/
def Marked (p : Pipeline σ) : Prop :=
  p.dispatcher.isBusy = true ∧ ∃ before after : List (QueueItem Frame),
    p.queue.items = before ++ .endOfStream :: after ∧
      QueueItem.endOfStream ∉ before ∧ QueueItem.endOfStream ∉ after

/-- No task was ever handed to the pool. -/
def HasNewPool (p : Pipeline σ) : Prop := p.pool = Pool.ofSize p.workerCount

/-- What holds at a phase. -/
def InPhase (p : Pipeline σ) : Phase → Prop
  | .resting =>
      p.dispatcher = .absent ∧ (p.HasNewPool ∨ p.pool.closing = .returned) ∧ p.Plain
  | .ready => p.dispatcher = .absent ∧ p.HasNewPool ∧ p.Plain
  | .working => p.dispatcher.isBusy = true ∧ p.pool.closing = .notBegun ∧ p.Plain
  | .draining => p.pool.closing = .notBegun ∧ (p.Marked ∨ p.dispatcher = .gone ∧ p.Plain)
  | .closing => p.dispatcher = .absent ∧ p.pool.closing ≠ .notBegun ∧ p.Plain

/-- A pipeline is in the phase that its control lock tells. -/
structure Coherent (p : Pipeline σ) : Prop where
  pool : p.pool.Sound
  running : ∀ runs, p.control.running? = some runs → p.isRunning = runs
  phase : p.InPhase (p.control.phase p.isRunning)

/-! ## The queue -/

theorem Plain.push {p q : Pipeline σ} {frame : Frame} (plain : p.Plain)
    (items : q.queue = p.queue.push (.data frame)) : q.Plain := by
  unfold Plain
  rw [items, Queue.push, List.mem_append, List.mem_singleton]
  rintro (old | new)
  · exact plain old
  · exact absurd new (by simp)

theorem Plain.tail {p q : Pipeline σ} {item : QueueItem Frame} (plain : p.Plain)
    (items : p.queue.items = item :: q.queue.items) : q.Plain := by
  intro marker
  exact plain (items ▸ List.mem_cons_of_mem _ marker)

theorem Marked.push {p q : Pipeline σ} {frame : Frame} (marked : p.Marked)
    (dispatcher : q.dispatcher = p.dispatcher) (items : q.queue = p.queue.push (.data frame)) :
    q.Marked := by
  obtain ⟨busy, before, after, split, front, back⟩ := marked
  refine ⟨dispatcher ▸ busy, before, after ++ [.data frame], ?_, front, ?_⟩
  · rw [items, Queue.push, split, List.append_assoc, List.cons_append]
  · rw [List.mem_append, List.mem_singleton]
    rintro (old | new)
    · exact back old
    · exact absurd new (by simp)

/-- The dispatcher takes a frame from in front of the marker. -/
theorem Marked.fetch {p q : Pipeline σ} {frame : Frame} (marked : p.Marked)
    (busy : q.dispatcher.isBusy = true) (items : p.queue.items = .data frame :: q.queue.items) :
    q.Marked := by
  obtain ⟨-, before, after, split, front, back⟩ := marked
  cases before with
  | nil => rw [items] at split; simp at split
  | cons head before =>
      rw [items, List.cons_append] at split
      refine ⟨busy, before, after, (List.cons.inj split).2, ?_, back⟩
      exact fun marker => front (List.mem_cons_of_mem _ marker)

/-- The dispatcher takes the marker, and leaves no other behind. -/
theorem Marked.meet {p q : Pipeline σ} (marked : p.Marked)
    (items : p.queue.items = .endOfStream :: q.queue.items) : q.Plain := by
  obtain ⟨-, before, after, split, front, back⟩ := marked
  cases before with
  | nil =>
      rw [items, List.nil_append] at split
      unfold Plain
      rwa [(List.cons.inj split).2]
  | cons head before =>
      rw [items, List.cons_append] at split
      exact absurd ((List.cons.inj split).1 ▸ List.mem_cons_self) front

/-! ## The pool -/

/-- Workers that wait at an empty channel do not move. -/
theorem not_work_of_new {count index : Nat} {pool : Pool Frame} {seen : List (Pool.Event Frame)}
    (step : Pool.Step outcome (.work index) (Pool.ofSize count) seen pool) : False := by
  have waiting : ∀ w ∈ (Pool.ofSize count : Pool Frame).workers, w = .waiting :=
    fun w hw => List.eq_of_mem_replicate hw
  cases step with
  | receive _ channel | leave _ channel => simp [Pool.ofSize] at channel
  | perform workers | count workers =>
      have moved := waiting _ (workers ▸ List.mem_append_right _ List.mem_cons_self)
      simp at moved

/-- Workers that have left do not move. -/
theorem not_work_of_returned {index : Nat} {before pool : Pool Frame}
    {seen : List (Pool.Event Frame)} (sound : before.Sound) (returned : before.closing = .returned)
    (step : Pool.Step outcome (.work index) before seen pool) : False := by
  have everyone := (sound.drained returned).2
  cases step with
  | receive workers | leave workers | perform workers | count workers =>
      have left := everyone _ (workers ▸ List.mem_append_right _ List.mem_cons_self)
      simp at left

theorem work_closing {index : Nat} {before pool : Pool Frame} {seen : List (Pool.Event Frame)}
    (step : Pool.Step outcome (.work index) before seen pool) : pool.closing = before.closing := by
  cases step with
  | receive | leave | perform => rfl
  | count => exact Pool.count_closing _ _

theorem goOnClosing_closing {before pool : Pool Frame} {seen : List (Pool.Event Frame)}
    (step : Pool.Step outcome .goOnClosing before seen pool) : pool.closing ≠ .notBegun := by
  cases step with
  | send | finish => simp

theorem close_closing (pool : Pool Frame) : pool.close.closing ≠ .notBegun := by
  unfold Pool.close
  split
  · rename_i stopped
    exact Pool.isStopped_iff.mp stopped
  · simp

theorem close_sound {pool : Pool Frame} (sound : pool.Sound) : pool.close.Sound := by
  have step : Pool.Step outcome .close pool _ pool.close := Pool.step_of_close rfl
  exact step.sound sound

/-! ## Turns inside a phase -/

/-- A frame behind all items is allowed at every phase. -/
theorem InPhase.push {p q : Pipeline σ} {frame : Frame} {phase : Phase} (inPhase : p.InPhase phase)
    (dispatcher : q.dispatcher = p.dispatcher) (pool : q.pool = p.pool)
    (count : q.workerCount = p.workerCount) (items : q.queue = p.queue.push (.data frame)) :
    q.InPhase phase := by
  cases phase with
  | resting =>
      obtain ⟨absent, idle, plain⟩ := inPhase
      refine ⟨dispatcher.trans absent, ?_, plain.push items⟩
      rwa [HasNewPool, pool, count]
  | ready =>
      obtain ⟨absent, fresh, plain⟩ := inPhase
      refine ⟨dispatcher.trans absent, ?_, plain.push items⟩
      rwa [HasNewPool, pool, count]
  | working =>
      obtain ⟨busy, opened, plain⟩ := inPhase
      exact ⟨dispatcher ▸ busy, pool ▸ opened, plain.push items⟩
  | draining =>
      obtain ⟨opened, marked | ⟨left, plain⟩⟩ := inPhase
      · exact ⟨pool ▸ opened, .inl (marked.push dispatcher items)⟩
      · exact ⟨pool ▸ opened, .inr ⟨dispatcher.trans left, plain.push items⟩⟩
  | closing =>
      obtain ⟨absent, closing, plain⟩ := inPhase
      exact ⟨dispatcher.trans absent, pool ▸ closing, plain.push items⟩

/-- A dispatcher that is at work finds the pipeline working or draining, and the
pool open. -/
theorem InPhase.of_busy {p : Pipeline σ} {phase : Phase} (inPhase : p.InPhase phase)
    (busy : p.dispatcher.isBusy = true) :
    p.pool.closing = .notBegun ∧
      (phase = .working ∧ p.Plain ∨ phase = .draining ∧ p.Marked) := by
  cases phase with
  | resting | ready | closing => rw [inPhase.1] at busy; simp at busy
  | working => exact ⟨inPhase.2.1, .inl ⟨rfl, inPhase.2.2⟩⟩
  | draining =>
      obtain ⟨opened, marked | ⟨left, -⟩⟩ := inPhase
      · exact ⟨opened, .inr ⟨rfl, marked⟩⟩
      · rw [left] at busy; simp at busy

/-- A worker moves only in a pool that is in use or being closed, and leaves it so. -/
theorem InPhase.work {p q : Pipeline σ} {phase : Phase} {index : Nat}
    {seen : List (Pool.Event Frame)} (inPhase : p.InPhase phase) (sound : p.pool.Sound)
    (step : Pool.Step outcome (.work index) p.pool seen q.pool)
    (dispatcher : q.dispatcher = p.dispatcher) (items : q.queue = p.queue) : q.InPhase phase := by
  have closing := work_closing step
  have plain (kept : p.Plain) : q.Plain := by rwa [Plain, items]
  cases phase with
  | resting =>
      obtain ⟨-, fresh | returned, -⟩ := inPhase
      · rw [fresh] at step; exact (not_work_of_new step).elim
      · exact (not_work_of_returned sound returned step).elim
  | ready =>
      obtain ⟨-, fresh, -⟩ := inPhase
      rw [fresh] at step
      exact (not_work_of_new step).elim
  | working =>
      obtain ⟨busy, opened, kept⟩ := inPhase
      exact ⟨dispatcher ▸ busy, closing.trans opened, plain kept⟩
  | draining =>
      obtain ⟨opened, marked | ⟨left, kept⟩⟩ := inPhase
      · refine ⟨closing.trans opened, .inl ?_⟩
        rwa [Marked, dispatcher, items]
      · exact ⟨closing.trans opened, .inr ⟨dispatcher.trans left, plain kept⟩⟩
  | closing =>
      obtain ⟨absent, begun, kept⟩ := inPhase
      exact ⟨dispatcher.trans absent, closing ▸ begun, plain kept⟩

/-! ## Every turn of every thread -/

theorem Coherent.ofSource (source : σ) (count : Nat) : Coherent (ofSource source count) where
  pool := Pool.Sound.ofSize count
  running := by intro runs told; simp [Pipeline.ofSource, Control.running?] at told
  phase := by
    refine ⟨rfl, .inl ?_, ?_⟩
    · simp [HasNewPool, Pipeline.ofSource, Pool.ofSize]
    · simp [Plain, Pipeline.ofSource]

/-- Where the place tells whether the pipeline is running, it does as told. -/
theorem Coherent.runs_at {p : Pipeline σ} (coherent : p.Coherent) {control : Control} {runs : Bool}
    (here : p.control = control) (told : control.running? = some runs) : p.isRunning = runs := by
  apply coherent.running
  rw [here]
  exact told

/-- A dispatcher at work goes on from a phase where it may be at work. -/
theorem Coherent.dispatched {p q : Pipeline σ} (coherent : p.Coherent)
    (busy : p.dispatcher.isBusy = true) (pool : q.pool.Sound)
    (closing : q.pool.closing = p.pool.closing) (control : q.control = p.control)
    (running : q.isRunning = p.isRunning)
    (next : p.Plain ∧ p.pool.closing = .notBegun → q.dispatcher.isBusy = true ∧ q.Plain)
    (marked : p.Marked → q.Marked ∨ q.dispatcher = .gone ∧ q.Plain) : q.Coherent := by
  obtain ⟨opened, ⟨working, plain⟩ | ⟨draining, mark⟩⟩ := coherent.phase.of_busy busy
  · obtain ⟨stillBusy, stillPlain⟩ := next ⟨plain, opened⟩
    refine ⟨pool, ?_, ?_⟩
    · rw [control, running]; exact coherent.running
    · rw [control, running, working]
      exact ⟨stillBusy, closing.trans opened, stillPlain⟩
  · refine ⟨pool, ?_, ?_⟩
    · rw [control, running]; exact coherent.running
    · rw [control, running, draining]
      exact ⟨closing.trans opened, marked mark⟩

/-- The holder of the control lock goes on to a place that tells as much of the pipeline, or lets
the lock go. -/
theorem Coherent.goOn {p q : Pipeline σ} {here next : Control} {runs : Bool} (coherent : p.Coherent)
    (before : p.control = here) (after : q.control = next) (running : p.isRunning = runs)
    (same : q.isRunning = p.isRunning) (told : next.running? = some runs ∨ next = .free)
    (pool : q.pool.Sound) (phase : p.InPhase (here.phase runs) → q.InPhase (next.phase runs)) :
    q.Coherent := by
  have inPhase := coherent.phase
  rw [before, running] at inPhase
  have runsOn : q.isRunning = runs := same.trans running
  refine ⟨pool, fun answer tells => ?_, ?_⟩
  · rw [after] at tells
    rcases told with told | rfl
    · exact runsOn.trans (Option.some.inj (told.symm.trans tells))
    · cases tells
  · rw [after, runsOn]
    exact phase inPhase

/-- Whatever thread takes its turn, the pipeline is in the phase its lock tells. -/
theorem Step.coherent {t : Turn α} {p q : Pipeline σ} {seen : List Event}
    (step : Step S t p seen q) (coherent : p.Coherent) : q.Coherent := by
  have ⟨sound, running, phase⟩ := coherent
  cases step with
  | rest => exact ⟨sound, running, phase⟩
  | sink => exact ⟨sound, running, phase.push rfl rfl rfl rfl⟩
  | @fetch _ frame rest waiting items =>
      have busy : p.dispatcher.isBusy = true := by rw [waiting]; rfl
      refine coherent.dispatched busy sound rfl rfl rfl ?_ ?_
      · exact fun ⟨plain, _⟩ => ⟨rfl, plain.tail items⟩
      · exact fun marked => .inl (marked.fetch rfl items)
  | @meet _ rest waiting items =>
      have busy : p.dispatcher.isBusy = true := by rw [waiting]; rfl
      refine coherent.dispatched busy sound rfl rfl rfl ?_ ?_
      · intro ⟨plain, _⟩
        exact absurd (items ▸ List.mem_cons_self) plain
      · exact fun marked => .inr ⟨rfl, marked.meet items⟩
  | @hand _ frame holding opened =>
      have busy : p.dispatcher.isBusy = true := by rw [holding]; rfl
      have accepted : Pool.Step outcome (.submit frame) p.pool _ _ := .accept opened
      refine coherent.dispatched busy (accepted.sound sound) rfl rfl rfl ?_ ?_
      · exact fun ⟨plain, _⟩ => ⟨rfl, plain⟩
      · exact fun ⟨_, split⟩ => .inl ⟨rfl, split⟩
  | drop holding closed =>
      have busy : p.dispatcher.isBusy = true := by rw [holding]; rfl
      exact absurd (phase.of_busy busy).1 closed
  | work moved => exact ⟨moved.sound sound, running, phase.work sound moved rfl rfl⟩
  | startRunning | stopIdle | restartNever | denyStart => exact ⟨sound, running, phase⟩
  | startRenewing free resting closed =>
      refine coherent.goOn free rfl resting rfl (.inl rfl) (.ofSize _) ?_
      exact fun ⟨absent, _, plain⟩ => ⟨absent, rfl, plain⟩
  | start free resting opened =>
      refine coherent.goOn free rfl resting rfl (.inl rfl) sound fun ⟨absent, idle, plain⟩ => ?_
      rcases idle with fresh | returned
      · exact ⟨absent, fresh, plain⟩
      · exact absurd (opened.symm.trans returned) (by simp)
  | stop free running | restart free _ running | restartIdle free _ running =>
      exact coherent.goOn free rfl running rfl (.inl rfl) sound id
  | «open» here | halt here | finishHalt here | clear here | discardDone here | denySpawn here
  | withdraw here | awaitHalt here =>
      exact coherent.goOn here rfl (coherent.runs_at here rfl) rfl (.inl rfl) sound id
  | refuse here | giveUp here =>
      refine coherent.goOn here rfl (coherent.runs_at here rfl) rfl (.inr rfl) sound ?_
      exact fun ⟨absent, fresh, plain⟩ => ⟨absent, .inl fresh, plain⟩
  | denyRenew renewing =>
      exact coherent.goOn renewing rfl (coherent.runs_at renewing rfl) rfl (.inr rfl) sound id
  | spawn spawning =>
      rw [spawning] at phase
      obtain ⟨-, fresh, plain⟩ := phase
      exact ⟨sound, fun _ told => by simp [Pipeline.spawn, Control.running?] at told,
        rfl, congrArg Pool.closing fresh, plain⟩
  | mark marking =>
      refine coherent.goOn marking rfl (coherent.runs_at marking rfl) rfl (.inl rfl) sound ?_
      intro ⟨busy, opened, plain⟩
      exact ⟨opened, .inl ⟨busy, p.queue.items, [], rfl, plain, List.not_mem_nil⟩⟩
  | join joining left =>
      refine coherent.goOn joining rfl (coherent.runs_at joining rfl) rfl (.inl rfl)
        (close_sound sound) ?_
      rintro ⟨-, ⟨busy, -⟩ | ⟨-, plain⟩⟩
      · rcases left with left | left <;> rw [left] at busy <;> simp at busy
      · exact ⟨rfl, close_closing _, plain⟩
  | shut here moved | retire here moved =>
      refine coherent.goOn here here (coherent.runs_at here rfl) rfl (.inl rfl)
        (moved.sound sound) ?_
      exact fun ⟨absent, _, plain⟩ => ⟨absent, goOnClosing_closing moved, plain⟩
  | @finishStop _ after closing returned =>
      rw [closing] at phase
      cases after with
      | done =>
          exact ⟨sound, fun _ told => by simp [Pipeline.finishStop, Control.running?] at told,
            phase.1, .inr returned, phase.2.2⟩
      | restart device =>
          exact ⟨sound, fun _ told => Option.some.inj told, phase.1, .inr returned, phase.2.2⟩
  | discard discarding items =>
      refine coherent.goOn discarding rfl (coherent.runs_at discarding rfl) rfl (.inl rfl) sound ?_
      exact fun ⟨absent, idle, plain⟩ => ⟨absent, idle, plain.tail items⟩
  | abandon emptying items =>
      refine coherent.goOn emptying emptying (coherent.runs_at emptying rfl) rfl (.inl rfl) sound ?_
      exact fun ⟨absent, fresh, plain⟩ => ⟨absent, fresh, plain.tail items⟩
  | renew renewing =>
      refine coherent.goOn renewing rfl (coherent.runs_at renewing rfl) rfl (.inl rfl)
        (close_sound sound) ?_
      exact fun ⟨absent, _, plain⟩ => ⟨absent, close_closing _, plain⟩
  | again retiring returned resting =>
      refine coherent.goOn retiring rfl resting rfl (.inl rfl) (.ofSize _) ?_
      exact fun ⟨absent, _, plain⟩ => ⟨absent, rfl, plain⟩
  | againRunning retiring returned runs =>
      exact absurd (runs.symm.trans (coherent.runs_at retiring rfl)) (by simp)

/-- A run from a coherent pipeline ends in one. -/
theorem coherent_of_run {p q : Pipeline σ} {seen : List Event}
    (run : (machine S).Run p seen q) (coherent : p.Coherent) : q.Coherent := by
  induction run with
  | here => exact coherent
  | turn _ turn ih => exact (step_of_turn turn).coherent ih

/-! ## What a caller may rely on -/

/-- A pipeline that is stopped has no dispatcher at work. -/
theorem Coherent.idle {p : Pipeline σ} (coherent : p.Coherent) (stopped : p.isRunning = false) :
    p.dispatcher.isBusy = false := by
  refine Bool.eq_false_iff.mpr fun busy => ?_
  have phase := (coherent.phase.of_busy busy).2.imp And.left And.left
  rcases Control.runs_of_phase phase with runs | told
  · exact absurd (runs.symm.trans stopped) (by simp)
  · exact absurd ((coherent.running _ told).symm.trans stopped) (by simp)

end Pipeline

end PacketWatch
