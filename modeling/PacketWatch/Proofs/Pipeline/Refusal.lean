/-
# `PacketWatch.Proofs.Pipeline.Refusal` — a start that is refused leaves no trace

A start is refused at once if the pipeline is running, and changes nothing.  Otherwise it first
sees to it that the pool is new, and then asks the source, which may say no.

    free ----------> opening ----------> free
          new pool           no

Between the two turns nobody but the threads of the source can move: there is no dispatcher,
and the workers of a new pool wait.  So what a refused start leaves is the pipeline to which
these threads alone would have brought it, around a new pool if the old one was closed; and
stopped pipelines that differ in idle pools only are `Alike`, so nothing that follows tells
whether the start was asked for.

All this is about threads that are granted.  A start that is denied a thread has asked the
operating system, not the source.
-/
import PacketWatch.Proofs.Pipeline.Alike
import PacketWatch.Proofs.Pipeline.Generations

namespace PacketWatch.Pipeline

open CaptureSource (Reached KeepsCount SilentWhenIdle StillWhenIdle)

variable {σ α : Type} {S : CaptureSource σ α} {new : σ}

/-! ## The threads of the source alone -/

/-- A pipeline in which nobody but the threads of its source takes turns. -/
def sources (S : CaptureSource σ α) : Machine (Pipeline σ) α Event :=
  ⟨fun p a => p.turn? S (.source a)⟩

theorem run_of_sources {p r : Pipeline σ} {meanwhile : List Event}
    (run : (sources S).Run p meanwhile r) : (machine S).Run p meanwhile r := by
  induction run with
  | here => exact .here _
  | @turn _ _ a _ _ _ turn ih => exact .turn (t := Turn.source a) ih turn

/-- They change the source and the queue only. -/
theorem kept_of_sources {p r : Pipeline σ} {meanwhile : List Event}
    (run : (sources S).Run p meanwhile r) :
    r = { p with source := r.source, queue := r.queue } := by
  induction run with
  | here => rfl
  | turn _ turn ih =>
      rw [ih] at turn
      cases step_of_source turn with
      | rest | sink => rfl

/-- While the source is idle and silent they put nothing into the queue. -/
theorem silent_of_sources {p r : Pipeline σ} {meanwhile : List Event}
    (silent : SilentWhenIdle S new) (reached : Reached S new .idle p.source)
    (run : (sources S).Run p meanwhile r) :
    Reached S new .idle r.source ∧ r.queue = p.queue ∧ meanwhile = [] := by
  induction run with
  | here => exact ⟨reached, rfl, rfl⟩
  | turn _ turn ih =>
      obtain ⟨reached, queue, rfl⟩ := ih
      cases step_of_source turn with
      | rest moved => exact ⟨reached.turn moved, queue, rfl⟩
      | sink moved => exact absurd moved (silent reached)

/-- If nothing happens to an idle source, they do nothing. -/
theorem still_of_sources {p r : Pipeline σ} {meanwhile : List Event} (still : StillWhenIdle S new)
    (reached : Reached S new .idle p.source) (run : (sources S).Run p meanwhile r) : r = p := by
  induction run with
  | here => rfl
  | turn _ turn ih =>
      subst ih
      cases step_of_source turn with
      | rest moved => rw [(still reached moved).1]
      | sink moved => exact absurd (still reached moved).2 (by simp)

/-! ## From the lock to the refusal -/

/-- The pool with which a pipeline starts: a closed one is replaced. -/
def poolToStart (p : Pipeline σ) : Pool Frame :=
  if p.pool.isStopped then Pool.ofSize p.workerCount else p.pool

/-- How far a start on a device has come that got the lock and has not answered. -/
inductive Starting (S : CaptureSource σ α) (device : String) (p : Pipeline σ) :
    List Event → Pipeline σ → Prop
  /-- The threads of the source took turns alone, and it is about to be asked. -/
  | opening {r : Pipeline σ} {during meanwhile : List Event} :
      (sources S).Run p meanwhile r → visibleOf during = visibleOf meanwhile →
      Starting S device p during { r with pool := p.poolToStart, control := .opening device }
  /-- The source has said yes. -/
  | spawning {u : Pipeline σ} {during : List Event} :
      u.control = .spawning device → Starting S device p during u

/-- While a start is under way nobody moves but the threads of the source and the start. -/
theorem Coherent.moves_of_ready {t : Turn α} {p q : Pipeline σ} {now : List Event}
    (coherent : p.Coherent) (ready : p.control.phase p.isRunning = .ready)
    (turn : p.turn? S t = some (q, now)) (granted : .denied ∉ now) :
    (∃ a, t = .source a) ∨ t = .control := by
  have phase := coherent.phase
  rw [ready] at phase
  obtain ⟨absent, fresh, -⟩ := phase
  cases t with
  | source a => exact .inl ⟨a, rfl⟩
  | control => exact .inr rfl
  | dispatch =>
      simp only [turn?, dispatch?, absent] at turn
      cases turn
  | work index =>
      cases step_of_work turn with
      | work moved =>
          rw [fresh] at moved
          exact (not_work_of_new moved).elim
  | call c =>
      simp only [turn?, call?] at turn
      split at turn
      · rename_i free
        rw [free, Control.phase] at ready
        split at ready <;> cases ready
      · cases turn
  | callDenied reason =>
      cases step_of_callDenied turn with
      | denyStart => exact absurd (by simp [poolDenied]) granted
  | controlDenied reason =>
      cases step_of_controlDenied turn with
      | denyRenew => exact absurd (by simp [poolDenied]) granted
      | denySpawn => exact absurd List.mem_cons_self granted

theorem unanswered_of_source {p q : Pipeline σ} {a : α} {now : List Event}
    (turn : p.turn? S (.source a) = some (q, now)) (answer : Bool) : .returned answer ∉ now := by
  cases step_of_source turn with
  | rest | sink => simp

/-- The source is asked, and says yes or no. -/
theorem turn_of_opening {p q : Pipeline σ} {device : String} {now : List Event}
    (opening : p.control = .opening device) (turn : p.turn? S .control = some (q, now)) :
    (q.control = .spawning device ∧ ∀ answer, .returned answer ∉ now) ∨
      ∃ e, S.start? p.source device = some (.error e) ∧ q = { p with control := .free } ∧
        now = [say .warn ("Failed to start capture on " ++ device ++ ": " ++ e.message),
          .returned false] := by
  simp only [turn?, control?, opening, open?, Option.map_eq_some_iff] at turn
  obtain ⟨answer, asked, result⟩ := turn
  cases answer with
  | ok source =>
      cases result
      exact .inl ⟨rfl, by simp [reports]⟩
  | error e =>
      cases result
      exact .inr ⟨e, asked, rfl, rfl⟩

/-- After a yes the start is answered with yes. -/
theorem turn_of_spawning {p : Pipeline σ} {device : String}
    (spawning : p.control = .spawning device) : p.turn? S .control = some (p.spawn device) := by
  simp only [turn?, control?, spawning]

/-- The turn in which a start gets the lock. -/
theorem starting_of_begin {device : String} {p q : Pipeline σ} {now : List Event}
    (turn : p.turn? S (.call (.start device)) = some (q, now))
    (unanswered : ∀ answer, .returned answer ∉ now) :
    p.control = .free ∧ p.isRunning = false ∧ Starting S device p now q := by
  cases step_of_turn turn with
  | startRunning => exact absurd (List.mem_cons_of_mem _ List.mem_cons_self) (unanswered false)
  | startRenewing free resting closed =>
      have same : p.poolToStart = Pool.ofSize p.workerCount :=
        if_pos (Pool.isStopped_iff.mpr closed)
      rw [← same]
      exact ⟨free, resting, .opening (.here p) rfl⟩
  | start free resting opened =>
      have same : p.poolToStart = p.pool :=
        if_neg (by rw [Pool.not_isStopped_iff.mpr opened]; exact Bool.false_ne_true)
      have starting : Starting S device p [] { p with pool := p.poolToStart, control := _ } :=
        .opening (.here p) rfl
      rw [same] at starting
      exact ⟨free, resting, starting⟩

/-- The threads of the source would have taken the same turn without the start. -/
theorem Starting.of_source {device : String} {p q r : Pipeline σ} {a : α}
    {during meanwhile now : List Event} (alone : (sources S).Run p meanwhile r)
    (same : visibleOf during = visibleOf meanwhile)
    (turn : turn? S { r with pool := p.poolToStart, control := .opening device } (.source a) =
      some (q, now)) : Starting S device p (during ++ now) q := by
  have visible : visibleOf (during ++ now) = visibleOf (meanwhile ++ now) := by
    rw [visibleOf_append, visibleOf_append, same]
  cases step_of_source turn with
  | @rest _ _ source moved =>
      have other : (sources S).turn? r a = some ({ r with source := source }, []) := by
        simp only [sources, turn?, sourceTurn?, moved, Option.map_some]
      exact .opening (.turn alone other) visible
  | @sink _ _ source frame moved =>
      have other : (sources S).turn? r a = some
          ({ r with source := source, queue := r.queue.push (.data frame) }, [.sunk frame]) := by
        simp only [sources, turn?, sourceTurn?, moved, Option.map_some]
      exact .opening (.turn alone other) visible

theorem Underway.starting {device : String} {p u : Pipeline σ} {during : List Event}
    (coherent : p.Coherent) (underway : Underway S (.start device) p during u)
    (granted : .denied ∉ during) :
    p.control = .free ∧ p.isRunning = false ∧ Starting S device p during u := by
  induction underway with
  | begin turn unanswered => exact starting_of_begin turn unanswered
  | @turn u q t seen now underway turn unanswered ih =>
      obtain ⟨before, now⟩ := not_or.mp (mt List.mem_append.mpr granted)
      obtain ⟨free, resting, starting⟩ := ih before
      refine ⟨free, resting, ?_⟩
      have here := coherent_of_run underway.run coherent
      cases starting with
      | @opening r _ meanwhile alone same =>
          rcases here.moves_of_ready rfl turn now with ⟨a, rfl⟩ | rfl
          · exact .of_source alone same turn
          · rcases turn_of_opening rfl turn with ⟨yes, -⟩ | ⟨e, -, -, rfl⟩
            · exact .spawning yes
            · exact absurd (List.mem_cons_of_mem _ List.mem_cons_self) (unanswered false)
      | spawning spawning =>
          rcases here.moves_of_ready (by rw [spawning]; rfl) turn now with ⟨a, rfl⟩ | rfl
          · cases step_of_source turn with
            | rest | sink => exact .spawning spawning
          · cases turn.symm.trans (turn_of_spawning spawning)
            exact absurd (by simp) (unanswered true)

/-! ## The refusal -/

/-- A start that is refused finds the pipeline running and changes nothing; or the source says no,
and the threads of the source have taken turns alone before. -/
theorem Returns.refused {device : String} {p q : Pipeline σ} {during : List Event}
    (coherent : p.Coherent) (refused : Returns S (.start device) p during false q)
    (granted : .denied ∉ during) :
    p.control = .free ∧
      (p.isRunning = true ∧ q = p ∧
          during = [say .warn ("Capture already running; ignoring start on " ++ device),
            .returned false] ∨
        p.isRunning = false ∧ ∃ r meanwhile e, (sources S).Run p meanwhile r ∧
          S.start? r.source device = some (.error e) ∧ q = r.withPool p.poolToStart ∧
          visibleOf during = visibleOf meanwhile ++
            [say .warn ("Failed to start capture on " ++ device ++ ": " ++ e.message),
              .returned false]) := by
  cases refused with
  | atOnce turn returned =>
      cases step_of_turn turn with
      | startRunning free runs => exact ⟨free, .inl ⟨runs, rfl, rfl⟩⟩
      | startRenewing => simp at returned
      | start => exact absurd returned List.not_mem_nil
  | later underway turn returned =>
      obtain ⟨before, now⟩ := not_or.mp (mt List.mem_append.mpr granted)
      obtain ⟨free, resting, starting⟩ := underway.starting coherent before
      refine ⟨free, .inr ⟨resting, ?_⟩⟩
      have here := coherent_of_run underway.run coherent
      cases starting with
      | @opening r during meanwhile alone same =>
          rcases here.moves_of_ready rfl turn now with ⟨a, rfl⟩ | rfl
          · exact absurd returned (unanswered_of_source turn false)
          · rcases turn_of_opening rfl turn with ⟨-, unanswered⟩ | ⟨e, refused, rfl, rfl⟩
            · exact absurd returned (unanswered false)
            · refine ⟨r, meanwhile, e, alone, refused, ?_, ?_⟩
              · rw [kept_of_sources alone, withPool, free]
              · rw [visibleOf_append, same]
                rfl
      | spawning spawning =>
          rcases here.moves_of_ready (by rw [spawning]; rfl) turn now with ⟨a, rfl⟩ | rfl
          · exact absurd returned (unanswered_of_source turn false)
          · cases turn.symm.trans (turn_of_spawning spawning)
            simp [say] at returned

/-! ## What it leaves -/

theorem poolToStart_isStopped (p : Pipeline σ) : p.poolToStart.isStopped = false := by
  unfold poolToStart
  cases stopped : p.pool.isStopped with
  | true => rfl
  | false => exact stopped

/-- A stopped pipeline has a pool without a task. -/
theorem Coherent.vacant {p : Pipeline σ} (coherent : p.Coherent) (stopped : p.IsStopped) :
    p.pool.Vacant := by
  have phase := coherent.phase
  rw [stopped.resting] at phase
  obtain ⟨-, fresh | returned, -⟩ := phase
  · rw [fresh]
    exact .ofSize _
  · exact coherent.pool.vacant returned

theorem Coherent.vacant_toStart {p : Pipeline σ} (coherent : p.Coherent) (stopped : p.IsStopped) :
    p.poolToStart.Vacant := by
  unfold poolToStart
  split
  · exact .ofSize _
  · exact coherent.vacant stopped

/-- What a refused start leaves cannot be told from what was there without it. -/
theorem idle_of_refused {p r : Pipeline σ} {meanwhile : List Event} (coherent : p.Coherent)
    (stopped : p.IsStopped) (alone : (sources S).Run p meanwhile r)
    (left : (r.withPool p.poolToStart).Coherent) : Idle r p.poolToStart where
  left := coherent_of_run (run_of_sources alone) coherent
  right := left
  resting := (congrArg Pipeline.isRunning (kept_of_sources alone)).trans stopped.notRunning
  vacant := by
    rw [kept_of_sources alone]
    exact coherent.vacant stopped
  otherVacant := coherent.vacant_toStart stopped

/-- While the pipeline is stopped, what a silent source counts stays as it is. -/
theorem captured_of_sources {count : Nat} {p r : Pipeline σ} {seen meanwhile : List Event}
    (silent : SilentWhenIdle S new) (keeps : KeepsCount S new)
    (run : (machine S).Run (ofSource new count) seen p) (stopped : p.IsStopped)
    (alone : (sources S).Run p meanwhile r) : r.captured S = p.captured S := by
  have kept := kept_of_sources alone
  have before := delivered_of_run run
  have after := delivered_of_run (run.trans (run_of_sources alone))
  rw [stopped.idle] at before
  obtain ⟨-, -, rfl⟩ := silent_of_sources silent before.reached alone
  rw [congrArg Pipeline.control kept, congrArg Pipeline.isRunning kept, stopped.idle,
    List.append_nil] at after
  rw [captured, captured, congrArg Pipeline.baseline kept, keeps.whenIdle before,
    keeps.whenIdle after]

/-- **A refused start leaves no trace.**  For every source, from every state that a pipeline can
come to, in every order of all threads, while threads are granted: a start that answers no has
found the pipeline running and changed nothing, or the source has said no.  Then what is left is
the pipeline to which the threads of the source would have brought it by themselves, around a new
pool if the old one was closed, and nothing is seen of it but a warning and the answer.  Flag,
dispatcher, store and device are as before; so are the queue and the count if the source is
silent when idle, and all but the pool if it is still.  Whatever follows could have followed
without the start, and the other way round: the same is seen, and as soon as another start has
begun the states are the same. -/
theorem refused_start_leaves_no_trace {count : Nat} {device : String} {p q : Pipeline σ}
    {seen during : List Event} (run : (machine S).Run (ofSource new count) seen p)
    (refused : Returns S (.start device) p during false q) (granted : .denied ∉ during) :
    (p.isRunning = true → q = p ∧
        during = [say .warn ("Capture already running; ignoring start on " ++ device),
          .returned false]) ∧
      (p.isRunning = false → ∃ r meanwhile e, (sources S).Run p meanwhile r ∧
        S.start? r.source device = some (.error e) ∧ q = { r with pool := p.poolToStart } ∧
        visibleOf during = visibleOf meanwhile ++
          [say .warn ("Failed to start capture on " ++ device ++ ": " ++ e.message),
            .returned false] ∧
        CanFollow S r q ∧ CanFollow S q r ∧
        (SilentWhenIdle S new → meanwhile = []) ∧ (StillWhenIdle S new → r = p)) ∧
      (q.control = .free ∧ q.isRunning = p.isRunning ∧ q.dispatcher = p.dispatcher ∧
        q.store = p.store ∧ q.device = p.device) ∧
      (SilentWhenIdle S new →
        q.queue = p.queue ∧ (KeepsCount S new → q.captured S = p.captured S)) ∧
      q.pool = p.poolToStart ∧ q.pool.isStopped = false ∧
        (p.pool.isStopped = true → q.pool.completed = 0 ∧ q.pool.failed = 0) := by
  have coherent := coherent_of_run run (.ofSource new count)
  have left := coherent_of_run refused.run coherent
  obtain ⟨free, ⟨runs, rfl, rfl⟩ | ⟨resting, r, meanwhile, e, alone, no, rfl, visible⟩⟩ :=
    refused.refused coherent granted
  · have phase := coherent.phase
    rw [free, runs] at phase
    have opened : q.pool.isStopped = false := Pool.not_isStopped_iff.mpr phase.2.1
    have same : q.pool = q.poolToStart := (if_neg (by simp [opened])).symm
    refine ⟨fun _ => ⟨rfl, rfl⟩, ?_, ⟨free, rfl, rfl, rfl, rfl⟩, fun _ => ⟨rfl, fun _ => rfl⟩,
      same, opened, ?_⟩
    · intro resting
      exact absurd (runs.symm.trans resting) (by simp)
    · intro stopped
      exact absurd (opened.symm.trans stopped) (by simp)
  · have stopped : p.IsStopped := ⟨free, resting⟩
    have kept := kept_of_sources alone
    have alike : Alike r (r.withPool p.poolToStart) :=
      .idle (idle_of_refused coherent stopped alone left)
    have delivered := delivered_of_run run
    rw [stopped.idle] at delivered
    refine ⟨?_, fun _ => ?_, ?_, fun silent => ⟨?_, fun keeps => ?_⟩, rfl,
      poolToStart_isStopped p, fun closed => ?_⟩
    · intro runs
      exact absurd (runs.symm.trans resting) (by simp)
    · refine ⟨r, meanwhile, e, alone, no, rfl, visible, alike.symm.canFollow, alike.canFollow,
        fun silent => ?_, fun still => ?_⟩
      · exact (silent_of_sources silent delivered.reached alone).2.2
      · exact still_of_sources still delivered.reached alone
    · rw [kept]
      exact ⟨free, rfl, rfl, rfl, rfl⟩
    · exact (silent_of_sources silent delivered.reached alone).2.1
    · show r.captured S = p.captured S
      exact captured_of_sources silent keeps run stopped alone
    · have replaced : p.poolToStart = Pool.ofSize p.workerCount := if_pos closed
      show p.poolToStart.completed = 0 ∧ p.poolToStart.failed = 0
      rw [replaced]
      exact ⟨rfl, rfl⟩

/-- After a run with one frame a start on a device that there is not is refused, while somebody
hands in another frame.  The count of the old pool is gone and nothing else; and the start that
follows and succeeds could have followed without it. -/
theorem refused_start_leaves_no_trace_unknown :
    let S := ScriptedSource.source
    let does (d : ScriptedSource.Delivery) : Turn ScriptedSource.Delivery := .source d
    let start : List (Turn ScriptedSource.Delivery) := [.call (.start "mock0"), .control, .control]
    let inject : List (Turn ScriptedSource.Delivery) :=
      [does (.inject (.whole [0xde])), does .countInjected, .dispatch, .dispatch, .work 0, .work 0,
        .work 0]
    let stop : List (Turn ScriptedSource.Delivery) :=
      [.call .stop, .control, does .replay, .control, .control, .dispatch, .control, .control,
        .work 0, .control, .control]
    let p := (machine S).takeAll (ofSource {} 1) (start ++ inject ++ stop)
    let b := (machine S).take p.1 (.call (.start "wlan9"))
    let u := (machine S).takeAll b.1 [does (.inject (.whole [0xad])), .dispatch, .work 0]
    let q := (machine S).take u.1 .control
    let later := (machine S).takeAll q.1 start
    Returns S (.start "wlan9") p.1 (b.2 ++ u.2 ++ q.2) false q.1 ∧ .denied ∉ b.2 ++ u.2 ++ q.2 ∧
      p.1.store.count = 1 ∧ p.1.pool.completed = 1 ∧ q.1.pool.completed = 0 ∧
      q.1 = { p.1 with pool := Pool.ofSize 1 } ∧
      later.1.isRunning = true ∧
      ∃ instead, (machine S).Run p.1 instead later.1 ∧ visibleOf instead = visibleOf later.2 := by
  intro S does start inject stop p b u q later
  have idle : ScriptedSource.InActivity {} .idle := ⟨rfl, rfl, rfl⟩
  have refused : Returns S (.start "wlan9") p.1 (b.2 ++ u.2 ++ q.2) false q.1 :=
    Returns.takeAll _ _ (by decide +kernel) (by decide +kernel) (by decide +kernel)
  have granted : .denied ∉ b.2 ++ u.2 ++ q.2 := by decide +kernel
  have run : (machine S).Run (ofSource {} 1) p.2 p.1 := Machine.Run.takeAll _ _
  obtain ⟨-, no, -, -, -, -, counters⟩ := refused_start_leaves_no_trace run refused granted
  obtain ⟨r, meanwhile, e, -, -, left, -, follows, -, -, same⟩ := no (by decide +kernel)
  have closed : p.1.pool.isStopped = true := by decide +kernel
  have replaced : p.1.poolToStart = Pool.ofSize 1 := by decide +kernel
  rw [same (ScriptedSource.stillWhenIdle idle)] at left follows
  rw [replaced] at left
  have runs : later.1.isRunning = true := by decide +kernel
  have more : (machine S).Run q.1 later.2 later.1 := Machine.Run.takeAll q.1 start
  exact ⟨refused, granted, by decide +kernel, by decide +kernel, (counters closed).1, left, runs,
    follows.started more (by decide +kernel) (Or.inl runs)⟩

end PacketWatch.Pipeline
