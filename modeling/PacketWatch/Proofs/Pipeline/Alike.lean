/-
# `PacketWatch.Proofs.Pipeline.Alike` — stopped pipelines whose pools do not matter

While a pipeline is stopped its pool has nothing to do, and the next start or restart takes a
new one unless this one is new.  So two stopped pipelines that differ in idle pools only are
told apart by nothing but what is reported of pools being made and closed, and they are the
same as soon as one of them starts.

    free, clearing, discarding     both take the same turns
    renewing                       both begin to close their pools
    retiring                       one may have a longer way to the end of that; the other waits
    opening                        both have a new pool, and are the same

`Alike` is kept by every turn of either one if the other may take any number of turns
(`Alike.turn`), and both ways, since it is symmetric: a weak bisimulation.  Turns in which a
thread is denied are left out: a pipeline with a new pool asks for no threads where the other
one does.
-/
import PacketWatch.Proofs.Pipeline.Phases
import PacketWatch.Proofs.Pool.Closing
import PacketWatch.Proofs.Runs

namespace PacketWatch

namespace Pool

variable {τ : Type} {perform : τ → Outcome}

/-- A pool without a task: messages to leave are all that may be in the channel, and no worker
has a task in its hands. -/
structure Vacant (p : Pool τ) : Prop where
  channel : ∀ message ∈ p.channel, message = .leave
  workers : ∀ w ∈ p.workers, w.isBusy = false

theorem Vacant.ofSize (count : Nat) : (Pool.ofSize count : Pool τ).Vacant where
  channel := fun _ here => absurd here List.not_mem_nil
  workers := fun w here => by rw [List.eq_of_mem_replicate here, Worker.isBusy]

/-- Nothing is left in a pool that has been closed. -/
theorem Sound.vacant {p : Pool τ} (sound : Sound p) (returned : p.closing = .returned) :
    p.Vacant where
  channel := fun message here => by
    rw [(sound.drained returned).1] at here
    exact absurd here List.not_mem_nil
  workers := fun w here => by rw [(sound.drained returned).2 w here, Worker.isBusy]

theorem Vacant.close {p : Pool τ} (vacant : p.Vacant) : p.close.Vacant := by
  unfold Pool.close
  split
  · exact vacant
  · exact ⟨vacant.channel, vacant.workers⟩

theorem Vacant.goOnClosing {p q : Pool τ} {seen : List (Event τ)} (vacant : p.Vacant)
    (step : Step perform .goOnClosing p seen q) : q.Vacant := by
  cases step with
  | send =>
      refine ⟨fun message here => ?_, vacant.workers⟩
      rcases List.mem_append.mp here with old | new
      · exact vacant.channel message old
      · exact List.mem_singleton.mp new
  | finish => exact ⟨vacant.channel, vacant.workers⟩

/-- All that a worker of such a pool does is to leave. -/
theorem Vacant.work {p q : Pool τ} {index : Nat} {seen : List (Event τ)} (vacant : p.Vacant)
    (step : Step perform (.work index) p seen q) : seen = [] ∧ q.Vacant := by
  cases step with
  | receive workers channel =>
      have leaves := vacant.channel _ (channel ▸ List.mem_cons_self)
      cases leaves
  | @leave _ front back rest workers channel =>
      refine ⟨rfl, fun message here => ?_, fun w here => ?_⟩
      · exact vacant.channel message (channel ▸ List.mem_cons_of_mem _ here)
      · rcases List.mem_append.mp here with ahead | behind
        · exact vacant.workers w (workers ▸ List.mem_append_left _ ahead)
        · rcases List.mem_cons.mp behind with rfl | behind
          · rfl
          · exact vacant.workers w
              (workers ▸ List.mem_append_right _ (List.mem_cons_of_mem _ behind))
  | «perform» workers | count workers =>
      have idle := vacant.workers _ (workers ▸ List.mem_append_right _ List.mem_cons_self)
      cases idle

end Pool

namespace Pipeline

variable {σ α : Type} {S : CaptureSource σ α}

/-! ## What is seen of the pools -/

/-- Whether an event shows above the debug level, where nothing tells of pools being made and
closed. -/
def Event.isVisible : Event → Bool
  | .renewed => false
  | .reported line => line.level != .debug
  | _ => true

def visibleOf (seen : List Event) : List Event := seen.filter Event.isVisible

theorem visibleOf_append (seen later : List Event) :
    visibleOf (seen ++ later) = visibleOf seen ++ visibleOf later :=
  List.filter_append ..

/-! ## Another pool -/

/-- The same pipeline around another pool. -/
def withPool (p : Pipeline σ) (pool : Pool Frame) : Pipeline σ := { p with pool := pool }

/-- A stopped pipeline and another pool for it, neither pool with a task. -/
structure Idle (p : Pipeline σ) (pool : Pool Frame) : Prop where
  left : p.Coherent
  right : (p.withPool pool).Coherent
  resting : p.isRunning = false
  vacant : p.pool.Vacant
  otherVacant : pool.Vacant

theorem Idle.symm {p : Pipeline σ} {pool : Pool Frame} (idle : Idle p pool) :
    Idle (p.withPool pool) p.pool :=
  ⟨idle.right, idle.left, idle.resting, idle.otherVacant, idle.vacant⟩

/-- Two coherent pipelines that are the same, or are stopped and differ in pools without a task
only. -/
inductive Alike : Pipeline σ → Pipeline σ → Prop
  | same {p : Pipeline σ} : p.Coherent → Alike p p
  | idle {p : Pipeline σ} {pool : Pool Frame} : Idle p pool → Alike p (p.withPool pool)

theorem Alike.symm {p q : Pipeline σ} (alike : Alike p q) : Alike q p := by
  cases alike with
  | same coherent => exact .same coherent
  | idle idle => exact .idle idle.symm

theorem Alike.rest {p q : Pipeline σ} (alike : Alike p q) : p = q.withPool p.pool := by
  cases alike with
  | same | idle => rfl

/-- A pipeline that is about to start has a new pool. -/
theorem Coherent.new_of_ready {p : Pipeline σ} (coherent : p.Coherent)
    (ready : p.control.phase p.isRunning = .ready) : p.HasNewPool := by
  have phase := coherent.phase
  rw [ready] at phase
  exact phase.2.1

/-- So there is no other one for it. -/
theorem Idle.eq_of_ready {p : Pipeline σ} {pool : Pool Frame} (idle : Idle p pool)
    (ready : p.control.phase p.isRunning = .ready) : p.withPool pool = p := by
  have mine : p.pool = Pool.ofSize p.workerCount := idle.left.new_of_ready ready
  have other : pool = Pool.ofSize p.workerCount := idle.right.new_of_ready ready
  rw [other, ← mine]
  rfl

/-! ## Closing the pool that is replaced -/

/-- What a pipeline sees of the end of that is a line at the debug level. -/
theorem visibleOf_closed (pool : Pool Frame) :
    visibleOf (if pool.closing = .returned then [.reported Pool.closedLine] else []) = [] := by
  split <;> rfl

/-- A pipeline that replaces its pool goes on with the pool. -/
theorem run_of_moves {p : Pipeline σ} {device : String} {before pool : Pool Frame}
    (retiring : p.control = .retiring device) (vacant : before.Vacant)
    (moves : Pool.Moves outcome before pool) :
    pool.Vacant ∧ ∃ now, (machine S).Run (p.withPool before) now (p.withPool pool) ∧
      visibleOf now = [] := by
  obtain ⟨t, seen, rfl | ⟨index, rfl⟩, turn⟩ := moves
  · have step := Pool.step_of_turn turn
    have waits : before.closing ≠ .returned := by
      cases step with
      | send sending | finish sending => simp [sending]
    simp only [Pool.turn?, Option.map_eq_some_iff] at turn
    obtain ⟨pool, goesOn, result⟩ := turn
    cases result
    refine ⟨vacant.goOnClosing step, _, .single (t := Turn.control) ?_, visibleOf_closed pool⟩
    simp only [machine, turn?, control?, withPool, retiring, goOnClosing?, waits, if_false, goesOn,
      Option.map_some]
  · obtain ⟨rfl, next⟩ := vacant.work (Pool.step_of_turn turn)
    refine ⟨next, [], .single (t := Turn.work index) ?_, rfl⟩
    have moved : before.work? outcome index = some (pool, []) := turn
    simp only [machine, turn?, work?, withPool, moved, Option.map_some]
    rfl

theorem run_of_way {p : Pipeline σ} {device : String} {pool : Pool Frame}
    (retiring : p.control = .retiring device) (vacant : p.pool.Vacant)
    (way : Relation.ReflTransGen (Pool.Moves outcome) p.pool pool) :
    pool.Vacant ∧ ∃ now, (machine S).Run p now (p.withPool pool) ∧ visibleOf now = [] := by
  induction way with
  | refl => exact ⟨vacant, [], .here p, rfl⟩
  | tail _ moves ih =>
      obtain ⟨vacant, before, run, nothing⟩ := ih
      obtain ⟨vacant, now, more, nothing'⟩ := run_of_moves (S := S) retiring vacant moves
      refine ⟨vacant, before ++ now, run.trans more, ?_⟩
      rw [visibleOf_append, nothing, nothing']
      rfl

/-- It comes to the end of that. -/
theorem run_to_returned {p : Pipeline σ} {device : String} (retiring : p.control = .retiring device)
    (sound : p.pool.Sound) (begun : p.pool.closing ≠ .notBegun) (vacant : p.pool.Vacant) :
    ∃ pool now, (machine S).Run p now (p.withPool pool) ∧ pool.closing = .returned ∧
      visibleOf now = [] := by
  obtain ⟨pool, way, returned⟩ := sound.comes_to_end begun
  obtain ⟨-, now, run, nothing⟩ := run_of_way (S := S) retiring vacant way
  exact ⟨pool, now, run, returned, nothing⟩

/-! ## Turn by turn -/

/-- What one of them does, the other one can do in any number of turns. -/
def Matched (S : CaptureSource σ α) (p q : Pipeline σ) (now : List Event) : Prop :=
  ∃ r later, (machine S).Run p later r ∧ Alike q r ∧ visibleOf later = visibleOf now

section Turns

variable {p q : Pipeline σ} {pool : Pool Frame} {t : Turn α} {now : List Event}

/-- Where nobody looks at the pool, the other one takes the same turn. -/
theorem Idle.same (idle : Idle p pool) (turn : p.turn? S t = some (q, now))
    (other : (p.withPool pool).turn? S t = some (q.withPool pool, now))
    (kept : q.pool = p.pool) (resting : q.isRunning = false) :
    Matched S (p.withPool pool) q now := by
  refine ⟨_, now, .single (t := t) other, .idle ⟨?_, ?_, resting, ?_, idle.otherVacant⟩, rfl⟩
  · exact (step_of_turn turn).coherent idle.left
  · exact (step_of_turn other).coherent idle.right
  · exact kept ▸ idle.vacant

/-- Where the pool only comes nearer to its end, the other one waits. -/
theorem Idle.waits (idle : Idle p pool) {pool' : Pool Frame}
    (turn : p.turn? S t = some (p.withPool pool', now)) (nothing : visibleOf now = [])
    (vacant : pool'.Vacant) : Matched S (p.withPool pool) (p.withPool pool') now := by
  have left := (step_of_turn turn).coherent idle.left
  exact ⟨_, [], .here _, .idle ⟨left, idle.right, idle.resting, vacant, idle.otherVacant⟩,
    nothing.symm⟩

/-- A start takes a new pool, or the pool is new. -/
theorem Coherent.turn_of_start {p : Pipeline σ} (coherent : p.Coherent) (free : p.control = .free)
    (resting : p.isRunning = false) (device : String) :
    ∃ now, p.turn? S (.call (.start device)) = some
        ({ p with pool := Pool.ofSize p.workerCount, control := .opening device }, now) ∧
      visibleOf now = [] := by
  simp only [turn?, call?, free, beginStart, resting, Bool.false_eq_true, if_false]
  cases stopped : p.pool.isStopped with
  | true => exact ⟨_, rfl, rfl⟩
  | false =>
      have phase := coherent.phase
      rw [free, resting] at phase
      obtain ⟨-, fresh | returned, -⟩ := phase
      · have pool : p.pool = Pool.ofSize p.workerCount := fresh
        refine ⟨[], ?_, rfl⟩
        rw [← pool]
        rfl
      · exact absurd ((Pool.not_isStopped_iff.mp stopped).symm.trans returned) (by simp)

/-- Both take a new pool to start. -/
theorem Idle.start (idle : Idle p pool) {device : String} (free : p.control = .free)
    (turn : p.turn? S (.call (.start device)) = some (q, now)) :
    Matched S (p.withPool pool) q now := by
  obtain ⟨_, mine, nothing⟩ := idle.left.turn_of_start (S := S) free idle.resting device
  obtain ⟨later, other, nothing'⟩ := idle.right.turn_of_start (S := S) free idle.resting device
  cases turn.symm.trans mine
  refine ⟨_, later, .single (t := Turn.call (.start device)) other, .same ?_,
    nothing'.trans nothing.symm⟩
  exact (step_of_turn mine).coherent idle.left

/-- Both begin to close the pools that they replace. -/
theorem Idle.renew (idle : Idle p pool) {device : String} (renewing : p.control = .renewing device)
    (turn : p.turn? S .control = some (p.renewPool device)) :
    Matched S (p.withPool pool) (p.renewPool device).1 (p.renewPool device).2 := by
  have other : (p.withPool pool).turn? S .control = some ((p.withPool pool).renewPool device) := by
    simp only [turn?, control?, withPool, renewing]
  have visible (before : Pool Frame) :
      visibleOf (.reported (Pool.openingLine p.workerCount) ::
        if before.isStopped then [] else [.reported before.closingLine]) = [] := by
    cases before.isStopped <;> rfl
  refine ⟨_, _, .single (t := Turn.control) other,
    .idle ⟨?_, ?_, idle.resting, idle.vacant.close, idle.otherVacant.close⟩,
    (visible pool).trans (visible p.pool).symm⟩
  · exact (step_of_turn turn).coherent idle.left
  · exact (step_of_turn other).coherent idle.right

/-- The other one closes its pool to the end, and both take a new one. -/
theorem Idle.again (idle : Idle p pool) {device : String}
    (retiring : p.control = .retiring device)
    (turn : p.turn? S .control = some
      ({ p with pool := Pool.ofSize p.workerCount, control := .opening device },
        [.renewed, say .info ("Restarting capture on " ++ device)])) :
    Matched S (p.withPool pool)
      { p with pool := Pool.ofSize p.workerCount, control := .opening device }
      [.renewed, say .info ("Restarting capture on " ++ device)] := by
  have phase := idle.right.phase
  rw [show (p.withPool pool).control = _ from retiring] at phase
  obtain ⟨closed, now, run, returned, nothing⟩ : ∃ closed now,
      (machine S).Run (p.withPool pool) now (p.withPool closed) ∧
        closed.closing = .returned ∧ visibleOf now = [] :=
    run_to_returned retiring idle.right.pool phase.2.1 idle.otherVacant
  have last : (p.withPool closed).turn? S .control = some
      ({ p with pool := Pool.ofSize p.workerCount, control := .opening device },
        [.renewed, say .info ("Restarting capture on " ++ device)]) := by
    simp only [turn?, control?, withPool, retiring, goOnClosing?, returned, if_true, startAgain,
      beginStart, idle.resting, Bool.false_eq_true, if_false, Pool.isStopped, Pool.ofSize,
      bne_self_eq_false]
  refine ⟨_, _, .turn (t := Turn.control) run last, .same ?_, ?_⟩
  · exact (step_of_turn turn).coherent idle.left
  · rw [visibleOf_append, nothing, List.nil_append]

/-- Whatever turn one of them takes, the other one can do the same. -/
theorem Idle.turn (idle : Idle p pool) (turn : p.turn? S t = some (q, now))
    (granted : .denied ∉ now) : Matched S (p.withPool pool) q now := by
  have absent := idle.left.idle idle.resting
  cases step_of_turn turn with
  | rest moved | sink moved =>
      refine idle.same turn ?_ rfl idle.resting
      simp only [turn?, sourceTurn?, withPool, moved, Option.map_some]
  | fetch here | meet here | hand here | drop here =>
      rw [here] at absent
      cases absent
  | work moved =>
      obtain ⟨rfl, vacant⟩ := idle.vacant.work moved
      exact idle.waits turn rfl vacant
  | startRenewing free | start free => exact idle.start free turn
  | stopIdle free =>
      refine idle.same turn ?_ rfl idle.resting
      simp only [turn?, call?, withPool, free, beginStop, idle.resting]
      rfl
  | restartIdle free known =>
      refine idle.same turn ?_ rfl idle.resting
      simp only [turn?, call?, withPool, free, beginRestart, known, idle.resting]
      rfl
  | restartNever free unknown =>
      refine idle.same turn ?_ rfl idle.resting
      simp only [turn?, call?, withPool, free, beginRestart, unknown]
  | «open» here | refuse here | spawn here | withdraw here | awaitHalt here | abandon here
  | giveUp here =>
      rw [idle.eq_of_ready (by rw [here]; rfl)]
      have coherent := (step_of_turn turn).coherent idle.left
      exact ⟨_, _, .single (t := Turn.control) turn, .same coherent, rfl⟩
  | clear here =>
      refine idle.same turn ?_ rfl idle.resting
      simp only [turn?, control?, withPool, here]
      rfl
  | discard here items | discardDone here items =>
      refine idle.same turn ?_ rfl idle.resting
      simp only [turn?, control?, withPool, here, Pipeline.discard, Queue.pop?, items]
  | renew here => exact idle.renew here turn
  | retire here moved =>
      exact idle.waits turn (visibleOf_closed _) (idle.vacant.goOnClosing moved)
  | again here returned => exact idle.again here turn
  | startRunning _ runs | stop _ runs | restart _ _ runs | againRunning _ _ runs =>
      exact absurd (runs.symm.trans idle.resting) (by simp)
  | halt here | finishHalt here | mark here | join here | shut here | finishStop here =>
      have runs : p.isRunning = true := idle.left.runs_at here rfl
      exact absurd (runs.symm.trans idle.resting) (by simp)
  | denyStart | denyRenew => exact absurd (by simp [poolDenied]) granted
  | denySpawn => exact absurd List.mem_cons_self granted

end Turns

theorem Alike.turn {p q r : Pipeline σ} {t : Turn α} {now : List Event} (alike : Alike p q)
    (turn : p.turn? S t = some (r, now)) (granted : .denied ∉ now) : Matched S q r now := by
  cases alike with
  | same coherent =>
      exact ⟨_, _, .single (t := t) turn, .same ((step_of_turn turn).coherent coherent), rfl⟩
  | idle idle => exact idle.turn turn granted

/-! ## Run by run -/

theorem Alike.run {p q r : Pipeline σ} {seen : List Event} (alike : Alike p q)
    (run : (machine S).Run p seen r) (granted : .denied ∉ seen) : Matched S q r seen := by
  induction run with
  | here => exact ⟨q, [], .here q, alike, rfl⟩
  | turn _ turn ih =>
      obtain ⟨first, last⟩ := not_or.mp (mt List.mem_append.mpr granted)
      obtain ⟨u, before, early, alike, same⟩ := ih first
      obtain ⟨v, later, late, alike, same'⟩ := alike.turn turn last
      refine ⟨v, before ++ later, early.trans late, alike, ?_⟩
      rw [visibleOf_append, visibleOf_append, same, same']

/-- Whether a start is under way or has succeeded. -/
def HasStarted (p : Pipeline σ) : Prop :=
  p.isRunning = true ∨ ∃ device, p.control = .opening device ∨ p.control = .spawning device

theorem Alike.eq_of_started {p q : Pipeline σ} (alike : Alike p q) (started : p.HasStarted) :
    q = p := by
  cases alike with
  | same => rfl
  | idle idle =>
      obtain runs | ⟨device, here | here⟩ := started
      · exact absurd (runs.symm.trans idle.resting) (by simp)
      · exact idle.eq_of_ready (by rw [here]; rfl)
      · exact idle.eq_of_ready (by rw [here]; rfl)

/-- Whatever happens to one pipeline without a thread being denied can happen to the other: the
same is seen, and they come to states that differ in their pools only, and not at all once one
has started. -/
def CanFollow (S : CaptureSource σ α) (q p : Pipeline σ) : Prop :=
  ∀ later r, (machine S).Run p later r → .denied ∉ later →
    ∃ later' r', (machine S).Run q later' r' ∧ visibleOf later' = visibleOf later ∧
      r' = { r with pool := r'.pool } ∧ (r.HasStarted → r' = r)

/-- Then it comes to that very state. -/
theorem CanFollow.started {p q r : Pipeline σ} {later : List Event} (follows : CanFollow S q p)
    (run : (machine S).Run p later r) (granted : .denied ∉ later) (started : r.HasStarted) :
    ∃ instead, (machine S).Run q instead r ∧ visibleOf instead = visibleOf later := by
  obtain ⟨instead, r', other, same, -, last⟩ := follows later r run granted
  rw [last started] at other
  exact ⟨instead, other, same⟩

theorem Alike.canFollow {p q : Pipeline σ} (alike : Alike p q) : CanFollow S q p := by
  intro later r run granted
  obtain ⟨r', later', run', alike, same⟩ := alike.run run granted
  exact ⟨later', r', run', same, alike.symm.rest, alike.eq_of_started⟩

end Pipeline

end PacketWatch
