/-
# `PacketWatch.Proofs.Pipeline.Conservation` — what a source delivers is stored, once

For a source that is silent when idle, and every pipeline that is stopped: the queue
is empty; the store holds one packet for each well-formed frame that was delivered
since the last restart, as `decode` has it, and no other; and the pool of the last
run has counted the well-formed and the malformed frames of that run.

The accounts behind this each follow a frame one step further.

    delivered = handed to the pool            the queue keeps the order (`Fifo`)
    handed    = performed, up to order        the pool's own account
    stored    = decoded when performed
    counted   = performed, by outcome         the pool's own account

Only a start that is denied the thread of its dispatcher takes frames aside, and what it
abandons is part of the account.  Each of them may have something under way in the middle
of a run.  A stopped pipeline is `Drained`: nothing is under way.
-/
import PacketWatch.Proofs.Pipeline.Quiet
import PacketWatch.Proofs.Pool.ExactlyOnce
import PacketWatch.Proofs.Store.History
import Mathlib.Data.List.DropRight

namespace PacketWatch.Pipeline

open CaptureSource (SilentWhenIdle)

variable {σ α : Type} {S : CaptureSource σ α} {new : σ}

/-! ## From the queue to the pool -/

/-- The frames that were handed to the pool on the way. -/
def handedOf (seen : List Event) : List Frame :=
  seen.filterMap fun
    | .handed frame => some frame
    | _ => none

/-- The frames that were performed on the way. -/
def performedOf (seen : List Event) : List Frame :=
  seen.filterMap fun
    | .performed frame => some frame
    | _ => none

theorem handedOf_append (seen later : List Event) :
    handedOf (seen ++ later) = handedOf seen ++ handedOf later :=
  List.filterMap_append ..

theorem performedOf_append (seen later : List Event) :
    performedOf (seen ++ later) = performedOf seen ++ performedOf later :=
  List.filterMap_append ..

theorem framesOf_pushedOf (seen : List Event) : framesOf (pushedOf seen) = sunkOf seen := by
  rw [framesOf, pushedOf, List.filterMap_filterMap]
  refine List.filterMap_congr fun e _ => ?_
  cases e <;> rfl

/-- What leaves the queue goes to the pool or is abandoned, unless it is refused or discarded. -/
theorem framesOf_removedOf {seen : List Event}
    (none : ∀ frame, .dropped frame ∉ seen ∧ .discarded (.data frame) ∉ seen) :
    (framesOf (removedOf seen)).Perm (handedOf seen ++ abandonedOf seen) := by
  induction seen with
  | nil => exact .refl []
  | cons e seen ih =>
      have rest := ih fun frame =>
        ⟨fun h => (none frame).1 (List.mem_cons_of_mem _ h),
          fun h => (none frame).2 (List.mem_cons_of_mem _ h)⟩
      cases e with
      | handed frame => exact rest.cons frame
      | dropped frame => exact absurd List.mem_cons_self (none frame).1
      | discarded item =>
          cases item with
          | data frame => exact absurd List.mem_cons_self (none frame).2
          | endOfStream => exact rest
      | abandoned item =>
          cases item with
          | data frame => exact (rest.cons frame).trans List.perm_middle.symm
          | endOfStream => exact rest
      | _ => exact rest

/-- The pool refuses nothing to a dispatcher. -/
theorem Step.not_dropped {t : Turn α} {p q : Pipeline σ} {now : List Event} {frame : Frame}
    (step : Step S t p now q) (coherent : p.Coherent) : .dropped frame ∉ now := by
  intro dropped
  cases step with
  | drop holding closed =>
      have busy : p.dispatcher.isBusy = true := by rw [holding]; rfl
      exact absurd (coherent.phase.of_busy busy).1 closed
  | work => simp [workerEvent?_eq_some] at dropped
  | @finishStop _ after => cases after <;> simp [Pipeline.finishStop, say] at dropped
  | denyStart | denyRenew => simp [poolDenied, say] at dropped
  | _ => simp [reports, say, Pipeline.spawn] at dropped

theorem not_dropped_of_run {p q : Pipeline σ} {seen : List Event} {frame : Frame}
    (run : (machine S).Run p seen q) (coherent : p.Coherent) : .dropped frame ∉ seen := by
  intro dropped
  obtain ⟨u, v, t, first, now, early, turn, here⟩ := run.mem dropped
  exact (step_of_turn turn).not_dropped (coherent_of_run early coherent) here

/-- What is in flight and what the source delivers is what is handed to the pool or abandoned,
and what is in flight then. -/
theorem handed_of_run {p q : Pipeline σ} {seen : List Event} (run : (machine S).Run p seen q)
    (silent : SilentWhenIdle S new) (orderly : Orderly S new p) :
    (framesOf p.inFlight ++ sunkOf seen).Perm
      (handedOf seen ++ abandonedOf seen ++ framesOf q.inFlight) := by
  have none : ∀ frame, .dropped frame ∉ seen ∧ .discarded (.data frame) ∉ seen := by
    intro frame
    refine ⟨not_dropped_of_run run orderly.coherent, fun discarded => ?_⟩
    obtain ⟨u, v, t, first, now, early, turn, here⟩ := run.mem discarded
    exact (step_of_turn turn).not_discarded (orderly_of_run early silent orderly) here
  have account := congrArg framesOf (fifo_of_run run orderly.coherent)
  rw [framesOf_append, framesOf_append, framesOf_pushedOf] at account
  rw [account]
  exact (framesOf_removedOf none).append_right _

/-! ## Inside the pool -/

theorem performedOf_worker (inside : List (Pool.Event Frame)) :
    performedOf (inside.filterMap workerEvent?) = Pool.performedOf inside := by
  rw [performedOf, List.filterMap_filterMap]
  refine List.filterMap_congr fun e _ => ?_
  cases e <;> rfl

theorem handedOf_worker (inside : List (Pool.Event Frame)) :
    handedOf (inside.filterMap workerEvent?) = [] :=
  List.filterMap_eq_nil_iff.mpr (forall_worker (fun _ => rfl) (fun _ => rfl) inside)

theorem handedOf_reports (lines : List LogLine) : handedOf (reports lines) = [] :=
  List.filterMap_eq_nil_iff.mpr (forall_reports (fun _ => rfl) lines)

theorem performedOf_reports (lines : List LogLine) : performedOf (reports lines) = [] :=
  List.filterMap_eq_nil_iff.mpr (forall_reports (fun _ => rfl) lines)

/-- Closing a pool neither accepts nor performs a task. -/
theorem nothing_of_goOnClosing {before pool : Pool Frame} {inside : List (Pool.Event Frame)}
    (step : Pool.Step outcome .goOnClosing before inside pool) :
    Pool.acceptedOf inside = [] ∧ Pool.performedOf inside = [] := by
  cases step with
  | send | finish => exact ⟨rfl, rfl⟩

theorem accepted_of_work {before pool : Pool Frame} {inside : List (Pool.Event Frame)} {index : Nat}
    (step : Pool.Step outcome (.work index) before inside pool) : Pool.acceptedOf inside = [] := by
  cases step with
  | receive | leave | perform => rfl
  | count => exact Pool.acceptedOf_reported _

/-- What a turn makes of the pool: it takes a turn of its own, or a new one takes its place,
or nothing. -/
theorem Step.pool_cases {t : Turn α} {p q : Pipeline σ} {now : List Event}
    (step : Step S t p now q) (coherent : p.Coherent) :
    (q.pool = p.pool ∧ handedOf now = [] ∧ performedOf now = []) ∨
      (∃ u inside, Pool.Step outcome u p.pool inside q.pool ∧
        handedOf now = Pool.acceptedOf inside ∧ performedOf now = Pool.performedOf inside) ∨
      (q.pool = Pool.ofSize p.workerCount ∧ p.pool.closing = .returned ∧ .renewed ∈ now ∧
        handedOf now = [] ∧ performedOf now = []) := by
  have phase := coherent.phase
  cases step with
  | rest | sink | fetch | meet | drop | startRunning | start | stop | stopIdle | restart
  | restartIdle | restartNever | refuse | spawn | halt | mark | clear | discard | denyStart
  | denyRenew | denySpawn | withdraw | abandon | giveUp =>
      exact .inl ⟨rfl, rfl, rfl⟩
  | «open» | finishHalt | awaitHalt =>
      exact .inl ⟨rfl, handedOf_reports _, performedOf_reports _⟩
  | discardDone => exact .inl ⟨rfl, by split <;> rfl, by split <;> rfl⟩
  | @finishStop _ after => cases after <;> exact .inl ⟨rfl, rfl, rfl⟩
  | hand _ opened => exact .inr (.inl ⟨_, _, .accept opened, rfl, rfl⟩)
  | work moved =>
      refine .inr (.inl ⟨_, _, moved, ?_, performedOf_worker _⟩)
      rw [handedOf_worker, accepted_of_work moved]
  | join | renew =>
      refine .inr (.inl ⟨.close, _, Pool.step_of_close rfl, ?_, ?_⟩) <;> split <;> rfl
  | shut _ moved | retire _ moved =>
      obtain ⟨accepted, performed⟩ := nothing_of_goOnClosing moved
      refine .inr (.inl ⟨_, _, moved, ?_, ?_⟩)
      · rw [accepted]; split <;> rfl
      · rw [performed]; split <;> rfl
  | startRenewing free resting closed =>
      -- a pool that is not new at this place has been closed, so nothing in it is lost
      rw [free, resting] at phase
      obtain ⟨-, fresh | returned, -⟩ := phase
      · exact absurd (congrArg Pool.closing fresh) closed
      · exact .inr (.inr ⟨rfl, returned, by simp, rfl, rfl⟩)
  | again _ returned => exact .inr (.inr ⟨rfl, returned, by simp, rfl, rfl⟩)
  | againRunning _ returned => exact .inr (.inr ⟨rfl, returned, by simp, rfl, rfl⟩)

/-- What is handed to the pool becomes pending, and what is performed is no longer. -/
theorem Step.pending {t : Turn α} {p q : Pipeline σ} {now : List Event} (step : Step S t p now q)
    (coherent : p.Coherent) (P : Frame → Bool) :
    (performedOf now).countP P + q.pool.pending P =
      p.pool.pending P + (handedOf now).countP P := by
  rcases step.pool_cases coherent with ⟨same, handed, performed⟩ |
    ⟨u, inside, moved, handed, performed⟩ | ⟨fresh, returned, -, handed, performed⟩
  · rw [same, handed, performed, List.countP_nil, Nat.zero_add, Nat.add_zero]
  · rw [handed, performed]
    exact moved.pending P
  · rw [handed, performed, fresh, Pool.pending_of_closed coherent.pool returned,
      Pool.pending_of_new, List.countP_nil]

/-- As long as no new pool takes its place, the pool tallies what is performed. -/
theorem Step.tally {t : Turn α} {p q : Pipeline σ} {now : List Event} (step : Step S t p now q)
    (coherent : p.Coherent) (same : .renewed ∉ now) (completed : Bool) :
    q.pool.tally completed = p.pool.tally completed +
      (performedOf now).countP fun frame => (outcome frame).isCompleted == completed := by
  rcases step.pool_cases coherent with ⟨kept, -, performed⟩ | ⟨u, inside, moved, -, performed⟩ |
    ⟨-, -, renewed, -⟩
  · rw [kept, performed, List.countP_nil, Nat.add_zero]
  · rw [performed]
    exact moved.tally completed
  · exact absurd renewed same

theorem pending_of_run {p q : Pipeline σ} {seen : List Event} (run : (machine S).Run p seen q)
    (coherent : p.Coherent) (P : Frame → Bool) :
    (performedOf seen).countP P + q.pool.pending P =
      p.pool.pending P + (handedOf seen).countP P := by
  induction run with
  | here => simp [performedOf, handedOf]
  | turn run turn ih =>
      have step := (step_of_turn turn).pending (coherent_of_run run coherent) P
      rw [performedOf_append, handedOf_append, List.countP_append, List.countP_append]
      omega

theorem tally_of_run {p q : Pipeline σ} {seen : List Event} (run : (machine S).Run p seen q)
    (coherent : p.Coherent) (same : .renewed ∉ seen) (completed : Bool) :
    q.pool.tally completed = p.pool.tally completed +
      (performedOf seen).countP fun frame => (outcome frame).isCompleted == completed := by
  induction run with
  | here => simp [performedOf]
  | turn run turn ih =>
      obtain ⟨before, now⟩ := not_or.mp (mt List.mem_append.mpr same)
      have step := (step_of_turn turn).tally (coherent_of_run run coherent) now completed
      have rest := ih before
      rw [performedOf_append, List.countP_append]
      omega

/-! ## The store and the counters -/

/-- A packet as it was before the store numbered it. -/
def unnumbered (packet : Packet) : Packet := { packet with id := 0 }

/-- What the store holds, as `decode` answers it. -/
def storedAs (store : PacketStore) : List (Except Error Packet) :=
  store.packets.map fun packet => .ok (unnumbered packet)

theorem decoded_of_wellFormed {frame : Frame} (wellFormed : frame.isWellFormed = true) :
    decoded frame = decode frame ∧
      decode frame = .ok (Packet.ofLayers frame (dissect frame.link frame.data)) := by
  have packet : decode frame = .ok (Packet.ofLayers frame (dissect frame.link frame.data)) :=
    if_pos wellFormed
  exact ⟨by rw [decoded, packet]; rfl, packet⟩

theorem decoded_of_malformed {frame : Frame} (malformed : frame.isWellFormed = false) :
    ∃ e, decoded frame = .error e := by
  have fault : decode frame =
      .error (.malformedFrame (.lengthMismatch frame.capturedLength frame.data.length)) :=
    if_neg (by simp [malformed])
  exact ⟨_, by rw [decoded, fault]; rfl⟩

theorem outcome_isCompleted (frame : Frame) :
    (outcome frame).isCompleted = frame.isWellFormed := by
  cases wellFormed : frame.isWellFormed with
  | true =>
      obtain ⟨same, packet⟩ := decoded_of_wellFormed wellFormed
      rw [outcome, same, packet]
      rfl
  | false =>
      obtain ⟨e, fault⟩ := decoded_of_malformed wellFormed
      rw [outcome, fault]
      rfl

/-- A well-formed frame is stored as it is decoded, behind all others. -/
theorem storedAs_storeAfter (store : PacketStore) (frame : Frame) :
    storedAs (storeAfter store frame) =
      storedAs store ++ if frame.isWellFormed then [decode frame] else [] := by
  cases wellFormed : frame.isWellFormed with
  | true =>
      obtain ⟨same, packet⟩ := decoded_of_wellFormed wellFormed
      rw [storeAfter, same, packet]
      exact List.map_append
  | false =>
      obtain ⟨e, fault⟩ := decoded_of_malformed wellFormed
      rw [storeAfter, fault]
      exact (List.append_nil _).symm

theorem storedAs_foldl (store : PacketStore) (frames : List Frame) :
    storedAs (frames.foldl storeAfter store) =
      storedAs store ++ (frames.filter Frame.isWellFormed).map decode := by
  induction frames generalizing store with
  | nil => simp
  | cons frame frames ih =>
      rw [List.foldl_cons, ih, storedAs_storeAfter, List.filter_cons]
      split <;> simp

/-- The store of a task numbers as any store does, and drops nothing. -/
theorem holds_storeAfter {g : List Packet} {store : PacketStore} (frame : Frame)
    (holds : PacketStore.Holds g store) :
    ∃ more, PacketStore.Holds (g ++ more) (storeAfter store frame) := by
  unfold storeAfter
  split
  · rename_i packet _
    exact ⟨[packet], holds.respond (.add packet)⟩
  · exact ⟨[], by rwa [List.append_nil]⟩

theorem exists_holds {g : List Packet} {store : PacketStore} (frames : List Frame)
    (holds : PacketStore.Holds g store) :
    ∃ more, PacketStore.Holds (g ++ more) (frames.foldl storeAfter store) := by
  induction frames generalizing g store with
  | nil => exact ⟨[], by rwa [List.append_nil]⟩
  | cons frame frames ih =>
      obtain ⟨here, holds⟩ := holds_storeAfter frame holds
      obtain ⟨later, holds⟩ := ih holds
      exact ⟨here ++ later, by rwa [← List.append_assoc]⟩

/-- Unless a restart clears it, the store takes what is performed. -/
theorem Step.store {t : Turn α} {p q : Pipeline σ} {now : List Event} (step : Step S t p now q)
    (kept : .cleared ∉ now) : q.store = (performedOf now).foldl storeAfter p.store := by
  cases step with
  | work => rw [performedOf_worker]
  | clear => simp at kept
  | «open» | finishHalt | awaitHalt =>
      exact (congrArg (List.foldl storeAfter p.store) (performedOf_reports _)).symm
  | shut | retire | join | renew | discardDone => split <;> rfl
  | @finishStop _ after => cases after <;> rfl
  | _ => rfl

theorem store_of_run {p q : Pipeline σ} {seen : List Event} (run : (machine S).Run p seen q)
    (kept : .cleared ∉ seen) : q.store = (performedOf seen).foldl storeAfter p.store := by
  induction run with
  | here => rfl
  | turn run turn ih =>
      obtain ⟨before, now⟩ := not_or.mp (mt List.mem_append.mpr kept)
      rw [(step_of_turn turn).store now, ih before, performedOf_append, List.foldl_append]

/-! ## A pipeline at rest -/

/-- Nothing is under way from the source to the store. -/
structure Drained (p : Pipeline σ) : Prop where
  queue : p.inFlight = []
  pool : ∀ P, p.pool.pending P = 0

theorem Orderly.drained {p : Pipeline σ} (orderly : Orderly S new p)
    (resting : p.control.phase p.isRunning = .resting ∨ p.control.phase p.isRunning = .ready)
    (attended : p.control.isUnattended = false) : p.Drained := by
  have phase := orderly.coherent.phase
  have idle : p.dispatcher = .absent ∧ (p.HasNewPool ∨ p.pool.closing = .returned) ∧ p.Plain := by
    rcases resting with here | here <;> rw [here] at phase
    · exact phase
    · exact ⟨phase.1, .inl phase.2.1, phase.2.2⟩
  obtain ⟨absent, pool, plain⟩ := idle
  refine ⟨?_, fun P => ?_⟩
  · rw [inFlight, absent, orderly.queue_empty absent plain attended]
    rfl
  · rcases pool with fresh | returned
    · rw [fresh, Pool.pending_of_new]
    · exact Pool.pending_of_closed orderly.coherent.pool returned P

/-- Between two drained states, what was delivered was performed or abandoned. -/
theorem performed_of_run {p q : Pipeline σ} {seen : List Event} (run : (machine S).Run p seen q)
    (silent : SilentWhenIdle S new) (orderly : Orderly S new p) (before : p.Drained)
    (after : q.Drained) : (performedOf seen ++ abandonedOf seen).Perm (sunkOf seen) := by
  have handed := handed_of_run run silent orderly
  rw [before.queue, after.queue] at handed
  have performed : (performedOf seen).Perm (handedOf seen) := by
    refine Pool.perm_of_countP fun P => ?_
    have account := pending_of_run run orderly.coherent P
    rwa [before.pool, after.pool, Nat.add_zero, Nat.zero_add] at account
  have handed : (sunkOf seen).Perm (handedOf seen ++ abandonedOf seen) := by
    simpa [framesOf] using handed
  exact (performed.append_right _).trans handed.symm

/-! ## Since the last restart, since the last start -/

/-- What was seen since an event was seen last; all of it, if it never was. -/
def since (e : Event) (seen : List Event) : List Event := seen.rtakeWhile (· != e)

theorem notMem_since (e : Event) (seen : List Event) : e ∉ since e seen :=
  fun here => by simpa using List.mem_rtakeWhile_imp here

theorem mem_of_mem_since {e x : Event} {seen : List Event} (here : x ∈ since e seen) : x ∈ seen :=
  (List.rtakeWhile_suffix _ _).subset here

theorem since_append {e : Event} {now : List Event} (seen : List Event) (none : e ∉ now) :
    since e (seen ++ now) = since e seen ++ now := by
  have others : ∀ x ∈ now.reverse, (x != e) = true := by
    intro x hx
    simpa using ne_of_mem_of_not_mem (List.mem_reverse.mp hx) none
  rw [since, since, List.rtakeWhile, List.rtakeWhile, List.reverse_append,
    List.takeWhile_append_of_pos others, List.reverse_append, List.reverse_reverse]

theorem since_append_cons {e : Event} {now : List Event} (seen : List Event) (none : e ∉ now) :
    since e (seen ++ e :: now) = now := by
  have here : since e (seen ++ [e]) = [] := by simp [since]
  rw [List.append_cons, since_append _ none, here, List.nil_append]

/-- An event that was seen was seen a last time. -/
theorem since_cases (e : Event) (seen : List Event) :
    since e seen = seen ∧ e ∉ seen ∨ ∃ before, seen = before ++ e :: since e seen := by
  induction seen using List.reverseRecOn with
  | nil => exact .inl ⟨rfl, List.not_mem_nil⟩
  | append_singleton seen x ih =>
      by_cases same : x = e
      · subst same
        exact .inr ⟨seen, by rw [since_append_cons seen List.not_mem_nil]⟩
      · have none : e ∉ [x] := by simpa using Ne.symm same
        rw [since_append seen none]
        rcases ih with ⟨all, never⟩ | ⟨before, last⟩
        · exact .inl ⟨by rw [all], by simp [never, Ne.symm same]⟩
        · exact .inr ⟨before, by rw [← List.cons_append, ← List.append_assoc, ← last]⟩

/-! ## The pool of the last run -/

/-- Whether the pool is the one of the last run. -/
def HasRunPool (p : Pipeline σ) : Prop :=
  match p.control with
  | .free | .clearing _ | .discarding _ _ | .renewing _ =>
      p.isRunning = true ∨ p.pool.closing = .returned
  | .spawning _ | .stopping _ | .halting _ | .marking _ | .joining _ | .closing _ => True
  | .opening _ | .retiring _ | .withdrawing | .awaiting | .emptying => False

/-- A turn in which nothing changes about whose pool it is. -/
theorem run_pool_of_same {p q : Pipeline σ} {seen now : List Event}
    (before : p.HasRunPool → .renewed ∉ since .opened seen) (sameRun : .opened ∉ now)
    (samePool : .renewed ∉ now) (back : q.HasRunPool → p.HasRunPool) (after : q.HasRunPool) :
    .renewed ∉ since .opened (seen ++ now) := by
  rw [since_append seen sameRun, List.mem_append]
  rintro (old | new)
  · exact before (back after) old
  · exact samePool new

/-- As long as the pool is the one of the last run, no new pool has come since its start. -/
theorem Step.run_pool {t : Turn α} {p q : Pipeline σ} {seen now : List Event}
    (step : Step S t p now q) (coherent : p.Coherent)
    (before : p.HasRunPool → .renewed ∉ since .opened seen) (after : q.HasRunPool) :
    .renewed ∉ since .opened (seen ++ now) := by
  cases step with
  | rest | sink | fetch | meet | hand | drop | startRunning | stopIdle | restartNever =>
      exact run_pool_of_same before (by simp [reports, say]) (by simp [reports, say]) id after
  | denyStart =>
      exact run_pool_of_same before (by simp [poolDenied, say]) (by simp [poolDenied, say]) id after
  | work moved =>
      refine run_pool_of_same before ?_ ?_ ?_ after
      · simp [workerEvent?_eq_some]
      · simp [workerEvent?_eq_some]
      · simp only [HasRunPool, work_closing moved]
        exact id
  | startRenewing | start | again | denySpawn | withdraw | awaitHalt => exact after.elim
  | stop free runs | restart free _ runs =>
      refine run_pool_of_same before (by simp) (by simp) (fun _ => ?_) after
      simp [HasRunPool, free, runs]
  | restartIdle here | clear here | discard here | discardDone here | denyRenew here =>
      refine run_pool_of_same before ?_ ?_ (fun h => ?_) after
      · simp [poolDenied, say]
      · simp [poolDenied, say]
      · rwa [HasRunPool, here]
  | «open» =>
      rw [since_append_cons seen (by simp [reports])]
      simp [reports]
  | refuse here | giveUp here =>
      have phase := coherent.phase
      rw [here] at phase
      rcases after with runs | returned
      · have resting : p.isRunning = false := coherent.runs_at here rfl
        exact absurd (runs.symm.trans resting) (by simp)
      · exact absurd ((congrArg Pool.closing phase.2.1).symm.trans returned) (by simp [Pool.ofSize])
  | spawn here | halt here | finishHalt here | mark here | join here | shut here =>
      refine run_pool_of_same before ?_ ?_ (fun _ => ?_) after
      · simp [reports, say, Pipeline.spawn]
      · simp [reports, say, Pipeline.spawn]
      · simp [HasRunPool, here]
  | @finishStop _ next here =>
      refine run_pool_of_same before ?_ ?_ (fun _ => ?_) after
      · cases next <;> simp [say, Pipeline.finishStop]
      · cases next <;> simp [say, Pipeline.finishStop]
      · simp [HasRunPool, here]
  | renew => exact after.elim
  | retire here | againRunning here | abandon here => simp [HasRunPool, here] at after

theorem run_pool_of_run {count : Nat} {p : Pipeline σ} {seen : List Event}
    (run : (machine S).Run (ofSource new count) seen p) :
    p.HasRunPool → .renewed ∉ since .opened seen := by
  induction run with
  | here => intro; simp [since]
  | turn run turn ih => exact (step_of_turn turn).run_pool (coherent_of_run run (.ofSource _ _)) ih

/-! ## Conservation -/

/-- The turns that begin a new account. -/
theorem Step.cleared {t : Turn α} {p q : Pipeline σ} {now : List Event} (step : Step S t p now q)
    (cleared : .cleared ∈ now) :
    ∃ device, p.control = .clearing device ∧ now = [.cleared] ∧ q = (p.clearStore S device).1 := by
  cases step with
  | clear here => exact ⟨_, here, rfl, rfl⟩
  | work => simp [workerEvent?_eq_some] at cleared
  | @finishStop _ after => cases after <;> simp [Pipeline.finishStop, say] at cleared
  | denyStart | denyRenew => simp [poolDenied, say] at cleared
  | _ => simp [reports, say, Pipeline.spawn] at cleared

theorem Step.opened {t : Turn α} {p q : Pipeline σ} {now : List Event} (step : Step S t p now q)
    (opened : .opened ∈ now) :
    ∃ device source, p.control = .opening device ∧
      now = .opened :: reports (S.startLines device) ∧
      q = { p with source := source, control := .spawning device } := by
  cases step with
  | «open» here => exact ⟨_, _, here, rfl, rfl⟩
  | work => simp [workerEvent?_eq_some] at opened
  | @finishStop _ after => cases after <;> simp [Pipeline.finishStop, say] at opened
  | denyStart | denyRenew => simp [poolDenied, say] at opened
  | _ => simp [reports, say, Pipeline.spawn] at opened

/-- From a drained pipeline with a new pool, the pool counts what was delivered. -/
theorem counted_of_run {p q : Pipeline σ} {seen : List Event} (run : (machine S).Run p seen q)
    (silent : SilentWhenIdle S new) (orderly : Orderly S new p) (before : p.Drained)
    (after : q.Drained) (granted : .denied ∉ seen) (same : .renewed ∉ seen)
    (settled : p.control.isWithdrawn = false) (fresh : p.HasNewPool)
    (closed : q.pool.closing = .returned) :
    q.pool.completed = (sunkOf seen).countP Frame.isWellFormed ∧
      q.pool.failed = (sunkOf seen).countP fun frame => !frame.isWellFormed := by
  have performed := performed_of_run run silent orderly before after
  rw [abandonedOf_eq_nil (not_abandoned_of_run run settled granted), List.append_nil] at performed
  have sound := (coherent_of_run run orderly.coherent).pool
  have account (completed : Bool) : (if completed then q.pool.completed else q.pool.failed) =
      (sunkOf seen).countP fun frame => frame.isWellFormed == completed := by
    have tally := tally_of_run run orderly.coherent same completed
    rw [fresh, Pool.tally_of_new, Pool.tally_of_closed sound closed, performed.countP_eq] at tally
    simpa only [outcome_isCompleted, Nat.zero_add] using tally
  exact ⟨by simpa using account true, by simpa using account false⟩

/-- No call is under way, and the pipeline is not running. -/
structure IsStopped (p : Pipeline σ) : Prop where
  free : p.control = .free
  notRunning : p.isRunning = false

theorem IsStopped.resting {p : Pipeline σ} (stopped : p.IsStopped) :
    p.control.phase p.isRunning = .resting := by
  rw [stopped.free, stopped.notRunning]
  rfl

theorem IsStopped.idle {p : Pipeline σ} (stopped : p.IsStopped) :
    p.control.activity p.isRunning = .idle := by
  rw [stopped.free, stopped.notRunning]
  rfl

theorem Orderly.drained_of_stopped {p : Pipeline σ} (orderly : Orderly S new p)
    (stopped : p.IsStopped) : p.Drained :=
  orderly.drained (.inl stopped.resting) (by simp [stopped.free])

/-- A stop that returns leaves the pipeline stopped, and the pool of its run closed. -/
theorem Step.stopped {t : Turn α} {p q : Pipeline σ} {now : List Event} (step : Step S t p now q)
    (returned : .returned true ∈ now) :
    (p.control = .closing .done → q.IsStopped ∧ q.pool.closing = .returned) ∧
      (t = .call .stop → q = p ∧ p.IsStopped) := by
  cases step with
  | stopIdle free resting => exact ⟨fun h => by simp [free] at h, fun _ => ⟨rfl, free, resting⟩⟩
  | spawn spawning => exact ⟨fun h => by simp [spawning] at h, fun h => by cases h⟩
  | @finishStop _ after closing closed =>
      cases after with
      | done => exact ⟨fun _ => ⟨⟨rfl, rfl⟩, closed⟩, fun h => by cases h⟩
      | restart device => simp [Pipeline.finishStop, say] at returned
  | work => simp [workerEvent?_eq_some] at returned
  | denyStart | denyRenew => simp [poolDenied, say] at returned
  | _ => simp [reports, say] at returned

/-- A pipeline in which an account begins: nothing is stored, and no run is under way. -/
structure Blank (p : Pipeline σ) : Prop where
  store : p.store = {}
  place : p.IsStopped ∨ ∃ device, p.control = .discarding device 0

theorem Blank.resting {p : Pipeline σ} (blank : p.Blank) :
    p.control.phase p.isRunning = .resting := by
  rcases blank.place with stopped | ⟨device, discarding⟩
  · exact stopped.resting
  · rw [discarding]
    rfl

theorem Blank.idle {p : Pipeline σ} (blank : p.Blank) :
    p.control.activity p.isRunning = .idle := by
  rcases blank.place with stopped | ⟨device, discarding⟩
  · exact stopped.idle
  · rw [discarding]
    rfl

theorem Blank.settled {p : Pipeline σ} (blank : p.Blank) : p.control.isWithdrawn = false := by
  rcases blank.place with stopped | ⟨device, discarding⟩
  · rw [stopped.free]
    rfl
  · rw [discarding]
    rfl

theorem Orderly.drained_of_blank {p : Pipeline σ} (orderly : Orderly S new p) (blank : p.Blank) :
    p.Drained := by
  refine orderly.drained (.inl blank.resting) ?_
  rcases blank.place with stopped | ⟨device, discarding⟩
  · rw [stopped.free]
    rfl
  · rw [discarding]
    rfl

/-- What was seen since the store was cleared last, or since the pipeline was made, is a run of
its own, from a pipeline in which an account begins. -/
theorem run_since_cleared {count : Nat} {p : Pipeline σ} {seen : List Event}
    (run : (machine S).Run (ofSource new count) seen p) :
    ∃ u first, (machine S).Run (ofSource new count) first u ∧
      (machine S).Run u (since .cleared seen) p ∧ first ++ since .cleared seen = seen ∧
      u.Blank ∧ (.cleared ∈ seen → u.baseline = S.captured u.source) := by
  rcases since_cases .cleared seen with ⟨all, never⟩ | ⟨before, last⟩
  · rw [all]
    exact ⟨_, [], .here _, run, rfl, ⟨rfl, .inl ⟨rfl, rfl⟩⟩, fun cleared => absurd cleared never⟩
  · generalize since .cleared seen = recent at last ⊢
    subst last
    obtain ⟨u, v, t, first, front, back, rest, early, turn, late, rfl, rfl⟩ := run.split
    obtain ⟨device, clearing, only, rfl⟩ :=
      (step_of_turn turn).cleared (List.mem_append_right _ List.mem_cons_self)
    obtain ⟨rfl, rfl⟩ : front = [] ∧ back = [] := by
      simpa using (List.append_eq_singleton_iff.mp only)
    exact ⟨_, _, early.trans (.single turn), late, by simp, ⟨rfl, .inr ⟨device, rfl⟩⟩,
      fun _ => rfl⟩

theorem store_since_cleared {count : Nat} {p : Pipeline σ} {seen : List Event}
    (run : (machine S).Run (ofSource new count) seen p) :
    p.store = (performedOf (since .cleared seen)).foldl storeAfter {} := by
  obtain ⟨u, first, -, late, -, blank, -⟩ := run_since_cleared run
  rw [store_of_run late (notMem_since .cleared seen), blank.store]

theorem storedAs_since_cleared {count : Nat} {p : Pipeline σ} {seen : List Event}
    (run : (machine S).Run (ofSource new count) seen p) :
    storedAs p.store =
      ((performedOf (since .cleared seen)).filter Frame.isWellFormed).map decode := by
  rw [store_since_cleared run, storedAs_foldl]
  rfl

/-- What is stored is numbered from one on, without a gap. -/
theorem ids_of_run {count : Nat} {p : Pipeline σ} {seen : List Event}
    (run : (machine S).Run (ofSource new count) seen p) :
    p.store.packets.map (·.id) = List.range' 1 p.processed := by
  have empty : PacketStore.Holds [] {} := ⟨rfl, rfl⟩
  obtain ⟨g, holds⟩ := exists_holds (performedOf (since .cleared seen)) empty
  rw [← store_since_cleared run] at holds
  rw [processed, holds.count, holds.packets, PacketStore.ids_numbered]

/-- In a stopped pipeline, what was delivered since the last restart was performed or abandoned. -/
theorem performed_since_restart {count : Nat} {p : Pipeline σ} {seen : List Event}
    (silent : SilentWhenIdle S new) (run : (machine S).Run (ofSource new count) seen p)
    (stopped : p.IsStopped) :
    (performedOf (since .cleared seen) ++ abandonedOf (since .cleared seen)).Perm
      (sunkOf (since .cleared seen)) := by
  obtain ⟨u, first, early, late, -, blank, -⟩ := run_since_cleared run
  have orderly := orderly_of_run early silent (.ofSource S new count)
  have after := (orderly_of_run run silent (.ofSource S new count)).drained_of_stopped stopped
  exact performed_of_run late silent orderly (orderly.drained_of_blank blank) after

/-- The store of a stopped pipeline. -/
theorem stored_since_restart {count : Nat} {p : Pipeline σ} {seen : List Event}
    (silent : SilentWhenIdle S new) (run : (machine S).Run (ofSource new count) seen p)
    (stopped : p.IsStopped) :
    (storedAs p.store ++
        ((abandonedOf (since .cleared seen)).filter Frame.isWellFormed).map decode).Perm
      (((sunkOf (since .cleared seen)).filter Frame.isWellFormed).map decode) := by
  have whole := ((performed_since_restart silent run stopped).filter Frame.isWellFormed).map decode
  rwa [List.filter_append, List.map_append, ← storedAs_since_cleared run] at whole

/-- The counters of the pool of the last run. -/
theorem counted_since_start {count : Nat} {p : Pipeline σ} {seen : List Event}
    (silent : SilentWhenIdle S new) (run : (machine S).Run (ofSource new count) seen p)
    (granted : .denied ∉ since .opened seen) (stopped : p.IsStopped)
    (closed : p.pool.closing = .returned) :
    p.pool.completed = (sunkOf (since .opened seen)).countP Frame.isWellFormed ∧
      p.pool.failed = (sunkOf (since .opened seen)).countP fun frame => !frame.isWellFormed := by
  have after := (orderly_of_run run silent (.ofSource S new count)).drained_of_stopped stopped
  have same : .renewed ∉ since .opened seen :=
    run_pool_of_run run (by simp [HasRunPool, stopped.free, closed])
  rcases since_cases .opened seen with ⟨all, -⟩ | ⟨before, last⟩
  · rw [all] at granted same ⊢
    have start := (Orderly.ofSource S new count).drained_of_stopped ⟨rfl, rfl⟩
    have fresh : (ofSource new count).HasNewPool := by
      simp [HasNewPool, Pipeline.ofSource, Pool.ofSize]
    exact counted_of_run run silent (.ofSource S new count) start after granted same rfl fresh
      closed
  · -- the run of the pool begins in the turn that starts the source
    generalize since .opened seen = recent at granted same last ⊢
    subst last
    obtain ⟨u, v, t, first, front, back, rest, early, turn, late, -, rfl⟩ := run.split
    have orderly := orderly_of_run early silent (.ofSource S new count)
    have step := step_of_turn turn
    obtain ⟨device, source, opening, only, rfl⟩ :=
      step.opened (List.mem_append_right _ List.mem_cons_self)
    have lines : back = reports (S.startLines device) := by
      cases front with
      | nil => exact (List.cons.inj only).2
      | cons e front =>
          have here : Event.opened ∈ reports (S.startLines device) := by
            rw [← (List.cons.inj only).2]
            exact List.mem_append_right _ List.mem_cons_self
          simp [reports] at here
    have phase := orderly.coherent.phase
    rw [opening] at phase
    have start : u.Drained := orderly.drained (.inr (by rw [opening]; rfl)) (by simp [opening])
    have counted := counted_of_run late silent (step.orderly silent orderly)
      ⟨start.queue, start.pool⟩ after (fun h => granted (List.mem_append_right _ h))
      (fun h => same (List.mem_append_right _ h)) rfl phase.2.1 closed
    rwa [sunkOf_append, lines, sunkOf_reports, List.nil_append]

/-- Whatever the order of all threads, with a source that is silent when idle, and threads that
are granted: a stop that returns leaves the pipeline stopped; and then the queue is empty, the
store holds one packet for each well-formed frame that was delivered since the last restart, as
it is decoded, and no other, and the pool of the last run has counted the well-formed and the
malformed frames that were delivered in that run. -/
theorem conservation {count : Nat} {p : Pipeline σ} {seen : List Event}
    (silent : SilentWhenIdle S new) (run : (machine S).Run (ofSource new count) seen p)
    (granted : .denied ∉ seen) :
    (∀ t q now, p.turn? S t = some (q, now) → .returned true ∈ now →
        (p.control = .closing .done → q.IsStopped ∧ q.pool.closing = .returned) ∧
          (t = .call .stop → q = p ∧ p.IsStopped)) ∧
      (p.IsStopped →
        p.queue.items = [] ∧
          (storedAs p.store).Perm
            (((sunkOf (since .cleared seen)).filter Frame.isWellFormed).map decode) ∧
          (p.pool.closing = .returned →
            p.pool.completed = (sunkOf (since .opened seen)).countP Frame.isWellFormed ∧
              p.pool.failed =
                (sunkOf (since .opened seen)).countP fun frame => !frame.isWellFormed)) := by
  constructor
  · intro t q now turn returned
    exact (step_of_turn turn).stopped returned
  · intro stopped
    have orderly := orderly_of_run run silent (.ofSource S new count)
    have phase := orderly.coherent.phase
    rw [stopped.free, stopped.notRunning] at phase
    have stored := stored_since_restart silent run stopped
    obtain ⟨u, first, -, late, split, blank, -⟩ := run_since_cleared run
    have recent : .denied ∉ since .cleared seen := fun here => granted (mem_of_mem_since here)
    rw [abandonedOf_eq_nil (not_abandoned_of_run late blank.settled recent), List.filter_nil,
      List.map_nil, List.append_nil] at stored
    refine ⟨?_, stored, counted_since_start silent run (fun h => ?_) stopped⟩
    · exact orderly.queue_empty phase.1 phase.2.2 (by simp [stopped.free])
    · exact granted (mem_of_mem_since h)

/-- A script of a whole frame and a malformed one, of which the second is delivered while the
source halts; two workers perform them in the other order. -/
theorem conservation_script :
    let good : Frame := .whole [0, 1]
    let bad : Frame := ⟨.epoch, [], 1, 1, .ethernet⟩
    let replay : Turn ScriptedSource.Delivery := .source .replay
    let turns := [.call (.start "mock0"), .control, .control, replay, replay, replay, replay,
      .call .stop, .control, replay, .dispatch, .dispatch, .dispatch, .work 1, .dispatch, .work 0,
      .work 0, .work 1, replay, replay, .control, .work 0, .work 1, .control, .dispatch, .control,
      .control, .control, .work 1, .work 0, .control, .control]
    let r := (machine ScriptedSource.source).takeAll (ofSource { script := [good, bad] } 2) turns
    .denied ∉ r.2 ∧ r.1.IsStopped ∧ r.1.queue.items = [] ∧
      (storedAs r.1.store).Perm [decode good] ∧
      r.1.pool.completed = 1 ∧ r.1.pool.failed = 1 := by
  intro good bad replay turns r
  have silent : SilentWhenIdle ScriptedSource.source { script := [good, bad] } :=
    ScriptedSource.silentWhenIdle ⟨rfl, rfl, rfl⟩
  have run : (machine ScriptedSource.source).Run (ofSource { script := [good, bad] } 2) r.2 r.1 :=
    Machine.Run.takeAll _ turns
  have granted : .denied ∉ r.2 := by decide +kernel
  have stopped : r.1.IsStopped := ⟨by decide +kernel, by decide +kernel⟩
  have delivered : sunkOf (since .cleared r.2) = [good, bad] := by decide +kernel
  have run_delivered : sunkOf (since .opened r.2) = [good, bad] := by decide +kernel
  obtain ⟨empty, stored, counted⟩ := (conservation silent run granted).2 stopped
  rw [delivered] at stored
  rw [run_delivered] at counted
  exact ⟨granted, stopped, empty, stored, counted (by decide +kernel)⟩

end PacketWatch.Pipeline
