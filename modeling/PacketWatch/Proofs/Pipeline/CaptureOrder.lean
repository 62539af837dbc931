/-
# `PacketWatch.Proofs.Pipeline.CaptureOrder` — one worker stores in the order of capture

With one worker every account of a frame is one of lists, not only of numbers.

    sunk      = removed ++ in flight        the queue keeps the order (`Fifo`)
    removed   = discarded ++ handed         a restart discards before it starts, if no
                                            start abandons what is in the queue
    handed    = performed ++ in hand        one worker keeps the order
    stored    = decoded when performed

Each stage may hold something back in the middle of a run, but none lets a frame pass
another one.  So the store is what a plain loop makes of the first frames that were handed
to the pool since the last restart, and of all of them when the pipeline is stopped.
Nothing is assumed of the source.
-/
import PacketWatch.Proofs.Pipeline.Calls

namespace PacketWatch

/-! ## A pool of one worker -/

/-- The task of a message. -/
def Message.task? {τ : Type} : Message τ → Option τ
  | run task => some task
  | leave => none

/-- The tasks in a worker's hands. -/
def Worker.held {τ : Type} : Worker τ → List τ
  | holding task => [task]
  | waiting | counting _ | gone => []

namespace Pool

variable {τ : Type} {perform : τ → Outcome}

/-- What was accepted and not performed: in the workers' hands, and behind that in the channel. -/
def inHand (p : Pool τ) : List τ :=
  p.workers.flatMap Worker.held ++ p.channel.filterMap Message.task?

/-- One worker performs tasks in the order in which they were accepted. -/
theorem Step.inOrder {t : Turn τ} {p q : Pool τ} {seen : List (Event τ)}
    (step : Step perform t p seen q) (single : p.size = 1) :
    p.inHand ++ acceptedOf seen = performedOf seen ++ q.inHand := by
  -- nobody stands before or behind the worker that moves
  have alone {front back : List (Worker τ)} {w : Worker τ}
      (workers : p.workers = front ++ w :: back) : front = [] ∧ back = [] := by
    have length := congrArg List.length workers
    rw [show p.workers.length = 1 from single, List.length_append, List.length_cons] at length
    exact ⟨List.eq_nil_of_length_eq_zero (by omega), List.eq_nil_of_length_eq_zero (by omega)⟩
  cases step with
  | accept | reject | close | closeAgain | send | finish =>
      simp [Pool.inHand, acceptedOf, performedOf, Message.task?]
  | receive workers channel =>
      obtain ⟨rfl, rfl⟩ := alone workers
      simp [Pool.inHand, acceptedOf, performedOf, Message.task?, Worker.held, workers, channel]
  | leave workers channel =>
      obtain ⟨rfl, rfl⟩ := alone workers
      rw [Pool.inHand, workers, channel]
      exact List.append_nil _
  | perform workers =>
      obtain ⟨rfl, rfl⟩ := alone workers
      simp [Pool.inHand, acceptedOf, performedOf, Worker.held, workers]
  | count workers =>
      obtain ⟨rfl, rfl⟩ := alone workers
      simp [Pool.inHand, Worker.held, workers]

theorem inHand_of_new (count : Nat) : (ofSize count : Pool τ).inHand = [] := by
  simp [inHand, ofSize, Worker.held, List.flatMap_replicate]

theorem inHand_of_closed {p : Pool τ} (sound : Sound p) (returned : p.closing = .returned) :
    p.inHand = [] := by
  obtain ⟨empty, everyone⟩ := sound.drained returned
  rw [inHand, empty, List.filterMap_nil, List.append_nil, List.flatMap_eq_nil_iff]
  intro w hw
  rw [everyone w hw]
  rfl

end Pool

namespace Pipeline

variable {σ α : Type} {S : CaptureSource σ α} {new : σ}

/-! ## The number of workers -/

theorem Step.workerCount {t : Turn α} {p q : Pipeline σ} {now : List Event}
    (step : Step S t p now q) : q.workerCount = p.workerCount := by
  cases step with
  | @finishStop _ after => cases after <;> rfl
  | _ => rfl

/-- Every pool has the workers that the pipeline was made with. -/
theorem size_of_run {count : Nat} {p : Pipeline σ} {seen : List Event}
    (run : (machine S).Run (ofSource new count) seen p) :
    p.workerCount = max count 1 ∧ p.pool.size = max count 1 := by
  induction run with
  | here => exact ⟨rfl, List.length_replicate⟩
  | @turn u v t seen now run turn ih =>
      obtain ⟨workers, size⟩ := ih
      have step := step_of_turn turn
      refine ⟨step.workerCount.trans workers, ?_⟩
      rcases step.pool_cases (coherent_of_run run (.ofSource _ _)) with
        ⟨same, -, -⟩ | ⟨_, _, moved, -, -⟩ | ⟨fresh, -, -, -, -⟩
      · rw [same, size]
      · rw [moved.size, size]
      · rw [fresh, Pool.size, Pool.ofSize, List.length_replicate, workers]
        omega

/-! ## From the pool to the store -/

theorem Step.inOrder {t : Turn α} {p q : Pipeline σ} {now : List Event} (step : Step S t p now q)
    (coherent : p.Coherent) (single : p.pool.size = 1) :
    p.pool.inHand ++ handedOf now = performedOf now ++ q.pool.inHand := by
  rcases step.pool_cases coherent with ⟨same, handed, performed⟩ |
    ⟨_, inside, moved, handed, performed⟩ | ⟨fresh, returned, -, handed, performed⟩
  · rw [same, handed, performed, List.append_nil, List.nil_append]
  · rw [handed, performed]
    exact moved.inOrder single
  · rw [handed, performed, fresh, Pool.inHand_of_closed coherent.pool returned, Pool.inHand_of_new]

/-- A run after which the pool performs in the order in which frames are handed to it. -/
theorem performed_in_order {count : Nat} (single : count ≤ 1) {p q : Pipeline σ}
    {first seen : List Event} (early : (machine S).Run (ofSource new count) first p)
    (run : (machine S).Run p seen q) :
    p.pool.inHand ++ handedOf seen = performedOf seen ++ q.pool.inHand := by
  induction run with
  | here => simp [handedOf, performedOf]
  | @turn u v t seen now run turn ih =>
      have whole := early.trans run
      have one : u.pool.size = 1 := by
        rw [(size_of_run whole).2]
        omega
      have step := (step_of_turn turn).inOrder (coherent_of_run whole (.ofSource _ _)) one
      rw [handedOf_append, performedOf_append, ← List.append_assoc, ih, List.append_assoc, step,
        List.append_assoc]

/-- Where no run is under way, nothing is in the workers' hands. -/
theorem Coherent.nothing_in_hand {p : Pipeline σ} (coherent : p.Coherent)
    (resting : p.control.phase p.isRunning = .resting) : p.pool.inHand = [] := by
  have phase := coherent.phase
  rw [resting] at phase
  obtain ⟨-, fresh | returned, -⟩ := phase
  · rw [fresh, Pool.inHand_of_new]
  · exact Pool.inHand_of_closed coherent.pool returned

/-- The frames that were handed to the pool since the last restart are those that were
performed, in this order, and those in the workers' hands. -/
theorem handed_since_cleared {count : Nat} (single : count ≤ 1) {p : Pipeline σ}
    {seen : List Event} (run : (machine S).Run (ofSource new count) seen p) :
    handedOf (since .cleared seen) = performedOf (since .cleared seen) ++ p.pool.inHand := by
  obtain ⟨u, first, early, late, -, blank, -⟩ := run_since_cleared run
  have account := performed_in_order single early late
  rwa [(coherent_of_run early (.ofSource _ _)).nothing_in_hand blank.resting,
    List.nil_append] at account

/-! ## From the queue to the pool -/

/-- What is handed to the pool leaves the queue. -/
theorem handedOf_sublist_removed (seen : List Event) :
    (handedOf seen).Sublist (framesOf (removedOf seen)) := by
  induction seen with
  | nil => exact .slnil
  | cons e seen ih =>
      cases e with
      | handed frame => exact ih.cons_cons frame
      | dropped frame => exact ih.cons frame
      | discarded item | abandoned item =>
          cases item with
          | data frame => exact ih.cons frame
          | endOfStream => exact ih
      | _ => exact ih

/-- What is delivered leaves the queue or is in flight, in this order. -/
theorem sunkOf_eq {count : Nat} {p : Pipeline σ} {seen : List Event}
    (run : (machine S).Run (ofSource new count) seen p) :
    sunkOf seen = framesOf (removedOf seen) ++ framesOf p.inFlight := by
  have account := congrArg framesOf (fifo_of_run run (.ofSource new count))
  rwa [framesOf_append, framesOf_append, framesOf_pushedOf] at account

/-- What was handed to the pool since the last restart was delivered, in this order. -/
theorem handed_since_sublist {count : Nat} {p : Pipeline σ} {seen : List Event}
    (run : (machine S).Run (ofSource new count) seen p) :
    (handedOf (since .cleared seen)).Sublist (sunkOf seen) := by
  have recent : (handedOf (since .cleared seen)).Sublist (handedOf seen) :=
    (List.rtakeWhile_suffix _ _).sublist.filterMap _
  rw [sunkOf_eq run]
  exact (recent.trans (handedOf_sublist_removed seen)).trans (List.sublist_append_left _ _)

/-- The holder of the lock is discarding what was in the queue at a restart. -/
def IsDiscarding (p : Pipeline σ) : Prop := ∃ device count, p.control = .discarding device count

/-- The holder of the lock comes to discard from a clearing only, and no frame is handed to
the pool meanwhile. -/
theorem Step.discarding_before {t : Turn α} {p q : Pipeline σ} {now : List Event}
    (step : Step S t p now q) (coherent : p.Coherent) (kept : .cleared ∉ now)
    (after : q.IsDiscarding) : p.IsDiscarding ∧ handedOf now = [] := by
  obtain ⟨device, count, after⟩ := after
  cases step with
  | rest | sink | fetch | meet => exact ⟨⟨_, _, after⟩, rfl⟩
  | hand holding =>
      have phase := coherent.phase
      rw [show p.control = _ from after] at phase
      exact absurd (phase.1.symm.trans holding) (by simp)
  | drop => exact ⟨⟨_, _, after⟩, handedOf_reports _⟩
  | work => exact ⟨⟨_, _, after⟩, handedOf_worker _⟩
  | shut here | retire here => exact absurd (here.symm.trans after) (by simp)
  | startRunning here | stopIdle here | restartNever here | againRunning here | denyStart here
  | abandon here =>
      exact absurd (here.symm.trans after) (by simp)
  | clear => exact absurd List.mem_cons_self kept
  | discard here => exact ⟨⟨_, _, here⟩, rfl⟩
  | @finishStop _ next => cases next <;> cases after
  | startRenewing | start | stop | restart | restartIdle | «open» | refuse | spawn | halt
  | finishHalt | mark | join | discardDone | renew | again | denyRenew | denySpawn | withdraw
  | awaitHalt | giveUp => cases after

/-- A frame that leaves the queue is handed to the pool, unless a restart discards it or a start
abandons it. -/
theorem Step.removed {t : Turn α} {p q : Pipeline σ} {now : List Event} (step : Step S t p now q)
    (coherent : p.Coherent) (none : ∀ item, .abandoned item ∉ now) :
    framesOf (removedOf now) = handedOf now ∨ p.IsDiscarding ∧ handedOf now = [] := by
  rcases step.still_or with still | ⟨device, -, rfl, -⟩ | ⟨how, item, rest, drops, -, rfl, -⟩
  · have left := framesOf_removedOf fun frame =>
      ⟨step.not_dropped coherent, fun discarded =>
        absurd (still _ discarded) (by simp [Event.stirs])⟩
    rw [abandonedOf_eq_nil none, List.append_nil] at left
    exact .inl ((handedOf_sublist_removed now).eq_of_length left.length_eq.symm).symm
  · exact .inl rfl
  · rcases drops.eq with ⟨device, count, discarding, rfl⟩ | ⟨-, rfl⟩
    · exact .inr ⟨⟨device, count, discarding⟩, rfl⟩
    · exact absurd List.mem_cons_self (none item)

/-- Of what leaves the queue after a clearing, a restart discards the first part, and the rest
is handed to the pool. -/
theorem removed_after_cleared {p q : Pipeline σ} {seen : List Event}
    (run : (machine S).Run p seen q) (coherent : p.Coherent) (kept : .cleared ∉ seen)
    (none : ∀ item, .abandoned item ∉ seen) :
    handedOf seen <:+ framesOf (removedOf seen) ∧ (q.IsDiscarding → handedOf seen = []) := by
  induction run with
  | here => exact ⟨List.suffix_rfl, fun _ => rfl⟩
  | turn run turn ih =>
      obtain ⟨before, quiet⟩ := not_or.mp (mt List.mem_append.mpr kept)
      obtain ⟨⟨others, split⟩, nobody⟩ :=
        ih before fun item h => none item (List.mem_append_left _ h)
      have step := step_of_turn turn
      have here := coherent_of_run run coherent
      rw [handedOf_append, removedOf_append, framesOf_append, ← split]
      refine ⟨?_, fun after => ?_⟩
      · rcases step.removed here fun item h => none item (List.mem_append_right _ h) with
          same | ⟨discarding, nothing⟩
        · rw [same, List.append_assoc]
          exact List.suffix_append _ _
        · rw [nobody discarding, nothing]
          exact List.nil_suffix
      · obtain ⟨discarding, nothing⟩ := step.discarding_before here quiet after
        rw [nobody discarding, nothing]
        rfl

/-- If no thread is denied, what was handed to the pool since the last restart is one piece of
what was delivered. -/
theorem handed_infix_sunk {count : Nat} {p : Pipeline σ} {seen : List Event}
    (run : (machine S).Run (ofSource new count) seen p) (granted : .denied ∉ seen) :
    handedOf (since .cleared seen) <:+: sunkOf seen := by
  obtain ⟨u, first, early, late, split, -, -⟩ := run_since_cleared run
  have coherent := coherent_of_run early (.ofSource _ _)
  have none (item : QueueItem Frame) : .abandoned item ∉ since .cleared seen :=
    fun here => not_abandoned_of_run run rfl granted item (mem_of_mem_since here)
  obtain ⟨⟨others, rest⟩, -⟩ :=
    removed_after_cleared late coherent (notMem_since .cleared seen) none
  have removed : framesOf (removedOf seen) =
      framesOf (removedOf first) ++ (others ++ handedOf (since .cleared seen)) := by
    rw [rest, ← framesOf_append, ← removedOf_append, split]
  exact ⟨framesOf (removedOf first) ++ others, framesOf p.inFlight, by
    rw [sunkOf_eq run, removed, ← List.append_assoc]⟩

/-! ## The order of capture -/

/-- The frames whose packets are stored, in the order of the packets. -/
theorem stored_in_order {count : Nat} (single : count ≤ 1) {p : Pipeline σ} {seen : List Event}
    (run : (machine S).Run (ofSource new count) seen p) :
    ∃ m, storedAs p.store =
        (((handedOf (since .cleared seen)).take m).filter Frame.isWellFormed).map decode ∧
      (p.IsStopped → (handedOf (since .cleared seen)).length ≤ m) := by
  have handed := handed_since_cleared single run
  refine ⟨(performedOf (since .cleared seen)).length, ?_, fun stopped => ?_⟩
  · rw [handed, List.take_left, storedAs_since_cleared run]
  · have coherent := coherent_of_run run (.ofSource new count)
    rw [handed, coherent.nothing_in_hand stopped.resting, List.append_nil]

/-- A packet stands at the place before its number. -/
theorem id_at {count : Nat} {p : Pipeline σ} {seen : List Event}
    (run : (machine S).Run (ofSource new count) seen p) {i : Nat}
    (inside : i < p.store.packets.length) : p.store.packets[i].id = i + 1 := by
  have id := List.getElem_of_eq (ids_of_run run) (by rwa [List.length_map])
  rw [List.getElem_map, List.getElem_range'] at id
  omega

/-- It stands at the place of its frame. -/
theorem decode_at {store : PacketStore} {frames : List Frame}
    (stored : storedAs store = frames.map decode) {i : Nat} (inside : i < store.packets.length) :
    ∃ _ : i < frames.length, decode frames[i] = .ok (unnumbered store.packets[i]) := by
  have length := congrArg List.length stored
  rw [storedAs, List.length_map, List.length_map] at length
  have same := List.getElem_of_eq stored (by rwa [storedAs, List.length_map])
  rw [List.getElem_map] at same
  refine ⟨length ▸ inside, same.symm.trans ?_⟩
  exact List.getElem_map _

/-- Two places of a list, in order. -/
theorem pair_sublist {β : Type} {l : List β} {i j : Nat} (lt : i < j) (inside : j < l.length) :
    [l[i], l[j]].Sublist l := by
  have pairs : l.Pairwise fun a b => [a, b].Sublist l :=
    List.pairwise_iff_forall_sublist.mpr fun both => both
  exact List.pairwise_iff_getElem.mp pairs i j (Nat.lt_trans lt inside) inside lt

/-- Of two stored packets, the frame of the one with the smaller number was delivered first. -/
theorem delivered_in_order {count : Nat} (single : count ≤ 1) {p : Pipeline σ}
    {seen : List Event} (run : (machine S).Run (ofSource new count) seen p) {x y : Packet}
    (hx : x ∈ p.store.packets) (hy : y ∈ p.store.packets) (lt : x.id < y.id) :
    ∃ f g, [f, g].Sublist (sunkOf seen) ∧ decode f = .ok (unnumbered x) ∧
      decode g = .ok (unnumbered y) := by
  obtain ⟨m, stored, -⟩ := stored_in_order single run
  obtain ⟨i, hi, rfl⟩ := List.getElem_of_mem hx
  obtain ⟨j, hj, rfl⟩ := List.getElem_of_mem hy
  rw [id_at run hi, id_at run hj] at lt
  obtain ⟨_, first⟩ := decode_at stored hi
  obtain ⟨inside, second⟩ := decode_at stored hj
  have kept : (((handedOf (since .cleared seen)).take m).filter Frame.isWellFormed).Sublist
      (handedOf (since .cleared seen)) :=
    List.filter_sublist.trans (List.take_sublist m _)
  have pair := pair_sublist (Nat.lt_of_succ_lt_succ lt) inside
  exact ⟨_, _, (pair.trans kept).trans (handed_since_sublist run), first, second⟩

/-- **With one worker, numbers follow the order of capture.**  Whatever the source does, in
every order of all threads, through any starts, stops and restarts: the store is what `decode`
makes of the well-formed among the first frames that were handed to the pool since the last
restart, and of all of them when the pipeline is stopped, as it is when a stop returns.  Those
frames were delivered in that order, and are one piece of what was delivered unless a thread was
denied; so of two stored packets the one with the smaller number was delivered first. -/
theorem ids_follow_capture {count : Nat} (single : count ≤ 1) {p : Pipeline σ}
    {seen : List Event} (run : (machine S).Run (ofSource new count) seen p) :
    (∃ m, storedAs p.store =
        (((handedOf (since .cleared seen)).take m).filter Frame.isWellFormed).map decode ∧
      (p.IsStopped → (handedOf (since .cleared seen)).length ≤ m)) ∧
      (∀ u during answer, Returns S .stop u during answer p → p.IsStopped) ∧
      (handedOf (since .cleared seen)).Sublist (sunkOf seen) ∧
      (.denied ∉ seen → handedOf (since .cleared seen) <:+: sunkOf seen) ∧
      p.store.packets.map (·.id) = List.range' 1 p.processed ∧
      ∀ x ∈ p.store.packets, ∀ y ∈ p.store.packets, x.id < y.id →
        ∃ f g, [f, g].Sublist (sunkOf seen) ∧ decode f = .ok (unnumbered x) ∧
          decode g = .ok (unnumbered y) := by
  refine ⟨stored_in_order single run, ?_, handed_since_sublist run, handed_infix_sunk run,
    ids_of_run run, ?_⟩
  · intro u during answer returns
    exact returns.stopped.2
  · intro x hx y hy lt
    exact delivered_in_order single run hx hy lt

/-- Two whole frames with a malformed one between them, of which the last comes behind the end
marker and is decoded in the next run, by another pool; a fourth is not handed on yet. -/
theorem ids_follow_capture_late :
    let first : Frame := .whole [0xde]
    let bad : Frame := ⟨.epoch, [], 1, 1, .ethernet⟩
    let last : Frame := .whole [0xad]
    let pass (frame : Frame) : Turn ManualSource.Action := .source (.inject frame)
    let turns := [.call (.start "eth0"), .control, .control, pass first, pass bad, .dispatch,
      .dispatch, .dispatch, .dispatch, .call .stop, .control, .control, .control, pass last,
      .work 0, .work 0, .work 0, .dispatch, .control, .work 0, .work 0, .work 0, .control, .work 0,
      .control, .control, .call (.start "eth0"), .control, .control, .dispatch, .dispatch,
      .work 0, .work 0, pass first]
    let r := (machine ManualSource.source).takeAll (ofSource {} 0) turns
    let x := { Packet.ofLayers first (dissect first.link first.data) with id := 1 }
    let y := { Packet.ofLayers last (dissect last.link last.data) with id := 2 }
    handedOf (since .cleared r.2) = [first, bad, last] ∧ r.1.store.packets = [x, y] ∧
      (∃ m, storedAs r.1.store =
        (([first, bad, last].take m).filter Frame.isWellFormed).map decode) ∧
      ∃ f g, [f, g].Sublist [first, bad, last, first] ∧ decode f = .ok (unnumbered x) ∧
        decode g = .ok (unnumbered y) := by
  intro first bad last pass turns r x y
  have run : (machine ManualSource.source).Run (ofSource {} 0) r.2 r.1 :=
    Machine.Run.takeAll _ turns
  have handed : handedOf (since .cleared r.2) = [first, bad, last] := by decide +kernel
  have delivered : sunkOf r.2 = [first, bad, last, first] := by decide +kernel
  have packets : r.1.store.packets = [x, y] := by decide +kernel
  obtain ⟨⟨m, stored, -⟩, -, -, -, -, ordered⟩ := ids_follow_capture (Nat.zero_le 1) run
  rw [handed] at stored
  rw [delivered] at ordered
  refine ⟨handed, packets, ⟨m, stored⟩, ordered x ?_ y ?_ (by decide)⟩
  · rw [packets]
    exact List.mem_cons_self
  · rw [packets]
    exact List.mem_cons_of_mem _ List.mem_cons_self

end Pipeline

end PacketWatch
