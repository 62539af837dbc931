/-
# `PacketWatch.Proofs.Pipeline.Steps` — what one turn of a pipeline can do

`Step` lists the turns of all threads of a pipeline, each with the state that it
needs and all that is seen of it.  An invariant of a pipeline is one case for
each constructor; none opens `turn?`.  What happens inside the pool is left to
the steps of the pool.

`againRunning` is a restart that finds the pipeline running after it has stopped it.
No run comes there (`Coherent` excludes it), but a single turn cannot know that.
The constructors behind it belong to threads that are denied.
-/
import PacketWatch.Pipeline.Turn
import PacketWatch.Proofs.Pool.Steps

namespace PacketWatch.Pipeline

variable {σ α : Type} {S : CaptureSource σ α}

/-- A turn, what is seen of it, and the states before and after. -/
inductive Step (S : CaptureSource σ α) :
    Turn α → Pipeline σ → List Event → Pipeline σ → Prop
  | rest {p : Pipeline σ} {a : α} {source : σ} :
      S.turn? p.source a = some (source, none) →
      Step S (.source a) p [] { p with source := source }
  | sink {p : Pipeline σ} {a : α} {source : σ} {frame : Frame} :
      S.turn? p.source a = some (source, some frame) →
      Step S (.source a) p [.sunk frame]
        { p with source := source, queue := p.queue.push (.data frame) }
  | fetch {p : Pipeline σ} {frame : Frame} {rest : List (QueueItem Frame)} :
      p.dispatcher = .waiting → p.queue.items = .data frame :: rest →
      Step S .dispatch p [] { p with queue := ⟨rest⟩, dispatcher := .holding frame }
  | meet {p : Pipeline σ} {rest : List (QueueItem Frame)} :
      p.dispatcher = .waiting → p.queue.items = .endOfStream :: rest →
      Step S .dispatch p [.ended] { p with queue := ⟨rest⟩, dispatcher := .gone }
  | hand {p : Pipeline σ} {frame : Frame} :
      p.dispatcher = .holding frame → p.pool.closing = .notBegun →
      Step S .dispatch p [.handed frame]
        { p with
          pool := { p.pool with channel := p.pool.channel ++ [.run frame] }
          dispatcher := .waiting }
  | drop {p : Pipeline σ} {frame : Frame} :
      p.dispatcher = .holding frame → p.pool.closing ≠ .notBegun →
      Step S .dispatch p (.dropped frame :: reports Handing.refused.lines)
        { p with dispatcher := .waiting }
  | work {p : Pipeline σ} {index : Nat} {pool : Pool Frame} {seen : List (Pool.Event Frame)} :
      Pool.Step outcome (.work index) p.pool seen pool →
      Step S (.work index) p (seen.filterMap workerEvent?)
        { p with pool := pool, store := (Pool.performedOf seen).foldl storeAfter p.store }
  | startRunning {p : Pipeline σ} {device : String} :
      p.control = .free → p.isRunning = true →
      Step S (.call (.start device)) p
        [say .warn ("Capture already running; ignoring start on " ++ device), .returned false] p
  | startRenewing {p : Pipeline σ} {device : String} :
      p.control = .free → p.isRunning = false → p.pool.closing ≠ .notBegun →
      Step S (.call (.start device)) p
        [.reported (Pool.openingLine p.workerCount), .renewed]
        { p with pool := Pool.ofSize p.workerCount, control := .opening device }
  | start {p : Pipeline σ} {device : String} :
      p.control = .free → p.isRunning = false → p.pool.closing = .notBegun →
      Step S (.call (.start device)) p [] { p with control := .opening device }
  | stop {p : Pipeline σ} :
      p.control = .free → p.isRunning = true →
      Step S (.call .stop) p [] { p with control := .stopping .done }
  | stopIdle {p : Pipeline σ} :
      p.control = .free → p.isRunning = false → Step S (.call .stop) p [.returned true] p
  | restart {p : Pipeline σ} {device : String} :
      p.control = .free → p.device = some device → p.isRunning = true →
      Step S (.call .restart) p [] { p with control := .stopping (.restart device) }
  | restartIdle {p : Pipeline σ} {device : String} :
      p.control = .free → p.device = some device → p.isRunning = false →
      Step S (.call .restart) p [] { p with control := .clearing device }
  | restartNever {p : Pipeline σ} :
      p.control = .free → p.device = none →
      Step S (.call .restart) p
        [say .warn "Restart requested before any capture was started", .returned false] p
  | open {p : Pipeline σ} {device : String} {source : σ} :
      p.control = .opening device → S.start? p.source device = some (.ok source) →
      Step S .control p (.opened :: reports (S.startLines device))
        { p with source := source, control := .spawning device }
  | refuse {p : Pipeline σ} {device : String} {e : Error} :
      p.control = .opening device → S.start? p.source device = some (.error e) →
      Step S .control p
        [say .warn ("Failed to start capture on " ++ device ++ ": " ++ e.message), .returned false]
        { p with control := .free }
  | spawn {p : Pipeline σ} {device : String} :
      p.control = .spawning device → Step S .control p (p.spawn device).2 (p.spawn device).1
  | halt {p : Pipeline σ} {after : AfterStop} {source : σ} :
      p.control = .stopping after → S.halt? p.source = some source →
      Step S .control p [] { p with source := source, control := .halting after }
  | finishHalt {p : Pipeline σ} {after : AfterStop} {source : σ} :
      p.control = .halting after → S.finishHalt? p.source = some source →
      Step S .control p (reports (S.haltLines p.source))
        { p with source := source, control := .marking after }
  | mark {p : Pipeline σ} {after : AfterStop} :
      p.control = .marking after →
      Step S .control p [.marked]
        { p with queue := p.queue.push .endOfStream, control := .joining after }
  | join {p : Pipeline σ} {after : AfterStop} :
      p.control = .joining after → p.dispatcher = .gone ∨ p.dispatcher = .absent →
      Step S .control p (if p.pool.isStopped then [] else [.reported p.pool.closingLine])
        { p with dispatcher := .absent, pool := p.pool.close, control := .closing after }
  | shut {p : Pipeline σ} {after : AfterStop} {pool : Pool Frame}
      {seen : List (Pool.Event Frame)} :
      p.control = .closing after → Pool.Step outcome .goOnClosing p.pool seen pool →
      Step S .control p (if pool.closing = .returned then [.reported Pool.closedLine] else [])
        { p with pool := pool }
  | finishStop {p : Pipeline σ} {after : AfterStop} :
      p.control = .closing after → p.pool.closing = .returned →
      Step S .control p (p.finishStop S after).2 (p.finishStop S after).1
  | clear {p : Pipeline σ} {device : String} :
      p.control = .clearing device →
      Step S .control p [.cleared] (p.clearStore S device).1
  | discard {p : Pipeline σ} {device : String} {count : Nat} {item : QueueItem Frame}
      {rest : List (QueueItem Frame)} :
      p.control = .discarding device count → p.queue.items = item :: rest →
      Step S .control p [.discarded item]
        { p with queue := ⟨rest⟩, control := .discarding device (count + 1) }
  | discardDone {p : Pipeline σ} {device : String} {count : Nat} :
      p.control = .discarding device count → p.queue.items = [] →
      Step S .control p
        (if count = 0 then []
          else [say .debug ("Discarded " ++ toString count ++ " queued items on restart")])
        { p with control := .renewing device }
  | renew {p : Pipeline σ} {device : String} :
      p.control = .renewing device →
      Step S .control p
        (.reported (Pool.openingLine p.workerCount) ::
          if p.pool.isStopped then [] else [.reported p.pool.closingLine])
        { p with pool := p.pool.close, control := .retiring device }
  | retire {p : Pipeline σ} {device : String} {pool : Pool Frame}
      {seen : List (Pool.Event Frame)} :
      p.control = .retiring device → Pool.Step outcome .goOnClosing p.pool seen pool →
      Step S .control p (if pool.closing = .returned then [.reported Pool.closedLine] else [])
        { p with pool := pool }
  | again {p : Pipeline σ} {device : String} :
      p.control = .retiring device → p.pool.closing = .returned → p.isRunning = false →
      Step S .control p [.renewed, say .info ("Restarting capture on " ++ device)]
        { p with pool := Pool.ofSize p.workerCount, control := .opening device }
  | againRunning {p : Pipeline σ} {device : String} :
      p.control = .retiring device → p.pool.closing = .returned → p.isRunning = true →
      Step S .control p
        [.renewed, say .info ("Restarting capture on " ++ device),
          say .warn ("Capture already running; ignoring start on " ++ device), .returned false]
        { p with pool := Pool.ofSize p.workerCount }
  | denyStart {p : Pipeline σ} {reason : String} :
      p.control = .free → p.isRunning = false → p.pool.closing ≠ .notBegun →
      Step S (.callDenied reason) p (p.poolDenied reason) p
  | denyRenew {p : Pipeline σ} {device reason : String} :
      p.control = .renewing device →
      Step S (.controlDenied reason) p (p.poolDenied reason) { p with control := .free }
  | denySpawn {p : Pipeline σ} {device reason : String} :
      p.control = .spawning device →
      Step S (.controlDenied reason) p
        [.denied, say .error ("Failed to spawn dispatcher thread: " ++ reason)]
        { p with control := .withdrawing }
  | withdraw {p : Pipeline σ} {source : σ} :
      p.control = .withdrawing → S.halt? p.source = some source →
      Step S .control p [] { p with source := source, control := .awaiting }
  | awaitHalt {p : Pipeline σ} {source : σ} :
      p.control = .awaiting → S.finishHalt? p.source = some source →
      Step S .control p (reports (S.haltLines p.source))
        { p with source := source, control := .emptying }
  | abandon {p : Pipeline σ} {item : QueueItem Frame} {rest : List (QueueItem Frame)} :
      p.control = .emptying → p.queue.items = item :: rest →
      Step S .control p [.abandoned item] { p with queue := ⟨rest⟩ }
  | giveUp {p : Pipeline σ} :
      p.control = .emptying → p.queue.items = [] →
      Step S .control p [.returned false] { p with control := .free }

/-! ## What is seen beside the turns of the pipeline -/

/-- Lines are all that a source reports. -/
theorem forall_reports {P : Event → Prop} (report : ∀ line, P (.reported line))
    (lines : List LogLine) : ∀ e ∈ reports lines, P e := by
  intro e he
  obtain ⟨line, -, rfl⟩ := List.mem_map.mp he
  exact report line

/-- Of a worker it is seen that it performs a task, and what it reports. -/
theorem workerEvent?_eq_some {inside : Pool.Event Frame} {e : Event} :
    workerEvent? inside = some e ↔
      (∃ frame, inside = .performed frame ∧ e = .performed frame) ∨
        ∃ line, inside = .reported line ∧ e = .reported line := by
  cases inside <;> simp [workerEvent?, eq_comm]

theorem forall_worker {P : Event → Prop} (perform : ∀ frame, P (.performed frame))
    (report : ∀ line, P (.reported line)) (inside : List (Pool.Event Frame)) :
    ∀ e ∈ inside.filterMap workerEvent?, P e := by
  intro e he
  obtain ⟨event, -, shown⟩ := List.mem_filterMap.mp he
  obtain ⟨frame, -, rfl⟩ | ⟨line, -, rfl⟩ := workerEvent?_eq_some.mp shown
  · exact perform frame
  · exact report line

/-! ## Every turn is one of these -/

theorem step_of_source {p q : Pipeline σ} {a : α} {seen : List Event}
    (turn : p.turn? S (.source a) = some (q, seen)) : Step S (.source a) p seen q := by
  simp only [turn?, sourceTurn?, Option.map_eq_some_iff] at turn
  obtain ⟨⟨source, passed⟩, moved, result⟩ := turn
  cases passed with
  | none => cases result; exact .rest moved
  | some frame => cases result; exact .sink moved

theorem step_of_dispatch {p q : Pipeline σ} {seen : List Event}
    (turn : p.turn? S .dispatch = some (q, seen)) : Step S .dispatch p seen q := by
  simp only [turn?, dispatch?] at turn
  split at turn
  · rename_i waiting
    cases items : p.queue.items with
    | nil => simp [fetch?, Queue.pop?, items] at turn
    | cons item rest =>
        cases item with
        | data frame =>
            simp only [fetch?, Queue.pop?, items, Option.some.injEq, Prod.mk.injEq] at turn
            obtain ⟨rfl, rfl⟩ := turn
            exact .fetch waiting items
        | endOfStream =>
            simp only [fetch?, Queue.pop?, items, Option.some.injEq, Prod.mk.injEq] at turn
            obtain ⟨rfl, rfl⟩ := turn
            exact .meet waiting items
  · rename_i frame holding
    cases stopped : p.pool.isStopped with
    | false =>
        have opened : p.pool.closing = .notBegun := Pool.not_isStopped_iff.mp stopped
        simp only [hand, Pool.submit, stopped, Bool.false_eq_true, if_false, if_true,
          Option.some.injEq, Prod.mk.injEq] at turn
        obtain ⟨rfl, rfl⟩ := turn
        exact .hand holding opened
    | true =>
        simp only [hand, Pool.submit, stopped, if_true, reduceCtorEq, if_false,
          Option.some.injEq, Prod.mk.injEq] at turn
        obtain ⟨rfl, rfl⟩ := turn
        exact .drop holding (Pool.isStopped_iff.mp stopped)
  · simp at turn

theorem step_of_work {p q : Pipeline σ} {index : Nat} {seen : List Event}
    (turn : p.turn? S (.work index) = some (q, seen)) : Step S (.work index) p seen q := by
  simp only [turn?, work?, Option.map_eq_some_iff] at turn
  obtain ⟨⟨pool, inside⟩, moved, result⟩ := turn
  cases result
  exact .work (Pool.step_of_work moved)

theorem step_of_start {p q : Pipeline σ} {device : String} {seen : List Event}
    (free : p.control = .free) (turn : p.beginStart device = (q, seen)) :
    Step S (.call (.start device)) p seen q := by
  unfold beginStart at turn
  split at turn
  · rename_i running
    cases turn
    exact .startRunning free running
  · rename_i notRunning
    have resting : p.isRunning = false := Bool.eq_false_iff.mpr notRunning
    split at turn
    · rename_i stopped
      cases turn
      exact .startRenewing free resting (Pool.isStopped_iff.mp stopped)
    · rename_i notStopped
      cases turn
      exact .start free resting (Pool.not_isStopped_iff.mp (Bool.eq_false_iff.mpr notStopped))

theorem step_of_stop {p q : Pipeline σ} {seen : List Event} (free : p.control = .free)
    (turn : p.beginStop = (q, seen)) : Step S (.call .stop) p seen q := by
  unfold beginStop at turn
  split at turn
  · rename_i running
    cases turn
    exact .stop free running
  · rename_i notRunning
    cases turn
    exact .stopIdle free (Bool.eq_false_iff.mpr notRunning)

theorem step_of_restart {p q : Pipeline σ} {seen : List Event} (free : p.control = .free)
    (turn : p.beginRestart = (q, seen)) : Step S (.call .restart) p seen q := by
  unfold beginRestart at turn
  split at turn
  · rename_i unknown
    cases turn
    exact .restartNever free unknown
  · rename_i device known
    split at turn
    · rename_i running
      cases turn
      exact .restart free known running
    · rename_i notRunning
      cases turn
      exact .restartIdle free known (Bool.eq_false_iff.mpr notRunning)

theorem step_of_call {p q : Pipeline σ} {c : Call} {seen : List Event}
    (turn : p.turn? S (.call c) = some (q, seen)) : Step S (.call c) p seen q := by
  simp only [turn?, call?] at turn
  split at turn
  · rename_i free
    cases c with
    | start device => exact step_of_start free (Option.some.inj turn)
    | stop => exact step_of_stop free (Option.some.inj turn)
    | restart => exact step_of_restart free (Option.some.inj turn)
  · simp at turn

/-- Closing the pool, in either of the places where the holder of the control lock
does so: the pool takes a turn, or it has closed and the holder goes on. -/
theorem goOnClosing?_eq_some {p q : Pipeline σ} {next : Pipeline σ → Pipeline σ × List Event}
    {seen : List Event} (turn : p.goOnClosing? next = some (q, seen)) :
    p.pool.closing = .returned ∧ next p = (q, seen) ∨
      ∃ pool inside, Pool.Step outcome .goOnClosing p.pool inside pool ∧
        q = { p with pool := pool } ∧
        seen = if pool.closing = .returned then [.reported Pool.closedLine] else [] := by
  unfold goOnClosing? at turn
  split at turn
  · rename_i returned
    exact .inl ⟨returned, Option.some.inj turn⟩
  · obtain ⟨pool, moved, result⟩ := Option.map_eq_some_iff.mp turn
    cases result
    refine .inr ⟨pool,
      if pool.closing = .returned then [.reported Pool.closedLine, .closed] else [],
      Pool.step_of_goOnClosing ?_, rfl, rfl⟩
    simp only [Pool.turn?, moved, Option.map_some]

theorem step_of_retiring {p q : Pipeline σ} {device : String} {seen : List Event}
    (retiring : p.control = .retiring device) (returned : p.pool.closing = .returned)
    (turn : startAgain device p = (q, seen)) : Step S .control p seen q := by
  have opened : (Pool.ofSize p.workerCount : Pool Frame).isStopped = false := rfl
  unfold startAgain beginStart at turn
  split at turn
  · rename_i begun
    split at begun
    · rename_i running
      cases begun
      cases turn
      exact .againRunning retiring returned running
    · rename_i notRunning
      rw [opened] at begun
      cases begun
      cases turn
      exact .again retiring returned (Bool.eq_false_iff.mpr notRunning)

theorem step_of_control {p q : Pipeline σ} {seen : List Event}
    (turn : p.turn? S .control = some (q, seen)) : Step S .control p seen q := by
  simp only [turn?, control?] at turn
  split at turn
  · simp at turn
  · rename_i device opening
    obtain ⟨answer, started, result⟩ := Option.map_eq_some_iff.mp turn
    cases answer with
    | ok source => cases result; exact .open opening started
    | error e => cases result; exact .refuse opening started
  · rename_i device spawning
    cases turn
    exact .spawn spawning
  · rename_i after stopping
    obtain ⟨source, halted, result⟩ := Option.map_eq_some_iff.mp turn
    cases result
    exact .halt stopping halted
  · rename_i after halting
    obtain ⟨source, halted, result⟩ := Option.map_eq_some_iff.mp turn
    cases result
    exact .finishHalt halting halted
  · rename_i after marking
    cases turn
    exact .mark marking
  · rename_i after joining
    unfold join? at turn
    split at turn
    · simp at turn
    · simp at turn
    · rename_i notWaiting notHolding
      cases turn
      refine .join joining ?_
      cases dispatcher : p.dispatcher with
      | absent => exact .inr rfl
      | gone => exact .inl rfl
      | waiting => exact absurd dispatcher notWaiting
      | holding frame => exact absurd dispatcher (notHolding frame)
  · rename_i after closing
    rcases goOnClosing?_eq_some turn with ⟨returned, result⟩ | ⟨pool, inside, moved, rfl, rfl⟩
    · obtain ⟨rfl, rfl⟩ := Prod.ext_iff.mp result
      exact .finishStop closing returned
    · exact .shut closing moved
  · rename_i device clearing
    cases turn
    exact .clear clearing
  · rename_i device count discarding
    unfold discard at turn
    cases items : p.queue.items with
    | nil =>
        simp only [Queue.pop?, items] at turn
        cases turn
        exact .discardDone discarding items
    | cons item rest =>
        simp only [Queue.pop?, items] at turn
        cases turn
        exact .discard discarding items
  · rename_i device renewing
    cases turn
    exact .renew renewing
  · rename_i device retiring
    rcases goOnClosing?_eq_some turn with ⟨returned, result⟩ | ⟨pool, inside, moved, rfl, rfl⟩
    · exact step_of_retiring retiring returned result
    · exact .retire retiring moved
  · rename_i withdrawing
    obtain ⟨source, halted, result⟩ := Option.map_eq_some_iff.mp turn
    cases result
    exact .withdraw withdrawing halted
  · rename_i awaiting
    obtain ⟨source, halted, result⟩ := Option.map_eq_some_iff.mp turn
    cases result
    exact .awaitHalt awaiting halted
  · rename_i emptying
    unfold Pipeline.abandon at turn
    cases items : p.queue.items with
    | nil =>
        simp only [Queue.pop?, items] at turn
        cases turn
        exact .giveUp emptying items
    | cons item rest =>
        simp only [Queue.pop?, items] at turn
        cases turn
        exact .abandon emptying items

theorem step_of_callDenied {p q : Pipeline σ} {reason : String} {seen : List Event}
    (turn : p.turn? S (.callDenied reason) = some (q, seen)) :
    Step S (.callDenied reason) p seen q := by
  simp only [turn?, callDenied?] at turn
  split at turn
  · rename_i free
    split at turn
    · rename_i needed
      simp only [Bool.and_eq_true, Bool.not_eq_true'] at needed
      cases turn
      exact .denyStart free needed.1 (Pool.isStopped_iff.mp needed.2)
    · cases turn
  · cases turn

theorem step_of_controlDenied {p q : Pipeline σ} {reason : String} {seen : List Event}
    (turn : p.turn? S (.controlDenied reason) = some (q, seen)) :
    Step S (.controlDenied reason) p seen q := by
  simp only [turn?, controlDenied?] at turn
  split at turn
  · rename_i device spawning
    cases turn
    exact .denySpawn spawning
  · rename_i device renewing
    cases turn
    exact .denyRenew renewing
  · cases turn

/-- Every turn of a pipeline is a step. -/
theorem step_of_turn {p q : Pipeline σ} {t : Turn α} {seen : List Event}
    (turn : p.turn? S t = some (q, seen)) : Step S t p seen q := by
  cases t with
  | source a => exact step_of_source turn
  | dispatch => exact step_of_dispatch turn
  | work index => exact step_of_work turn
  | call c => exact step_of_call turn
  | control => exact step_of_control turn
  | callDenied reason => exact step_of_callDenied turn
  | controlDenied reason => exact step_of_controlDenied turn

end PacketWatch.Pipeline
