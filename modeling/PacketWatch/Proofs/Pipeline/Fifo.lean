/-
# `PacketWatch.Proofs.Pipeline.Fifo` — items leave the queue in the order in which they came

What is seen of a run says what went into the queue (`pushedOf`) and what left it
for good (`removedOf`): to the pool, to the dispatcher as an end marker, discarded
by a restart, or abandoned by a start that got no dispatcher.  Between the two stands
`inFlight`, the item in the dispatcher's hands and the items behind it.  Every run keeps

    inFlight before ++ pushed = removed ++ inFlight after

as lists, so nothing is lost, nothing comes twice and nothing overtakes.  The one
thing needed of the state is that no frame is in the dispatcher's hands while the
holder of the control lock drops items, which is part of `Coherent`.
-/
import PacketWatch.Pipeline.Schedule
import PacketWatch.Proofs.Pipeline.Phases
import PacketWatch.Proofs.Runs

namespace PacketWatch

/-- The items in a dispatcher's hands. -/
def Dispatcher.held : Dispatcher Frame → List (QueueItem Frame)
  | .holding frame => [.data frame]
  | .absent | .waiting | .gone => []

namespace Pipeline

variable {σ α : Type} {S : CaptureSource σ α}

/-- What an event puts into the queue. -/
def Event.pushed? : Event → Option (QueueItem Frame)
  | .sunk frame => some (.data frame)
  | .marked => some .endOfStream
  | _ => none

/-- What an event takes out of the queue for good. -/
def Event.removed? : Event → Option (QueueItem Frame)
  | .handed frame | .dropped frame => some (.data frame)
  | .discarded item | .abandoned item => some item
  | .ended => some .endOfStream
  | _ => none

def pushedOf (seen : List Event) : List (QueueItem Frame) := seen.filterMap Event.pushed?

def removedOf (seen : List Event) : List (QueueItem Frame) := seen.filterMap Event.removed?

/-- What has gone into the queue and not left it for good, oldest first. -/
def inFlight (p : Pipeline σ) : List (QueueItem Frame) := p.dispatcher.held ++ p.queue.items

theorem pushedOf_append (seen later : List Event) :
    pushedOf (seen ++ later) = pushedOf seen ++ pushedOf later :=
  List.filterMap_append ..

theorem removedOf_append (seen later : List Event) :
    removedOf (seen ++ later) = removedOf seen ++ removedOf later :=
  List.filterMap_append ..

theorem sunkOf_append (seen later : List Event) :
    sunkOf (seen ++ later) = sunkOf seen ++ sunkOf later :=
  List.filterMap_append ..

/-! ## What is seen beside it -/

theorem pushedOf_reports (lines : List LogLine) : pushedOf (reports lines) = [] :=
  List.filterMap_eq_nil_iff.mpr (forall_reports (fun _ => rfl) lines)

theorem removedOf_reports (lines : List LogLine) : removedOf (reports lines) = [] :=
  List.filterMap_eq_nil_iff.mpr (forall_reports (fun _ => rfl) lines)

theorem sunkOf_reports (lines : List LogLine) : sunkOf (reports lines) = [] :=
  List.filterMap_eq_nil_iff.mpr (forall_reports (fun _ => rfl) lines)

/-- Workers have nothing to do with the queue. -/
theorem pushedOf_worker (inside : List (Pool.Event Frame)) :
    pushedOf (inside.filterMap workerEvent?) = [] :=
  List.filterMap_eq_nil_iff.mpr (forall_worker (fun _ => rfl) (fun _ => rfl) inside)

theorem removedOf_worker (inside : List (Pool.Event Frame)) :
    removedOf (inside.filterMap workerEvent?) = [] :=
  List.filterMap_eq_nil_iff.mpr (forall_worker (fun _ => rfl) (fun _ => rfl) inside)

theorem sunkOf_worker (inside : List (Pool.Event Frame)) :
    sunkOf (inside.filterMap workerEvent?) = [] :=
  List.filterMap_eq_nil_iff.mpr (forall_worker (fun _ => rfl) (fun _ => rfl) inside)

/-! ## The account -/

/-- A turn that does not touch the queue. -/
theorem fifo_of_aside {p q : Pipeline σ} {seen : List Event} (pushed : pushedOf seen = [])
    (removed : removedOf seen = []) (same : q.inFlight = p.inFlight) :
    p.inFlight ++ pushedOf seen = removedOf seen ++ q.inFlight := by
  rw [pushed, removed, same, List.append_nil, List.nil_append]

/-- What is in flight, with what a turn adds behind it, is what the turn takes from
the front, with what is in flight then. -/
theorem Step.fifo {t : Turn α} {p q : Pipeline σ} {seen : List Event}
    (step : Step S t p seen q) (coherent : p.Coherent) :
    p.inFlight ++ pushedOf seen = removedOf seen ++ q.inFlight := by
  have phase := coherent.phase
  cases step with
  | rest | startRunning | startRenewing | start | stop | stopIdle | restart | restartIdle
  | restartNever | refuse | halt | clear | again | againRunning | denyStart | denyRenew | denySpawn
  | withdraw | giveUp => exact fifo_of_aside rfl rfl rfl
  | «open» | finishHalt | awaitHalt =>
      exact fifo_of_aside (pushedOf_reports _) (removedOf_reports _) rfl
  | work => exact fifo_of_aside (pushedOf_worker _) (removedOf_worker _) rfl
  | shut | retire | discardDone | renew =>
      refine fifo_of_aside ?_ ?_ rfl <;> split <;> rfl
  | @finishStop _ after => cases after <;> exact fifo_of_aside rfl rfl rfl
  | sink | mark => exact List.append_assoc ..
  | fetch waiting items =>
      refine fifo_of_aside rfl rfl ?_
      rw [inFlight, inFlight, waiting, items]
      rfl
  | meet waiting items =>
      rw [inFlight, inFlight, waiting, items]
      exact List.append_nil _
  | hand holding =>
      rw [inFlight, inFlight, holding]
      exact List.append_nil _
  | drop holding =>
      rw [inFlight, inFlight, holding]
      exact List.append_nil _
  | spawn spawning =>
      rw [spawning] at phase
      refine fifo_of_aside rfl rfl ?_
      rw [inFlight, inFlight, phase.1]
      rfl
  | join joining left =>
      refine fifo_of_aside ?_ ?_ ?_
      · split <;> rfl
      · split <;> rfl
      · rw [inFlight, inFlight]
        rcases left with left | left
        · rw [left]; rfl
        · rw [left]
  | discard here items | abandon here items =>
      rw [here] at phase
      rw [inFlight, inFlight, items, phase.1]
      exact List.append_nil _

/-- The account of a run. -/
theorem fifo_of_run {p q : Pipeline σ} {seen : List Event} (run : (machine S).Run p seen q)
    (coherent : p.Coherent) :
    p.inFlight ++ pushedOf seen = removedOf seen ++ q.inFlight := by
  induction run with
  | here => simp [pushedOf, removedOf]
  | @turn u v t seen now run turn ih =>
      have step := (step_of_turn turn).fifo (coherent_of_run run coherent)
      calc p.inFlight ++ pushedOf (seen ++ now)
          = (p.inFlight ++ pushedOf seen) ++ pushedOf now := by
            rw [pushedOf_append, List.append_assoc]
        _ = removedOf seen ++ (u.inFlight ++ pushedOf now) := by rw [ih, List.append_assoc]
        _ = removedOf (seen ++ now) ++ v.inFlight := by
            rw [step, removedOf_append, List.append_assoc]

end Pipeline

end PacketWatch
