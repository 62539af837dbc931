/-
# `PacketWatch.Proofs.Pipeline.Stranded` — frames that come too late wait for the next start

A source may use its sink after the stop, during it and between runs.  What it
pushes behind the end marker, or while no dispatcher is at work, is `stranded`: the
dispatcher of this run does not come to it.  It stays in the queue as it is, while
more may come behind it, until one of three things is seen.

    spawned      the next dispatcher hands it to the pool before anything else
    discarded    a restart drops it, oldest first
    abandoned    a start that was denied its dispatcher drops it, oldest first

The last is seen only where a thread was denied.  The main theorem puts this together
with what is known of the markers.  It is about every source and every run, and assumes
no more than that the run began with a new pipeline.  It does not say that a dispatcher or a stop ever comes to its end:
what may be seen is its subject, not what must happen.
-/
import PacketWatch.Proofs.Pipeline.Denials
import PacketWatch.Proofs.Pipeline.EndMarker
import PacketWatch.Source.Manual

namespace PacketWatch.Pipeline

variable {σ α : Type} {S : CaptureSource σ α}

/-! ## Stranded frames -/

/-- The frames among the items of a queue. -/
def framesOf (items : List (QueueItem Frame)) : List Frame :=
  items.filterMap fun
    | .data frame => some frame
    | .endOfStream => none

/-- The items behind the first end marker. -/
def behindMarker : List (QueueItem Frame) → List (QueueItem Frame)
  | [] => []
  | .data _ :: rest => behindMarker rest
  | .endOfStream :: rest => rest

/-- The frames that no dispatcher comes to before the next start. -/
def stranded (p : Pipeline σ) : List Frame :=
  framesOf (if p.dispatcher.isBusy then behindMarker p.queue.items else p.queue.items)

/-- Whether a marker is in the queue, or nobody is at work who could take one. -/
def IsPast (p : Pipeline σ) : Prop :=
  p.dispatcher.isBusy = false ∨ .endOfStream ∈ p.queue.items

theorem framesOf_append (items more : List (QueueItem Frame)) :
    framesOf (items ++ more) = framesOf items ++ framesOf more :=
  List.filterMap_append ..

/-- Items without a marker are frames. -/
theorem map_data_framesOf {items : List (QueueItem Frame)} (plain : .endOfStream ∉ items) :
    (framesOf items).map .data = items := by
  induction items with
  | nil => rfl
  | cons item items ih =>
      have rest := ih fun marker => plain (List.mem_cons_of_mem _ marker)
      cases item with
      | data frame => exact congrArg (.data frame :: ·) rest
      | endOfStream => exact absurd List.mem_cons_self plain

theorem behindMarker_plain {items : List (QueueItem Frame)} (plain : .endOfStream ∉ items) :
    behindMarker items = [] := by
  induction items with
  | nil => rfl
  | cons item items ih =>
      cases item with
      | data frame => exact ih fun marker => plain (List.mem_cons_of_mem _ marker)
      | endOfStream => exact absurd List.mem_cons_self plain

theorem behindMarker_append {items more : List (QueueItem Frame)} (marker : .endOfStream ∈ items) :
    behindMarker (items ++ more) = behindMarker items ++ more := by
  induction items with
  | nil => exact absurd marker List.not_mem_nil
  | cons item items ih =>
      cases item with
      | data frame =>
          refine ih ?_
          rcases List.mem_cons.mp marker with here | later
          · exact absurd here (by simp)
          · exact later
      | endOfStream => rfl

/-- A marker strands nothing by itself. -/
theorem framesOf_behindMarker_mark (items : List (QueueItem Frame)) :
    framesOf (behindMarker (items ++ [.endOfStream])) = framesOf (behindMarker items) := by
  by_cases marker : QueueItem.endOfStream ∈ items
  · rw [behindMarker_append marker, framesOf_append]
    exact List.append_nil _
  · rw [behindMarker_plain marker]
    induction items with
    | nil => rfl
    | cons item items ih =>
        have later : QueueItem.endOfStream ∉ items :=
          fun marker' => marker (List.mem_cons_of_mem _ marker')
        cases item with
        | data frame => exact ih later
        | endOfStream => exact absurd List.mem_cons_self marker

/-- Behind the marker, or with nobody at work, a frame that is pushed is stranded
behind all others. -/
theorem stranded_push {p q : Pipeline σ} {frame : Frame} (past : p.IsPast)
    (dispatcher : q.dispatcher = p.dispatcher) (items : q.queue = p.queue.push (.data frame)) :
    q.stranded = p.stranded ++ [frame] := by
  rw [stranded, stranded, dispatcher, items, Queue.push]
  rcases past with idle | marker
  · rw [idle]
    exact framesOf_append _ _
  · split
    · rw [behindMarker_append marker]
      exact framesOf_append _ _
    · exact framesOf_append _ _

/-- With a dispatcher at work and no marker in front of it, nothing is stranded. -/
theorem stranded_of_not_past {p : Pipeline σ} (before : ¬p.IsPast) : p.stranded = [] := by
  obtain ⟨notIdle, plain⟩ := not_or.mp before
  have busy : p.dispatcher.isBusy = true := by simpa using notIdle
  rw [stranded, busy, if_pos rfl, behindMarker_plain plain]
  rfl

theorem not_past_push {p q : Pipeline σ} {frame : Frame} (before : ¬p.IsPast)
    (dispatcher : q.dispatcher = p.dispatcher) (items : q.queue = p.queue.push (.data frame)) :
    ¬q.IsPast := by
  obtain ⟨notIdle, plain⟩ := not_or.mp before
  exact not_or.mpr ⟨dispatcher ▸ notIdle, Plain.push plain items⟩

/-- Where no dispatcher is at work and no marker is left, all of the queue is stranded. -/
theorem map_data_stranded {p : Pipeline σ} (absent : p.dispatcher = .absent) (plain : p.Plain) :
    p.stranded.map .data = p.queue.items := by
  rw [stranded, absent]
  exact map_data_framesOf plain

/-! ## They stay where they are -/

/-- What may touch a stranded frame. -/
def Event.stirs : Event → Bool
  | .spawned | .discarded _ | .abandoned _ => true
  | _ => false

/-- In any other turn the stranded frames stay as they are, or the source pushes one
behind them, too late for the dispatcher. -/
theorem Step.stranded {t : Turn α} {p q : Pipeline σ} {now : List Event} (step : Step S t p now q)
    (quiet : ∀ e ∈ now, e.stirs = false) :
    q.stranded = p.stranded ∨
      ∃ a source frame, S.turn? p.source a = some (source, some frame) ∧ p.IsPast ∧
        q.stranded = p.stranded ++ [frame] := by
  cases step with
  | sink passed =>
      by_cases past : p.IsPast
      · exact .inr ⟨_, _, _, passed, past, stranded_push past rfl rfl⟩
      · refine .inl (Eq.trans ?_ (stranded_of_not_past past).symm)
        exact stranded_of_not_past (not_past_push past rfl rfl)
  | fetch waiting items => simp [Pipeline.stranded, waiting, items, behindMarker]
  | meet waiting items => simp [Pipeline.stranded, waiting, items, behindMarker]
  | hand holding | drop holding => simp [Pipeline.stranded, holding]
  | spawn => exact absurd (quiet _ List.mem_cons_self) (by simp [Event.stirs])
  | mark =>
      left
      unfold Pipeline.stranded
      split
      · exact framesOf_behindMarker_mark _
      · exact (framesOf_append _ _).trans (List.append_nil _)
  | join joining left => rcases left with left | left <;> simp [Pipeline.stranded, left]
  | discard | abandon => exact absurd (quiet _ List.mem_cons_self) (by simp [Event.stirs])
  | @finishStop _ after => cases after <;> exact .inl rfl
  | _ => exact .inl rfl

theorem Step.stranded_prefix {t : Turn α} {p q : Pipeline σ} {now : List Event}
    (step : Step S t p now q) (quiet : ∀ e ∈ now, e.stirs = false) :
    p.stranded <+: q.stranded := by
  rcases step.stranded quiet with same | ⟨-, -, frame, -, -, more⟩
  · exact same ▸ List.prefix_rfl
  · exact more ▸ List.prefix_append _ _

/-! ## They are taken in order -/

/-- What was seen to leave the queue, and how. -/
def removals (seen : List Event) : List Event := seen.filter fun e => e.removed?.isSome

/-- Of some frames a part was taken, in order and before anything else; the part
that is kept is still in front, in the hands of `Taker`. -/
def TakenInOrder (how : Frame → Event) (Taker : Pipeline σ → Prop) (frames : List Frame)
    (later : List Event) (q : Pipeline σ) : Prop :=
  ∃ (taken kept : List Frame) (others : List Event),
    frames = taken ++ kept ∧ removals later = taken.map how ++ others ∧
      (kept ≠ [] → others = [] ∧ Taker q ∧ kept.map .data <+: q.inFlight)

/-- The places where the holder of the control lock drops the items of the queue, and how. -/
inductive Drops : Control → (QueueItem Frame → Event) → Prop
  | discarding (device : String) (count : Nat) : Drops (.discarding device count) .discarded
  | emptying : Drops .emptying .abandoned

/-- The holder of the control lock has come to frames that were let be so far, and drops them. -/
def Dropped (how : QueueItem Frame → Event) (frames : List Frame) (later : List Event)
    (q : Pipeline σ) : Prop :=
  ∃ before item after, later = before ++ how item :: after ∧ (∀ e ∈ before, e.stirs = false) ∧
    TakenInOrder (fun frame => how (.data frame)) (fun r => Drops r.control how) frames
      (how item :: after) q

/-- What becomes of stranded frames: they stay, the next dispatcher hands them to the
pool, or a restart discards them. -/
inductive Fate (frames : List Frame) : List Event → Pipeline σ → Prop
  | kept {later : List Event} {q : Pipeline σ} :
      (∀ e ∈ later, e.stirs = false) → frames <+: q.stranded → Fate frames later q
  | handed {before after : List Event} {q : Pipeline σ} :
      (∀ e ∈ before, e.stirs = false) →
      TakenInOrder .handed (fun r => r.dispatcher.isBusy = true) frames after q →
      Fate frames (before ++ .spawned :: after) q
  | discarded {later : List Event} {q : Pipeline σ} :
      Dropped .discarded frames later q → Fate frames later q

theorem removals_append (seen later : List Event) :
    removals (seen ++ later) = removals seen ++ removals later :=
  List.filter_append ..

theorem removedOf_of_removals {seen : List Event} {how : List Event} (h : removals seen = how) :
    removedOf seen = how.filterMap Event.removed? := by
  subst h
  induction seen with
  | nil => rfl
  | cons e seen ih =>
      cases shown : e.removed? with
      | none => simpa [removedOf, removals, shown] using ih
      | some item => simpa [removedOf, removals, shown] using ih

/-- Who takes frames one by one, and how each of its turns looks while the frame in
front is one of them. -/
def TakesEach (S : CaptureSource σ α) (how : Frame → Event) (Taker : Pipeline σ → Prop) : Prop :=
  ∀ {t : Turn α} {p q : Pipeline σ} {now : List Event} {frame : Frame},
    Step S t p now q → p.Coherent → Taker p → [.data frame] <+: p.inFlight →
      Taker q ∧ (removals now = [] ∨ removals now = [how frame])

/-- A turn more. -/
theorem TakenInOrder.turn {how : Frame → Event} {Taker : Pipeline σ → Prop}
    (takes : TakesEach S how Taker) (removed : ∀ frame, (how frame).removed? = some (.data frame))
    {t : Turn α} {p q : Pipeline σ} {frames : List Frame} {later now : List Event}
    (step : Step S t p now q) (coherent : p.Coherent)
    (inOrder : TakenInOrder how Taker frames later p) :
    TakenInOrder how Taker frames (later ++ now) q := by
  obtain ⟨taken, kept, others, rfl, shown, front⟩ := inOrder
  cases kept with
  | nil =>
      refine ⟨taken, [], others ++ removals now, rfl, ?_, fun some => absurd rfl some⟩
      rw [removals_append, shown, List.append_assoc]
  | cons frame kept =>
      obtain ⟨rfl, taker, rest, lead⟩ := front (List.cons_ne_nil _ _)
      have account := step.fifo coherent
      have first : [.data frame] <+: p.inFlight := ⟨_, by rw [← lead]; rfl⟩
      obtain ⟨still, idle | one⟩ := takes step coherent taker first
      · -- nothing leaves: all of them stay in front
        have nothing : removedOf now = [] := removedOf_of_removals idle
        refine ⟨taken, frame :: kept, [], rfl, ?_, fun _ => ⟨rfl, still, ?_⟩⟩
        · rw [removals_append, shown, idle, List.append_nil]
        · rw [nothing, List.nil_append] at account
          rw [← account, ← lead, List.append_assoc]
          exact List.prefix_append _ _
      · -- the first of them leaves
        have gone : removedOf now = [.data frame] := by
          rw [removedOf_of_removals one]
          simp [removed]
        refine ⟨taken ++ [frame], kept, [], by simp, ?_, fun _ => ⟨rfl, still, ?_⟩⟩
        · rw [removals_append, shown, one]
          simp
        · rw [gone, ← lead] at account
          exact ⟨rest ++ pushedOf now, by simpa using account⟩

theorem removals_reports (lines : List LogLine) : removals (reports lines) = [] :=
  List.filter_eq_nil_iff.mpr (forall_reports (fun _ => Bool.false_ne_true) lines)

theorem removals_worker (inside : List (Pool.Event Frame)) :
    removals (inside.filterMap workerEvent?) = [] :=
  List.filter_eq_nil_iff.mpr
    (forall_worker (fun _ => Bool.false_ne_true) (fun _ => Bool.false_ne_true) inside)

/-- A dispatcher hands frames on one by one, to a pool that accepts them. -/
theorem takesEach_handed :
    TakesEach S .handed fun r : Pipeline σ => r.dispatcher.isBusy = true := by
  intro t p q now frame step coherent busy first
  obtain ⟨opened, here⟩ := coherent.phase.of_busy busy
  have notAbsent : p.dispatcher ≠ .absent := by
    intro absent
    rw [absent] at busy
    simp at busy
  cases step with
  | fetch => exact ⟨rfl, .inl rfl⟩
  | meet waiting items =>
      obtain ⟨rest, lead⟩ := first
      rw [inFlight, waiting, items] at lead
      cases lead
  | @hand _ frame' holding =>
      obtain ⟨rest, lead⟩ := first
      rw [inFlight, holding] at lead
      cases lead
      exact ⟨rfl, .inr rfl⟩
  | drop holding closed => exact absurd opened closed
  | spawn => exact ⟨rfl, .inl rfl⟩
  | join joining left => rcases left with left | left <;> rw [left] at busy <;> simp at busy
  | discard here | abandon here =>
      have phase := coherent.phase
      rw [here] at phase
      exact absurd phase.1 notAbsent
  | @finishStop _ after => cases after <;> exact ⟨busy, .inl rfl⟩
  | «open» => exact ⟨busy, .inl (removals_reports _)⟩
  | finishHalt | awaitHalt => exact ⟨busy, .inl (removals_reports _)⟩
  | work => exact ⟨busy, .inl (removals_worker _)⟩
  | shut | retire | discardDone | renew => exact ⟨busy, .inl (by split <;> rfl)⟩
  | _ => exact ⟨busy, .inl rfl⟩

/-- Where items are dropped, no dispatcher is there to take them. -/
theorem Drops.absent {p : Pipeline σ} {how : QueueItem Frame → Event}
    (drops : Drops p.control how) (coherent : p.Coherent) : p.dispatcher = .absent ∧ p.Plain := by
  have phase := coherent.phase
  cases here : p.control with
  | discarding | emptying =>
      rw [here] at phase
      exact ⟨phase.1, phase.2.2⟩
  | _ =>
      rw [here] at drops
      cases drops

/-- The holder of the control lock drops the items one by one. -/
theorem takesEach_dropped (how : QueueItem Frame → Event) :
    TakesEach S (fun frame => how (.data frame))
      fun r : Pipeline σ => Drops r.control how := by
  intro t p q now frame step coherent drops first
  have absent := (drops.absent coherent).1
  cases step with
  | rest | sink => exact ⟨drops, .inl rfl⟩
  | work => exact ⟨drops, .inl (removals_worker _)⟩
  | fetch busy | meet busy | hand busy | drop busy => rw [absent] at busy; cases busy
  | discard here items =>
      obtain ⟨others, lead⟩ := first
      rw [inFlight, absent, items] at lead
      rw [here] at drops
      cases drops
      cases lead
      exact ⟨.discarding .., .inr rfl⟩
  | abandon here items =>
      obtain ⟨others, lead⟩ := first
      rw [inFlight, absent, items] at lead
      rw [here] at drops
      cases drops
      cases lead
      exact ⟨here ▸ .emptying, .inr rfl⟩
  | discardDone here items | giveUp here items =>
      obtain ⟨others, lead⟩ := first
      rw [inFlight, absent, items] at lead
      cases lead
  | startRunning here | startRenewing here | start here | stop here | stopIdle here | restart here
  | restartIdle here | restartNever here | «open» here | refuse here | spawn here | halt here
  | finishHalt here | mark here | join here | shut here | finishStop here | clear here | renew here
  | retire here | again here | againRunning here | denyStart here | denyRenew here | denySpawn here
  | withdraw here | awaitHalt here =>
      rw [here] at drops
      cases drops

/-! ## What becomes of them -/

theorem reports_still (lines : List LogLine) : ∀ e ∈ reports lines, e.stirs = false :=
  forall_reports (fun _ => rfl) lines

/-- A turn either lets stranded frames be, or sets a dispatcher to work, or drops the
oldest item. -/
theorem Step.still_or {t : Turn α} {p q : Pipeline σ} {now : List Event} (step : Step S t p now q) :
    (∀ e ∈ now, e.stirs = false) ∨
      (∃ device, p.control = .spawning device ∧ now = (p.spawn device).2 ∧
        q = (p.spawn device).1) ∨
      ∃ how item rest, Drops p.control how ∧ p.queue.items = item :: rest ∧ now = [how item] ∧
        q.dispatcher = p.dispatcher ∧ q.queue.items = rest ∧ Drops q.control how := by
  cases step with
  | @spawn _ device spawning => exact .inr (.inl ⟨device, spawning, rfl, rfl⟩)
  | discard here items =>
      exact .inr (.inr ⟨_, _, _, here ▸ .discarding .., items, rfl, rfl, rfl, .discarding ..⟩)
  | abandon here items =>
      exact .inr (.inr ⟨_, _, _, here ▸ .emptying, items, rfl, rfl, rfl, here ▸ .emptying⟩)
  | finishHalt | awaitHalt => exact .inl (reports_still _)
  | denyStart | denyRenew => exact .inl (by simp [poolDenied, Event.stirs, say])
  | work => exact .inl (forall_worker (fun _ => rfl) (fun _ => rfl) _)
  | «open» | drop =>
      refine .inl fun e he => ?_
      rcases List.mem_cons.mp he with rfl | line
      · rfl
      · exact reports_still _ e line
  | shut | retire | join | discardDone | renew =>
      refine .inl ?_
      split <;> simp [Event.stirs, say]
  | @finishStop _ after => cases after <;> simp [Pipeline.finishStop, Event.stirs, say]
  | _ => exact .inl (by simp [Event.stirs, say])

theorem Drops.eq {control : Control} {how : QueueItem Frame → Event} (drops : Drops control how) :
    (∃ device count, control = .discarding device count ∧ how = .discarded) ∨
      control = .emptying ∧ how = .abandoned := by
  cases drops with
  | discarding device count => exact .inl ⟨device, count, rfl, rfl⟩
  | emptying => exact .inr ⟨rfl, rfl⟩

/-- A turn more, once items are dropped. -/
theorem Dropped.turn {t : Turn α} {p q : Pipeline σ} {how : QueueItem Frame → Event}
    {frames : List Frame} {later now : List Event} (step : Step S t p now q)
    (removed : ∀ item, (how item).removed? = some item) (coherent : p.Coherent)
    (dropped : Dropped how frames later p) : Dropped how frames (later ++ now) q := by
  obtain ⟨before, item, after, rfl, quiet, inOrder⟩ := dropped
  refine ⟨before, item, after ++ now, by rw [List.append_assoc, List.cons_append], quiet, ?_⟩
  exact inOrder.turn (takesEach_dropped how) (fun frame => removed (.data frame)) step coherent

/-- The first item that is dropped is the first of the frames that were let be so far. -/
theorem Dropped.begin {p q : Pipeline σ} {how : QueueItem Frame → Event} {frames : List Frame}
    {later : List Event} {item : QueueItem Frame} {rest : List (QueueItem Frame)}
    (coherent : p.Coherent) (quiet : ∀ e ∈ later, e.stirs = false) (inFront : frames <+: p.stranded)
    (drops : Drops p.control how) (items : p.queue.items = item :: rest)
    (same : q.dispatcher = p.dispatcher) (left : q.queue.items = rest)
    (taker : Drops q.control how) : Dropped how frames (later ++ [how item]) q := by
  obtain ⟨absent, plain⟩ := drops.absent coherent
  have shown : removals [how item] = [how item] := by
    rcases drops.eq with ⟨-, -, -, rfl⟩ | ⟨-, rfl⟩ <;> rfl
  have lead := inFront.map QueueItem.data
  rw [map_data_stranded absent plain, items] at lead
  refine ⟨later, item, [], rfl, quiet, ?_⟩
  cases frames with
  | nil => exact ⟨[], [], [how item], rfl, shown, fun some => absurd rfl some⟩
  | cons frame frames =>
      rw [List.map_cons, List.cons_prefix_cons] at lead
      obtain ⟨rfl, lead⟩ := lead
      refine ⟨[frame], frames, [], rfl, shown, fun _ => ⟨rfl, taker, ?_⟩⟩
      rwa [inFlight, same, left, absent]

/-- A turn more decides what becomes of stranded frames, or leaves it open. -/
theorem Fate.turn {t : Turn α} {p q : Pipeline σ} {frames : List Frame} {later now : List Event}
    (step : Step S t p now q) (coherent : p.Coherent) (fate : Fate frames later p) :
    Fate frames (later ++ now) q ∨ Dropped .abandoned frames (later ++ now) q := by
  cases fate with
  | handed quiet inOrder =>
      rw [List.append_assoc, List.cons_append]
      exact .inl (.handed quiet (inOrder.turn takesEach_handed (fun _ => rfl) step coherent))
  | discarded dropped => exact .inl (.discarded (dropped.turn step (fun _ => rfl) coherent))
  | kept quiet inFront =>
      rcases step.still_or with still | ⟨device, spawning, rfl, rfl⟩ |
        ⟨how, item, rest, drops, items, rfl, same, left, taker⟩
      · refine .inl (.kept (fun e he => ?_) (inFront.trans (step.stranded_prefix still)))
        exact (List.mem_append.mp he).elim (quiet e) (still e)
      · -- the next dispatcher finds them in front of all else
        have phase := coherent.phase
        rw [spawning] at phase
        have lead := inFront.map QueueItem.data
        rw [map_data_stranded phase.1 phase.2.2] at lead
        exact .inl (.handed quiet ⟨[], frames, [], rfl, rfl, fun _ => ⟨rfl, rfl, lead⟩⟩)
      · have dropped := Dropped.begin coherent quiet inFront drops items same left taker
        rcases taker.eq with ⟨-, -, -, rfl⟩ | ⟨-, rfl⟩
        · exact .inl (.discarded dropped)
        · exact .inr dropped

end PacketWatch.Pipeline
