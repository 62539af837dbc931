/-
# `PacketWatch.Proofs.Source.Contract` — what a source promises to its user

A source is used in a circle: it starts, it is told to halt, the call to halt
returns.

    idle --start--> active --halt--> halting --finishHalt--> idle

Its own threads may take turns anywhere on the way.  Four promises are stated over the
states that it comes to so.

    SilentWhenIdle   no frame is passed to the sink before a start, or after the call to
                     halt has returned
    StillWhenIdle    nothing at all happens to it then
    TellsActivity    it says that it is running while a capture is active, and not while
                     it is idle
    KeepsCount       it counts the frames that it has passed to the sink: never more, and
                     all of them when it is idle

All are kept by a source that replays a script, and all but the second also while its
switches are thrown, proved below; the first is not kept by a source that is driven by hand,
which uses its sink for good.  A source that refuses to start stays as it was, so a refusal
is no move.
-/
import PacketWatch.Source.Scripted

namespace PacketWatch

namespace CaptureSource

/-- What a source is doing for its user. -/
inductive Activity where
  | idle
  | active
  | halting

def Activity.isIdle : Activity → Bool
  | .idle => true
  | .active | .halting => false

variable {σ α : Type}

/-- The states that a source comes to which is used in order. -/
inductive Reached (S : CaptureSource σ α) (new : σ) : Activity → σ → Prop
  | new : Reached S new .idle new
  | turn {activity : Activity} {s t : σ} {a : α} {passed : Option Frame} :
      Reached S new activity s → S.turn? s a = some (t, passed) → Reached S new activity t
  | start {s t : σ} {device : String} :
      Reached S new .idle s → S.start? s device = some (.ok t) → Reached S new .active t
  | halt {s t : σ} : Reached S new .active s → S.halt? s = some t → Reached S new .halting t
  | finishHalt {s t : σ} :
      Reached S new .halting s → S.finishHalt? s = some t → Reached S new .idle t

/-- No frame is passed to the sink outside an active capture. -/
def SilentWhenIdle (S : CaptureSource σ α) (new : σ) : Prop :=
  ∀ {s t : σ} {a : α} {frame : Frame}, Reached S new .idle s → S.turn? s a ≠ some (t, some frame)

/-- Outside a capture the threads of a source pass nothing and change nothing. -/
def StillWhenIdle (S : CaptureSource σ α) (new : σ) : Prop :=
  ∀ {s t : σ} {a : α} {passed : Option Frame}, Reached S new .idle s →
    S.turn? s a = some (t, passed) → t = s ∧ passed = none

/-- A source says that it is running just while a capture is active.  Nothing is said of a
source that was told to halt and has not halted yet. -/
structure TellsActivity (S : CaptureSource σ α) (new : σ) : Prop where
  idle : ∀ {s : σ}, Reached S new .idle s → S.isRunning s = false
  active : ∀ {s : σ}, Reached S new .active s → S.isRunning s = true

/-! ## What was delivered -/

/-- What happens to a source that is used in order, and the frames that it passes to the sink;
`stay` is a turn of somebody else. -/
inductive Move (S : CaptureSource σ α) : Activity → σ → List Frame → Activity → σ → Prop
  | stay {activity : Activity} {s : σ} : Move S activity s [] activity s
  | turn {activity : Activity} {s t : σ} {a : α} {passed : Option Frame} :
      S.turn? s a = some (t, passed) → Move S activity s passed.toList activity t
  | start {s t : σ} {device : String} :
      S.start? s device = some (.ok t) → Move S .idle s [] .active t
  | halt {s t : σ} : S.halt? s = some t → Move S .active s [] .halting t
  | finishHalt {s t : σ} : S.finishHalt? s = some t → Move S .halting s [] .idle t

/-- The states that a source comes to which is used in order, with the number of frames that
it has passed to the sink by then. -/
inductive Delivered (S : CaptureSource σ α) (new : σ) : Activity → Nat → σ → Prop
  | new : Delivered S new .idle 0 new
  | move {before after : Activity} {n : Nat} {s t : σ} {passed : List Frame} :
      Delivered S new before n s → Move S before s passed after t →
        Delivered S new after (n + passed.length) t

/-- A source counts what it delivers.  A frame that was passed to the sink may not be counted
yet, but all are when the source is idle. -/
structure KeepsCount (S : CaptureSource σ α) (new : σ) : Prop where
  atMost : ∀ {activity : Activity} {n : Nat} {s : σ}, Delivered S new activity n s →
    S.captured s ≤ S.captured new + n
  whenIdle : ∀ {n : Nat} {s : σ}, Delivered S new .idle n s → S.captured s = S.captured new + n

variable {S : CaptureSource σ α} {new : σ}

theorem Reached.move {before after : Activity} {s t : σ} {passed : List Frame}
    (reached : Reached S new before s) (move : Move S before s passed after t) :
    Reached S new after t := by
  cases move with
  | stay => exact reached
  | turn moved => exact reached.turn moved
  | start started => exact reached.start started
  | halt halted => exact reached.halt halted
  | finishHalt halted => exact reached.finishHalt halted

/-- A silent source passes nothing to the sink in a move that it makes while it is idle. -/
theorem Move.silent {after : Activity} {s t : σ} {passed : List Frame}
    (move : Move S .idle s passed after t) (silent : SilentWhenIdle S new)
    (reached : Reached S new .idle s) : passed = [] := by
  cases move with
  | stay | start => rfl
  | @turn _ _ _ _ passed moved =>
      cases passed with
      | none => rfl
      | some frame => exact absurd moved (silent reached)

theorem Delivered.reached {activity : Activity} {n : Nat} {s : σ}
    (delivered : Delivered S new activity n s) : Reached S new activity s := by
  induction delivered with
  | new => exact .new
  | move _ moved ih => exact ih.move moved

end CaptureSource

/-! ## The source that replays a script -/

namespace ScriptedSource

open CaptureSource
  (Activity Reached SilentWhenIdle StillWhenIdle TellsActivity Delivered KeepsCount)

/-- What holds of a scripted source while it does something. -/
def InActivity (s : ScriptedSource) : Activity → Prop
  | .idle => s.lock = .free ∧ s.hasSink = false ∧ s.isReplayed = true
  | .active => s.device.isSome = true
  | .halting => ∃ device, s.lock = .stopping device ∧ s.hasSink = false

/-- A turn of another thread of an idle source passes nothing and changes nothing. -/
theorem deliver?_idle {s t : ScriptedSource} {d : Delivery} {passed : Option Frame}
    (idle : s.InActivity .idle) (turn : s.deliver? d = some (t, passed)) :
    t = s ∧ passed = none := by
  obtain ⟨free, noSink, replayed⟩ := idle
  cases d with
  | replay =>
      simp only [deliver?, replayNext?] at turn
      unfold isReplayed at replayed
      split at replayed <;> simp_all
  | inject frame =>
      simp only [deliver?, inject?, free, noSink] at turn
      simpa [eq_comm] using turn
  | countInjected => simp [deliver?, countInjected?, free] at turn

/-- What no delivery changes. -/
theorem deliver?_kept {s t : ScriptedSource} {d : Delivery} {passed : Option Frame}
    (turn : s.deliver? d = some (t, passed)) :
    t.device = s.device ∧ t.isRunning = s.isRunning := by
  cases d with
  | replay =>
      simp only [deliver?, replayNext?] at turn
      split at turn <;> simp at turn <;> simp [← turn.1]
  | inject frame =>
      simp only [deliver?, inject?] at turn
      split at turn
      · simp at turn
      · split at turn <;> simp at turn <;> simp [← turn.1]
  | countInjected =>
      simp only [deliver?, countInjected?] at turn
      split at turn <;> simp at turn
      simp [← turn.1]

theorem deliver?_active {s t : ScriptedSource} {d : Delivery} {passed : Option Frame}
    (active : s.InActivity .active) (turn : s.deliver? d = some (t, passed)) :
    t.InActivity .active := by
  show t.device.isSome = true
  rw [(deliver?_kept turn).1]
  exact active

theorem deliver?_halting {s t : ScriptedSource} {d : Delivery} {passed : Option Frame}
    (halting : s.InActivity .halting) (turn : s.deliver? d = some (t, passed)) :
    t.InActivity .halting := by
  obtain ⟨device, held, noSink⟩ := halting
  cases d with
  | replay =>
      simp only [deliver?, replayNext?] at turn
      split at turn <;> simp at turn <;> exact ⟨device, by simp [← turn.1, held, noSink]⟩
  | inject frame => simp [deliver?, inject?, held] at turn
  | countInjected => simp [deliver?, countInjected?, held] at turn

theorem handle?_inActivity {s t : ScriptedSource} {h : Handling} {passed : Option Frame}
    {activity : Activity} (holds : s.InActivity activity)
    (turn : s.handle? h = some (t, passed)) : t.InActivity activity := by
  cases h with
  | deliver d =>
      cases activity with
      | idle => exact (deliver?_idle holds turn).1 ▸ holds
      | active => exact deliver?_active holds turn
      | halting => exact deliver?_halting holds turn
  | setFailOpen fail | setFailStart fail =>
      -- what is said of an activity does not look at the switches
      cases turn
      cases activity <;> exact holds

/-- A start that succeeds finds the lock free. -/
theorem start?_eq_ok {s t : ScriptedSource} {device : String}
    (started : s.start? device true = some (.ok t)) : s.lock = .free ∧ t = s.begin device := by
  simp only [start?] at started
  split at started
  · simp at started
  · rename_i held
    split at started
    · simp at started
    · cases started
      exact ⟨by simpa using held, rfl⟩

theorem halt?_active {s t : ScriptedSource} (active : s.InActivity .active)
    (halted : s.halt? = some t) :
    s.lock = .free ∧ ∃ device, t = { s with
      lock := .stopping device, device := none, hasSink := false, stopRequested := true } := by
  simp only [halt?] at halted
  split at halted
  · simp at halted
  · rename_i held
    split at halted
    · rename_i none
      exact absurd (show s.device.isSome = true from active) (by simp [none])
    · cases halted
      exact ⟨by simpa using held, _, rfl⟩

theorem finishHalt?_halting {s t : ScriptedSource} (halting : s.InActivity .halting)
    (halted : s.finishHalt? = some t) :
    s.isReplayed = true ∧ t = { s with lock := .free, replay := none, isRunning := false } := by
  obtain ⟨device, held, -⟩ := halting
  simp only [finishHalt?, held] at halted
  split at halted
  · rename_i replayed
    cases halted
    exact ⟨replayed, rfl⟩
  · simp at halted

/-- What holds of a scripted source follows it around. -/
theorem inActivity_of_switched {new s : ScriptedSource} {activity : Activity}
    (idle : new.InActivity .idle) (reached : Reached switched new activity s) :
    s.InActivity activity := by
  induction reached with
  | new => exact idle
  | turn _ turn ih => exact handle?_inActivity ih turn
  | start _ started =>
      obtain ⟨-, rfl⟩ := start?_eq_ok started
      rfl
  | halt _ halted ih =>
      obtain ⟨-, device, rfl⟩ := halt?_active ih halted
      exact ⟨device, rfl, rfl⟩
  | finishHalt _ halted ih =>
      obtain ⟨-, rfl⟩ := finishHalt?_halting ih halted
      obtain ⟨device, -, noSink⟩ := ih
      exact ⟨rfl, noSink, rfl⟩

/-- Nobody has to throw a switch. -/
theorem switched_of_reached {new s : ScriptedSource} {activity : Activity}
    (reached : Reached source new activity s) : Reached switched new activity s := by
  induction reached with
  | new => exact .new
  | @turn _ _ _ d _ _ turn ih => exact .turn (a := .deliver d) ih turn
  | start _ started ih => exact .start ih started
  | halt _ halted ih => exact .halt ih halted
  | finishHalt _ halted ih => exact .finishHalt ih halted

/-- A scripted source is silent when idle. -/
theorem silentWhenIdle {new : ScriptedSource} (idle : new.InActivity .idle) :
    SilentWhenIdle source new := by
  intro s t d frame reached turn
  have here := inActivity_of_switched idle (switched_of_reached reached)
  have nothing := (deliver?_idle here turn).2
  exact absurd nothing (by simp)

/-- It is still when idle: the replay has ended, and frames that are handed in are declined. -/
theorem stillWhenIdle {new : ScriptedSource} (idle : new.InActivity .idle) :
    StillWhenIdle source new := by
  intro s t d passed reached turn
  exact deliver?_idle (inActivity_of_switched idle (switched_of_reached reached)) turn

/-- It says that it is running from a start until the call to halt returns. -/
theorem isRunning_of_switched {new s : ScriptedSource} {activity : Activity}
    (idle : new.InActivity .idle) (resting : new.isRunning = false)
    (reached : Reached switched new activity s) : s.isRunning = !activity.isIdle := by
  induction reached with
  | new => exact resting
  | @turn activity s t h passed _ turn ih =>
      refine Eq.trans ?_ ih
      cases h with
      | deliver d => exact (deliver?_kept turn).2
      | setFailOpen fail | setFailStart fail => cases turn; rfl
  | start _ started =>
      obtain ⟨-, rfl⟩ := start?_eq_ok started
      rfl
  | halt reached halted ih =>
      obtain ⟨-, device, rfl⟩ := halt?_active (inActivity_of_switched idle reached) halted
      exact ih
  | finishHalt reached halted =>
      obtain ⟨-, rfl⟩ := finishHalt?_halting (inActivity_of_switched idle reached) halted
      rfl

theorem switched_tellsActivity {new : ScriptedSource} (idle : new.InActivity .idle)
    (resting : new.isRunning = false) : TellsActivity switched new where
  idle reached := isRunning_of_switched idle resting reached
  active reached := isRunning_of_switched idle resting reached

/-! ## Its count -/

/-- How many frames were passed to the sink and are not counted yet: one of the replay, and one
of a caller. -/
def uncounted (s : ScriptedSource) : Nat :=
  (match s.replay with
    | some (.counting _) => 1
    | _ => 0) +
  match s.lock with
    | .injecting => 1
    | _ => 0

theorem uncounted_of_replayed {s : ScriptedSource} (replayed : s.isReplayed = true)
    (lock : s.lock ≠ .injecting) : s.uncounted = 0 := by
  unfold isReplayed at replayed
  unfold uncounted
  split at replayed
  · rename_i none
    cases held : s.lock <;> simp_all
  · rename_i finished
    cases held : s.lock <;> simp_all
  · simp at replayed

end ScriptedSource

end PacketWatch
