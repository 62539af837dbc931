/-
# `PacketWatch.Proofs.Source.Delivery` — what a capture delivers, and when

A capture goes from the turn in which it starts to the one in which the call that stops it
returns.  In between, at some state, the replay is told to stop.

    begin ------ early ------ told to stop ------ late ------ returned
          replay and callers deliver      at most one frame

Up to that state, the frames that were replayed, the one that the replay has in hand and those
it has not begun are the script.  From there on only the one in hand is still delivered.  So
the frames replayed in the whole capture and those not begun when the replay was told to stop
are the script: what was replayed is a prefix of it, and all of it if the replay had begun its
last frame by then.

Callers hand frames in under the lock, so never while a capture is being stopped.  The sink
gets the frames of both in the order of their turns, as an interleaving (`Interleaved`).
-/
import PacketWatch.Proofs.Source.Contract
import PacketWatch.Proofs.Source.States

namespace PacketWatch

/-- A list in which two others are interleaved, each in its own order. -/
inductive Interleaved {α : Type} : List α → List α → List α → Prop
  | nil : Interleaved [] [] []
  | left {a : α} {l k m : List α} : Interleaved l k m → Interleaved (a :: l) k (a :: m)
  | right {a : α} {l k m : List α} : Interleaved l k m → Interleaved l (a :: k) (a :: m)

namespace ScriptedSource

/-! ## What is seen of a run -/

/-- The frames that the replay passed to the sink. -/
def replayedOf (seen : List Event) : List Frame :=
  seen.filterMap fun
    | .replayed f => some f
    | _ => none

/-- The frames that callers handed in and that were passed to the sink. -/
def injectedOf (seen : List Event) : List Frame :=
  seen.filterMap fun
    | .injected f => some f
    | _ => none

theorem replayedOf_append (seen later : List Event) :
    replayedOf (seen ++ later) = replayedOf seen ++ replayedOf later :=
  List.filterMap_append ..

theorem injectedOf_append (seen later : List Event) :
    injectedOf (seen ++ later) = injectedOf seen ++ injectedOf later :=
  List.filterMap_append ..

theorem sunkOf_append (seen later : List Event) :
    sunkOf (seen ++ later) = sunkOf seen ++ sunkOf later :=
  List.filterMap_append ..

@[simp] theorem sunkOf_reported (lines : List LogLine) :
    sunkOf (lines.map .reported) = [] := by
  induction lines with
  | nil => rfl
  | cons line lines ih => exact ih

/-- The sink gets what is replayed and what is handed in, in the order in which it happens. -/
theorem interleaved_sunkOf (seen : List Event) :
    Interleaved (replayedOf seen) (injectedOf seen) (sunkOf seen) := by
  induction seen with
  | nil => exact .nil
  | cons e seen ih =>
      cases e with
      | replayed f => exact .left ih
      | injected f => exact .right ih
      | started | refused | stopped | declined | reported => exact ih

/-! ## What the replay has before it -/

/-- The frame that the replay is about to pass to the sink. -/
def inHand (s : ScriptedSource) : List Frame :=
  match s.replay with
  | some (.delivering f _) => [f]
  | _ => []

/-- The frames that the replay has not begun: it has not looked whether to stop before them. -/
def unbegun (s : ScriptedSource) : List Frame :=
  match s.replay with
  | some (.looking rest) | some (.delivering _ rest) | some (.counting rest) => rest
  | _ => []

theorem inHand_of_isReplayed {s : ScriptedSource} (replayed : s.isReplayed = true) :
    s.inHand = [] := by
  unfold isReplayed at replayed
  unfold inHand
  split
  · rename_i here
    rw [here] at replayed
    cases replayed
  · rfl

/-- While a source captures, what is replayed is what was in hand or not begun. -/
theorem Step.replayed_of_capturing {turn : Turn} {s t : ScriptedSource} {now : List Event}
    (step : Step turn s now t) (capturing : s.IsCapturing) :
    replayedOf now ++ (t.inHand ++ t.unbegun) = s.inHand ++ s.unbegun := by
  cases step with
  | begin free none | deny free none =>
      obtain ⟨-, idle, -⟩ := refusal?_eq_none.mp none
      have active := capturing.device
      rw [idle] at active
      cases active
  | finishHalt held =>
      rcases capturing.lock with lock | lock <;> cases lock.symm.trans held
  | cutShort _ told => cases capturing.goesOn.symm.trans told
  | refuse | refuseDenied | halt | haltIdle | inject | decline | countInjected | setFailOpen
  | setFailStart => rfl
  | finish here | look here | sink here | count here =>
      simp [replayedOf, inHand, unbegun, here]

/-- Once a source is told to stop, only the frame in hand is replayed, and nothing is handed
in. -/
theorem Step.replayed_of_stopping {turn : Turn} {s t : ScriptedSource} {now : List Event}
    (step : Step turn s now t) (stopping : s.IsStopping) :
    replayedOf now ++ t.inHand = s.inHand ∧ injectedOf now = [] := by
  obtain ⟨device, held⟩ := stopping.lock
  cases step with
  | begin free | deny free | halt free | haltIdle free | inject free | decline free
  | countInjected free => cases held.symm.trans free
  | look _ told => cases stopping.told.symm.trans told
  | refuse | refuseDenied | setFailOpen | setFailStart => exact ⟨rfl, rfl⟩
  | finishHalt _ replayed =>
      rw [inHand_of_isReplayed replayed]
      simp [replayedOf, injectedOf, inHand, haltLines, held]
  | finish here | cutShort here | sink here | count here =>
      simp [replayedOf, injectedOf, inHand, here]

/-! ## A capture -/

/-- A capture on a device, from the turn in which it starts to the one in which the call that
stops it returns.  At `u` the replay is told to stop; so much is seen before, and so much from
there on until the call returns. -/
inductive Capture (s : ScriptedSource) (device : String) (early : List Event) (u : ScriptedSource)
    (late : List Event) (t : ScriptedSource) : Prop
  | intro {b w v : ScriptedSource} {begun told last : List Event} :
      s.turn? (.start device true) = some (b, begun) → .started device ∈ begun →
      machine.Run b early u → .stopped ∉ early → u.turn? .stop = some (w, told) →
      machine.Run w late v → .stopped ∉ late → v.turn? .goOnStopping = some (t, last) →
      Capture s device early u late t

/-- Until a stop returns, a source that has started captures, and what was replayed and what is
still to be replayed is the script; or it was told to stop. -/
theorem capturing_of_run {b x : ScriptedSource} {seen : List Event} (run : machine.Run b seen x)
    (capturing : b.IsCapturing) (unstopped : .stopped ∉ seen) :
    (x.IsCapturing ∧ replayedOf seen ++ (x.inHand ++ x.unbegun) = b.inHand ++ b.unbegun) ∨
      x.IsStopping := by
  induction run with
  | here => exact .inl ⟨capturing, rfl⟩
  | @turn x y turn seen now _ taken ih =>
      obtain ⟨before, now⟩ := not_or.mp (mt List.mem_append.mpr unstopped)
      have step := step_of_turn taken
      rcases ih before with ⟨still, account⟩ | stopping
      · rcases step.of_capturing still with goesOn | ⟨-, stopping, -⟩
        · have next := step.replayed_of_capturing still
          exact .inl ⟨goesOn, by rw [replayedOf_append, List.append_assoc, next, account]⟩
        · exact .inr stopping
      · rcases step.of_stopping stopping with ⟨still, -⟩ | ⟨-, -, stopped⟩
        · exact .inr still
        · exact absurd stopped now

/-- From there on until the stop returns, the frame in hand is replayed, or is still in hand. -/
theorem stopping_of_run {w x : ScriptedSource} {seen : List Event} (run : machine.Run w seen x)
    (stopping : w.IsStopping) (unstopped : .stopped ∉ seen) :
    x.IsStopping ∧ replayedOf seen ++ x.inHand = w.inHand ∧ injectedOf seen = [] := by
  induction run with
  | here => exact ⟨stopping, rfl, rfl⟩
  | @turn x y turn seen now _ taken ih =>
      obtain ⟨before, now⟩ := not_or.mp (mt List.mem_append.mpr unstopped)
      have step := step_of_turn taken
      obtain ⟨still, account, none⟩ := ih before
      obtain ⟨next, nothing⟩ := step.replayed_of_stopping still
      rcases step.of_stopping still with ⟨goesOn, -⟩ | ⟨-, -, stopped⟩
      · refine ⟨goesOn, ?_, ?_⟩
        · rw [replayedOf_append, List.append_assoc, next, account]
        · rw [injectedOf_append, none, nothing]
          rfl
      · exact absurd stopped now

/-- A capture begins in the idle state and ends in it; what it replayed and what the replay had
not begun when it was told to stop is the script, and nothing was handed in from there on. -/
theorem Capture.account {s u t : ScriptedSource} {device : String} {early late : List Event}
    (capture : Capture s device early u late t) (staged : s.Staged) :
    s.IsIdle ∧ t.IsIdle ∧ u.IsCapturing ∧ injectedOf late = [] ∧
      replayedOf (early ++ late) ++ u.unbegun = s.script := by
  obtain ⟨begins, started, early, unstopped, halts, late, unfinished, ends⟩ := capture
  cases step_of_turn begins with
  | refuse => simp at started
  | begin free clear =>
      have idle := staged.idle_of_no_device free (refusal?_eq_none.mp clear).2.1
      have before := capturing_of_run early (idle.begin device) unstopped
      cases step_of_turn halts with
      | haltIdle free none =>
          rcases before with ⟨capturing, -⟩ | stopping
          · have active := capturing.device
            rw [none] at active
            cases active
          · obtain ⟨held, lock⟩ := stopping.lock
            cases lock.symm.trans free
      | @halt _ device' free active =>
          rcases before with ⟨capturing, account⟩ | stopping
          · have told : IsStopping { u with
                lock := .stopping device', device := none, hasSink := false
                stopRequested := true } :=
              ⟨⟨device', rfl⟩, rfl, rfl, capturing.replay, capturing.running, rfl⟩
            obtain ⟨still, rest, none⟩ := stopping_of_run late told unfinished
            cases step_of_turn ends with
            | finishHalt _ replayed =>
                rw [inHand_of_isReplayed replayed, List.append_nil] at rest
                refine ⟨idle, ⟨rfl, still.device, still.sink, rfl, rfl⟩, capturing, none, ?_⟩
                rw [replayedOf_append, rest, List.append_assoc]
                exact account
          · obtain ⟨held, lock⟩ := stopping.lock
            cases lock.symm.trans free

/-! ## Outside of a capture -/

/-- An idle source delivers nothing until a capture starts. -/
theorem IsIdle.silent {s t : ScriptedSource} {later : List Event} (idle : s.IsIdle)
    (run : machine.Run s later t) (unstarted : ∀ device, .started device ∉ later) :
    t.IsIdle ∧ sunkOf later = [] := by
  induction run with
  | here => exact ⟨idle, rfl⟩
  | @turn u v turn later now _ taken ih =>
      have before (device : String) : .started device ∉ later :=
        fun here => unstarted device (List.mem_append_left _ here)
      obtain ⟨still, nothing⟩ := ih before
      rcases (step_of_turn taken).of_idle still with ⟨goesOn, none⟩ | ⟨device, -, started⟩
      · exact ⟨goesOn, by rw [sunkOf_append, nothing, none]; rfl⟩
      · exact absurd (List.mem_append_right _ started) (unstarted device)

/-- Whether a frame is on its way to the sink, or was passed to it and is not counted yet. -/
def isDelivering (s : ScriptedSource) : Bool :=
  s.lock = .injecting ||
    match s.replay with
    | some (.delivering _ _) | some (.counting _) => true
    | _ => false

theorem uncounted_of_not_delivering {s : ScriptedSource} (quiet : s.isDelivering = false) :
    s.uncounted = 0 := by
  unfold isDelivering at quiet
  unfold uncounted
  simp only [Bool.or_eq_false_iff, decide_eq_false_iff_not] at quiet
  obtain ⟨lock, replay⟩ := quiet
  split
  · rename_i here
    rw [here] at replay
    cases replay
  · split
    · rename_i held
      exact absurd held lock
    · rfl

/-- A frame is counted once, after it was passed to the sink. -/
theorem Step.counts {turn : Turn} {s t : ScriptedSource} {now : List Event}
    (step : Step turn s now t) (staged : s.Staged) :
    t.captured + t.uncounted = s.captured + s.uncounted + (sunkOf now).length := by
  cases step with
  | begin free clear =>
      have idle := staged.idle_of_no_device free (refusal?_eq_none.mp clear).2.1
      simp [ScriptedSource.begin, uncounted, idle.replay, idle.lock, sunkOf_append]
      rfl
  | finishHalt held replayed =>
      rw [uncounted_of_replayed replayed (by simp [held]), sunkOf_append, sunkOf_reported]
      rfl
  | refuse | refuseDenied | deny | haltIdle | decline | setFailOpen | setFailStart => rfl
  | halt free => simp [uncounted, free, sunkOf]
  | finish here | cutShort here | look here => simp [uncounted, here, sunkOf]
  | sink here | count here =>
      simp [uncounted, here, sunkOf]
      omega
  | inject here | countInjected here =>
      simp [uncounted, here, sunkOf]
      omega

theorem captured_of_run {devices : List Device} {script : List Frame} {seen : List Event}
    {s : ScriptedSource} (run : machine.Run (ofScript devices script) seen s) :
    s.captured + s.uncounted = (sunkOf seen).length := by
  induction run with
  | here => rfl
  | turn run taken ih =>
      have staged := staged_of_run run (.idle (.ofScript devices script))
      have next := (step_of_turn taken).counts staged
      rw [sunkOf_append, List.length_append]
      omega

/-! ## Callers that hand a frame in -/

/-- A caller that gets the lock passes its frame to the sink if a capture is active, and drops it
if none is. -/
theorem Staged.inject {s : ScriptedSource} (staged : s.Staged) (free : s.lock = .free)
    (frame : Frame) :
    s.turn? (.deliver (.inject frame)) =
      some (if s.device.isSome then ({ s with lock := .injecting }, [.injected frame])
        else (s, [.declined frame])) := by
  obtain ⟨device, sink, -⟩ := staged.together free
  simp only [turn?, deliver?, inject?, free, ne_eq, not_true_eq_false, if_false, sink, device]
  cases s.isRunning <;> rfl

/-- It counts the frame as soon as it goes on. -/
theorem turn_of_injecting {s : ScriptedSource} (held : s.lock = .injecting) :
    s.turn? (.deliver .countInjected) =
      some ({ s with lock := .free, captured := s.captured + 1 }, []) := by
  simp only [turn?, deliver?, countInjected?, held, Option.map_some, eventsOf]

/-! ## Every run -/

theorem turn?_eq_take {s : ScriptedSource} {t : Turn} (ready : (s.turn? t).isSome = true) :
    s.turn? t = some ((machine.take s t).1, (machine.take s t).2) :=
  Machine.turn?_eq_take (m := machine) ready

/-- **Exact delivery.**  Whatever was asked of a source, in whatever order its threads ran.
Between a start and the return of the stop that ends it, the sink gets the frames that are
replayed and those that are handed in, interleaved; the replayed ones are the script from its
first frame, but for those not begun when the replay was told to stop, so all of it if there
were none.  After the return of a stop the sink gets nothing until the next start.  A caller
that gets the lock has its frame delivered if a capture is active, and else refused.  While no
delivery is under way, the count is the number of frames that the sink got. -/
theorem delivered_exactly {devices : List Device} {script : List Frame} {seen : List Event}
    {s : ScriptedSource} (run : machine.Run (ofScript devices script) seen s) :
    (∀ device early u late t, Capture s device early u late t →
        Interleaved (replayedOf (early ++ late)) (injectedOf (early ++ late))
            (sunkOf (early ++ late)) ∧
          replayedOf (early ++ late) ++ u.unbegun = script ∧
          (u.unbegun = [] → replayedOf (early ++ late) = script) ∧
          injectedOf late = []) ∧
      (∀ turn t now later v, s.turn? turn = some (t, now) → .stopped ∈ now →
        machine.Run t later v → (∀ device, .started device ∉ later) → sunkOf later = []) ∧
      (∀ frame, s.lock = .free →
        s.turn? (.deliver (.inject frame)) =
          some (if s.device.isSome then ({ s with lock := .injecting }, [.injected frame])
            else (s, [.declined frame]))) ∧
      (s.lock = .injecting →
        s.turn? (.deliver .countInjected) =
          some ({ s with lock := .free, captured := s.captured + 1 }, [])) ∧
      (s.isDelivering = false → s.captured = (sunkOf seen).length) := by
  have staged := staged_of_run run (.idle (.ofScript devices script))
  refine ⟨?_, ?_, ?_, ?_, ?_⟩
  · intro device early u late t capture
    obtain ⟨-, -, -, none, account⟩ := capture.account staged
    rw [(given_of_run run).2] at account
    refine ⟨interleaved_sunkOf _, account, fun all => ?_, none⟩
    rw [all, List.append_nil] at account
    exact account
  · intro turn t now later v taken stopped more unstarted
    have idle := (step_of_turn taken).idle_of_stopped staged stopped
    exact (idle.silent more unstarted).2
  · intro frame free
    exact staged.inject free frame
  · exact turn_of_injecting
  · intro quiet
    have account := captured_of_run run
    rw [uncounted_of_not_delivering quiet] at account
    exact account

/-- A script of three frames, in its second capture: one frame is replayed and one handed in, and
the replay is told to stop with the second frame in hand.  That one still goes to the sink, and
the third does not. -/
theorem delivered_exactly_cut :
    let frame (b : UInt8) : Frame := .whole [b]
    let go : Turn := .deliver .replay
    let script := [frame 1, frame 2, frame 3]
    let before : List Turn := [.start "mock0" true, go, go, go, .stop] ++ lastTurns
    let during : List Turn :=
      [go, go, .deliver (.inject (frame 9)), go, .deliver .countInjected, go]
    let s := (machine.takeAll (ofScript [⟨"mock0", ""⟩] script) before).1
    let b := (machine.take s (.start "mock0" true)).1
    let early := machine.takeAll b during
    let w := (machine.take early.1 .stop).1
    let late := machine.takeAll w [go, go, go]
    let t := (machine.take late.1 .goOnStopping).1
    Capture s "mock0" early.2 early.1 late.2 t ∧ early.1.unbegun = [frame 3] ∧
      sunkOf (early.2 ++ late.2) = [frame 1, frame 9, frame 2] ∧
      replayedOf (early.2 ++ late.2) ++ [frame 3] = script ∧ s.captured = 1 := by
  intro frame go script before during s b early w late t
  have run : machine.Run (ofScript [⟨"mock0", ""⟩] script) _ s := Machine.Run.takeAll _ before
  have begins : s.turn? (.start "mock0" true) = some (b, _) := turn?_eq_take (by decide)
  have told : early.1.turn? .stop = some (w, _) := turn?_eq_take (by decide)
  have ends : late.1.turn? .goOnStopping = some (t, _) := turn?_eq_take (by decide)
  have first : machine.Run b early.2 early.1 := Machine.Run.takeAll b during
  have second : machine.Run w late.2 late.1 := Machine.Run.takeAll w [go, go, go]
  have capture : Capture s "mock0" early.2 early.1 late.2 t :=
    .intro begins (by decide) first (by decide) told second (by decide) ends
  have third : early.1.unbegun = [frame 3] := by decide
  obtain ⟨captures, -, -, -, counts⟩ := delivered_exactly run
  have account := (captures "mock0" early.2 early.1 late.2 t capture).2.1
  rw [third] at account
  exact ⟨capture, third, by decide, account, counts (by decide)⟩

end ScriptedSource

end PacketWatch
