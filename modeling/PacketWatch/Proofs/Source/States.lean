/-
# `PacketWatch.Proofs.Source.States` — idle, capturing, stopping

A scripted source is in one of three states, and goes round in a circle.

    idle --begin--> capturing --halt--> stopping --finishHalt--> idle

In each of them the device, the sink, the replay and the flag that it is running are what the
state says; they change together, in the turns named above, and in no other.  While nobody
holds the lock the source is idle or capturing, so the four say the same.  The flag that tells
the replay to stop goes with them as long as there is a replay; in an idle source a start whose
thread is denied takes it back.

What stands in the way of a start is a list (`obstacles`), and a start is refused with the
first that is there.  A stop leads to the idle state from wherever it gets the lock: once the
replay is told to stop, it has three turns at most.
-/
import PacketWatch.Proofs.Runs
import PacketWatch.Proofs.Source.Steps

namespace PacketWatch.ScriptedSource

/-- A source of some devices and a script, before anything is asked of it. -/
def ofScript (devices : List Device) (script : List Frame) : ScriptedSource where
  devices := devices
  script := script

/-- No capture is active, and nobody holds the lock. -/
structure IsIdle (s : ScriptedSource) : Prop where
  lock : s.lock = .free
  device : s.device = none
  sink : s.hasSink = false
  replay : s.replay = none
  running : s.isRunning = false

/-- A capture is active. -/
structure IsCapturing (s : ScriptedSource) : Prop where
  lock : s.lock = .free ∨ s.lock = .injecting
  device : s.device.isSome = true
  sink : s.hasSink = true
  replay : s.replay.isSome = true
  running : s.isRunning = true
  goesOn : s.stopRequested = false

/-- A call that stops a capture waits for the replay to end. -/
structure IsStopping (s : ScriptedSource) : Prop where
  lock : ∃ device, s.lock = .stopping device
  device : s.device = none
  sink : s.hasSink = false
  replay : s.replay.isSome = true
  running : s.isRunning = true
  told : s.stopRequested = true

/-- The states that a source is in. -/
inductive Staged (s : ScriptedSource) : Prop
  | idle : s.IsIdle → Staged s
  | capturing : s.IsCapturing → Staged s
  | stopping : s.IsStopping → Staged s

/-! ## Round the circle -/

/-- An idle source stays so, and nothing is delivered, until a capture starts. -/
theorem Step.of_idle {turn : Turn} {s t : ScriptedSource} {now : List Event}
    (step : Step turn s now t) (idle : s.IsIdle) :
    (t.IsIdle ∧ sunkOf now = []) ∨ ∃ device, t = s.begin device ∧ .started device ∈ now := by
  obtain ⟨lock, device, sink, replay, running⟩ := idle
  have same {e : Event} (quiet : sunkOf [e] = []) : s.IsIdle ∧ sunkOf [e] = [] :=
    ⟨⟨lock, device, sink, replay, running⟩, quiet⟩
  cases step with
  | begin => exact .inr ⟨_, rfl, by simp⟩
  | refuse | refuseDenied | haltIdle | decline => exact .inl (same rfl)
  | deny | setFailOpen | setFailStart => exact .inl ⟨⟨lock, device, sink, replay, running⟩, rfl⟩
  | halt _ here => cases device.symm.trans here
  | finishHalt here | countInjected here => cases lock.symm.trans here
  | inject _ here => cases sink.symm.trans here
  | finish here | cutShort here | look here | sink here | count here =>
      cases replay.symm.trans here

/-- A source that captures goes on until it is told to stop. -/
theorem Step.of_capturing {turn : Turn} {s t : ScriptedSource} {now : List Event}
    (step : Step turn s now t) (capturing : s.IsCapturing) :
    t.IsCapturing ∨ turn = .stop ∧ t.IsStopping ∧ t.replay = s.replay ∧ now = [] := by
  obtain ⟨lock, device, sink, replay, running, goesOn⟩ := capturing
  cases step with
  | begin _ none | deny _ none =>
      obtain ⟨active, here⟩ := Option.isSome_iff_exists.mp device
      simp [refusal?, here] at none
  | refuse | refuseDenied | decline | setFailOpen | setFailStart =>
      exact .inl ⟨lock, device, sink, replay, running, goesOn⟩
  | halt => exact .inr ⟨rfl, ⟨⟨_, rfl⟩, rfl, rfl, replay, running, rfl⟩, rfl, rfl⟩
  | haltIdle _ idle => rw [idle] at device; cases device
  | finishHalt here => rw [here] at lock; simp at lock
  | finish | cutShort | look | sink | count =>
      exact .inl ⟨lock, device, sink, rfl, running, goesOn⟩
  | inject => exact .inl ⟨.inr rfl, device, sink, replay, running, goesOn⟩
  | countInjected => exact .inl ⟨.inl rfl, device, sink, replay, running, goesOn⟩

/-- A source that was told to stop waits for the replay, and is idle when the call returns. -/
theorem Step.of_stopping {turn : Turn} {s t : ScriptedSource} {now : List Event}
    (step : Step turn s now t) (stopping : s.IsStopping) :
    (t.IsStopping ∧ .stopped ∉ now) ∨ turn = .goOnStopping ∧ t.IsIdle ∧ .stopped ∈ now := by
  obtain ⟨⟨held, lock⟩, device, sink, replay, running, told⟩ := stopping
  cases step with
  | begin here | deny here | halt here | haltIdle here | inject here | decline here
  | countInjected here => cases lock.symm.trans here
  | look _ here => cases told.symm.trans here
  | refuse | refuseDenied =>
      exact .inl ⟨⟨⟨held, lock⟩, device, sink, replay, running, told⟩, by simp⟩
  | setFailOpen | setFailStart =>
      exact .inl ⟨⟨⟨held, lock⟩, device, sink, replay, running, told⟩, List.not_mem_nil⟩
  | finish | cutShort | count =>
      exact .inl ⟨⟨⟨held, lock⟩, device, sink, rfl, running, told⟩, List.not_mem_nil⟩
  | sink => exact .inl ⟨⟨⟨held, lock⟩, device, sink, rfl, running, told⟩, by simp⟩
  | finishHalt => exact .inr ⟨rfl, ⟨rfl, device, sink, rfl, rfl⟩, by simp⟩

theorem IsIdle.ofScript (devices : List Device) (script : List Frame) :
    (ofScript devices script).IsIdle := ⟨rfl, rfl, rfl, rfl, rfl⟩

/-- A start that succeeds leads from the idle state to a capture. -/
theorem IsIdle.begin {s : ScriptedSource} (idle : s.IsIdle) (device : String) :
    (s.begin device).IsCapturing := ⟨.inl idle.lock, rfl, rfl, rfl, rfl, rfl⟩

theorem Step.staged {turn : Turn} {s t : ScriptedSource} {now : List Event}
    (step : Step turn s now t) (staged : s.Staged) : t.Staged := by
  cases staged with
  | idle idle =>
      rcases step.of_idle idle with ⟨still, -⟩ | ⟨device, rfl, -⟩
      · exact .idle still
      · exact .capturing (idle.begin device)
  | capturing capturing =>
      rcases step.of_capturing capturing with still | ⟨-, stopping, -⟩
      · exact .capturing still
      · exact .stopping stopping
  | stopping stopping =>
      rcases step.of_stopping stopping with ⟨still, -⟩ | ⟨-, idle, -⟩
      · exact .stopping still
      · exact .idle idle

theorem staged_of_run {new s : ScriptedSource} {seen : List Event}
    (run : machine.Run new seen s) (staged : new.Staged) : s.Staged := by
  induction run with
  | here => exact staged
  | turn _ turn ih => exact (step_of_turn turn).staged ih

theorem given_of_run {new s : ScriptedSource} {seen : List Event}
    (run : machine.Run new seen s) : s.devices = new.devices ∧ s.script = new.script := by
  induction run with
  | here => exact ⟨rfl, rfl⟩
  | turn _ turn ih =>
      obtain ⟨devices, script⟩ := (step_of_turn turn).given
      exact ⟨devices.trans ih.1, script.trans ih.2⟩

/-! ## While nobody holds the lock -/

/-- Device, sink and replay are there just while the source says that it is running. -/
theorem Staged.together {s : ScriptedSource} (staged : s.Staged) (free : s.lock = .free) :
    s.device.isSome = s.isRunning ∧ s.hasSink = s.isRunning ∧ s.replay.isSome = s.isRunning := by
  cases staged with
  | idle idle =>
      rw [idle.device, idle.sink, idle.replay, idle.running]
      exact ⟨rfl, rfl, rfl⟩
  | capturing capturing =>
      rw [capturing.device, capturing.sink, capturing.replay, capturing.running]
      exact ⟨rfl, rfl, rfl⟩
  | stopping stopping =>
      obtain ⟨device, held⟩ := stopping.lock
      cases free.symm.trans held

/-- With the lock free and no active device, a source is idle. -/
theorem Staged.idle_of_no_device {s : ScriptedSource} (staged : s.Staged) (free : s.lock = .free)
    (none : s.device = none) : s.IsIdle := by
  obtain ⟨device, sink, replay⟩ := staged.together free
  rw [none, Option.isSome_none] at device
  rw [← device] at sink replay
  exact ⟨free, none, sink, Option.isSome_eq_false_iff.mp replay |> Option.isNone_iff_eq_none.mp,
    device.symm⟩

/-- A stop that returns leaves an idle source. -/
theorem Step.idle_of_stopped {turn : Turn} {s t : ScriptedSource} {now : List Event}
    (step : Step turn s now t) (staged : s.Staged) (stopped : .stopped ∈ now) : t.IsIdle := by
  cases step with
  | haltIdle free none => exact staged.idle_of_no_device free none
  | finishHalt held =>
      cases staged with
      | idle idle => cases idle.lock.symm.trans held
      | capturing capturing =>
          rcases capturing.lock with lock | lock <;> cases lock.symm.trans held
      | stopping stopping => exact ⟨rfl, stopping.device, stopping.sink, rfl, rfl⟩
  | begin | refuse | deny | refuseDenied | halt | finish | cutShort | look | sink | count | inject
  | decline | countInjected | setFailOpen | setFailStart => simp at stopped

/-! ## Starting -/

/-- Nothing stands in the way of a start that gives a sink, to a source that captures nothing,
on a device that it has, with both switches off. -/
theorem refusal?_eq_none {s : ScriptedSource} {device : String} {withSink : Bool} :
    s.refusal? device withSink = none ↔
      withSink = true ∧ s.device = none ∧ (Device.find? s.devices device).isSome = true ∧
        s.failOpen = false ∧ s.failStart = false := by
  unfold refusal?
  cases withSink with
  | false => simp
  | true =>
      cases s.device with
      | some active => simp
      | none =>
          cases Device.find? s.devices device with
          | none => simp
          | some found => cases s.failOpen <;> cases s.failStart <;> simp

/-- A start takes its turn as soon as the lock is free; without a sink it does not ask. -/
theorem turn_of_start {s : ScriptedSource} {device : String} {withSink : Bool}
    (free : withSink = true → s.lock = .free) :
    s.turn? (.start device withSink) =
      match s.refusal? device withSink with
      | none => some (s.begin device, (startLines device).map .reported ++ [.started device])
      | some e => some (s, [.refused e]) := by
  have asks : ¬ (withSink = true ∧ s.lock ≠ .free) := fun ⟨given, held⟩ => held (free given)
  simp only [turn?, start?, if_neg asks]
  cases s.refusal? device withSink <;> rfl

/-- How many turns a replay has left that was told to stop. -/
def turnsLeft (s : ScriptedSource) : Nat :=
  match s.replay with
  | some (.delivering _ _) => 3
  | some (.counting _) => 2
  | some (.looking _) => 1
  | _ => 0

theorem turnsLeft_le (s : ScriptedSource) : s.turnsLeft ≤ 3 := by
  unfold turnsLeft
  split <;> omega

theorem turnsLeft_eq_zero {s : ScriptedSource} : s.turnsLeft = 0 ↔ s.isReplayed = true := by
  unfold turnsLeft isReplayed
  cases s.replay with
  | none => simp
  | some replay => cases replay <;> simp

/-- A replay that has not ended has a turn. -/
theorem isSome_turn_of_replay {s : ScriptedSource} (goesOn : s.isReplayed = false) :
    (s.turn? (.deliver .replay)).isSome = true := by
  unfold isReplayed at goesOn
  simp only [turn?, deliver?, replayNext?, Option.isSome_map]
  cases here : s.replay with
  | none => rw [here] at goesOn; cases goesOn
  | some replay =>
      cases replay with
      | finished => rw [here] at goesOn; cases goesOn
      | looking rest => cases rest <;> rfl
      | delivering | counting => rfl

/-- A replay that was told to stop and has turns left takes one. -/
theorem IsStopping.take {s : ScriptedSource} (stopping : s.IsStopping) :
    (machine.take s (.deliver .replay)).1.IsStopping ∧
      (machine.take s (.deliver .replay)).1.turnsLeft = s.turnsLeft - 1 := by
  cases turn : machine.turn? s (.deliver .replay) with
  | none =>
      have replayed : s.isReplayed = true := by
        cases ended : s.isReplayed with
        | true => rfl
        | false =>
            have some : (machine.turn? s (.deliver .replay)).isSome = true :=
              isSome_turn_of_replay ended
            rw [turn] at some
            cases some
      have none := turnsLeft_eq_zero.mpr replayed
      rw [Machine.take_of_wait turn]
      exact ⟨stopping, by rw [none]⟩
  | some r =>
      obtain ⟨t, now⟩ := r
      rw [Machine.take_of_turn turn]
      have step : Step (.deliver .replay) s now t := step_of_replay turn
      rcases step.of_stopping stopping with ⟨still, -⟩ | ⟨other, -⟩
      · refine ⟨still, ?_⟩
        cases step with
        | finish here | cutShort here | sink here | count here => simp [turnsLeft, here]
        | look _ here => cases stopping.told.symm.trans here
      · cases other

/-- When the replay has ended the call that stops the capture returns. -/
theorem IsStopping.finish {s : ScriptedSource} (stopping : s.IsStopping) (ended : s.turnsLeft = 0) :
    (machine.take s .goOnStopping).1.IsIdle ∧ .stopped ∈ (machine.take s .goOnStopping).2 := by
  obtain ⟨held, lock⟩ := stopping.lock
  have replayed : s.isReplayed = true := turnsLeft_eq_zero.mp ended
  have turn : machine.turn? s .goOnStopping = some
      ({ s with lock := .free, replay := none, isRunning := false },
        s.haltLines.map .reported ++ [.stopped]) := by
    simp only [machine, turn?, goOnStopping?, finishHalt?, lock, replayed, if_true, Option.map_some]
  rw [Machine.take_of_turn turn]
  exact ⟨⟨rfl, stopping.device, stopping.sink, rfl, rfl⟩, by simp⟩

/-- The turns in which a replay that was told to stop comes to its end, and with it the call
that stops the capture. -/
def lastTurns : List Turn :=
  [.deliver .replay, .deliver .replay, .deliver .replay, .goOnStopping]

theorem IsStopping.takeAll {s : ScriptedSource} (stopping : s.IsStopping) :
    (machine.takeAll s lastTurns).1.IsIdle ∧ .stopped ∈ (machine.takeAll s lastTurns).2 := by
  obtain ⟨once, first⟩ := stopping.take
  obtain ⟨twice, second⟩ := once.take
  obtain ⟨thrice, third⟩ := twice.take
  have most := s.turnsLeft_le
  obtain ⟨idle, stopped⟩ := thrice.finish (by omega)
  refine ⟨idle, ?_⟩
  simp only [lastTurns, Machine.takeAll, List.mem_append]
  exact .inr (.inr (.inr (.inl stopped)))

/-- An idle source has no such turns. -/
theorem IsIdle.takeAll {s : ScriptedSource} (idle : s.IsIdle) :
    machine.takeAll s lastTurns = (s, []) := by
  have replay : machine.turn? s (.deliver .replay) = none := by
    simp only [machine, turn?, deliver?, replayNext?, idle.replay, Option.map_none]
  have goOn : machine.turn? s .goOnStopping = none := by
    simp only [machine, turn?, goOnStopping?, idle.lock]
  simp only [lastTurns, Machine.takeAll, Machine.take_of_wait replay, Machine.take_of_wait goOn,
    List.append_nil]

/-- A stop does nothing to an idle source. -/
theorem IsIdle.stop {s : ScriptedSource} (idle : s.IsIdle) :
    s.turn? .stop = some (s, [.stopped]) := by
  simp [turn?, halt?, idle.lock, idle.device]

/-- A stop leads to the idle state. -/
theorem Staged.stop {s : ScriptedSource} (staged : s.Staged) (free : s.lock = .free) :
    (machine.takeAll s (.stop :: lastTurns)).1.IsIdle ∧
      .stopped ∈ (machine.takeAll s (.stop :: lastTurns)).2 := by
  simp only [Machine.takeAll]
  cases staged with
  | idle idle =>
      have turn : machine.turn? s .stop = some (s, [.stopped]) := idle.stop
      rw [Machine.take_of_turn turn, idle.takeAll]
      exact ⟨idle, List.mem_cons_self⟩
  | capturing capturing =>
      obtain ⟨device, active⟩ := Option.isSome_iff_exists.mp capturing.device
      let t : ScriptedSource := { s with
        lock := .stopping device, device := none, hasSink := false, stopRequested := true }
      have halted : machine.turn? s .stop = some (t, []) := by
        simp [t, machine, turn?, halt?, free, active]
      have stopping : t.IsStopping :=
        ⟨⟨device, rfl⟩, rfl, rfl, capturing.replay, capturing.running, rfl⟩
      rw [Machine.take_of_turn halted, List.nil_append]
      exact stopping.takeAll
  | stopping stopping =>
      obtain ⟨device, held⟩ := stopping.lock
      cases free.symm.trans held

end PacketWatch.ScriptedSource
