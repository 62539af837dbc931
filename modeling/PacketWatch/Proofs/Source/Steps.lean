/-
# `PacketWatch.Proofs.Source.Steps` — what one turn of a scripted source can do

`Step` lists the turns of a scripted source and its callers, each with the state that it
needs and all that is seen of it, so a proof about turns is one case for each constructor.

Three callers want the lock: one that starts a capture, one that stops it, one that hands a
frame in.  The replay never asks for it, and neither does a caller that throws a switch or
gives no sink; those may go on whoever holds it.  A start comes in two kinds, since the thread
that it asks for is given or denied.
-/
import PacketWatch.Source.Scripted

namespace PacketWatch.ScriptedSource

/-- A turn, what is seen of it, and the states before and after. -/
inductive Step : Turn → ScriptedSource → List Event → ScriptedSource → Prop
  | begin {s : ScriptedSource} {device : String} :
      s.lock = .free → s.refusal? device true = none →
      Step (.start device true) s ((startLines device).map .reported ++ [.started device])
        (s.begin device)
  | refuse {s : ScriptedSource} {device : String} {withSink : Bool} {e : Error} :
      s.refusal? device withSink = some e → Step (.start device withSink) s [.refused e] s
  | deny {s : ScriptedSource} {device reason : String} :
      s.lock = .free → s.refusal? device true = none →
      Step (.startDenied device true reason) s [.refused (.captureStart device reason)]
        { s with stopRequested := false }
  | refuseDenied {s : ScriptedSource} {device reason : String} {withSink : Bool} {e : Error} :
      s.refusal? device withSink = some e →
      Step (.startDenied device withSink reason) s [.refused e] s
  | halt {s : ScriptedSource} {device : String} :
      s.lock = .free → s.device = some device →
      Step .stop s [] { s with
        lock := .stopping device, device := none, hasSink := false, stopRequested := true }
  | haltIdle {s : ScriptedSource} :
      s.lock = .free → s.device = none → Step .stop s [.stopped] s
  | finishHalt {s : ScriptedSource} {device : String} :
      s.lock = .stopping device → s.isReplayed = true →
      Step .goOnStopping s (s.haltLines.map .reported ++ [.stopped])
        { s with lock := .free, replay := none, isRunning := false }
  | finish {s : ScriptedSource} :
      s.replay = some (.looking []) →
      Step (.deliver .replay) s [] { s with replay := some .finished }
  | cutShort {s : ScriptedSource} {frame : Frame} {rest : List Frame} :
      s.replay = some (.looking (frame :: rest)) → s.stopRequested = true →
      Step (.deliver .replay) s [] { s with replay := some .finished }
  | look {s : ScriptedSource} {frame : Frame} {rest : List Frame} :
      s.replay = some (.looking (frame :: rest)) → s.stopRequested = false →
      Step (.deliver .replay) s [] { s with replay := some (.delivering frame rest) }
  | sink {s : ScriptedSource} {frame : Frame} {rest : List Frame} :
      s.replay = some (.delivering frame rest) →
      Step (.deliver .replay) s [.replayed frame] { s with replay := some (.counting rest) }
  | count {s : ScriptedSource} {rest : List Frame} :
      s.replay = some (.counting rest) →
      Step (.deliver .replay) s []
        { s with replay := some (.looking rest), captured := s.captured + 1 }
  | inject {s : ScriptedSource} {frame : Frame} :
      s.lock = .free → s.hasSink = true →
      Step (.deliver (.inject frame)) s [.injected frame] { s with lock := .injecting }
  | decline {s : ScriptedSource} {frame : Frame} :
      s.lock = .free → s.hasSink = false →
      Step (.deliver (.inject frame)) s [.declined frame] s
  | countInjected {s : ScriptedSource} :
      s.lock = .injecting →
      Step (.deliver .countInjected) s [] { s with lock := .free, captured := s.captured + 1 }
  | setFailOpen {s : ScriptedSource} {fail : Bool} :
      Step (.setFailOpen fail) s [] { s with failOpen := fail }
  | setFailStart {s : ScriptedSource} {fail : Bool} :
      Step (.setFailStart fail) s [] { s with failStart := fail }

/-! ## Every turn is one of these -/

/-- Without a sink a start is refused, whatever the source does. -/
theorem refusal?_of_no_sink (s : ScriptedSource) (device : String) :
    s.refusal? device false = some .noFrameSink := rfl

theorem step_of_start {s t : ScriptedSource} {device : String} {withSink : Bool}
    {now : List Event} (turn : s.turn? (.start device withSink) = some (t, now)) :
    Step (.start device withSink) s now t := by
  simp only [turn?, start?] at turn
  split at turn
  · simp at turn
  · rename_i held
    cases refused : s.refusal? device withSink with
    | some e =>
        simp only [refused, Option.map_some, Option.some.injEq, Prod.mk.injEq] at turn
        obtain ⟨rfl, rfl⟩ := turn
        exact .refuse refused
    | none =>
        simp only [refused, Option.map_some, Option.some.injEq, Prod.mk.injEq] at turn
        obtain ⟨rfl, rfl⟩ := turn
        cases withSink with
        | false => exact absurd (refused.symm.trans (s.refusal?_of_no_sink device)) (by simp)
        | true => exact .begin (by simpa using held) refused

theorem step_of_startDenied {s t : ScriptedSource} {device reason : String} {withSink : Bool}
    {now : List Event} (turn : s.turn? (.startDenied device withSink reason) = some (t, now)) :
    Step (.startDenied device withSink reason) s now t := by
  simp only [turn?, startDenied?] at turn
  split at turn
  · simp at turn
  · rename_i held
    cases refused : s.refusal? device withSink with
    | some e =>
        rw [refused] at turn
        cases turn
        exact .refuseDenied refused
    | none =>
        rw [refused] at turn
        cases turn
        cases withSink with
        | false => exact absurd (refused.symm.trans (s.refusal?_of_no_sink device)) (by simp)
        | true => exact .deny (by simpa using held) refused

theorem step_of_stop {s t : ScriptedSource} {now : List Event}
    (turn : s.turn? .stop = some (t, now)) : Step .stop s now t := by
  simp only [turn?, Option.map_eq_some_iff] at turn
  obtain ⟨u, halted, result⟩ := turn
  simp only [halt?] at halted
  split at halted
  · simp at halted
  · rename_i held
    have free : s.lock = .free := by simpa using held
    split at halted
    · rename_i idle
      cases halted
      rw [idle] at result
      cases result
      exact .haltIdle free idle
    · rename_i device active
      cases halted
      rw [active] at result
      cases result
      exact .halt free active

theorem step_of_goOnStopping {s t : ScriptedSource} {now : List Event}
    (turn : s.turn? .goOnStopping = some (t, now)) : Step .goOnStopping s now t := by
  simp only [turn?, goOnStopping?] at turn
  split at turn
  · rename_i device held
    simp only [finishHalt?, held] at turn
    split at turn
    · rename_i replayed
      cases turn
      exact .finishHalt held replayed
    · simp at turn
  · simp at turn

theorem step_of_replay {s t : ScriptedSource} {now : List Event}
    (turn : s.turn? (.deliver .replay) = some (t, now)) : Step (.deliver .replay) s now t := by
  simp only [turn?, deliver?, replayNext?] at turn
  split at turn
  · rename_i here
    cases turn
    exact .finish here
  · rename_i frame rest here
    by_cases requested : s.stopRequested = true
    · rw [if_pos requested] at turn
      cases turn
      exact .cutShort here requested
    · rw [if_neg requested] at turn
      cases turn
      exact .look here (Bool.eq_false_iff.mpr requested)
  · rename_i frame rest here
    cases turn
    exact .sink here
  · rename_i rest here
    cases turn
    exact .count here
  · simp at turn

theorem step_of_inject {s t : ScriptedSource} {frame : Frame} {now : List Event}
    (turn : s.turn? (.deliver (.inject frame)) = some (t, now)) :
    Step (.deliver (.inject frame)) s now t := by
  simp only [turn?, deliver?, inject?] at turn
  split at turn
  · simp at turn
  · rename_i held
    have free : s.lock = .free := by simpa using held
    split at turn
    · rename_i sink
      cases turn
      exact .inject free sink
    · rename_i noSink
      cases turn
      exact .decline free (Bool.eq_false_iff.mpr noSink)

theorem step_of_countInjected {s t : ScriptedSource} {now : List Event}
    (turn : s.turn? (.deliver .countInjected) = some (t, now)) :
    Step (.deliver .countInjected) s now t := by
  simp only [turn?, deliver?, countInjected?] at turn
  split at turn
  · rename_i held
    cases turn
    exact .countInjected held
  · simp at turn

/-- Every turn of a scripted source is a step. -/
theorem step_of_turn {s t : ScriptedSource} {turn : Turn} {now : List Event}
    (taken : s.turn? turn = some (t, now)) : Step turn s now t := by
  cases turn with
  | start device withSink => exact step_of_start taken
  | startDenied device withSink reason => exact step_of_startDenied taken
  | stop => exact step_of_stop taken
  | goOnStopping => exact step_of_goOnStopping taken
  | deliver d =>
      cases d with
      | replay => exact step_of_replay taken
      | inject frame => exact step_of_inject taken
      | countInjected => exact step_of_countInjected taken
  | setFailOpen fail => cases taken; exact .setFailOpen
  | setFailStart fail => cases taken; exact .setFailStart

/-! ## What no turn changes -/

/-- The devices and the script are given once. -/
theorem Step.given {turn : Turn} {s t : ScriptedSource} {now : List Event}
    (step : Step turn s now t) : t.devices = s.devices ∧ t.script = s.script := by
  cases step <;> exact ⟨rfl, rfl⟩

end PacketWatch.ScriptedSource
