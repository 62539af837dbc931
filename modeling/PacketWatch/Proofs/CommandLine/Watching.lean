/-
# `PacketWatch.Proofs.CommandLine.Watching` — what the program prints, in every order of its threads

The program's own thread is the only one that calls the pipeline, so where it stands tells how
far the call is (`Place.Fits`): before the start and after the stop the control lock is free and
the pipeline stopped, and the holder of the lock is never on its way to clear the store.  Two
things follow from that.

    while the pipeline runs     the store only grows
    once the stop has returned  the pool is closed, and the store stays as it is

So the looks print the first packets as they were stored, up to the limit, and the number of
packets that the thread reads for its last line is the one that its last look saw.  A start that
is denied its dispatcher is withdrawn while the thread waits for the answer (`Step.withdrawing`).
-/
import PacketWatch.CommandLine.Session
import PacketWatch.Proofs.CommandLine.Printing
import PacketWatch.Proofs.Pipeline.Refusal

namespace PacketWatch

open PacketStore (Holds numbered)
open Printing (Printed atMost)

namespace Pipeline

variable {σ α : Type} {S : CaptureSource σ α} {t : Turn α} {p q : Pipeline σ} {now : List Event}

/-- Whether a caller gets the control lock in a turn. -/
def Turn.isCall : Turn α → Bool
  | .call _ | .callDenied _ => true
  | _ => false

/-- Whether the holder of the control lock takes a turn. -/
def Turn.isControl : Turn α → Bool
  | .control | .controlDenied _ => true
  | _ => false

/-- Beside the holder of the control lock, nobody touches it or answers a call. -/
theorem Step.aside (step : Step S t p now q) (own : t.isControl = false) (call : t.isCall = false) :
    q.control = p.control ∧ q.isRunning = p.isRunning ∧ q.pool.closing = p.pool.closing ∧
      ∀ answer, .returned answer ∉ now := by
  cases step with
  | rest | sink | fetch | meet | hand => exact ⟨rfl, rfl, rfl, by simp⟩
  | drop => exact ⟨rfl, rfl, rfl, by simp [reports]⟩
  | work moved => exact ⟨rfl, rfl, work_closing moved, by simp [workerEvent?_eq_some]⟩
  | startRunning | startRenewing | start | stop | stopIdle | restart | restartIdle
  | restartNever | denyStart => cases call
  | «open» | refuse | spawn | halt | finishHalt | mark | join | shut | finishStop | clear | discard
  | discardDone | renew | retire | again | againRunning | denyRenew | denySpawn | withdraw
  | awaitHalt | abandon | giveUp => cases own

/-- While nobody holds the control lock, nobody goes on with a call. -/
theorem Step.not_control (step : Step S t p now q) (free : p.control = .free) :
    t.isControl = false := by
  cases step with
  | «open» here | refuse here | spawn here | halt here | finishHalt here | mark here | join here
  | shut here | finishStop here | clear here | discard here | discardDone here | renew here
  | retire here | again here | againRunning here | denyRenew here | denySpawn here | withdraw here
  | awaitHalt here | abandon here | giveUp here =>
      rw [free] at here
      cases here
  | _ => rfl

/-- A closed pool stores nothing. -/
theorem Step.store_of_closed (step : Step S t p now q) (coherent : p.Coherent)
    (free : p.control = .free) (closed : p.pool.closing = .returned) : q.store = p.store := by
  cases step with
  | work moved => exact (not_work_of_returned coherent.pool closed moved).elim
  | clear here => exact absurd (free.symm.trans here) nofun
  | @finishStop _ after => cases after <;> rfl
  | _ => rfl

end Pipeline

namespace Watch

variable {σ α : Type} {S : CaptureSource σ α} {limit : Option Nat}

/-! ## What one turn can do -/

/-- A turn, what is seen of it, and the states before and after. -/
inductive Step (S : CaptureSource σ α) (limit : Option Nat) :
    Turn α → Watch σ → List Event → Watch σ → Prop
  | pipeline {w : Watch σ} {t : Pipeline.Turn α} {p : Pipeline σ} {now : List Pipeline.Event} :
      t.isCall = false → w.pipeline.turn? S t = some (p, now) →
      Step S limit (.pipeline t) w (now.map .pipeline)
        { w with pipeline := p, place := now.foldl Place.hear w.place }
  | start {w : Watch σ} {late : Bool} {device : String} {p : Pipeline σ}
      {now : List Pipeline.Event} :
      w.place = .starting device → w.pipeline.turn? S (.call (.start device)) = some (p, now) →
      Step S limit (.own late) w (now.map .pipeline)
        { w with pipeline := p, place := now.foldl Place.hear .awaitingStart }
  | stop {w : Watch σ} {late : Bool} {p : Pipeline σ} {now : List Pipeline.Event} :
      w.place = .stopping → w.pipeline.turn? S (.call .stop) = some (p, now) →
      Step S limit (.own late) w (now.map .pipeline)
        { w with pipeline := p, place := now.foldl Place.hear .awaitingStop }
  | look {w : Watch σ} :
      w.place = .watching →
      Step S limit (.own false) w [.looked (w.printing.poll limit w.pipeline.store).1]
        (w.look limit .comparing).1
  | leave {w : Watch σ} :
      w.place = .watching → Step S limit (.own true) w [] { w with place := .stopping }
  | compare {w : Watch σ} {late : Bool} :
      w.place = .comparing →
      Step S limit (.own late) w []
        { w with
          place := if isReached limit w.pipeline.processed then .stopping else .watching }
  | lookLast {w : Watch σ} {late : Bool} :
      w.place = .looking →
      Step S limit (.own late) w [.looked (w.printing.poll limit w.pipeline.store).1]
        (w.look limit .counting).1
  | count {w : Watch σ} {late : Bool} :
      w.place = .counting →
      Step S limit (.own late) w [] { w with place := .summing (w.pipeline.captured S) }
  | sum {w : Watch σ} {late : Bool} {captured : Nat} :
      w.place = .summing captured →
      Step S limit (.own late) w [.summed captured w.pipeline.processed w.printing.printed]
        { w with place := .done }

theorem call?_eq_some {w v : Watch σ} {c : Pipeline.Call} {place : Place} {now : List Event}
    (called : w.call? S c place = some (v, now)) :
    ∃ p seen, w.pipeline.turn? S (.call c) = some (p, seen) ∧ now = seen.map .pipeline ∧
      v = { w with pipeline := p, place := seen.foldl Place.hear place } := by
  obtain ⟨⟨p, seen⟩, turn, result⟩ := Option.map_eq_some_iff.mp called
  cases result
  exact ⟨p, seen, turn, rfl, rfl⟩

/-- Every turn is a step. -/
theorem step_of_turn {w v : Watch σ} {t : Turn α} {now : List Event}
    (turn : w.turn? S limit t = some (v, now)) : Step S limit t w now v := by
  cases t with
  | pipeline t =>
      cases t with
      | call c => cases turn
      | callDenied reason => cases turn
      | source | dispatch | work | control | controlDenied =>
          obtain ⟨⟨p, seen⟩, moved, result⟩ := Option.map_eq_some_iff.mp turn
          cases result
          exact .pipeline rfl moved
  | own late =>
      change w.own? S limit late = _ at turn
      unfold own? at turn
      cases here : w.place with
      | starting device =>
          rw [here] at turn
          obtain ⟨p, seen, moved, rfl, rfl⟩ := call?_eq_some turn
          exact .start here moved
      | stopping =>
          rw [here] at turn
          obtain ⟨p, seen, moved, rfl, rfl⟩ := call?_eq_some turn
          exact .stop here moved
      | watching =>
          rw [here] at turn
          cases late with
          | true =>
              cases turn
              exact .leave here
          | false =>
              cases turn
              exact .look here
      | comparing =>
          rw [here] at turn
          cases turn
          exact .compare here
      | looking =>
          rw [here] at turn
          cases turn
          exact .lookLast here
      | counting =>
          rw [here] at turn
          cases turn
          exact .count here
      | summing captured =>
          rw [here] at turn
          cases turn
          exact .sum here
      | awaitingStart | awaitingStop | refused | done =>
          rw [here] at turn
          cases turn

/-! ## Where the program's own thread stands -/

/-- What a place tells of the pipeline. -/
def Place.Fits (p : Pipeline σ) : Place → Prop
  | starting _ | refused => p.IsStopped
  | awaitingStart =>
      (∃ device, p.control = .opening device ∨ p.control = .spawning device) ∨
        p.control.isWithdrawn = true
  | watching | comparing | stopping => p.control = .free ∧ p.isRunning = true
  | awaitingStop => p.control.afterStop? = some .done
  | looking | counting | summing _ | done => p.IsStopped ∧ p.pool.closing = .returned

/-- The last look is over. -/
def Place.IsLast : Place → Prop
  | counting | summing _ | done => True
  | _ => False

/-- Without an answer the thread stays where it is. -/
theorem Place.hear_unanswered {now : List Pipeline.Event}
    (unanswered : ∀ answer, .returned answer ∉ now) (place : Place) :
    now.foldl Place.hear place = place := by
  induction now with
  | nil => rfl
  | cons e now ih =>
      have here : place.hear e = place := by
        cases e with
        | returned answer => exact absurd List.mem_cons_self (unanswered answer)
        | _ => cases place <;> rfl
      rw [List.foldl_cons, here]
      exact ih fun answer later => unanswered answer (List.mem_cons_of_mem _ later)

/-- Answers are heard before the last look. -/
theorem Place.hear_isLast (now : List Pipeline.Event) (place : Place) :
    now.foldl Place.hear place = place ∨
      ¬ (now.foldl Place.hear place).IsLast ∧ ¬ place.IsLast := by
  induction now generalizing place with
  | nil => exact .inl rfl
  | cons e now ih =>
      have here : place.hear e = place ∨ ¬ (place.hear e).IsLast ∧ ¬ place.IsLast := by
        cases place with
        | awaitingStart =>
            cases e with
            | returned answer => cases answer <;> exact .inr ⟨id, id⟩
            | _ => exact .inl rfl
        | awaitingStop =>
            cases e with
            | returned answer => exact .inr ⟨id, id⟩
            | _ => exact .inl rfl
        | _ => exact .inl rfl
      rw [List.foldl_cons]
      rcases here with same | ⟨notLast, before⟩
      · rw [same]
        exact ih place
      · rcases ih (place.hear e) with same | ⟨later, -⟩
        · rw [same]
          exact .inr ⟨notLast, before⟩
        · exact .inr ⟨later, before⟩

theorem Place.hear_not_isLast {place : Place} (notLast : ¬ place.IsLast)
    (now : List Pipeline.Event) : ¬ (now.foldl Place.hear place).IsLast := by
  rcases hear_isLast now place with same | ⟨later, -⟩
  · rwa [same]
  · exact later

namespace Place

variable {place : Place} {p q : Pipeline σ} {t : Pipeline.Turn α} {now : List Pipeline.Event}

/-- What a place tells is about the control lock, and whether the pool is closed. -/
theorem Fits.of_same (fits : place.Fits p) (control : q.control = p.control)
    (running : q.isRunning = p.isRunning) (closing : q.pool.closing = p.pool.closing) :
    place.Fits q := by
  have stopped (stopped : p.IsStopped) : q.IsStopped :=
    ⟨control.trans stopped.free, running.trans stopped.notRunning⟩
  cases place with
  | starting | refused => exact stopped fits
  | awaitingStart | awaitingStop =>
      unfold Fits
      rwa [control]
  | watching | comparing | stopping => exact ⟨control.trans fits.1, running.trans fits.2⟩
  | looking | counting | summing | done => exact ⟨stopped fits.1, closing.trans fits.2⟩

theorem Fits.closed (fits : place.Fits p) (last : place.IsLast) :
    p.IsStopped ∧ p.pool.closing = .returned := by
  cases place with
  | counting | summing | done => exact fits
  | _ => exact last.elim

/-- Nobody clears the store. -/
theorem Fits.uncleared (fits : place.Fits p) (turn : p.turn? S t = some (q, now)) :
    .cleared ∉ now := by
  intro cleared
  obtain ⟨device, here, -, -⟩ := (Pipeline.step_of_turn turn).cleared cleared
  cases place with
  | starting | refused => cases here.symm.trans fits.free
  | watching | comparing | stopping => cases here.symm.trans fits.1
  | looking | counting | summing | done => cases here.symm.trans fits.1.free
  | awaitingStart =>
      obtain ⟨device, opening | spawning⟩ | withdrawn := fits
      · cases here.symm.trans opening
      · cases here.symm.trans spawning
      · rw [here] at withdrawn
        cases withdrawn
  | awaitingStop =>
      unfold Fits at fits
      rw [here] at fits
      cases fits

/-- The holder of the control lock starts the pipeline or stops it. -/
theorem Fits.control (fits : place.Fits p) (coherent : p.Coherent)
    (turn : p.turn? S .control = some (q, now)) : (now.foldl Place.hear place).Fits q := by
  have step := Pipeline.step_of_turn turn
  cases place with
  | starting | refused => cases step.not_control fits.free
  | watching | comparing | stopping => cases step.not_control fits.1
  | looking | counting | summing | done => cases step.not_control fits.1.free
  | awaitingStart =>
      obtain ⟨device, opening | spawning⟩ | withdrawn := fits
      · rcases Pipeline.turn_of_opening opening turn with ⟨spawning, quiet⟩ | ⟨e, -, rfl, rfl⟩
        · rw [hear_unanswered quiet]
          exact .inl ⟨device, .inr spawning⟩
        · exact ⟨rfl, coherent.runs_at opening rfl⟩
      · rw [Pipeline.turn_of_spawning spawning] at turn
        cases turn
        exact ⟨rfl, rfl⟩
      · rcases step.withdrawing withdrawn with ⟨still, quiet⟩ | ⟨emptying, rfl, rfl⟩
        · rw [hear_unanswered quiet]
          exact .inr still
        · exact ⟨rfl, coherent.runs_at emptying rfl⟩
  | awaitingStop =>
      rcases step.stopping fits with ⟨still, quiet⟩ | ⟨closing, rfl, rfl⟩
      · rw [hear_unanswered quiet]
        exact still
      · exact (step.stopped (List.mem_cons_of_mem _ List.mem_cons_self)).1 closing

/-- A thread is denied only to a start that waits for its dispatcher. -/
theorem Fits.controlDenied {reason : String} (fits : place.Fits p)
    (turn : p.turn? S (.controlDenied reason) = some (q, now)) :
    (now.foldl Place.hear place).Fits q := by
  have step := Pipeline.step_of_turn turn
  cases place with
  | starting | refused => cases step.not_control fits.free
  | watching | comparing | stopping => cases step.not_control fits.1
  | looking | counting | summing | done => cases step.not_control fits.1.free
  | awaitingStart =>
      cases step with
      | denySpawn => exact .inr rfl
      | denyRenew here =>
          obtain ⟨device, opening | spawning⟩ | withdrawn := fits
          · cases here.symm.trans opening
          · cases here.symm.trans spawning
          · rw [here] at withdrawn
            cases withdrawn
  | awaitingStop =>
      unfold Fits at fits
      cases step with
      | denySpawn here | denyRenew here =>
          rw [here] at fits
          cases fits

/-- The answer to a call leads to the place that fits it. -/
theorem Fits.pipeline (fits : place.Fits p) (coherent : p.Coherent) (call : t.isCall = false)
    (turn : p.turn? S t = some (q, now)) : (now.foldl Place.hear place).Fits q := by
  cases t with
  | control => exact fits.control coherent turn
  | controlDenied => exact fits.controlDenied turn
  | call | callDenied => cases call
  | source | dispatch | work =>
      obtain ⟨control, running, closing, quiet⟩ := (Pipeline.step_of_turn turn).aside rfl rfl
      rw [hear_unanswered quiet]
      exact fits.of_same control running closing

theorem Fits.start {device : String} (stopped : p.IsStopped)
    (turn : p.turn? S (.call (.start device)) = some (q, now)) :
    (now.foldl Place.hear .awaitingStart).Fits q := by
  cases Pipeline.step_of_turn turn with
  | startRunning _ running => cases running.symm.trans stopped.notRunning
  | startRenewing | start => exact .inl ⟨device, .inl rfl⟩

theorem Fits.stop (running : p.isRunning = true)
    (turn : p.turn? S (.call .stop) = some (q, now)) :
    (now.foldl Place.hear .awaitingStop).Fits q := by
  cases Pipeline.step_of_turn turn with
  | stop => exact rfl
  | stopIdle _ resting => cases running.symm.trans resting

end Place

/-! ## What was printed -/

theorem printedOf_append (seen later : List Event) :
    printedOf (seen ++ later) = printedOf seen ++ printedOf later := List.flatMap_append ..

theorem linesOf_append (seen later : List Event) :
    Session.linesOf (seen ++ later) = Session.linesOf seen ++ Session.linesOf later :=
  List.flatMap_append ..

/-- What the pipeline does prints nothing. -/
theorem nothing_printed (now : List Pipeline.Event) :
    printedOf (now.map .pipeline) = [] ∧ Session.linesOf (now.map .pipeline) = [] := by
  constructor
  · exact List.flatMap_eq_nil_iff.mpr fun e he => by
      obtain ⟨inside, -, rfl⟩ := List.mem_map.mp he
      rfl
  · exact List.flatMap_eq_nil_iff.mpr fun e he => by
      obtain ⟨inside, -, rfl⟩ := List.mem_map.mp he
      rfl

/-- The packets on lines, and at the end the last line. -/
structure Lines (seen : List Event) (w : Watch σ) : Prop where
  going : w.place ≠ .done → Session.linesOf seen = (printedOf seen).map .packet
  done : w.place = .done → ∃ captured, Session.linesOf seen =
    (printedOf seen).map .packet ++ [.counts captured w.pipeline.processed w.printing.printed]

/-- What holds of a run of the program. -/
structure Sound (limit : Option Nat) (seen : List Event) (w : Watch σ) : Prop where
  coherent : w.pipeline.Coherent
  fits : w.place.Fits w.pipeline
  printed : ∃ g, Holds g w.pipeline.store ∧ Printed limit g (printedOf seen) w.printing
  caughtUp : w.place.IsLast → w.printing.cursor.lastSeen = w.pipeline.processed
  lines : Lines seen w

section
variable {seen : List Event} {w : Watch σ}

/-- After the last look the thread hears nothing more, and the store stays as it is. -/
theorem Sound.stays (sound : Sound limit seen w) {t : Pipeline.Turn α} {p : Pipeline σ}
    {now : List Pipeline.Event} {place : Place} (turn : w.pipeline.turn? S t = some (p, now))
    (next : place = w.place ∨ ¬ place.IsLast ∧ ¬ w.place.IsLast)
    (last : place.IsLast ∨ w.place.IsLast) : place = w.place ∧ p.processed = w.pipeline.processed := by
  have here : place = w.place := by
    rcases next with same | ⟨notLast, before⟩
    · exact same
    · exact (last.elim notLast before).elim
  rw [here, or_self] at last
  obtain ⟨stopped, closed⟩ := sound.fits.closed last
  have store :=
    (Pipeline.step_of_turn turn).store_of_closed sound.coherent stopped.free closed
  exact ⟨here, congrArg (·.count) store⟩

/-- What the pipeline does prints nothing. -/
theorem Sound.lines_moved (sound : Sound limit seen w) {t : Pipeline.Turn α} {p : Pipeline σ}
    {now : List Pipeline.Event} {place : Place} (turn : w.pipeline.turn? S t = some (p, now))
    (next : place = w.place ∨ ¬ place.IsLast ∧ ¬ w.place.IsLast) :
    Lines (seen ++ now.map .pipeline) { w with pipeline := p, place := place } := by
  obtain ⟨printed, lines⟩ := nothing_printed now
  constructor
  · intro going
    rw [printedOf_append, linesOf_append, printed, lines, List.append_nil, List.append_nil]
    refine sound.lines.going fun done => ?_
    have last : w.place.IsLast := by
      rw [done]
      trivial
    exact going ((sound.stays turn next (.inr last)).1.trans done)
  · intro done
    change place = .done at done
    subst done
    obtain ⟨here, processed⟩ := sound.stays turn next (.inl trivial)
    rw [printedOf_append, linesOf_append, printed, lines, List.append_nil, List.append_nil,
      processed]
    exact sound.lines.done here.symm

/-- What the pipeline does adds to the store until the last look. -/
theorem Sound.moved (sound : Sound limit seen w) {t : Pipeline.Turn α} {p : Pipeline σ}
    {now : List Pipeline.Event} {place : Place} (turn : w.pipeline.turn? S t = some (p, now))
    (fits : place.Fits p) (next : place = w.place ∨ ¬ place.IsLast ∧ ¬ w.place.IsLast) :
    Sound limit (seen ++ now.map .pipeline) { w with pipeline := p, place := place } := by
  have step := Pipeline.step_of_turn turn
  constructor
  · exact step.coherent sound.coherent
  · exact fits
  · obtain ⟨g, holds, before⟩ := sound.printed
    obtain ⟨more, holds⟩ := Pipeline.exists_holds (Pipeline.performedOf now) holds
    rw [← step.store (sound.fits.uncleared turn)] at holds
    rw [printedOf_append, (nothing_printed now).1, List.append_nil]
    exact ⟨g ++ more, holds, before.grow more⟩
  · intro last
    obtain ⟨here, processed⟩ := sound.stays turn next (.inl last)
    exact (sound.caughtUp (here ▸ last)).trans processed.symm
  · exact sound.lines_moved turn next

/-- A look prints what the limit allows of what is new. -/
theorem Sound.look (sound : Sound limit seen w) {place : Place} (fits : place.Fits w.pipeline)
    (before : w.place ≠ .done) (going : place ≠ .done) :
    Sound limit (seen ++ [.looked (w.printing.poll limit w.pipeline.store).1])
      (w.look limit place).1 := by
  obtain ⟨g, holds, printed⟩ := sound.printed
  obtain ⟨printed, caughtUp⟩ := printed.poll holds
  have shown (packets : List Packet) : printedOf [.looked packets] = packets :=
    List.append_nil packets
  have lines (packets : List Packet) :
      Session.linesOf [.looked packets] = packets.map .packet := List.append_nil _
  constructor
  · exact sound.coherent
  · exact fits
  · rw [printedOf_append, shown]
    exact ⟨g, holds, printed⟩
  · intro _
    exact caughtUp.trans holds.count.symm
  · refine ⟨fun _ => ?_, fun done => absurd done going⟩
    rw [linesOf_append, printedOf_append, shown, lines, List.map_append, sound.lines.going before]

/-- The thread goes on, and nothing is seen of it. -/
theorem Sound.goOn (sound : Sound limit seen w) {place : Place} (fits : place.Fits w.pipeline)
    (last : place.IsLast → w.place.IsLast) (before : w.place ≠ .done) (going : place ≠ .done) :
    Sound limit (seen ++ []) { w with place := place } := by
  rw [List.append_nil]
  exact ⟨sound.coherent, fits, sound.printed, fun later => sound.caughtUp (last later),
    fun _ => sound.lines.going before, fun done => absurd done going⟩

theorem Sound.sum (sound : Sound limit seen w) {captured : Nat}
    (here : w.place = .summing captured) :
    Sound limit (seen ++ [.summed captured w.pipeline.processed w.printing.printed])
      { w with place := .done } := by
  have fits : (Place.summing captured).Fits w.pipeline := here ▸ sound.fits
  have last : w.place.IsLast := by
    rw [here]
    trivial
  have before : w.place ≠ .done := by
    rw [here]
    exact nofun
  have nothing : printedOf [.summed captured w.pipeline.processed w.printing.printed] = [] := rfl
  constructor
  · exact sound.coherent
  · exact fits
  · rw [printedOf_append, nothing, List.append_nil]
    exact sound.printed
  · exact fun _ => sound.caughtUp last
  · refine ⟨fun going => absurd rfl going, fun _ => ⟨captured, ?_⟩⟩
    rw [linesOf_append, printedOf_append, nothing, List.append_nil, sound.lines.going before]
    rfl

theorem Sound.step (sound : Sound limit seen w) {v : Watch σ} {t : Turn α} {now : List Event}
    (step : Step S limit t w now v) : Sound limit (seen ++ now) v := by
  have fits := sound.fits
  cases step with
  | pipeline call turn =>
      exact sound.moved turn (fits.pipeline sound.coherent call turn) (Place.hear_isLast _ _)
  | start here turn =>
      rw [here] at fits
      refine sound.moved turn (.start fits turn) (.inr ⟨Place.hear_not_isLast id _, ?_⟩)
      rw [here]
      exact id
  | stop here turn =>
      rw [here] at fits
      refine sound.moved turn (.stop fits.2 turn) (.inr ⟨Place.hear_not_isLast id _, ?_⟩)
      rw [here]
      exact id
  | look here =>
      rw [here] at fits
      exact sound.look fits (by simp [here]) nofun
  | lookLast here =>
      rw [here] at fits
      exact sound.look fits (by simp [here]) nofun
  | leave here =>
      rw [here] at fits
      exact sound.goOn fits nofun (by simp [here]) nofun
  | compare here =>
      rw [here] at fits
      split
      · exact sound.goOn fits nofun (by simp [here]) nofun
      · exact sound.goOn fits nofun (by simp [here]) nofun
  | count here =>
      rw [here] at fits
      refine sound.goOn fits (fun _ => ?_) (by simp [here]) nofun
      rw [here]
      trivial
  | sum here => exact sound.sum here

end

/-! ## All runs -/

theorem Sound.ofSource (limit : Option Nat) (source : σ) (workerCount : Nat) (device : String) :
    Sound limit [] (ofSource source workerCount device) where
  coherent := .ofSource source workerCount
  fits := ⟨rfl, rfl⟩
  printed := ⟨[], ⟨rfl, rfl⟩, .begin limit⟩
  caughtUp := nofun
  lines := ⟨fun _ => rfl, nofun⟩

theorem sound_of_run {source : σ} {workerCount : Nat} {device : String} {seen : List Event}
    {w : Watch σ} (run : (machine S limit).Run (ofSource source workerCount device) seen w) :
    Sound limit seen w := by
  induction run with
  | here => exact .ofSource limit source workerCount device
  | turn _ turn ih => exact ih.step (step_of_turn turn)

/-- Between the looks nothing is printed. -/
theorem printing_of_run {w v : Watch σ} {seen : List Event} (run : (machine S limit).Run w seen v)
    (unlooked : ∀ packets, .looked packets ∉ seen) : v.printing = w.printing := by
  induction run with
  | here => rfl
  | turn _ turn ih =>
      have earlier := ih fun packets here => unlooked packets (List.mem_append_left _ here)
      rw [← earlier]
      cases step_of_turn turn with
      | look | lookLast =>
          exact absurd (List.mem_append_right _ (List.mem_singleton_self _)) (unlooked _)
      | pipeline | start | stop | leave | compare | count | sum => rfl

/-- A look is all that is seen of its turn. -/
theorem Step.looked {w v : Watch σ} {t : Turn α} {now : List Event} {packets : List Packet}
    (step : Step S limit t w now v) (here : .looked packets ∈ now) :
    now = [.looked packets] ∧ v.printing = (w.printing.poll limit w.pipeline.store).2 := by
  have inside (seen : List Pipeline.Event) : .looked packets ∉ seen.map Event.pipeline := by
    intro here
    obtain ⟨e, -, other⟩ := List.mem_map.mp here
    cases other
  cases step with
  | pipeline | start | stop => exact absurd here (inside _)
  | look | lookLast => exact ⟨by rw [List.mem_singleton.mp here], rfl⟩
  | leave | compare | count => cases here
  | sum => cases List.mem_singleton.mp here

/-- A run comes to a look, and goes on. -/
theorem look_of_run {w v : Watch σ} {earlier later : List Event} {packets : List Packet}
    (run : (machine S limit).Run w (earlier ++ .looked packets :: later) v) :
    ∃ u x t, (machine S limit).Run w earlier u ∧ u.turn? S limit t = some (x, [.looked packets]) ∧
      x.printing = (u.printing.poll limit u.pipeline.store).2 ∧
      (machine S limit).Run x later v := by
  obtain ⟨u, x, t, first, front, back, rest, early, turn, late, rfl, rfl⟩ := run.split
  obtain ⟨alone, printing⟩ :=
    (step_of_turn turn).looked (List.mem_append_right front List.mem_cons_self)
  rcases List.append_eq_singleton_iff.mp alone with ⟨rfl, behind⟩ | ⟨-, none⟩
  · obtain ⟨-, rfl⟩ := List.cons.inj behind
    rw [List.append_nil]
    exact ⟨u, x, t, early, turn, printing, late⟩
  · cases none

/-! ## What is printed -/

section
variable {source : σ} {workerCount : Nat} {device : String} {seen : List Event} {w : Watch σ}

/-- What was printed are the first packets of the store. -/
theorem printed_of_run
    (run : (machine S limit).Run (ofSource source workerCount device) seen w) :
    printedOf seen = w.pipeline.store.packets.take w.printing.printed ∧
      (printedOf seen).map (·.id) = List.range' 1 w.printing.printed := by
  obtain ⟨g, holds, printed⟩ := (sound_of_run run).printed
  refine ⟨?_, ?_⟩
  · rw [holds.packets]
    exact printed.shown
  · rw [printed.shown, List.map_take, PacketStore.ids_numbered]
    exact List.take_range'_of_length_ge printed.le

/-- At a look, the thread has printed as many packets of those that are stored as the limit
allows. -/
theorem printed_of_look {u : Watch σ}
    (run : (machine S limit).Run (ofSource source workerCount device) seen u) :
    (u.printing.poll limit u.pipeline.store).2.printed = atMost limit u.pipeline.processed := by
  obtain ⟨g, holds, printed⟩ := (sound_of_run run).printed
  obtain ⟨printed, caughtUp⟩ := printed.poll holds
  have count : u.pipeline.processed = g.length := holds.count
  rw [printed.printed, caughtUp, count]

/-- At the end the last line is printed, behind the packets. -/
theorem lines_of_done
    (run : (machine S limit).Run (ofSource source workerCount device) seen w)
    (done : w.place = .done) :
    w.printing.printed = atMost limit w.pipeline.processed ∧
      ∃ captured, Session.linesOf seen = (printedOf seen).map .packet ++
        [.counts captured w.pipeline.processed w.printing.printed] := by
  have sound := sound_of_run run
  obtain ⟨g, holds, printed⟩ := sound.printed
  refine ⟨?_, sound.lines.done done⟩
  rw [printed.printed, sound.caughtUp]
  rw [done]
  trivial

end

/-- **Each packet is printed once, up to the limit.**  Whatever is stored between the looks at a
store, a batch of packets or none: the packets printed at all looks are those with the numbers
from one on, each once and in order, as many as are stored at the last look or as the limit
allows, and that is the number that is counted.

So it is in every order of the threads of the program, around any source: the packets printed
so far are the first ones of the store, as many as were stored at the last look or as the limit
allows.  When the program is done, its last line stands behind them and counts as many as are
stored then or as the limit allows. -/
theorem prints_each_packet_once (limit : Option Nat) :
    (∀ batches : List (List Packet),
      let r := Printing.pollAll limit {} (Printing.storesAfter {} batches)
      let m := atMost limit batches.flatten.length
      r.1 = (numbered batches.flatten).take m ∧ r.1.map (·.id) = List.range' 1 m ∧
        r.2.printed = m) ∧
      ∀ {σ α : Type} (S : CaptureSource σ α) (source : σ) (workerCount : Nat) (device : String)
        (seen : List Event) (w : Watch σ),
        (machine S limit).Run (ofSource source workerCount device) seen w →
          printedOf seen = w.pipeline.store.packets.take w.printing.printed ∧
            (printedOf seen).map (·.id) = List.range' 1 w.printing.printed ∧
            (∀ earlier packets later, seen = earlier ++ .looked packets :: later →
              (∀ more, .looked more ∉ later) →
                ∃ u v t, (machine S limit).Run (ofSource source workerCount device) earlier u ∧
                  u.turn? S limit t = some (v, [.looked packets]) ∧
                  (machine S limit).Run v later w ∧
                  w.printing.printed = atMost limit u.pipeline.processed) ∧
            (w.place = .done →
              w.printing.printed = atMost limit w.pipeline.processed ∧
                ∃ captured, Session.linesOf seen = (printedOf seen).map .packet ++
                  [.counts captured w.pipeline.processed w.printing.printed]) := by
  constructor
  · intro batches r m
    have empty : Holds [] {} := ⟨rfl, rfl⟩
    obtain ⟨printed, caughtUp⟩ := Printing.printed_pollAll (.begin limit) empty rfl batches
    have count : r.2.printed = m := by
      rw [printed.printed, caughtUp]
      rfl
    have shown : r.1 = (numbered batches.flatten).take m := by
      rw [← count]
      exact printed.shown
    refine ⟨shown, ?_, count⟩
    rw [shown, List.map_take, PacketStore.ids_numbered]
    exact List.take_range'_of_length_ge (Printing.atMost_le limit _)
  · intro σ α S source workerCount device seen w run
    obtain ⟨first, ids⟩ := printed_of_run run
    refine ⟨first, ids, ?_, lines_of_done run⟩
    rintro earlier packets later rfl unlooked
    obtain ⟨u, v, t, early, turn, printing, late⟩ := look_of_run run
    refine ⟨u, v, t, early, turn, late, ?_⟩
    rw [printing_of_run late unlooked, printing, printed_of_look early]

/-- A limit of two: one packet is stored at the first look, and two more at the last one. -/
theorem prints_each_packet_once_limited :
    let script : List Frame := [.whole [1], .whole [2], .whole [3]]
    let replay : Turn ScriptedSource.Delivery := .pipeline (.source .replay)
    let rest := [replay, .pipeline .dispatch, .pipeline (.work 0), .pipeline .control]
    let one := [replay, replay, replay, .pipeline .dispatch, .pipeline .dispatch,
      .pipeline (.work 0), .pipeline (.work 0), .own false, .own false]
    let turns := [.own false, .pipeline .control, .pipeline .control] ++ one ++
      [replay, replay, replay, replay, .own true, .own true] ++ (List.replicate 12 rest).flatten ++
      [.own true, .own true, .own true]
    let r := (machine ScriptedSource.source (some 2)).takeAll (ofSource { script := script } 1 "mock0")
      turns
    r.1.place = .done ∧ (printedOf r.2).map (·.id) = [1, 2] ∧
      ∃ captured, Session.linesOf r.2 = (printedOf r.2).map .packet ++ [.counts captured 3 2] := by
  intro script replay rest one turns r
  have run : (machine ScriptedSource.source (some 2)).Run (ofSource { script := script } 1 "mock0")
      r.2 r.1 := Machine.Run.takeAll _ turns
  have done : r.1.place = .done := by decide +kernel
  have stored : r.1.pipeline.processed = 3 := by decide +kernel
  obtain ⟨-, ids, -, last⟩ := (prints_each_packet_once (some 2)).2 _ _ _ _ _ _ run
  obtain ⟨count, captured, lines⟩ := last done
  have two : r.1.printing.printed = 2 := count.trans (by rw [stored]; rfl)
  rw [two] at ids lines
  rw [stored] at lines
  exact ⟨done, ids, captured, lines⟩

end Watch

/-! ## The program -/

theorem Watch.run_settle {σ α : Type} (S : CaptureSource σ α) (limit : Option Nat) (w : Watch σ) :
    (machine S limit).Run w (w.settle S limit).2 (w.settle S limit).1 :=
  Machine.Run.settle _ _ w

/-- The order in which the program itself is played out is one of all. -/
theorem Watch.run_settleAll {σ α : Type} (S : CaptureSource σ α) (limit : Option Nat) (w : Watch σ)
    (late : Bool) :
    (machine S limit).Run w (w.settleAll S limit late).2 (w.settleAll S limit late).1 := by
  let m := machine S limit
  let calling := m.take w (.own late)
  let starting := calling.1.settle S limit
  let watching := m.takeAll starting.1 [.own late, .own true, .own true, .own true]
  let stopping := watching.1.settle S limit
  have started : m.Run w (calling.2 ++ starting.2) starting.1 :=
    (Machine.Run.take w (Turn.own late)).trans (run_settle S limit calling.1)
  have watched : m.Run w (calling.2 ++ starting.2 ++ watching.2) watching.1 :=
    started.trans (Machine.Run.takeAll starting.1 _)
  have stopped := watched.trans (run_settle S limit watching.1)
  exact stopped.trans (Machine.Run.takeAll stopping.1 _)

/-- What a capture prints are the packets with the numbers from one on, and the counts behind
them. -/
theorem Session.capture_lines {o : Options} {source : ScriptedSource} {workerCount : Nat}
    {device : String} {lines : List OutputLine}
    (captured : capture o source workerCount device = .ok lines) :
    ∃ (packets : List Packet) (frames decoded : Nat),
      lines = packets.map .packet ++ [.counts frames decoded (atMost o.limit decoded)] ∧
        packets.map (·.id) = List.range' 1 (atMost o.limit decoded) := by
  have run := Watch.run_settleAll ScriptedSource.source o.limit
    (.ofSource source workerCount device) (o.duration = some 0)
  unfold capture at captured
  dsimp only at captured
  split at captured
  · rename_i done
    cases captured
    obtain ⟨count, frames, lines⟩ := Watch.lines_of_done run done
    obtain ⟨-, ids⟩ := Watch.printed_of_run run
    rw [count] at lines ids
    exact ⟨_, frames, _, lines, ids⟩
  · cases captured

end PacketWatch
