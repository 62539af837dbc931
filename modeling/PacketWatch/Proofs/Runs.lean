/-
# `PacketWatch.Proofs.Runs` — runs of a machine, put together and taken apart

A run grows at its end, so a property of all runs is an induction with the last
turn in front of it.  What is needed beside that: runs follow on each other, a run
can be cut at the turn in which something is seen, and any list of turns is a run,
since a thread that has to wait changes nothing.
-/
import PacketWatch.Machine

namespace PacketWatch.Machine

variable {σ τ ε : Type} {m : Machine σ τ ε}

/-- A single turn is a run. -/
theorem Run.single {s u : σ} {t : τ} {seen : List ε} (turn : m.turn? s t = some (u, seen)) :
    m.Run s seen u := by
  have run : m.Run s ([] ++ seen) u := .turn (.here s) turn
  simpa only [List.nil_append] using run

/-- A run goes on where another one ended. -/
theorem Run.trans {s u v : σ} {seen later : List ε} (first : m.Run s seen u)
    (second : m.Run u later v) : m.Run s (seen ++ later) v := by
  induction second with
  | here => simpa only [List.append_nil] using first
  | turn _ turn ih =>
      rw [← List.append_assoc]
      exact .turn ih turn

/-- A run comes to the turn in which an event is seen, takes it, and goes on. -/
theorem Run.split {s q : σ} {e : ε} {before after : List ε}
    (run : m.Run s (before ++ e :: after) q) :
    ∃ u v t first front back rest, m.Run s first u ∧ m.turn? u t = some (v, front ++ e :: back) ∧
      m.Run v rest q ∧ before = first ++ front ∧ after = back ++ rest := by
  generalize same : before ++ e :: after = all at run
  induction run generalizing after with
  | here => simp at same
  | @turn u v t seen now run turn ih =>
      -- the event was seen before the last turn, or in it
      rcases List.append_eq_append_iff.mp same with ⟨more, rfl, rest⟩ | ⟨more, rfl, rest⟩
      · cases more with
        | nil =>
            rw [List.nil_append] at rest
            exact ⟨u, v, t, before, [], after, [], by simpa using run, by rw [turn, ← rest]; rfl,
              .here v, by simp, by simp⟩
        | cons head more =>
            obtain ⟨rfl, rfl⟩ := List.cons.inj rest
            obtain ⟨u', v', t', first, front, back, others, early, at', late, split, rfl⟩ := ih rfl
            exact ⟨u', v', t', first, front, back, others ++ now, early, at',
              .turn late turn, split, by simp⟩
      · exact ⟨u, v, t, seen, more, after, [], run, by rw [turn, rest], .here v, rfl, by simp⟩

/-- What is seen on the way is seen in some turn. -/
theorem Run.mem {s q : σ} {e : ε} {seen : List ε} (run : m.Run s seen q) (here : e ∈ seen) :
    ∃ u v t first now, m.Run s first u ∧ m.turn? u t = some (v, now) ∧ e ∈ now := by
  obtain ⟨before, after, rfl⟩ := List.append_of_mem here
  obtain ⟨u, v, t, first, front, back, -, early, turn, -, -, -⟩ := run.split
  exact ⟨u, v, t, first, _, early, turn, List.mem_append_right _ List.mem_cons_self⟩

theorem take_of_turn {s : σ} {t : τ} {r : σ × List ε} (turn : m.turn? s t = some r) :
    m.take s t = r := by
  rw [take, turn]
  rfl

theorem take_of_wait {s : σ} {t : τ} (waits : m.turn? s t = none) : m.take s t = (s, []) := by
  rw [take, waits]
  rfl

/-- A thread that need not wait takes its turn. -/
theorem turn?_eq_take {s : σ} {t : τ} (ready : (m.turn? s t).isSome = true) :
    m.turn? s t = some (m.take s t) := by
  obtain ⟨r, turn⟩ := Option.isSome_iff_exists.mp ready
  rw [take_of_turn turn, turn]

/-- Taking a turn, or waiting for it, is a run. -/
theorem Run.take (s : σ) (t : τ) : m.Run s (m.take s t).2 (m.take s t).1 := by
  unfold Machine.take
  cases turn : m.turn? s t with
  | none => exact .here s
  | some r => exact .single turn

/-- Any list of turns is a run. -/
theorem Run.takeAll (s : σ) (turns : List τ) :
    m.Run s (m.takeAll s turns).2 (m.takeAll s turns).1 := by
  induction turns generalizing s with
  | nil => exact .here s
  | cons t more ih => exact (Run.take s t).trans (ih (m.take s t).1)

/-- A round is a run. -/
theorem Run.round {s u : σ} {threads : List τ} {seen : List ε}
    (round : m.round? s threads = some (u, seen)) : m.Run s seen u := by
  induction threads generalizing s u seen with
  | nil => cases round
  | cons t more ih =>
      unfold round? at round
      cases turn : m.turn? s t with
      | none =>
          rw [turn] at round
          exact ih round
      | some r =>
          obtain ⟨v, now⟩ := r
          rw [turn] at round
          dsimp only at round
          cases rest : m.round? v more with
          | none =>
              rw [rest] at round
              cases round
              exact .single turn
          | some r =>
              rw [rest] at round
              cases round
              exact (Run.single turn).trans (ih rest)

/-- Going round until no thread can move is a run. -/
theorem Run.settle (threads : List τ) (rounds : Nat) (s : σ) :
    m.Run s (m.settle threads rounds s).2 (m.settle threads rounds s).1 := by
  induction rounds generalizing s with
  | zero => exact .here s
  | succ rounds ih =>
      unfold Machine.settle
      cases round : m.round? s threads with
      | none => exact .here s
      | some r => exact (Run.round round).trans (ih r.1)

end PacketWatch.Machine
