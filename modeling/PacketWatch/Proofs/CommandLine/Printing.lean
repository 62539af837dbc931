/-
# `PacketWatch.Proofs.CommandLine.Printing` — each packet is printed once, up to the limit

A look at the store moves the cursor to the last packet that is there, also where the limit
keeps packets back.  Nothing is lost by that: the limit keeps packets back only once as many are
printed as it allows, and from then on none is printed.  So after any looks

    printed = the cursor, or the limit where that is less,

and the packets that were printed are the first so many that were stored (`Printed`).
-/
import PacketWatch.CommandLine.Printing
import PacketWatch.Proofs.Store.Polling

namespace PacketWatch

namespace PacketStore

/-- Packets that are added later stand behind those that are there. -/
theorem numbered_append (g more : List Packet) :
    ∃ later, numbered (g ++ more) = numbered g ++ later := ⟨_, List.mapIdx_append⟩

/-- A store that takes some packets, one behind the other. -/
theorem Holds.applyAll {g : List Packet} {s : PacketStore} (holds : Holds g s)
    (packets : List Packet) : Holds (g ++ packets) (s.applyAll (packets.map .add)) := by
  induction packets generalizing g s with
  | nil => rwa [List.append_nil]
  | cons p packets ih =>
      rw [List.append_cons]
      exact ih (holds.respond (.add p))

end PacketStore

namespace Printing

open PacketStore (Holds numbered)

/-- As much of a number as a limit allows. -/
def atMost (limit : Option Nat) (n : Nat) : Nat :=
  match limit with
  | some k => min k n
  | none => n

theorem atMost_le (limit : Option Nat) (n : Nat) : atMost limit n ≤ n := by
  cases limit with
  | none => exact Nat.le_refl n
  | some k => exact Nat.min_le_right k n

theorem atMost_mono (limit : Option Nat) {m n : Nat} (le : m ≤ n) :
    atMost limit m ≤ atMost limit n := by
  cases limit with
  | none => exact le
  | some k => exact Nat.le_min.mpr ⟨Nat.min_le_left k m, Nat.le_trans (Nat.min_le_right k m) le⟩

/-- What was printed of a generation: its first packets, as many as were seen, or as the limit
allows. -/
structure Printed (limit : Option Nat) (g shown : List Packet) (p : Printing) : Prop where
  within : p.cursor.lastSeen ≤ g.length
  printed : p.printed = atMost limit p.cursor.lastSeen
  shown : shown = (numbered g).take p.printed

variable {limit : Option Nat} {g shown : List Packet} {p : Printing}

theorem Printed.begin (limit : Option Nat) : Printed limit [] [] {} where
  within := Nat.le_refl 0
  printed := (Nat.le_zero.mp (atMost_le limit 0)).symm
  shown := rfl

theorem Printed.le (printed : Printed limit g shown p) : p.printed ≤ g.length := by
  rw [printed.printed]
  exact Nat.le_trans (atMost_le limit _) printed.within

/-- What is stored between two looks changes nothing about what was printed. -/
theorem Printed.grow (printed : Printed limit g shown p) (more : List Packet) :
    Printed limit (g ++ more) shown p := by
  refine ⟨?_, printed.printed, ?_⟩
  · rw [List.length_append]
    exact Nat.le_add_right_of_le printed.within
  · have enough : p.printed ≤ (numbered g).length := by
      rw [PacketStore.length_numbered]
      exact printed.le
    obtain ⟨later, behind⟩ := PacketStore.numbered_append g more
    rw [behind, List.take_append_of_le_length enough]
    exact printed.shown

/-- A look prints what is missing of as many as the limit allows.  Where the cursor is past the
number that was printed, nothing is missing. -/
theorem Printed.look {s : PacketStore} (printed : Printed limit g shown p) (holds : Holds g s) :
    (p.poll limit s).1 =
      ((numbered g).drop p.printed).take (atMost limit g.length - p.printed) := by
  have within := printed.within
  have count := printed.printed
  have length : (numbered g).length = g.length := PacketStore.length_numbered g
  change p.allowed limit (s.since p.cursor.lastSeen) = _
  rw [holds.since]
  cases limit with
  | none =>
      change p.printed = p.cursor.lastSeen at count
      change (numbered g).drop p.cursor.lastSeen =
        ((numbered g).drop p.printed).take (g.length - p.printed)
      have rest : ((numbered g).drop p.cursor.lastSeen).length = g.length - p.cursor.lastSeen := by
        rw [List.length_drop, length]
      rw [count, List.take_of_length_le (Nat.le_of_eq rest)]
  | some k =>
      change p.printed = min k p.cursor.lastSeen at count
      change ((numbered g).drop p.cursor.lastSeen).take (k - p.printed) =
        ((numbered g).drop p.printed).take (min k g.length - p.printed)
      by_cases reached : k ≤ p.cursor.lastSeen
      · have nothing : k - p.printed = 0 := by omega
        have nothing' : min k g.length - p.printed = 0 := by omega
        rw [nothing, nothing', List.take_zero, List.take_zero]
      · have same : p.printed = p.cursor.lastSeen := by omega
        rw [← same]
        by_cases few : k ≤ g.length
        · rw [Nat.min_eq_left few]
        · have short : ((numbered g).drop p.printed).length = g.length - p.printed := by
            rw [List.length_drop, length]
          rw [Nat.min_eq_right (by omega), List.take_of_length_le (by omega),
            List.take_of_length_le (by omega)]

/-- After a look the cursor is at the last packet that is stored. -/
theorem Printed.poll {s : PacketStore} (printed : Printed limit g shown p) (holds : Holds g s) :
    Printed limit g (shown ++ (p.poll limit s).1) (p.poll limit s).2 ∧
      (p.poll limit s).2.cursor.lastSeen = g.length := by
  have moved : (p.poll limit s).2.cursor.lastSeen = g.length :=
    PolledStore.lastSeen_poll holds printed.within
  have before : p.printed ≤ atMost limit g.length := by
    rw [printed.printed]
    exact atMost_mono limit printed.within
  have bound := atMost_le limit g.length
  have count : (p.poll limit s).2.printed = atMost limit g.length := by
    change p.printed + (p.poll limit s).1.length = _
    rw [printed.look holds, List.length_take, List.length_drop, PacketStore.length_numbered]
    omega
  refine ⟨⟨Nat.le_of_eq moved, by rw [count, moved], ?_⟩, moved⟩
  rw [count, printed.look holds, printed.shown, ← List.take_add, Nat.add_sub_cancel' before]

/-! ## Any number of packets between the looks -/

/-- The stores that are looked at, if so many packets are added in front of each look. -/
def storesAfter (s : PacketStore) : List (List Packet) → List PacketStore
  | [] => []
  | batch :: more => s.applyAll (batch.map .add) :: storesAfter (s.applyAll (batch.map .add)) more

theorem printed_pollAll {s : PacketStore} (printed : Printed limit g shown p) (holds : Holds g s)
    (caughtUp : p.cursor.lastSeen = g.length) (batches : List (List Packet)) :
    Printed limit (g ++ batches.flatten) (shown ++ (pollAll limit p (storesAfter s batches)).1)
        (pollAll limit p (storesAfter s batches)).2 ∧
      (pollAll limit p (storesAfter s batches)).2.cursor.lastSeen =
        (g ++ batches.flatten).length := by
  induction batches generalizing g s shown p with
  | nil =>
      change Printed limit (g ++ []) (shown ++ []) p ∧ p.cursor.lastSeen = (g ++ []).length
      rw [List.append_nil, List.append_nil]
      exact ⟨printed, caughtUp⟩
  | cons batch more ih =>
      have holds := holds.applyAll batch
      obtain ⟨printed, caughtUp⟩ := (printed.grow batch).poll holds
      have all := ih printed holds caughtUp
      rwa [List.append_assoc, List.append_assoc] at all

end Printing

end PacketWatch
