/-
# `PacketWatch.Proofs.Datum` — what is written, as structured data

Sections are written in more than one format.  What any of them says is the same record of
records, so that is what a reader has to find again: each value under its name, in the order in
which they were written.  A format may leave out values of nothing.

A record is read by the names that are asked for.  Where no name stands twice, each of them finds
the value that was given for it, or that none was (`fields?_ofGiven`).
-/
import PacketWatch.Datum
import Mathlib.Data.List.Nodup

namespace PacketWatch

/-! ## Sections -/

/-- A value that is written, as it is read. -/
def Scalar.datum : Scalar → Datum
  | null => .null
  | bool b => .bool b
  | natural n => .integer n
  | text s => .text s

namespace Section

/-- The values of a section under their names. -/
def datum (s : Section) : Datum := .record (s.fields.map fun f => (some f.1, f.2.datum))

/-- The section with some of its values. -/
def only (kept : Scalar → Bool) (s : Section) : Section :=
  { s with fields := s.fields.filter fun f => kept f.2 }

/-- The section without the values of nothing. -/
def given (s : Section) : Section := s.only (· ≠ .null)

/-- Sections under their names. -/
def datumOf (sections : List Section) : Datum :=
  .record (sections.map fun s => (some s.name, s.datum))

end Section

/-! ## Reading by name -/

namespace Datum

/-- The fields that a value is given for. -/
def givenFields (fields : List (String × Option Datum)) : List (Option String × Datum) :=
  fields.filterMap fun f => f.2.map fun d => (some f.1, d)

theorem valuesOf_cons (name : String) (f : String × Option Datum)
    (fields : List (String × Option Datum)) :
    valuesOf name (givenFields (f :: fields)) =
      (if f.1 = name then f.2.toList else []) ++ valuesOf name (givenFields fields) := by
  obtain ⟨key, value⟩ := f
  cases value with
  | none => simp [givenFields]
  | some d =>
      by_cases same : key = name
      · simp [givenFields, valuesOf, same]
      · simp [givenFields, valuesOf, same]

theorem valuesOf_of_notMem {name : String} {fields : List (String × Option Datum)}
    (absent : name ∉ fields.map (·.1)) : valuesOf name (givenFields fields) = [] := by
  induction fields with
  | nil => rfl
  | cons f fields ih =>
      obtain ⟨other, others⟩ := not_or.mp (mt List.mem_cons.mpr absent)
      rw [valuesOf_cons, if_neg (Ne.symm other), ih others, List.nil_append]

theorem valuesOf_of_mem {fields : List (String × Option Datum)}
    (distinct : (fields.map (·.1)).Nodup) {f : String × Option Datum} (here : f ∈ fields) :
    valuesOf f.1 (givenFields fields) = f.2.toList := by
  induction fields with
  | nil => cases here
  | cons g fields ih =>
      obtain ⟨first, others⟩ := List.nodup_cons.mp distinct
      rw [valuesOf_cons]
      rcases List.mem_cons.mp here with rfl | here
      · rw [if_pos rfl, valuesOf_of_notMem first, List.append_nil]
      · have other : g.1 ≠ f.1 := fun same => first (List.mem_map.mpr ⟨f, here, same.symm⟩)
        rw [if_neg other, ih others here, List.nil_append]

theorem field?_of_mem {fields : List (String × Option Datum)}
    (distinct : (fields.map (·.1)).Nodup) {f : String × Option Datum} (here : f ∈ fields) :
    field? (givenFields fields) f.1 = some f.2 := by
  rw [field?, valuesOf_of_mem distinct here]
  cases f.2 with
  | none => rfl
  | some d => rfl

/-- Each name that is asked for finds what is given for it. -/
theorem fields?_givenFields (surplus : Surplus) {fields : List (String × Option Datum)}
    (distinct : (fields.map (·.1)).Nodup) :
    (record (givenFields fields)).fields? surplus (fields.map (·.1)) =
      some (fields.map (·.2)) := by
  have named : (givenFields fields).all (·.1.isSome) = true := by
    refine List.all_eq_true.mpr fun e here => ?_
    obtain ⟨f, -, given⟩ := List.mem_filterMap.mp here
    obtain ⟨d, -, rfl⟩ := Option.map_eq_some_iff.mp given
    rfl
  have each : ∀ asked ⊆ fields, (asked.map (·.1)).mapM (field? (givenFields fields)) =
      some (asked.map (·.2)) := by
    intro asked within
    induction asked with
    | nil => rfl
    | cons f asked ih =>
        obtain ⟨here, others⟩ := List.cons_subset.mp within
        rw [List.map_cons, List.mapM_cons, field?_of_mem distinct here, ih others]
        rfl
  rw [fields?, named]
  exact each fields (List.Subset.refl _)

end Datum

namespace Section

/-- What is found of a value, if it is kept. -/
def found? (kept : Scalar → Bool) (s : Scalar) : Option Datum :=
  if kept s then some s.datum else none

theorem datum_only (kept : Scalar → Bool) (s : Section) :
    (s.only kept).datum =
      .record (Datum.givenFields (s.fields.map fun f => (f.1, found? kept f.2))) := by
  have given (fields : List (String × Scalar)) :
      ((fields.filter fun f => kept f.2).map fun f => (some f.1, f.2.datum)) =
        Datum.givenFields (fields.map fun f => (f.1, found? kept f.2)) := by
    induction fields with
    | nil => rfl
    | cons f fields ih =>
        by_cases keep : kept f.2 = true
        · have here : found? kept f.2 = some f.2.datum := if_pos keep
          rw [List.filter_cons, if_pos keep, List.map_cons, ih, List.map_cons, here]
          rfl
        · have gone : found? kept f.2 = none := if_neg keep
          rw [List.filter_cons, if_neg keep, ih, List.map_cons, gone]
          rfl
  exact congrArg Datum.record (given s.fields)

/-- The values of a section are found by their names. -/
theorem fields?_only (surplus : Surplus) (kept : Scalar → Bool) (s : Section)
    (names : List String) (named : s.fields.map (·.1) = names) (distinct : names.Nodup) :
    (s.only kept).datum.fields? surplus names = some (s.fields.map fun f => found? kept f.2) := by
  have same : (s.fields.map fun f => (f.1, found? kept f.2)).map (·.1) = names := by
    rw [← named, List.map_map]
    rfl
  rw [datum_only, ← same, Datum.fields?_givenFields surplus (same ▸ distinct), List.map_map]
  rfl

/-- Sections are found by their names. -/
theorem fields?_datumOf (surplus : Surplus) (sections : List Section) (names : List String)
    (named : sections.map (·.name) = names) (distinct : names.Nodup) :
    (datumOf sections).fields? surplus names = some (sections.map fun s => some s.datum) := by
  have given : datumOf sections =
      .record (Datum.givenFields (sections.map fun s => (s.name, some s.datum))) := by
    rw [datumOf, Datum.givenFields, List.filterMap_map]
    congr 1
    exact List.filterMap_eq_map.symm ▸ rfl
  have same : (sections.map fun s => (s.name, some s.datum)).map (·.1) = names := by
    rw [← named, List.map_map]
    rfl
  rw [given, ← same, Datum.fields?_givenFields surplus (same ▸ distinct), List.map_map]
  rfl

end Section

end PacketWatch
