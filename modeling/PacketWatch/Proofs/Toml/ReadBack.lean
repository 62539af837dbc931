/-
# `PacketWatch.Proofs.Toml.ReadBack` — TOML text is read back

A document is a header for each section and a line for each value that is not nothing.  Two
things are shown of it, and `read?_write` puts them together.

* *The lines are read* (`areLines_write`).  The writer stops at the first value that has no
  form, so this is an induction on what it has written when it does not stop.
* *The lines are put together* to the sections (`add_sections`).  A draft holds the sections in
  front, each as a table that a header wrote, and values go into the last of them.  Since no name
  stands twice, a header always writes a new table and a value is always a new one; the
  induction is on the sections and, inside of one, on its values.

Names have to be bare keys, as the writer puts no quotes around them.
-/
import PacketWatch.Proofs.Toml.Lines

namespace PacketWatch

namespace Toml

/-- Names that may stand for the values of one table. -/
structure IsNaming (names : List String) : Prop where
  bare : ∀ name ∈ names, IsBare name
  distinct : names.Nodup

/-- Sections whose names, and those of their values, a document can tell apart. -/
structure IsDocument (sections : List Section) : Prop where
  names : IsNaming (sections.map (·.name))
  fields : ∀ s ∈ sections, IsNaming (s.fields.map (·.1))

/-! ## The lines of sections -/

/-- The line of a field: none for a value of nothing. -/
def fieldLines (f : String × Scalar) : List Line :=
  if f.2 = .null then [] else [.pair [f.1] f.2.datum]

/-- The lines of a section. -/
def sectionLines (s : Section) : List Line := .table [s.name] :: s.fields.flatMap fieldLines

/-- What comes about in two steps comes about in the first of them. -/
theorem exists_of_bind_ok {ε α β : Type} {x : Except ε α} {f : α → Except ε β} {b : β}
    (both : (x >>= f) = .ok b) : ∃ a, x = .ok a ∧ f a = .ok b := by
  cases x with
  | error e => cases both
  | ok a => exact ⟨a, rfl, both⟩

/-- Only nothing has no text. -/
theorem eq_null_iff {s : Scalar} {form : Option String} (written : scalarText? s = .ok form) :
    s = .null ↔ form = none := by
  cases s with
  | null =>
      cases written
      simp
  | bool b =>
      cases written
      simp
  | natural n =>
      rw [scalarText?] at written
      split at written
      · cases written
        simp
      · cases written
  | text s =>
      cases written
      simp

theorem areLines_fieldLine {f : String × Scalar} (bare : IsBare f.1) {text : String}
    (written : fieldLine f = .ok text) : AreLines text.toList (fieldLines f) := by
  obtain ⟨form, scalar, rest⟩ := exists_of_bind_ok written
  cases form with
  | none =>
      cases rest
      rw [fieldLines, if_pos ((eq_null_iff scalar).mpr rfl)]
      exact .nil
  | some form =>
      cases rest
      rw [fieldLines, if_neg fun null => nomatch (eq_null_iff scalar).mp null]
      exact areLines_pair bare (isValue_scalarText? scalar)

/-- What is written for a list is written for its first item and for the others. -/
theorem mapM_cons_ok {α : Type} {write : α → Except Unwritable String} {x : α} {xs : List α}
    {texts : List String} (written : (x :: xs).mapM write = .ok texts) :
    ∃ text others, write x = .ok text ∧ xs.mapM write = .ok others ∧ texts = text :: others := by
  rw [List.mapM_cons] at written
  obtain ⟨text, one, rest⟩ := exists_of_bind_ok written
  obtain ⟨others, more, rest⟩ := exists_of_bind_ok rest
  cases rest
  exact ⟨text, others, one, more, rfl⟩

/-- Texts that are written one after the other hold the lines of each. -/
theorem areLines_mapM {α : Type} {write : α → Except Unwritable String} {lines : α → List Line}
    (between : List Char) (blank : AreLines between []) {xs : List α}
    (read : ∀ x ∈ xs, ∀ text, write x = .ok text → AreLines text.toList (lines x))
    {texts : List String} (written : xs.mapM write = .ok texts) :
    AreLines (texts.flatMap fun t => between ++ t.toList) (xs.flatMap lines) := by
  induction xs generalizing texts with
  | nil =>
      cases written
      exact .nil
  | cons x xs ih =>
      obtain ⟨first, others⟩ := List.forall_mem_cons.mp read
      obtain ⟨text, more, one, rest, rfl⟩ := mapM_cons_ok written
      rw [List.flatMap_cons, List.flatMap_cons]
      exact (blank.append (first text one)).append (ih others rest)

/-- The text of a section is its header and what is written for its fields. -/
theorem exists_lines {s : Section} {text : String} (written : sectionText s = .ok text) :
    ∃ lines, s.fields.mapM fieldLine = .ok lines ∧
      text = "[" ++ s.name ++ "]\n" ++ String.join lines := by
  obtain ⟨lines, inner, rest⟩ := exists_of_bind_ok written
  cases rest
  exact ⟨lines, inner, rfl⟩

theorem areLines_sectionText {s : Section} (bare : IsBare s.name)
    (fields : ∀ f ∈ s.fields, IsBare f.1) {text : String} (written : sectionText s = .ok text) :
    AreLines text.toList (sectionLines s) := by
  obtain ⟨lines, inner, rfl⟩ := exists_lines written
  have body := areLines_mapM [] .nil
    (fun f here _ => areLines_fieldLine (fields f here)) inner
  rw [String.toList_append, String.toList_join]
  exact (areLines_header bare).append body

/-- The text of sections is that of the first one, and the others with an empty line in front of
each. -/
theorem exists_tables {s : Section} {sections : List Section} {text : String}
    (written : write (s :: sections) = .ok text) :
    ∃ first others, sectionText s = .ok first ∧ sections.mapM sectionText = .ok others ∧
      text.toList = first.toList ++ others.flatMap fun t => '\n' :: t.toList := by
  obtain ⟨texts, tables, rest⟩ := exists_of_bind_ok written
  obtain ⟨first, others, one, more, rfl⟩ := mapM_cons_ok tables
  cases rest
  exact ⟨first, others, one, more, Text.toList_intercalate_cons _ _ _⟩

/-- The text of sections holds their lines. -/
theorem areLines_write {sections : List Section} (named : IsDocument sections) {text : String}
    (written : write sections = .ok text) :
    AreLines text.toList (sections.flatMap sectionLines) := by
  have each : ∀ s ∈ sections, ∀ text, sectionText s = .ok text →
      AreLines text.toList (sectionLines s) := fun s here text =>
    areLines_sectionText (named.names.bare _ (List.mem_map_of_mem here))
      fun f field => (named.fields s here).bare _ (List.mem_map_of_mem field)
  cases sections with
  | nil =>
      cases written
      exact .nil
  | cons s sections =>
      obtain ⟨first, others, one, more, chars⟩ := exists_tables written
      obtain ⟨header, rest⟩ := List.forall_mem_cons.mp each
      rw [chars]
      exact (header first one).append (areLines_mapM ['\n'] areLines_blank rest more)

/-! ## Sections put together -/

/-- The values of a section, as the entries of its table. -/
def entriesOf (fields : List (String × Scalar)) : Entries :=
  fields.map fun f => (f.1, .value f.2.datum)

/-- Sections, as tables that headers wrote. -/
def tablesOf (sections : List Section) : Entries :=
  sections.map fun s => (s.name, .table .written (entriesOf s.fields))

namespace Entries

theorem get?_none {entries : Entries} {key : String} (fresh : key ∉ entries.map (·.1)) :
    get? entries key = none := by
  rw [get?, List.find?_eq_none.mpr]
  · rfl
  · intro e here same
    exact fresh (beq_iff_eq.mp same ▸ List.mem_map_of_mem here)

variable {entries : Entries} {key : String} (fresh : key ∉ entries.map (·.1))

include fresh

theorem get?_last (node : Node) : get? (entries ++ [(key, node)]) key = some node := by
  rw [get?, List.find?_append, List.find?_eq_none.mpr]
  · simp
  · intro e here same
    exact fresh (beq_iff_eq.mp same ▸ List.mem_map_of_mem here)

theorem set_new (node : Node) : set entries key node = entries ++ [(key, node)] := by
  rw [set, get?_none fresh]
  rfl

theorem set_last (old node : Node) :
    set (entries ++ [(key, old)]) key node = entries ++ [(key, node)] := by
  rw [set, get?_last fresh old, Option.isSome_some, if_pos rfl, List.map_append]
  congr 1
  · refine (List.map_congr_left fun e here => ?_).trans (List.map_id _)
    rw [if_neg]
    · rfl
    · intro same
      exact fresh (beq_iff_eq.mp same ▸ List.mem_map_of_mem here)
  · simp

end Entries

/-- A header writes a new table. -/
theorem add_header {root : Entries} {name : String} (fresh : name ∉ root.map (·.1))
    (current : List String) :
    Draft.add ⟨root, current⟩ (.table [name]) =
      some ⟨root ++ [(name, .table .written [])], [name]⟩ := by
  show (Entries.openTable name .written root).bind _ = _
  rw [Entries.openTable, Entries.get?_none fresh]
  show some (Draft.mk (Entries.set root name (.table .written [])) [name]) = _
  rw [Entries.set_new fresh]

/-- A value goes into the last table. -/
theorem add_pair {root : Entries} {name : String} (fresh : name ∉ root.map (·.1))
    {entries : Entries} {key : String} (new : key ∉ entries.map (·.1)) (d : Datum) :
    Draft.add ⟨root ++ [(name, .table .written entries)], [name]⟩ (.pair [key] d) =
      some ⟨root ++ [(name, .table .written (entries ++ [(key, .value d)]))], [name]⟩ := by
  have put : Entries.put entries [key] d = some (entries ++ [(key, .value d)]) := by
    show Entries.putValue false key d .written entries = _
    rw [Entries.putValue, Entries.get?_none new]
    rfl
  have follow : Entries.follow false (fun _ entries => Entries.put entries [key] d) [name] .written
      (root ++ [(name, .table .written entries)]) =
        some (root ++ [(name, .table .written (entries ++ [(key, .value d)]))]) := by
    rw [Entries.follow, Entries.get?_last fresh]
    show (Entries.put entries [key] d).bind _ = _
    rw [put]
    show some (Entries.set _ name _) = _
    rw [Entries.set_last fresh]
  rw [Draft.add, follow]
  rfl

/-- The values of a section go into the last table, one after the other. -/
theorem add_fields {root : Entries} {name : String} (fresh : name ∉ root.map (·.1))
    (entries : Entries) (fields : List (String × Scalar))
    (distinct : (entries.map (·.1) ++ fields.map (·.1)).Nodup) :
    (fields.map fun f => Line.pair [f.1] f.2.datum).foldlM Draft.add
        ⟨root ++ [(name, .table .written entries)], [name]⟩ =
      some ⟨root ++ [(name, .table .written (entries ++ entriesOf fields))], [name]⟩ := by
  induction fields generalizing entries with
  | nil =>
      have none : entries ++ entriesOf [] = entries := List.append_nil _
      rw [none]
      rfl
  | cons f fields ih =>
      have new : f.1 ∉ entries.map (·.1) := fun here =>
        (List.nodup_append.mp distinct).2.2 _ here _ List.mem_cons_self rfl
      have still : ((entries ++ [(f.1, Node.value f.2.datum)]).map (·.1) ++
          fields.map (·.1)).Nodup := by
        simpa using distinct
      rw [List.map_cons, List.foldlM_cons, add_pair fresh new]
      show List.foldlM _ _ _ = _
      rw [ih _ still, List.append_assoc]
      rfl

theorem flatMap_fieldLines (fields : List (String × Scalar)) :
    fields.flatMap fieldLines =
      (fields.filter (·.2 ≠ .null)).map fun f => Line.pair [f.1] f.2.datum := by
  induction fields with
  | nil => rfl
  | cons f fields ih =>
      by_cases null : f.2 = .null
      · rw [List.flatMap_cons, fieldLines, if_pos null, ih,
          List.filter_cons_of_neg (by simp [null])]
        rfl
      · rw [List.flatMap_cons, fieldLines, if_neg null, ih,
          List.filter_cons_of_pos (by simp [null])]
        rfl

/-- The lines of sections are put together to tables. -/
theorem add_sections {sections : List Section} (root : Entries) (current : List String)
    (distinct : (root.map (·.1) ++ sections.map (·.name)).Nodup)
    (fields : ∀ s ∈ sections, (s.fields.map (·.1)).Nodup) :
    ∃ current', (sections.flatMap sectionLines).foldlM Draft.add ⟨root, current⟩ =
      some ⟨root ++ tablesOf (sections.map Section.given), current'⟩ := by
  induction sections generalizing root current with
  | nil =>
      refine ⟨current, ?_⟩
      rw [tablesOf, List.map_nil, List.map_nil, List.append_nil]
      rfl
  | cons s sections ih =>
      obtain ⟨first, others⟩ := List.forall_mem_cons.mp fields
      have fresh : s.name ∉ root.map (·.1) := fun here =>
        (List.nodup_append.mp distinct).2.2 _ here _ List.mem_cons_self rfl
      have given : (s.given.fields.map (·.1)).Nodup :=
        first.sublist (List.filter_sublist.map _)
      let table : Node := .table .written (entriesOf s.given.fields)
      have still : ((root ++ [(s.name, table)]).map (·.1) ++ sections.map (·.name)).Nodup := by
        simpa using distinct
      obtain ⟨current', rest⟩ := ih _ [s.name] still others
      refine ⟨current', ?_⟩
      have body := add_fields fresh [] s.given.fields given
      rw [List.flatMap_cons, sectionLines, List.cons_append, List.foldlM_cons, add_header fresh,
        flatMap_fieldLines]
      show List.foldlM _ _ _ = _
      rw [List.foldlM_append]
      show (List.foldlM Draft.add _ _).bind _ = _
      refine (congrArg (Option.bind · _) body).trans ?_
      show List.foldlM Draft.add _ _ = _
      rw [List.nil_append, rest, List.append_assoc]
      rfl

theorem fieldsOf_eq (entries : Entries) :
    fieldsOf entries = entries.map fun e => (some e.1, e.2.datum) := by
  induction entries with
  | nil => rfl
  | cons e entries ih => rw [fieldsOf, ih, List.map_cons]

/-- The tables say what the sections say. -/
theorem fieldsOf_tablesOf (sections : List Section) :
    Datum.record (fieldsOf (tablesOf sections)) = Section.datumOf sections := by
  have inner (fields : List (String × Scalar)) :
      fieldsOf (entriesOf fields) = fields.map fun f => (some f.1, f.2.datum) := by
    rw [fieldsOf_eq, entriesOf, List.map_map]
    rfl
  rw [fieldsOf_eq, tablesOf, List.map_map, Section.datumOf]
  congr 2
  funext s
  show (some s.name, Datum.record (fieldsOf (entriesOf s.fields))) = _
  rw [inner]
  rfl

theorem assemble?_sections {sections : List Section} (named : IsDocument sections) :
    assemble? (sections.flatMap sectionLines) =
      some (Section.datumOf (sections.map Section.given)) := by
  obtain ⟨current, tables⟩ := add_sections [] [] named.names.distinct
    fun s here => (named.fields s here).distinct
  rw [assemble?, tables, ← fieldsOf_tablesOf]
  rfl

/-! ## The document -/

theorem dropMark_of_notInFront {s : List Char} (front : NotInFront '\uFEFF' s) :
    dropMark s = s :=
  dropMark.eq_2 _ front

/-- A document begins with a header, if with anything. -/
theorem notInFront_write {sections : List Section} {text : String}
    (written : write sections = .ok text) {c : Char} (other : c ≠ '[') :
    NotInFront c text.toList := by
  cases sections with
  | nil =>
      cases written
      exact nofun
  | cons s sections =>
      obtain ⟨first, others, one, more, chars⟩ := exists_tables written
      obtain ⟨lines, -, rfl⟩ := exists_lines one
      rw [chars]
      simp only [String.toList_append]
      exact notInFront_cons other.symm _

/-- **Sections are read back**, without the values of nothing. -/
theorem read?_write {sections : List Section} (named : IsDocument sections) {text : String}
    (written : write sections = .ok text) :
    read? text = some (Section.datumOf (sections.map Section.given)) := by
  have lines := (areLines_write named written).lines?_eq
  rw [read?, dropMark_of_notInFront (notInFront_write written (by decide)), ← String.length_toList,
    lines]
  exact assemble?_sections named

end Toml

end PacketWatch
