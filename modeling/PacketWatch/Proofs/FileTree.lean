/-
# `PacketWatch.Proofs.FileTree` — what is found again in a tree

Two changes are made to a tree: a file is written where no directory is, and a directory is made
where nothing was found.

* A written file is read back (`read_write`).  The way to it leads through directories only, and
  none of them is at its place, so the way is still there.
* Making directories hides nothing: whatever was found is found as before, and so is every file
  (`read_makeDirectories`).  The induction is on the parts of the path, and each part keeps what
  the parts before it left.

Two places may have the same path only if something else is wrong with one of them, so all that
is used of a path is that it names one entry.
-/
import PacketWatch.FileTree

namespace PacketWatch

namespace FileTree

variable {tree later : FileTree}

/-! ## What a look finds -/

theorem look_eq_ok_iff {place : Place} {entry : Entry} :
    tree.look place = .ok entry ↔ place.isTooLong = false ∧ tree.at? place = some entry := by
  rw [look]
  cases place.isTooLong with
  | true => exact ⟨nofun, fun both => nomatch both.1⟩
  | false =>
      cases tree.at? place with
      | none => exact ⟨nofun, fun both => nomatch both.2⟩
      | some found => simp

theorem look_eq_notFound_iff {place : Place} :
    tree.look place = .error .notFound ↔ place.isTooLong = false ∧ tree.at? place = none := by
  rw [look]
  cases place.isTooLong with
  | true => exact ⟨nofun, fun both => nomatch both.1⟩
  | false =>
      cases tree.at? place with
      | none => simp
      | some found => exact ⟨nofun, fun both => nomatch both.2⟩

/-- Around the tree are directories. -/
theorem isAround_eq_false {place : Place} (other : tree.at? place ≠ some .directory) :
    place.isAround = false := by
  rw [at?] at other
  cases around : place.isAround with
  | true =>
      rw [around] at other
      exact absurd rfl other
  | false => rfl

theorem at?_put {place : Place} (inside : place.isAround = false) (entry : Entry) :
    (tree.put place entry).at? place = some entry := by
  rw [at?, inside, put]
  simp

/-- What is found elsewhere is found as before. -/
theorem at?_put_of_ne {place other : Place} {found : Entry} (before : tree.at? other = some found)
    (elsewhere : tree.at? place ≠ some found) (inside : place.isAround = false) (entry : Entry) :
    (tree.put place entry).at? other = some found := by
  rw [at?] at before elsewhere ⊢
  cases around : other.isAround with
  | true =>
      rw [around] at before
      exact before
  | false =>
      rw [around] at before
      rw [inside] at elsewhere
      have different : other.path ≠ place.path := fun same => elsewhere (same ▸ before)
      have rest : (tree.entries.filter (·.1 != place.path)).find? (·.1 == other.path) =
          tree.entries.find? (·.1 == other.path) := by
        rw [List.find?_filter]
        congr 1
        funext e
        by_cases here : e.1 = other.path
        · simp [here, different]
        · simp [here]
      rw [← before]
      simp [put, different.symm, rest]

/-! ## The way to a place -/

/-- Where a directory was found, one is found later. -/
def KeepsDirectories (tree later : FileTree) : Prop :=
  ∀ place, tree.look place = .ok .directory → later.look place = .ok .directory

theorem walk_keeps (keeps : KeepsDirectories tree later) {here place : Place}
    {parts : List String} (way : tree.walk here parts = .ok place) :
    later.walk here parts = .ok place := by
  induction parts generalizing here with
  | nil => exact way
  | cons part more ih =>
      rw [walk, enter] at way ⊢
      cases found : tree.look here with
      | error e =>
          rw [found] at way
          cases way
      | ok entry =>
          rw [found] at way
          cases entry with
          | file content => cases way
          | directory =>
              rw [keeps here found]
              exact ih way

theorem resolve_keeps (keeps : KeepsDirectories tree later) {path : String} {place : Place}
    (leads : tree.resolve path = .ok place) : later.resolve path = .ok place := by
  rw [resolve] at leads ⊢
  cases checked : checkPath path with
  | error e =>
      rw [checked] at leads
      cases leads
  | ok _ =>
      rw [checked] at leads
      change (if _ then _ else _) = _ at leads ⊢
      split at leads
      · cases leads
      · rw [if_neg ‹_›]
        exact walk_keeps keeps leads

theorem read_eq_ok_iff {path : String} {content : Bytes} :
    tree.read path = .ok content ↔
      ∃ place, tree.resolve path = .ok place ∧ tree.look place = .ok (.file content) ∧
        Path.namesDirectory path = false := by
  rw [read]
  cases leads : tree.resolve path with
  | error e => exact ⟨nofun, fun ⟨_, other, _⟩ => nomatch other⟩
  | ok place =>
      show (tree.look place >>= _) = _ ↔ _
      cases found : tree.look place with
      | error e =>
          refine ⟨nofun, fun ⟨_, same, other, _⟩ => ?_⟩
          cases same
          rw [found] at other
          cases other
      | ok entry =>
          cases entry with
          | directory =>
              refine ⟨nofun, fun ⟨_, same, other, _⟩ => ?_⟩
              cases same
              rw [found] at other
              cases other
          | file bytes =>
              show (if _ then _ else _) = _ ↔ _
              cases Path.namesDirectory path with
              | true => exact ⟨nofun, fun ⟨_, _, _, other⟩ => nomatch other⟩
              | false =>
                  constructor
                  · intro same
                    cases same
                    exact ⟨place, rfl, found, rfl⟩
                  · rintro ⟨_, ⟨⟩, same, _⟩
                    rw [found] at same
                    cases same
                    rfl

/-! ## A file that is written -/

/-- What is written goes to a place that no directory has. -/
theorem exists_place {path : String} {content : Bytes}
    (written : tree.write path content = .ok later) :
    ∃ place, tree.resolve path = .ok place ∧ Path.ending path = .name ∧
      place.isTooLong = false ∧ tree.at? place ≠ some .directory ∧
      later = tree.put place (.file content) := by
  rw [write] at written
  cases leads : tree.resolve path with
  | error e =>
      rw [leads] at written
      cases written
  | ok place =>
      rw [leads] at written
      refine ⟨place, rfl, ?_⟩
      dsimp only [bind, Except.bind] at written
      split at written
      · cases written
      · cases written
      · cases written
      · rename_i ending found
        cases written
        obtain ⟨short, here⟩ := look_eq_ok_iff.mp found
        exact ⟨ending, short, by rw [here]; exact nofun, rfl⟩
      · rename_i ending missing
        cases written
        obtain ⟨short, nothing⟩ := look_eq_notFound_iff.mp missing
        exact ⟨ending, short, by rw [nothing]; exact nofun, rfl⟩
      · cases written

/-- **A written file reads back as written.** -/
theorem read_write {path : String} {content : Bytes}
    (written : tree.write path content = .ok later) : later.read path = .ok content := by
  obtain ⟨place, leads, ending, short, noDirectory, rfl⟩ := exists_place written
  have inside := isAround_eq_false noDirectory
  have keeps : KeepsDirectories tree (tree.put place (.file content)) := by
    intro other found
    obtain ⟨fits, here⟩ := look_eq_ok_iff.mp found
    exact look_eq_ok_iff.mpr ⟨fits, at?_put_of_ne here noDirectory inside _⟩
  refine read_eq_ok_iff.mpr ⟨place, resolve_keeps keeps leads, ?_, ?_⟩
  · exact look_eq_ok_iff.mpr ⟨short, at?_put inside _⟩
  · rw [Path.namesDirectory, ending]
    rfl

/-! ## Directories that are made -/

/-- Whatever was found is found later. -/
def Keeps (tree later : FileTree) : Prop :=
  ∀ place entry, tree.look place = .ok entry → later.look place = .ok entry

theorem Keeps.read {path : String} {content : Bytes} (keeps : Keeps tree later)
    (read : tree.read path = .ok content) : later.read path = .ok content := by
  obtain ⟨place, leads, found, named⟩ := read_eq_ok_iff.mp read
  exact read_eq_ok_iff.mpr ⟨place, resolve_keeps (fun place => keeps place _) leads,
    keeps place _ found, named⟩

theorem keeps_put {place : Place} (missing : tree.look place = .error .notFound) (entry : Entry) :
    Keeps tree (tree.put place entry) := by
  intro other found before
  obtain ⟨fits, here⟩ := look_eq_ok_iff.mp before
  obtain ⟨-, nothing⟩ := look_eq_notFound_iff.mp missing
  have elsewhere (e : Entry) : tree.at? place ≠ some e := by
    rw [nothing]
    exact nofun
  exact look_eq_ok_iff.mpr
    ⟨fits, at?_put_of_ne here (elsewhere _) (isAround_eq_false (elsewhere _)) entry⟩

theorem keeps_makeFrom (tree : FileTree) (hasMade : Bool) (here : Place) (parts : List String) :
    Keeps tree (tree.makeFrom hasMade here parts).2 := by
  induction parts generalizing tree hasMade here with
  | nil => exact fun _ _ found => found
  | cons part more ih =>
      rw [makeFrom]
      split
      · exact ih tree hasMade _
      · exact fun _ _ found => found
      · rename_i missing
        intro place entry found
        exact ih _ true _ place entry (keeps_put missing _ place entry found)
      · exact fun _ _ found => found

/-- **Making directories leaves every file as it was**, whether it comes to its end or not. -/
theorem read_makeDirectories {path : String} {content : Bytes}
    (read : tree.read path = .ok content) (directory : String) :
    (tree.makeDirectories directory).2.read path = .ok content := by
  rw [makeDirectories]
  split
  · exact (keeps_makeFrom tree false [] _).read read
  · exact read

end FileTree

end PacketWatch
