/-
# `PacketWatch.Proofs.Config.SavedLoaded` — what is saved is loaded again

Saving and loading choose the format by the same path, so they agree on it.  That a library reads
again what it wrote is assumed of it (`Codec.Inverts`); whatever it makes of a configuration, what
is left is the text in the file:

| saving                                  | loading                      |                       |
| :-------------------------------------- | :--------------------------- | :-------------------- |
| the configuration as a text             | the text as a configuration  | `Codec.Inverts`       |
| the text as bytes                       | the bytes as text            | `decode?_ofText`      |
| a file with these bytes                 | the bytes of that file       | `FileTree.read_write` |

A configuration may be saved and not be valid, and it may be valid and have no text.  The first is
refused when it is loaded, and the second before the file is touched, although directories may
have been made for it by then.

JSON and TOML as they are written here do read again what they wrote (`standard_inverts`):

| writing                                 | reading                      |                       |
| :-------------------------------------- | :--------------------------- | :-------------------- |
| the directory of the log as a text      | the text as its bytes        | `ofText_of_decode?`   |
| the configuration as sections           | sections as a configuration  | `ofDatum?_sections`   |
| sections as the text of a format        | the text as structured data  | `read?_write`         |

TOML leaves out what is nothing, and JSON writes that it is nothing.  Either is read as the
default of its field, which is nothing as well, so `ofDatum?_sections` holds for both.  A count of
64 bits has no text in TOML, and a directory that is no text has none in either.
-/
import PacketWatch.Config.Formats
import PacketWatch.Proofs.Datum
import PacketWatch.Proofs.FileTree
import PacketWatch.Proofs.Json.ReadBack
import PacketWatch.Proofs.Text.Utf8
import PacketWatch.Proofs.Toml.ReadBack

namespace PacketWatch

/-- Counts have 64 bits, lengths and times have 32. -/
structure Config.InRange (c : Config) : Prop where
  workerCount : c.workerCount < sizeBound
  snapLength : c.snapLength < lengthBound
  readTimeout : c.readTimeout < lengthBound

/-- A library reads again whatever it accepts to write. -/
def Codec.Inverts (codec : Codec) : Prop :=
  ∀ (c : Config) (text : String), c.InRange → codec.write c = .ok text → codec.read text = .ok c

/-- Both libraries do. -/
structure Formats.Inverts (formats : Formats) : Prop where
  json : formats.json.Inverts
  toml : formats.toml.Inverts

namespace Config

/-! ## Sections -/

theorem natBelow?_natural {n bound : Nat} (small : n < bound) :
    Datum.natBelow? bound (.integer n) = some n := by
  rw [Datum.natBelow?, if_pos ⟨by omega, by omega⟩, Int.toNat_natCast]

section Sections

open Section (found? fields?_only fields?_datumOf)

variable {c : Config} {kept : Scalar → Bool} (all : ∀ s, s ≠ .null → kept s = true)
  (surplus : Surplus)

include all

theorem found?_of_ne {s : Scalar} (something : s ≠ .null) : found? kept s = some s.datum := by
  rw [found?, if_pos (all s something)]

/-! Each kind of value is read back, whatever the default of its field. -/

theorem getOr_natural {n bound : Nat} (small : n < bound) (absent : Nat) :
    Datum.getOr (Datum.natBelow? bound) absent (found? kept (.natural n)) = some n := by
  rw [found?_of_ne all (s := .natural n) nofun, Datum.getOr, Scalar.datum, natBelow?_natural small]

theorem getOr_bool (b absent : Bool) :
    Datum.getOr Datum.bool? absent (found? kept (.bool b)) = some b := by
  rw [found?_of_ne all (s := .bool b) nofun]
  rfl

theorem getOr_text (s absent : String) :
    Datum.getOr Datum.text? absent (found? kept (.text s)) = some s := by
  rw [found?_of_ne all (s := .text s) nofun]
  rfl

/-- A text that may be left out has nothing for a default, so that its absence says so too. -/
theorem getOr_optional (o : Option String) :
    Datum.getOr Datum.optionalText? none (found? kept (optional o)) = some o := by
  cases o with
  | some s =>
      have written : found? kept (optional (some s)) = some (.text s) := found?_of_ne all nofun
      rw [written]
      rfl
  | none =>
      rw [found?]
      split
      · rfl
      · rfl

theorem readPipeline_only (fits : c.InRange) (d : Config) :
    readPipeline surplus d ((pipelineSection c).only kept).datum =
      some { d with workerCount := c.workerCount } := by
  have workerCount := getOr_natural all fits.workerCount d.workerCount
  rw [readPipeline, fields?_only surplus kept _ ["worker_count"] rfl (by decide)]
  simp only [pipelineSection, List.map_cons, List.map_nil]
  generalize found? kept (.natural c.workerCount) = found at workerCount ⊢
  show (Datum.getOr _ _ found).bind _ = _
  rw [workerCount]
  rfl

theorem readCapture_only (fits : c.InRange) {d : Config} (noDevice : d.defaultDevice = none) :
    readCapture surplus d ((captureSection c).only kept).datum =
      some { d with
        snapLength := c.snapLength, promiscuous := c.promiscuous, readTimeout := c.readTimeout
        immediate := c.immediate, defaultDevice := c.defaultDevice } := by
  have snapLength := getOr_natural all fits.snapLength d.snapLength
  have promiscuous := getOr_bool all c.promiscuous d.promiscuous
  have readTimeout := getOr_natural all fits.readTimeout d.readTimeout
  have immediate := getOr_bool all c.immediate d.immediate
  have device := getOr_optional all c.defaultDevice
  rw [readCapture, fields?_only surplus kept _ ["snaplen", "promiscuous", "read_timeout_ms",
    "immediate_mode", "default_device"] rfl (by decide)]
  simp only [captureSection, List.map_cons, List.map_nil, noDevice]
  generalize found? kept (.natural c.snapLength) = first at snapLength ⊢
  generalize found? kept (.natural c.readTimeout) = third at readTimeout ⊢
  show (Datum.getOr _ _ first).bind _ = _
  rw [snapLength, Option.bind_some, promiscuous, readTimeout, immediate, device]
  rfl

/-- The text of a path is read as its bytes. -/
theorem getOr_optionalPath {directory : Option String} (text : c.directoryText = .ok directory) :
    Datum.getOr optionalPath? none (found? kept (optional directory)) = some c.logDirectory := by
  have read := getOr_optional all directory
  have bytes : directory.map Bytes.ofText = c.logDirectory := by
    rw [directoryText] at text
    split at text
    · cases text
      exact Eq.symm ‹_›
    · split at text
      · cases text
        rw [Option.map_some, Text.Utf8.ofText_of_decode? ‹_›]
        exact Eq.symm ‹_›
      · cases text
  generalize found? kept (optional directory) = found at read ⊢
  cases found with
  | none =>
      cases read
      exact congrArg some bytes
  | some d =>
      show d.optionalText?.map (·.map Bytes.ofText) = _
      rw [Datum.getOr] at read
      rw [read, Option.map_some, bytes]

theorem readLogging_only {directory : Option String} (text : c.directoryText = .ok directory)
    {d : Config} (noDirectory : d.logDirectory = none) :
    readLogging surplus d ((loggingSection c directory).only kept).datum =
      some { d with filter := c.filter, logDirectory := c.logDirectory } := by
  have filter := getOr_text all c.filter d.filter
  have directory := getOr_optionalPath all text
  rw [readLogging, fields?_only surplus kept _ ["filter", "file_dir"] rfl (by decide)]
  simp only [loggingSection, List.map_cons, List.map_nil, noDirectory]
  show (Datum.getOr _ _ (found? kept (.text c.filter))).bind _ = _
  rw [filter, Option.bind_some, directory]
  rfl

/-- Sections say what the configuration is, whether values of nothing are among them or not. -/
theorem ofDatum?_sections (fits : c.InRange) {directory : Option String}
    (text : c.directoryText = .ok directory) :
    ofDatum? surplus (Section.datumOf ((c.sections directory).map (Section.only kept))) =
      some c := by
  rw [ofDatum?, fields?_datumOf surplus _ ["pipeline", "capture", "logging"] rfl (by decide)]
  show (readPipeline surplus {} ((pipelineSection c).only kept).datum).bind _ = _
  rw [readPipeline_only all surplus fits]
  show (readCapture surplus _ ((captureSection c).only kept).datum).bind _ = _
  rw [readCapture_only all surplus fits rfl]
  show readLogging surplus _ ((loggingSection c directory).only kept).datum = _
  rw [readLogging_only all surplus text rfl]

end Sections

/-! ## Texts -/

theorem isDocument_sections (c : Config) (directory : Option String) :
    Toml.IsDocument (c.sections directory) where
  names := by
    show Toml.IsNaming ["pipeline", "capture", "logging"]
    exact ⟨by decide, by decide⟩
  fields := by
    have pipeline : Toml.IsNaming ["worker_count"] := ⟨by decide, by decide⟩
    have capture : Toml.IsNaming
        ["snaplen", "promiscuous", "read_timeout_ms", "immediate_mode", "default_device"] :=
      ⟨by decide, by decide⟩
    have logging : Toml.IsNaming ["filter", "file_dir"] := ⟨by decide, by decide⟩
    intro s here
    simp only [sections, List.mem_cons, List.not_mem_nil, or_false] at here
    rcases here with rfl | rfl | rfl
    · exact pipeline
    · exact capture
    · exact logging

theorem exists_directory_of_jsonText {c : Config} {text : String}
    (written : Codec.jsonText c = .ok text) :
    ∃ directory, c.directoryText = .ok directory ∧ Json.write (c.sections directory) = text := by
  rw [Codec.jsonText] at written
  cases directory : c.directoryText with
  | error reason =>
      rw [directory] at written
      cases written
  | ok s =>
      rw [directory] at written
      exact ⟨s, rfl, Except.ok.inj written⟩

theorem exists_directory_of_tomlText {c : Config} {text : String}
    (written : Codec.tomlText c = .ok text) :
    ∃ directory, c.directoryText = .ok directory ∧ Toml.write (c.sections directory) = .ok text := by
  rw [Codec.tomlText] at written
  cases front : Codec.tables (c.sections none) with
  | error reason =>
      rw [front] at written
      cases written
  | ok _ =>
      cases directory : c.directoryText with
      | error reason =>
          rw [front, directory] at written
          cases written
      | ok s =>
          rw [front, directory] at written
          change (Toml.write (c.sections s)).mapError _ = _ at written
          cases all : Toml.write (c.sections s) with
          | error e =>
              rw [all] at written
              cases written
          | ok text' =>
              rw [all] at written
              cases written
              exact ⟨s, rfl, all⟩

theorem json_inverts : Codec.json.Inverts := by
  intro c text fits written
  obtain ⟨s, directory, written⟩ := exists_directory_of_jsonText written
  have everything : (c.sections s).map (Section.only fun _ => true) = c.sections s := rfl
  have read : ofDatum? .refused
      (Section.datumOf ((c.sections s).map (Section.only fun _ => true))) = some c :=
    ofDatum?_sections (fun _ _ => rfl) .refused fits directory
  show Codec.found ((Json.read? text).bind (ofDatum? .refused)) = _
  rw [← written, Json.read?_write, Option.bind_some, ← everything, read]
  rfl

theorem toml_inverts : Codec.toml.Inverts := by
  intro c text fits written
  obtain ⟨s, directory, written⟩ := exists_directory_of_tomlText written
  have read : ofDatum? .ignored (Section.datumOf ((c.sections s).map Section.given)) = some c :=
    ofDatum?_sections (fun s something => decide_eq_true something) .ignored fits directory
  show Codec.found ((Toml.read? text).bind (ofDatum? .ignored)) = _
  rw [Toml.read?_write (isDocument_sections c s) written, Option.bind_some, read]
  rfl

/-- **What is written is read again**, in either format. -/
theorem standard_inverts : Formats.standard.Inverts := ⟨json_inverts, toml_inverts⟩

/-! ## Saving -/

section Files

variable {formats : Formats}

theorem inverts_codecOf (inverts : formats.Inverts) (path : String) :
    (codecOf formats path).Inverts := by
  rw [codecOf]
  split
  · exact inverts.json
  · exact inverts.toml

/-- A save that succeeds wrote the text of the configuration into a tree with the directory
made. -/
theorem exists_text {c : Config} {tree later : FileTree} {path : String}
    (saved : c.save formats tree path = (.ok (), later)) :
    ∃ (text : String) (made : FileTree), (codecOf formats path).write c = .ok text ∧
      made.write path (Bytes.ofText text) = .ok later := by
  rw [save] at saved
  split at saved
  · cases saved
  · rename_i made _
    split at saved
    · cases saved
    · rename_i text written
      split at saved
      · cases saved
      · cases saved
        exact ⟨text, made, written, ‹_›⟩

/-- Where a configuration has no text, the save fails and directories are made at most. -/
theorem save_of_unwritten {c : Config} {path reason : String}
    (unwritten : (codecOf formats path).write c = .error reason) (tree : FileTree) :
    (c.save formats tree path).1 ≠ .ok () ∧
      (c.save formats tree path).2 = (tree.makeDirectories (Path.parent path)).2 := by
  rw [save, unwritten]
  split
  · rename_i made
    rw [made]
    exact ⟨nofun, rfl⟩
  · rename_i made
    rw [made]
    exact ⟨nofun, rfl⟩

/-- Only a configuration without a text is reported as such. -/
theorem unwritten_of_unwritableValue {c : Config} {tree : FileTree} {path reason : String}
    (failed : (c.save formats tree path).1 = .error (.configuration (.unwritableValue reason))) :
    (codecOf formats path).write c = .error reason := by
  rw [save] at failed
  split at failed
  · cases failed
  · split at failed
    · cases failed
      exact ‹_›
    · split at failed
      · cases failed
      · cases failed

/-! ## Loading -/

/-- A text that is found is read, and what it says is validated. -/
theorem load_of_readText {tree : FileTree} {path text : String} {c : Config}
    (found : tree.readText path = .ok text) (read : (codecOf formats path).read text = .ok c) :
    load formats tree path = c.validate.map fun _ => c := by
  rw [load, found]
  show (((codecOf formats path).read text).mapError _).bind _ = _
  rw [read]
  rfl

theorem validate_of_load {tree : FileTree} {path : String} {c : Config}
    (loaded : load formats tree path = .ok c) : c.validate = .ok () := by
  cases found : tree.readText path with
  | error e =>
      rw [load, found] at loaded
      cases loaded
  | ok text =>
      cases read : (codecOf formats path).read text with
      | error reason =>
          rw [load, found] at loaded
          change (((codecOf formats path).read text).mapError _).bind _ = _ at loaded
          rw [read] at loaded
          cases loaded
      | ok d =>
          rw [load_of_readText found read] at loaded
          cases valid : d.validate with
          | error e =>
              rw [valid] at loaded
              cases loaded
          | ok _ =>
              rw [valid] at loaded
              cases loaded
              exact valid

theorem readText_of_read {tree : FileTree} {path text : String}
    (read : tree.read path = .ok (Bytes.ofText text)) : tree.readText path = .ok text := by
  rw [FileTree.readText, read]
  dsimp only [bind, Except.bind]
  rw [Text.Utf8.decode?_ofText]

theorem loadOrDefault_ok {tree : FileTree} {path : String} {c : Config}
    (loaded : load formats tree path = .ok c) : (loadOrDefault formats tree path).value = c := by
  rw [loadOrDefault, loaded]
  rfl

theorem loadOrDefault_error {tree : FileTree} {path : String} {e : Error}
    (failed : load formats tree path = .error e) :
    (loadOrDefault formats tree path).value = default := by
  rw [loadOrDefault, failed]
  rfl

/-- **What was saved is loaded again**, if it is valid, and otherwise refused by the validation. -/
theorem load_of_save (inverts : formats.Inverts) {c : Config} (fits : c.InRange)
    {tree later : FileTree} {path : String} (saved : c.save formats tree path = (.ok (), later)) :
    load formats later path = c.validate.map fun _ => c := by
  obtain ⟨text, made, written, file⟩ := exists_text saved
  exact load_of_readText (readText_of_read (FileTree.read_write file))
    (inverts_codecOf inverts path c text fits written)

end Files

/-! ## Both together -/

/-- What saving a configuration and loading it have to do with each other. -/
structure SavesAndLoads (formats : Formats) (c : Config) (tree : FileTree) (path : String) :
    Prop where
  /-- A valid configuration that was saved is loaded again. -/
  loaded {later : FileTree} : c.save formats tree path = (.ok (), later) →
    c.validate = .ok () →
      load formats later path = .ok c ∧ (loadOrDefault formats later path).value = c
  /-- One that is not valid is refused for just that, and the default stands in for it. -/
  refused {later : FileTree} {e : Error} : c.save formats tree path = (.ok (), later) →
    c.validate = .error e →
      load formats later path = .error e ∧ (loadOrDefault formats later path).value = default
  /-- A configuration that has no text is not saved, and every file stays as it was. -/
  unrendered {reason : String} : (codecOf formats path).write c = .error reason →
    (c.save formats tree path).1 ≠ .ok () ∧
      ∀ {file : String} {content : Bytes}, tree.read file = .ok content →
        (c.save formats tree path).2.read file = .ok content
  /-- Such are all saves that report it, with the reason of the library. -/
  unwritable {reason : String} :
    (c.save formats tree path).1 = .error (.configuration (.unwritableValue reason)) →
      (codecOf formats path).write c = .error reason
  /-- Whatever the files hold, what is loaded from one is valid. -/
  valid {d : Config} : load formats tree path = .ok d → d.validate = .ok ()
  /-- So is what stands in for it if it is not loaded. -/
  validOrDefault : (loadOrDefault formats tree path).value.validate = .ok ()

/-- **Saving and loading agree**, for libraries that read again what they wrote, for every
configuration, every path and all files. -/
theorem saves_and_loads {formats : Formats} (inverts : formats.Inverts) {c : Config}
    (fits : c.InRange) (tree : FileTree) (path : String) : SavesAndLoads formats c tree path where
  loaded := by
    intro later saved valid
    have loaded : load formats later path = .ok c := by
      rw [load_of_save inverts fits saved, valid]
      rfl
    exact ⟨loaded, loadOrDefault_ok loaded⟩
  refused := by
    intro later e saved invalid
    have failed : load formats later path = .error e := by
      rw [load_of_save inverts fits saved, invalid]
      rfl
    exact ⟨failed, loadOrDefault_error failed⟩
  unrendered := by
    intro reason unwritten
    obtain ⟨failed, made⟩ := save_of_unwritten unwritten tree
    refine ⟨failed, fun read => ?_⟩
    rw [made]
    exact FileTree.read_makeDirectories read _
  unwritable := unwritten_of_unwritableValue
  valid := validate_of_load
  validOrDefault := by
    cases loaded : load formats tree path with
    | ok d =>
        rw [loadOrDefault_ok loaded]
        exact validate_of_load loaded
    | error e =>
        rw [loadOrDefault_error loaded]
        rfl

/-- A configuration with texts that have to be quoted, and one value that is left out. -/
def quoting : Config := { filter := "a\tb", defaultDevice := some "\"'\n\x01" }

/-- A file of either format that is already there. -/
def occupied : FileTree :=
  ⟨[("file", .file (Bytes.ofText "old")), ("file.json", .file (Bytes.ofText "old"))]⟩

/-- It is saved and loaded in either format.  Without a length it is still saved, but refused
when it is loaded.  With a count of 64 bits it has no text in TOML, and with a directory that is
no text it has none in either; then the file stays. -/
theorem saves_and_loads_quoting :
    Formats.standard.Inverts ∧
    (∀ path ∈ ["new/file.JSON", "new/file.toml"],
      (quoting.save .standard occupied path).1 = .ok () ∧
        load .standard (quoting.save .standard occupied path).2 path = .ok quoting) ∧
    (({ quoting with snapLength := 0 }.save .standard occupied "file").1 = .ok () ∧
      load .standard ({ quoting with snapLength := 0 }.save .standard occupied "file").2 "file" =
        .error (.configuration .zeroSnapLength)) ∧
    (({ quoting with workerCount := 9223372036854775808 }.save .standard occupied "file").1 =
        .error (.configuration (.unwritableValue "out-of-range value for u64 type")) ∧
      ({ quoting with workerCount := 9223372036854775808 }.save .standard occupied "file").2.read
        "file" = .ok (Bytes.ofText "old")) ∧
    ∀ path ∈ ["file", "file.json"],
      ({ quoting with logDirectory := some [0x2f, 0xff] }.save .standard occupied path).1 =
        .error (.configuration (.unwritableValue "path contains invalid UTF-8 characters")) ∧
      ({ quoting with logDirectory := some [0x2f, 0xff] }.save .standard occupied path).2.read path =
        .ok (Bytes.ofText "old") := by
  have isSaved {c : Config} {path : String} (ok : (c.save .standard occupied path).1 = .ok ()) :
      c.save .standard occupied path = (.ok (), (c.save .standard occupied path).2) := by
    rw [← ok]
  have fits {c : Config} (few : c.workerCount < sizeBound) (short : c.snapLength < lengthBound)
      (soon : c.readTimeout < lengthBound) (path : String) :
      SavesAndLoads .standard c occupied path :=
    saves_and_loads standard_inverts ⟨few, short, soon⟩ occupied path
  refine ⟨standard_inverts, fun path here => ?_, ?_, ?_, fun path here => ?_⟩
  · have ok : (quoting.save .standard occupied path).1 = .ok () := by
      revert path
      decide +kernel
    exact ⟨ok, ((fits (by decide) (by decide) (by decide) path).loaded (isSaved ok) rfl).1⟩
  · have ok : ({ quoting with snapLength := 0 }.save .standard occupied "file").1 = .ok () := by
      decide +kernel
    exact ⟨ok, ((fits (by decide) (by decide) (by decide) _).refused (isSaved ok) rfl).1⟩
  · have failed :
        ({ quoting with workerCount := 9223372036854775808 }.save .standard occupied "file").1 =
          .error (.configuration (.unwritableValue "out-of-range value for u64 type")) := by
      decide +kernel
    have saving := fits (c := { quoting with workerCount := 9223372036854775808 })
      (by decide) (by decide) (by decide) "file"
    exact ⟨failed, (saving.unrendered (saving.unwritable failed)).2 rfl⟩
  · have failed :
        ({ quoting with logDirectory := some [0x2f, 0xff] }.save .standard occupied path).1 =
          .error (.configuration (.unwritableValue "path contains invalid UTF-8 characters")) := by
      revert path
      decide +kernel
    have there : occupied.read path = .ok (Bytes.ofText "old") := by
      revert path
      decide +kernel
    have saving := fits (c := { quoting with logDirectory := some [0x2f, 0xff] })
      (by decide) (by decide) (by decide) path
    exact ⟨failed, (saving.unrendered (saving.unwritable failed)).2 there⟩

end Config

end PacketWatch
