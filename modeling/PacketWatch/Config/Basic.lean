/-
The configuration: how many workers decode, how frames are captured, and what
is logged.

A configuration is read from structured data, where every section and every
field may be left out and then has its default, and is written as sections.
A directory is the bytes of a path; where they are no text the configuration
cannot be written.  Zero bytes a frame and a wait of zero are refused.
-/
import PacketWatch.Datum
import PacketWatch.Error
import PacketWatch.Text.Utf8

namespace PacketWatch

/-- The configuration of the program. -/
structure Config where
  /-- How many workers decode; none counts as one. -/
  workerCount : Nat := 2
  /-- The most bytes that are captured of a frame. -/
  snapLength : Nat := 65535
  /-- Whether frames for other hosts are captured. -/
  promiscuous : Bool := true
  /-- How long a read may wait, in milliseconds. -/
  readTimeout : Nat := 100
  /-- Whether frames are delivered as soon as they arrive. -/
  immediate : Bool := true
  /-- The device to capture on when none is named. -/
  defaultDevice : Option String := none
  /-- Which lines are logged. -/
  filter : String := "info"
  /-- Where log files go, by the bytes of the path; to the console alone without it. -/
  logDirectory : Option Bytes := none
deriving DecidableEq

namespace Config

instance : Inhabited Config := ⟨{}⟩

/-- Refuses values that no capture can work with. -/
def validate (c : Config) : Except Error Unit :=
  if c.snapLength = 0 then .error (.configuration .zeroSnapLength)
  else if c.readTimeout = 0 then .error (.configuration .zeroReadTimeout)
  else .ok ()

/-! ## Reading -/

/-- Sizes have 64 bits. -/
def sizeBound : Nat := 18446744073709551616

/-- Lengths and times have 32 bits. -/
def lengthBound : Nat := 4294967296

/-- Reads the section of the pipeline into a configuration. -/
def readPipeline (surplus : Surplus) (c : Config) (d : Datum) : Option Config := do
  match ← d.fields? surplus ["worker_count"] with
  | [workerCount] =>
    return { c with
      workerCount := ← Datum.getOr (Datum.natBelow? sizeBound) c.workerCount workerCount }
  | _ => none

/-- Reads the section of the capture into a configuration. -/
def readCapture (surplus : Surplus) (c : Config) (d : Datum) : Option Config := do
  match ← d.fields? surplus ["snaplen", "promiscuous", "read_timeout_ms", "immediate_mode",
      "default_device"] with
  | [snapLength, promiscuous, readTimeout, immediate, defaultDevice] =>
    return { c with
      snapLength := ← Datum.getOr (Datum.natBelow? lengthBound) c.snapLength snapLength
      promiscuous := ← Datum.getOr Datum.bool? c.promiscuous promiscuous
      readTimeout := ← Datum.getOr (Datum.natBelow? lengthBound) c.readTimeout readTimeout
      immediate := ← Datum.getOr Datum.bool? c.immediate immediate
      defaultDevice := ← Datum.getOr Datum.optionalText? c.defaultDevice defaultDevice }
  | _ => none

/-- A path that may be left out by writing nothing for it. -/
def optionalPath? (d : Datum) : Option (Option Bytes) := d.optionalText?.map (·.map Bytes.ofText)

/-- Reads the section of the log into a configuration. -/
def readLogging (surplus : Surplus) (c : Config) (d : Datum) : Option Config := do
  match ← d.fields? surplus ["filter", "file_dir"] with
  | [filter, logDirectory] =>
    return { c with
      filter := ← Datum.getOr Datum.text? c.filter filter
      logDirectory := ← Datum.getOr optionalPath? c.logDirectory logDirectory }
  | _ => none

/-- Reads a section, if it is there. -/
def readSection (read : Config → Datum → Option Config) (c : Config) : Option Datum → Option Config
  | some d => read c d
  | none => some c

/-- The configuration that structured data holds. -/
def ofDatum? (surplus : Surplus) (d : Datum) : Option Config := do
  match ← d.fields? surplus ["pipeline", "capture", "logging"] with
  | [pipeline, capture, logging] =>
    let c ← readSection (readPipeline surplus) {} pipeline
    let c ← readSection (readCapture surplus) c capture
    readSection (readLogging surplus) c logging
  | _ => none

/-! ## Writing -/

/-- A text, or nothing. -/
def optional : Option String → Scalar
  | some s => .text s
  | none => .null

def pipelineSection (c : Config) : Section :=
  ⟨"pipeline", [("worker_count", .natural c.workerCount)]⟩

def captureSection (c : Config) : Section :=
  ⟨"capture",
    [("snaplen", .natural c.snapLength), ("promiscuous", .bool c.promiscuous),
      ("read_timeout_ms", .natural c.readTimeout), ("immediate_mode", .bool c.immediate),
      ("default_device", optional c.defaultDevice)]⟩

def loggingSection (c : Config) (directory : Option String) : Section :=
  ⟨"logging", [("filter", .text c.filter), ("file_dir", optional directory)]⟩

/-- The sections of a configuration, with the text of its directory. -/
def sections (c : Config) (directory : Option String) : List Section :=
  [pipelineSection c, captureSection c, loggingSection c directory]

/-- The text of the directory, or why there is none. -/
def directoryText (c : Config) : Except String (Option String) :=
  match c.logDirectory with
  | none => .ok none
  | some path =>
    match Text.Utf8.decode? path with
    | some s => .ok (some s)
    | none => .error "path contains invalid UTF-8 characters"

end Config

end PacketWatch
