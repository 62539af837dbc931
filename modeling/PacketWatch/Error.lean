/-
What can go wrong, by cause.

An error may stand inside contexts, each of which says what was being done.
Its message names the contexts from the outermost inwards and ends with the
error's own text; its chain lists the messages of what lies inside it, one
step at a time.
-/

namespace PacketWatch

/-- What is wrong with a frame. -/
inductive FrameFault where
  /-- The captured length is not the length of the buffer. -/
  | lengthMismatch (captured buffer : Nat)
  /-- A fault that a capture source reports in its own words. -/
  | described (message : String)
deriving DecidableEq

/-- What is wrong with a configuration or its file. -/
inductive ConfigFault where
  /-- The file could not be read; the path is quoted. -/
  | unreadable (path reason : String)
  /-- The file's text is not a configuration; the path is quoted. -/
  | unparsable (path reason : String)
  | zeroSnapLength
  | zeroReadTimeout
  /-- The directory of the file could not be made. -/
  | noDirectory (reason : String)
  /-- A value has no form in the file's format. -/
  | unwritableValue (reason : String)
  /-- The file could not be written; the path is quoted. -/
  | unwritable (path reason : String)
  /-- A fault that a capture source reports in its own words. -/
  | described (message : String)
deriving DecidableEq

/-- The cause of a failure. -/
inductive Error where
  /-- A capture was started without anything to deliver to. -/
  | noFrameSink
  | alreadyCapturing (device : String)
  | deviceNotFound (name : String)
  /-- The device exists and could not be opened. -/
  | deviceOpen (device message : String)
  /-- The device was opened and the capture did not start. -/
  | captureStart (device message : String)
  /-- No packet of that id is stored. -/
  | outOfRange (id count : Nat)
  | malformedFrame (fault : FrameFault)
  | configuration (fault : ConfigFault)
  /-- The operating system refused, in its own words.  What refused may stand on something itself:
  the messages of that follow, one step at a time. -/
  | io (message : String) (sources : List String)
  /-- What was being done when something inside failed. -/
  | context (doing : String) (source : Error)
deriving DecidableEq

def FrameFault.message : FrameFault → String
  | lengthMismatch captured buffer =>
    "captured length " ++ toString captured ++ " does not match buffer length " ++ toString buffer
  | described message => message

def ConfigFault.message : ConfigFault → String
  | unreadable path reason => "Failed to read config file " ++ path ++ ": " ++ reason
  | unparsable path reason => "Failed to parse config file " ++ path ++ ": " ++ reason
  | zeroSnapLength => "capture.snaplen must be greater than zero"
  | zeroReadTimeout => "capture.read_timeout_ms must be greater than zero"
  | noDirectory reason => "Failed to create config directory: " ++ reason
  | unwritableValue reason => "Failed to serialize config: " ++ reason
  | unwritable path reason => "Failed to write config file " ++ path ++ ": " ++ reason
  | described message => message

namespace Error

/-- The whole message, contexts first. -/
def message : Error → String
  | noFrameSink => "Capture error: no frame sink registered"
  | alreadyCapturing device => "Capture error: already capturing on '" ++ device ++ "'"
  | deviceNotFound name => "Device not found: " ++ name
  | deviceOpen device message => "Failed to open device '" ++ device ++ "': " ++ message
  | captureStart device message =>
    "Failed to start capture on '" ++ device ++ "': " ++ message
  | outOfRange id count =>
    "Packet id " ++ toString id ++ " out of range (store holds " ++ toString count ++ " packets)"
  | malformedFrame fault => "Malformed frame: " ++ fault.message
  | configuration fault => "Configuration error: " ++ fault.message
  | io message _ => "IO error: " ++ message
  | context doing source => doing ++ ": " ++ source.message

/-- The messages of what lies inside, one step at a time. -/
def chain : Error → List String
  | context _ source => source.message :: source.chain
  | io message sources => message :: sources
  | _ => []

/-- Whether the error is a look-up that missed, inside any contexts. -/
def isOutOfRange : Error → Bool
  | outOfRange _ _ => true
  | context _ source => source.isOutOfRange
  | _ => false

/-- Says what was being done. -/
def withContext (e : Error) (doing : String) : Error := .context doing e

end Error

/-- Says what was being done, where it failed. -/
def withContext {α : Type} (doing : String) : Except Error α → Except Error α :=
  Except.mapError (·.withContext doing)

end PacketWatch
