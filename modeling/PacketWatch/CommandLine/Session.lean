/-
What the program does for its options.

It reads a configuration, chooses a device, captures until the time is over or
the limit is reached, and prints what was decoded.  Whatever the configuration
says, frames come from the generated traffic.
-/
import PacketWatch.CommandLine.Arguments
import PacketWatch.CommandLine.Watching
import PacketWatch.Config.Files
import PacketWatch.Config.Location
import PacketWatch.Source.Scripted

namespace PacketWatch

/-- What is printed on a line. -/
inductive OutputLine where
  | device (d : Device)
  | packet (p : Packet)
  /-- The counts at the end. -/
  | counts (captured decoded printed : Nat)
deriving DecidableEq

def OutputLine.text : OutputLine → String
  | device d => d.text
  | packet p => Printing.line p.timestamp.timeOfDayText p
  | counts captured decoded printed =>
    Printing.lastLine (toString captured) (toString decoded) printed

/-- Why the program gives up. -/
inductive SessionFault where
  | badConfig (path : String) (cause : Error)
  | noDevice
  | notStarted (device : String)
deriving DecidableEq

def SessionFault.message : SessionFault → String
  | badConfig path cause =>
    "Error: Failed to load config " ++ path ++ "\n\nCaused by:\n    " ++ cause.message
  | noDevice => "Error: No capture device available. Use --list-devices or --mock."
  | notStarted device => "Error: Failed to start capture on " ++ device

namespace Session

/-- How many frames are replayed. -/
def frameCount : Nat := 500

/-- The name and the number of the program. -/
def versionText : String := "packetscope 0.1.0"

/-- The generated traffic as a source; its frames carry the given time. -/
def source (now : Timestamp) : ScriptedSource :=
  { script := (Traffic.mixed.frames frameCount).map fun f => { f with timestamp := now } }

/-- The configuration: of the file that is named, or of the file at the usual
place if there is one. -/
def config (formats : Formats) (files : FileTree) (s : Surroundings) (o : Options) :
    Except SessionFault Config :=
  match o.config with
  | some path =>
    match Config.load formats files path with
    | .ok c => .ok c
    | .error e => .error (.badConfig path e)
  | none =>
    if files.exists s.configPath then .ok (Config.loadOrDefault formats files s.configPath).value
    else .ok default

/-- The device to capture on. -/
def device? (o : Options) (c : Config) (devices : List Device) : Option String :=
  o.device <|> c.defaultDevice <|> devices.head?.map Device.name

/-- The lines that are printed on the way. -/
def linesOf (seen : List Watch.Event) : List OutputLine :=
  seen.flatMap fun
    | .looked packets => packets.map .packet
    | .summed captured decoded printed => [.counts captured decoded printed]
    | .pipeline _ => []

/-- Captures on a device and prints.  Every thread that the pipeline asks for is granted. -/
def capture (o : Options) (source : ScriptedSource) (workerCount : Nat) (device : String) :
    Except SessionFault (List OutputLine) :=
  let start := Watch.ofSource source workerCount device
  let (w, seen) := start.settleAll ScriptedSource.source o.limit (o.duration = some 0)
  if w.place = .done then .ok (linesOf seen) else .error (.notStarted device)

/-- Does what the options ask for. -/
def run (formats : Formats) (files : FileTree) (s : Surroundings) (now : Timestamp)
    (o : Options) : Except SessionFault (List OutputLine) := do
  let c ← config formats files s o
  let source := source now
  if o.listDevices then return source.devices.map .device
  match device? o c source.devices with
  | none => .error .noDevice
  | some device => capture o source (o.workers.getD c.workerCount) device

end Session

end PacketWatch
