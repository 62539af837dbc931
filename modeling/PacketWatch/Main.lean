/-
The program: arguments and files in, lines out.
-/
import PacketWatch.CommandLine.Session
import PacketWatch.Config.Formats
import Std.Time.DateTime.Timestamp

namespace PacketWatch

/-- What is printed when help is asked for. -/
def helpText : String :=
  "Capture packets and print their decoded summaries.\n\n" ++
  "Usage: packetscope [OPTIONS]\n\n" ++
  "Options:\n" ++
  "      --list-devices     List capture devices and exit\n" ++
  "  -d, --device <NAME>    Device to capture on (defaults to the configured or first device)\n" ++
  "  -t, --duration <SECS>  Capture duration in seconds [default: 10]\n" ++
  "      --mock             Use the built-in mock source instead of a real interface\n" ++
  "  -c, --config <PATH>    Configuration file (TOML or JSON)\n" ++
  "  -w, --workers <N>      Number of decode workers (overrides the config file)\n" ++
  "  -n, --limit <N>        Stop after this many packets have been processed\n" ++
  "  -h, --help             Print help\n" ++
  "  -V, --version          Print version"

/-- A file of the disk as the only one of a tree; what is there and cannot be read
counts as a directory. -/
def fileAt (path : String) : IO FileTree := do
  let around := (FileTree.empty.makeDirectories (Path.parent path)).2
  match ← (IO.FS.readBinFile path).toBaseIO with
  | .ok content => return (around.write path content.toList).toOption.getD around
  | .error (.noFileOrDirectory _ _ _) => return around
  | .error _ => return (around.makeDirectories path).2

/-- What the environment says about directories. -/
def surroundings : IO Surroundings := do
  return { home := (← IO.getEnv "HOME").getD "", dataHome := ← IO.getEnv "XDG_DATA_HOME" }

def now : IO Timestamp := do
  let t := (← Std.Time.Timestamp.now).toNanosecondsSinceUnixEpoch.toInt
  return .ofParts (t / 1000000000) (t % 1000000000).toNat

/-- Runs the program for its options. -/
def runOptions (o : Options) : IO UInt32 := do
  let s ← surroundings
  let files ← fileAt (o.config.getD s.configPath)
  match Session.run .standard files s (← now) o with
  | .ok lines =>
    for line in lines do IO.println line.text
    return 0
  | .error e =>
    IO.eprintln e.message
    return 1

def runArguments (arguments : List String) : IO UInt32 := do
  match Request.parse arguments with
  | .ok (.run o) => runOptions o
  | .ok .help =>
    IO.println helpText
    return 0
  | .ok .version =>
    IO.println Session.versionText
    return 0
  | .error e =>
    IO.eprintln ("error: " ++ e.message)
    return 2

end PacketWatch

def main (arguments : List String) : IO UInt32 := PacketWatch.runArguments arguments
