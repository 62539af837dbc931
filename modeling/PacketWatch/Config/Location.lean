/-
Where the program keeps its own files.

They lie in one directory below the directory for data.  That is the one that
the surroundings name, if they name one by a path from the root; otherwise it
lies in the home directory, which is that of the account if none is named.
-/
import PacketWatch.FileTree

namespace PacketWatch

/-- What the surroundings say about directories. -/
structure Surroundings where
  /-- The home directory; empty if none is named. -/
  home : String
  /-- The directory for data, if one is named. -/
  dataHome : Option String := none
  /-- The home directory of the account. -/
  accountHome : String := "/root"
deriving DecidableEq

namespace Surroundings

/-- The home directory that counts. -/
def homeDirectory (s : Surroundings) : String :=
  if s.home.isEmpty then s.accountHome else s.home

/-- The directory for the data of all programs. -/
def dataDirectory (s : Surroundings) : String :=
  match s.dataHome.filter Path.isAbsolute with
  | some path => path
  | none => Path.join s.homeDirectory ".local/share"

/-- The directory for the data of this program. -/
def programDirectory (s : Surroundings) : String := Path.join s.dataDirectory "packetscope"

/-- The configuration file that is read when none is named. -/
def configPath (s : Surroundings) : String := Path.join s.programDirectory "config.toml"

end Surroundings

end PacketWatch
