/-
What the program reports while it runs.

A line has a level and comes either from the thread that was called or from
one of the threads that work behind it.  Operations return the lines that they
report, in order, beside their result.
-/

namespace PacketWatch

/-- How serious a line is. -/
inductive LogLevel where
  | error
  | warn
  | info
  | debug
deriving DecidableEq

def LogLevel.text : LogLevel → String
  | error => "ERROR"
  | warn => "WARN"
  | info => "INFO"
  | debug => "DEBUG"

/-- A reported line. -/
structure LogLine where
  level : LogLevel
  message : String
  /-- Whether a thread behind the caller reports it. -/
  isBehind : Bool := false
deriving DecidableEq

def LogLine.text (l : LogLine) : String := l.level.text ++ " " ++ l.message

/-- A result and the lines that were reported on the way to it. -/
structure Logged (α : Type) where
  value : α
  lines : List LogLine := []

namespace Logged

instance : Monad Logged where
  pure a := { value := a }
  bind x f := { value := (f x.value).value, lines := x.lines ++ (f x.value).lines }

end Logged

/-- Reports a line. -/
def report (level : LogLevel) (message : String) : Logged Unit := ⟨(), [⟨level, message, false⟩]⟩

namespace LogLine

/-- The lines of the calling thread, as text. -/
def called (lines : List LogLine) : List String :=
  (lines.filter fun l => !l.isBehind).map text

/-- The warnings and errors of all other threads, as text, in the order of their
characters. -/
def behind (lines : List LogLine) : List String :=
  ((lines.filter fun l => l.isBehind && (l.level == .error || l.level == .warn)).map text).mergeSort
    fun a b => a ≤ b

end LogLine

end PacketWatch
