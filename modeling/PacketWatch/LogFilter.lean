/-
Which lines are logged.

A filter is a list of directives, each of which says how much is logged, for one
target or for all that no other directive names.  It is written as directives
separated by commas: a level, a target, or a target and a level joined by an
equals sign.  A target without a level is logged in full; an empty filter lets
nothing through.  A filter that cannot be read gives way to the next choice.
-/
import PacketWatch.Config.Basic
import PacketWatch.Log
import PacketWatch.Text.Alphanumeric
import PacketWatch.Text.Blank
import PacketWatch.Text.Number

namespace PacketWatch

/-- How much is logged. -/
inductive Verbosity where
  | off
  | error
  | warn
  | info
  | debug
  | trace
deriving DecidableEq

namespace Verbosity

/-- All of them, least first. -/
def all : List Verbosity := [off, error, warn, info, debug, trace]

def text : Verbosity → String
  | off => "off"
  | error => "error"
  | warn => "warn"
  | info => "info"
  | debug => "debug"
  | trace => "trace"

def rank (v : Verbosity) : Nat := all.idxOf v

/-- The more verbose of two. -/
def max (v w : Verbosity) : Verbosity := if v.rank < w.rank then w else v

/-- Decimal digits, perhaps behind a plus. -/
def digitsOf (s : String) : Option (List Char) :=
  let digits := match s.toList with
    | '+' :: rest => rest
    | cs => cs
  if digits.isEmpty || !digits.all Char.isDigit then none else some digits

/-- Reads a name in any case, or a number from zero to five. -/
def ofText? (s : String) : Option Verbosity :=
  match digitsOf s with
  | some digits => all[Text.ofDecimal digits]?
  | none =>
    let name := String.ofList (s.toList.map Char.toLower)
    all.find? (·.text == name)

end Verbosity

/-- How much is logged for a target, or for all others. -/
structure LogDirective where
  target : Option String
  level : Verbosity
deriving DecidableEq

namespace LogDirective

def text (d : LogDirective) : String :=
  match d.target with
  | some t => t ++ "=" ++ d.level.text
  | none => d.level.text

/-- Whether a directive may begin with a character. -/
def canBegin (c : Char) : Bool := Text.isAlphanumeric c || c == '-' || c == ':' || c == '_'

/-- Reads a level, or a target that is logged in full. -/
def ofWord (s : String) : LogDirective :=
  match Verbosity.ofText? s with
  | some level => ⟨none, level⟩
  | none => ⟨some s, .trace⟩

/-- Reads the level of a target. -/
def ofLevel? (target s : String) : Option LogDirective :=
  if s.isEmpty then some ⟨some target, .trace⟩ else (Verbosity.ofText? s).map (⟨some target, ·⟩)

/-- Whether a directive may read so: it begins well behind its blanks, and no bracket
names a span. -/
def canRead (cs : List Char) : Bool :=
  (cs.dropWhile Text.isBlank).head?.any canBegin && !cs.contains '['

/-- Reads a directive.  Blanks are part of what they stand in, so one before a level
makes it a target, and none may stand before a target that is given a level. -/
def ofText? (s : String) : Option LogDirective :=
  let cs := s.toList
  if canRead cs then
    match cs.span (· != '=') with
    | (word, []) => some (ofWord (String.ofList word))
    | (word, _ :: level) =>
      if cs.head?.any Text.isBlank then none
      else ofLevel? (String.ofList word) (String.ofList level)
  else none

/-- How closely a directive names its target. -/
def closeness (d : LogDirective) : Nat :=
  match d.target with
  | some t => t.utf8ByteSize + 1
  | none => 0

/-- Whether a directive is asked before another: the one that names its target
more closely is. -/
def precedes (d e : LogDirective) : Bool :=
  if d.closeness = e.closeness then e.target.getD "" < d.target.getD ""
  else e.closeness < d.closeness

end LogDirective

/-- Directives in the order in which they are asked. -/
structure LogFilter where
  directives : List LogDirective
  /-- The most that any directive lets through. -/
  maxLevel : Verbosity
deriving DecidableEq

namespace LogFilter

/-- No directives. -/
def empty : LogFilter := ⟨[], .off⟩

/-- Puts a directive in its place; a later one for the same target counts. -/
def add (f : LogFilter) (d : LogDirective) : LogFilter :=
  let others := f.directives.filter (·.target != d.target)
  { directives := others.takeWhile (·.precedes d) ++ d :: others.dropWhile (·.precedes d)
    maxLevel := f.maxLevel.max d.level }

/-- The filter of some directives. -/
def ofDirectives (ds : List LogDirective) : LogFilter := ds.foldl add empty

def ofText? (s : String) : Option LogFilter := do
  let words := ((s.toList.splitOn ',').map String.ofList).filter (· != "")
  let directives ← words.mapM LogDirective.ofText?
  return ofDirectives directives

def text (f : LogFilter) : String := String.intercalate "," (f.directives.map LogDirective.text)

/-- The filter that the surroundings name if it can be read, else the configured
one, else all but details. -/
def choose (named : Option String) (configured : String) : LogFilter :=
  ((named.bind ofText?) <|> ofText? configured).getD (ofDirectives [⟨none, .info⟩])

end LogFilter

/-- What logging was set up to do. -/
structure LogSetup where
  filter : LogFilter
  /-- The directory of the log files, if there are any. -/
  directory : Option Bytes
deriving DecidableEq

/-- Sets logging up; what was set up before stays in place. -/
def LogSetup.install (isInstalled : Bool) (named : Option String) (c : Config) : Logged LogSetup := do
  if isInstalled then report .debug "Logging already initialized"
  return ⟨LogFilter.choose named c.filter, c.logDirectory⟩

end PacketWatch
