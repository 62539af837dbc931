/-
The arguments of the program.

Arguments are read from left to right, and the first one that is wrong or asks
for help or for the version decides.  An option takes its value from the same
argument or from the next, may be given once, and never takes a value that
begins like an option.
-/
import PacketWatch.Text.Number

namespace PacketWatch

/-- What the arguments ask for. -/
structure Options where
  listDevices : Bool := false
  device : Option String := none
  /-- How long to capture, in seconds. -/
  duration : Option Nat := none
  /-- Whether frames are generated instead of captured. -/
  mock : Bool := false
  config : Option String := none
  workers : Option Nat := none
  /-- After how many packets to stop. -/
  limit : Option Nat := none
deriving DecidableEq

/-- What the program is asked to do. -/
inductive Request where
  | run (options : Options)
  | help
  | version
deriving DecidableEq

/-- What is wrong with an argument. -/
inductive UsageFault where
  | unexpected (argument : String)
  | repeated (option : String)
  | missingValue (option : String)
  | invalidValue (option value : String)
  /-- A value for an option that takes none. -/
  | surplusValue (option value : String)
deriving DecidableEq

def UsageFault.message : UsageFault → String
  | unexpected argument => "unexpected argument '" ++ argument ++ "' found"
  | repeated option => "the argument '" ++ option ++ "' cannot be used multiple times"
  | missingValue option => "a value is required for '" ++ option ++ "' but none was supplied"
  | invalidValue option value => "invalid value '" ++ value ++ "' for '" ++ option ++ "'"
  | surplusValue option value =>
    "unexpected value '" ++ value ++ "' for '" ++ option ++ "' found; no more were expected"

/-- An option of the program. -/
inductive OptionName where
  | listDevices
  | device
  | duration
  | mock
  | config
  | workers
  | limit
  | help
  | version
deriving DecidableEq

namespace OptionName

/-- All options. -/
def all : List OptionName :=
  [listDevices, device, duration, mock, config, workers, limit, help, version]

def long : OptionName → String
  | listDevices => "list-devices"
  | device => "device"
  | duration => "duration"
  | mock => "mock"
  | config => "config"
  | workers => "workers"
  | limit => "limit"
  | help => "help"
  | version => "version"

/-- The letter of an option, if it has one. -/
def short? : OptionName → Option Char
  | device => some 'd'
  | duration => some 't'
  | config => some 'c'
  | workers => some 'w'
  | limit => some 'n'
  | help => some 'h'
  | version => some 'V'
  | listDevices | mock => none

def takesValue : OptionName → Bool
  | device | duration | config | workers | limit => true
  | _ => false

def ofLong? (s : String) : Option OptionName := all.find? (·.long == s)

def ofShort? (c : Char) : Option OptionName := all.find? (·.short? == some c)

def text (o : OptionName) : String := "--" ++ o.long

end OptionName

namespace Options

/-- A number below two to the power of 64, perhaps behind a plus. -/
def number? (s : String) : Option Nat :=
  let digits := match s.toList with
    | '+' :: rest => rest
    | cs => cs
  if digits.isEmpty || !digits.all Char.isDigit then none
  else
    let n := Text.ofDecimal digits
    if n < 18446744073709551616 then some n else none

/-- Whether an option was given before. -/
def has (o : Options) : OptionName → Bool
  | .listDevices => o.listDevices
  | .device => o.device.isSome
  | .duration => o.duration.isSome
  | .mock => o.mock
  | .config => o.config.isSome
  | .workers => o.workers.isSome
  | .limit => o.limit.isSome
  | .help | .version => false

/-- Sets an option that takes no value. -/
def setFlag (o : Options) : OptionName → Options
  | .listDevices => { o with listDevices := true }
  | .mock => { o with mock := true }
  | _ => o

/-- Sets an option to a value.  A path must not be empty. -/
def setValue? (o : Options) (name : OptionName) (value : String) : Option Options :=
  match name with
  | .device => some { o with device := some value }
  | .config => if value.isEmpty then none else some { o with config := some value }
  | .duration => (number? value).map fun n => { o with duration := some n }
  | .workers => (number? value).map fun n => { o with workers := some n }
  | .limit => (number? value).map fun n => { o with limit := some n }
  | _ => none

/-- Takes an option with its value. -/
def withValue (o : Options) (name : OptionName) (value : String) : Except UsageFault Options :=
  if o.has name then .error (.repeated name.text)
  else match o.setValue? name value with
    | some o => .ok o
    | none => .error (.invalidValue name.text value)

/-- Takes an option that has no value; help and version decide at once. -/
def withFlag (o : Options) (name : OptionName) : Except UsageFault (Options ⊕ Request) :=
  match name with
  | .help => .ok (.inr .help)
  | .version => .ok (.inr .version)
  | _ => if o.has name then .error (.repeated name.text) else .ok (.inl (o.setFlag name))

end Options

/-! ## One argument -/

/-- What one argument comes to. -/
inductive ArgumentStep where
  /-- Reading goes on. -/
  | next (options : Options)
  /-- The next argument is the value of an option. -/
  | awaits (name : OptionName)
  /-- Nothing more is read. -/
  | decided (request : Request)

namespace ArgumentStep

/-- What follows an option without a value. -/
def ofFlag : Options ⊕ Request → ArgumentStep
  | .inl o => next o
  | .inr r => decided r

/-- An option by its long name, perhaps with a value behind an equals sign. -/
def long (o : Options) (body : List Char) : Except UsageFault ArgumentStep :=
  let (name, attached) := body.span (· != '=')
  match OptionName.ofLong? (String.ofList name), attached with
  | none, _ => .error (.unexpected ("--" ++ String.ofList name))
  | some n, [] => if n.takesValue then .ok (awaits n) else (o.withFlag n).map ofFlag
  | some n, _ :: value =>
    let value := String.ofList value
    if n.takesValue then (o.withValue n value).map next else .error (.surplusValue n.text value)

/-- Options by their letters; the first that takes a value takes all that
follows, without an equals sign in front. -/
def short (o : Options) : List Char → Except UsageFault ArgumentStep
  | [] => .ok (next o)
  | c :: rest =>
    match OptionName.ofShort? c with
    | none => .error (.unexpected ("-" ++ String.singleton c))
    | some n =>
      if n.takesValue then
        match rest with
        | [] => .ok (awaits n)
        | '=' :: value => (o.withValue n (String.ofList value)).map next
        | value => (o.withValue n (String.ofList value)).map next
      else
        match o.withFlag n with
        | .error e => .error e
        | .ok (.inr r) => .ok (decided r)
        | .ok (.inl o) => short o rest

end ArgumentStep

/-! ## All arguments -/

/-- Whether an argument begins like an option. -/
def looksLikeOption (argument : String) : Bool :=
  match argument.toList with
  | '-' :: _ :: _ => true
  | _ => false

/-- What follows two dashes by themselves: nothing may. -/
def Request.ofRest (o : Options) : List String → Except UsageFault Request
  | [] => .ok (.run o)
  | argument :: _ => .error (.unexpected argument)

/-- What one argument comes to that is not the value of an option before it. -/
def ArgumentStep.ofArgument (o : Options) (argument : String) : Except UsageFault ArgumentStep :=
  match argument.toList with
  | '-' :: '-' :: body => long o body
  | '-' :: c :: body => short o (c :: body)
  | _ => .error (.unexpected argument)

/-- Reads arguments. -/
def Request.ofArguments (o : Options) : List String → Except UsageFault Request
  | [] => .ok (.run o)
  | "--" :: rest => Request.ofRest o rest
  | argument :: rest =>
    match ArgumentStep.ofArgument o argument with
    | .error e => .error e
    | .ok (.decided r) => .ok r
    | .ok (.next o) => Request.ofArguments o rest
    | .ok (.awaits name) =>
      match rest with
      | [] => .error (.missingValue name.text)
      | value :: rest =>
        if looksLikeOption value then .error (.missingValue name.text)
        else match o.withValue name value with
          | .error e => .error e
          | .ok o => Request.ofArguments o rest

/-- What the arguments of the program ask for. -/
def Request.parse (arguments : List String) : Except UsageFault Request :=
  Request.ofArguments {} arguments

end PacketWatch
