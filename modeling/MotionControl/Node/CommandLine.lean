import MotionControl.Decimal.Read

/-!
# The command line

Three options take a value, which may follow as the next argument or be attached;
two flags take none.  A value that follows is looked at only when the next option
or flag arrives, or at the end, so an argument that fits nowhere is reported
before a bad value in front of it.
-/

namespace MotionControl
namespace CommandLine

/-- The options that take a value. -/
inductive ValueOption where
  | config
  | rate
  | duration
  deriving DecidableEq

/-- The flags, which take no value. -/
inductive Flag where
  | verbose
  | help
  deriving DecidableEq

/-- An option or a flag. -/
inductive Switch where
  | option (option : ValueOption)
  | flag (flag : Flag)
  deriving DecidableEq

/-- Long name of an option. -/
def ValueOption.long : ValueOption → String
  | .config => "--config"
  | .rate => "--rate"
  | .duration => "--duration"

/-- An option with its placeholder, as messages show it. -/
def ValueOption.usage : ValueOption → String
  | .config => "--config <CONFIG>"
  | .rate => "--rate <RATE>"
  | .duration => "--duration <DURATION>"

/-- Long name of a flag. -/
def Flag.long : Flag → String
  | .verbose => "--verbose"
  | .help => "--help"

/-- The switch with a long name, given without its hyphens. -/
def Switch.ofLong? : String → Option Switch
  | "config" => some (.option .config)
  | "rate" => some (.option .rate)
  | "duration" => some (.option .duration)
  | "verbose" => some (.flag .verbose)
  | "help" => some (.flag .help)
  | _ => none

/-- The switch with a short name. -/
def Switch.ofShort? : Char → Option Switch
  | 'c' => some (.option .config)
  | 'r' => some (.option .rate)
  | 'd' => some (.option .duration)
  | 'v' => some (.flag .verbose)
  | 'h' => some (.flag .help)
  | _ => none

/-- Why a command line cannot be used. -/
inductive UsageError where
  | unexpected (argument : String)
  | missingValue (option : ValueOption)
  | badNumber (option : ValueOption) (text : String)
  | repeatedOption (option : ValueOption)
  | repeatedFlag (flag : Flag)
  | unwantedValue (flag : Flag) (value : String)
  deriving DecidableEq

/-- Why a text is no number. -/
def numberFault (text : String) : String :=
  if text.isEmpty then "cannot parse float from empty string" else "invalid float literal"

/-- Wording of a usage error. -/
def UsageError.message : UsageError → String
  | .unexpected argument => "error: unexpected argument '" ++ argument ++ "' found"
  | .missingValue option =>
    "error: a value is required for '" ++ option.usage ++ "' but none was supplied"
  | .badNumber option text =>
    "error: invalid value '" ++ text ++ "' for '" ++ option.usage ++ "': " ++ numberFault text
  | .repeatedOption option =>
    "error: the argument '" ++ option.usage ++ "' cannot be used multiple times"
  | .repeatedFlag flag =>
    "error: the argument '" ++ flag.long ++ "' cannot be used multiple times"
  | .unwantedValue flag value =>
    "error: unexpected value '" ++ value ++ "' for '" ++ flag.long
      ++ "' found; no more were expected"

/-- What a command line asks for. -/
structure Options where
  config : Option String := none
  /-- Rate of the control loop in Hz; nothing means the default. -/
  rate : Option Float := none
  /-- Run time in seconds; nothing means without end. -/
  duration : Option Float := none
  verbose : Bool := false

/-- Rate of the control loop where none is asked for. -/
def Options.defaultRate : Float :=
  Float.ofNat 100

def Options.rateHz (options : Options) : Float :=
  options.rate.getD defaultRate

inductive Request where
  | run (options : Options)
  | help

/-- Where the reading stops before the end of the command line. -/
inductive Stop where
  | usage (error : UsageError)
  | help

/-- An option that waits for its value, or for the value to be looked at. -/
structure Pending where
  option : ValueOption
  value : Option String

structure State where
  options : Options := {}
  pending : Option Pending := none
  /-- All further arguments are positional. -/
  trailing : Bool := false

namespace State

/-- Holds if an option has been given a value. -/
def has (state : State) : ValueOption → Bool
  | .config => state.options.config.isSome
  | .rate => state.options.rate.isSome
  | .duration => state.options.duration.isSome

def assign (state : State) (option : ValueOption) (text : String) : Except Stop State :=
  if state.has option then .error (.usage (.repeatedOption option))
  else
    match option with
    | .config =>
      if text.isEmpty then .error (.usage (.missingValue option))
      else .ok { state with options := { state.options with config := some text } }
    | .rate =>
      match Decimal.readFloat? text with
      | some x => .ok { state with options := { state.options with rate := some x } }
      | none => .error (.usage (.badNumber option text))
    | .duration =>
      match Decimal.readFloat? text with
      | some x => .ok { state with options := { state.options with duration := some x } }
      | none => .error (.usage (.badNumber option text))

/-- Look at the value of the option that waits. -/
def settle (state : State) : Except Stop State :=
  match state.pending with
  | none => .ok state
  | some ⟨option, none⟩ => .error (.usage (.missingValue option))
  | some ⟨option, some text⟩ => assign { state with pending := none } option text

def raise (state : State) (flag : Flag) : Except Stop State := do
  let state ← state.settle
  match flag with
  | .help => .error .help
  | .verbose =>
    if state.options.verbose then .error (.usage (.repeatedFlag flag))
    else .ok { state with options := { state.options with verbose := true } }

/-- Take in an option, with its value if one is attached. -/
def begin (state : State) (option : ValueOption) (attached : Option String) :
    Except Stop State := do
  let state ← state.settle
  match attached with
  | some text => state.assign option text
  | none => .ok { state with pending := some ⟨option, none⟩ }

/-- Take in an argument of the form `--name` or `--name=value`, given without its
hyphens. -/
def addLong (state : State) (body : List Char) : Except Stop State :=
  let name := String.ofList (body.takeWhile (· ≠ '='))
  let attached : Option String := match body.dropWhile (· ≠ '=') with
    | [] => none
    | _ :: value => some (String.ofList value)
  match Switch.ofLong? name with
  | none => .error (.usage (.unexpected ("--" ++ name)))
  | some (.option option) => state.begin option attached
  | some (.flag flag) =>
    match attached with
    | some value => .error (.usage (.unwantedValue flag value))
    | none => state.raise flag

/-- Take in an argument of the form `-xyz`, given without its hyphen: flags, and
at the end perhaps an option with an attached value. -/
def addShort (state : State) : List Char → Except Stop State
  | [] => .ok state
  | c :: rest =>
    match Switch.ofShort? c with
    | none => .error (.usage (.unexpected (String.ofList ['-', c])))
    | some (.flag flag) => do addShort (← state.raise flag) rest
    | some (.option option) =>
      match rest with
      | [] => state.begin option none
      | '=' :: value => state.begin option (some (String.ofList value))
      | value => state.begin option (some (String.ofList value))

/-- Take in an argument that is no switch: the value of the option that waits for
one. -/
def addPlain (state : State) (argument : String) : Except Stop State :=
  match state.trailing, state.pending with
  | false, some ⟨option, none⟩ => .ok { state with pending := some ⟨option, some argument⟩ }
  | _, _ => .error (.usage (.unexpected argument))

def add (state : State) (argument : String) : Except Stop State :=
  if state.trailing then state.addPlain argument
  else
    match argument.toList with
    | ['-', '-'] => .ok { state with trailing := true }
    | '-' :: '-' :: body => state.addLong body
    | ['-'] => state.addPlain argument
    | '-' :: body => state.addShort body
    | _ => state.addPlain argument

end State

/-- Read the arguments after the program name. -/
def read (arguments : List String) : Except UsageError Request :=
  match (do (← arguments.foldlM State.add {}).settle : Except Stop State) with
  | .ok state => .ok (.run state.options)
  | .error .help => .ok .help
  | .error (.usage error) => .error error

def helpLines : List String := [
  "Cartesian motion controller driving a simulated end-effector",
  "",
  "Usage: cartesian_node [OPTIONS]",
  "",
  "Options:",
  "  -c, --config <CONFIG>      Controller configuration file (TOML)",
  "  -r, --rate <RATE>          Control loop rate in Hz [default: 100]",
  "  -d, --duration <DURATION>  Stop after this many seconds (runs until Ctrl+C otherwise)",
  "  -v, --verbose              Enable verbose logging",
  "  -h, --help                 Print help"]

end CommandLine
end MotionControl
