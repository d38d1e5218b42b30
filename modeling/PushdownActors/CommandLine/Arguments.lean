-- SUMMARY: The arguments of the command, and the reasons for which they are refused.
import PushdownActors.Config.Environment

/-!
# Arguments

Options have long names and most have short ones. An option's value is the next
argument, or follows in the same one: behind an equals sign, or directly behind a
short name. Short names can be written together. An argument that begins with a
dash is never a value of its own. Options are given once; only `-v` may be
repeated. What comes first in the arguments decides: help that is asked for
before anything is wrong is given.
-/

namespace PushdownActors.CommandLine

/-! ## Options -/

/-- An option with a value. -/
inductive ValueOption where
  | config
  | mode
  | seed
  | iterations
  | rounds
  deriving DecidableEq, Repr, Inhabited

/-- A flag. -/
inductive Flag where
  | verbose
  | help
  | version
  deriving DecidableEq, Repr, Inhabited

/-- What the arguments ask for. -/
structure Arguments where
  config : Option String := none
  mode : Option Mode := none
  seed : Option UInt64 := none
  iterations : Option UInt32 := none
  rounds : Option UInt32 := none
  verbose : UInt8 := 0
  deriving DecidableEq, Repr, Inhabited

/-- Why arguments are refused. -/
inductive ArgumentError where
  | unexpected (argument : String)
  | valueMissing (option : ValueOption)
  | valueUnexpected (flag : Flag) (value : String)
  | valueInvalid (option : ValueOption) (value : String)
  | repeated (option : ValueOption)
  deriving DecidableEq, Repr, Inhabited

/-- What ends the reading of arguments early. -/
inductive Stop where
  | help
  | version
  | refused (e : ArgumentError)
  deriving DecidableEq, Repr, Inhabited

namespace ValueOption

def name : ValueOption → String
  | config => "config"
  | mode => "mode"
  | seed => "seed"
  | iterations => "iterations"
  | rounds => "rounds"

def all : List ValueOption := [config, mode, seed, iterations, rounds]

def ofName? (name : String) : Option ValueOption :=
  all.find? (·.name == name)

def ofLetter? : Char → Option ValueOption
  | 'c' => some config
  | 'm' => some mode
  | 'r' => some rounds
  | _ => none

end ValueOption

namespace Flag

def name : Flag → String
  | verbose => "verbose"
  | help => "help"
  | version => "version"

def ofName? (name : String) : Option Flag :=
  [verbose, help, version].find? (·.name == name)

def ofLetter? : Char → Option Flag
  | 'v' => some verbose
  | 'h' => some help
  | 'V' => some version
  | _ => none

end Flag

namespace ArgumentError

def message : ArgumentError → String
  | unexpected argument => "unexpected argument '" ++ argument ++ "' found"
  | valueMissing option =>
    "a value is required for '--" ++ option.name ++ "' but none was supplied"
  | valueUnexpected flag value =>
    "unexpected value '" ++ value ++ "' for '--" ++ flag.name ++ "' found; no more were expected"
  | valueInvalid option value =>
    "invalid value '" ++ value ++ "' for '--" ++ option.name ++ "'"
  | repeated option => "the argument '--" ++ option.name ++ "' cannot be used multiple times"

end ArgumentError

/-! ## Values -/

/-- Modes are written with a dash here. -/
def modeOf? : String → Option Mode
  | "production" => some .production
  | "bug-finding" => some .bugFinding
  | _ => none

/-- A count may have any sign, as long as it is in range. -/
def countOf? (text : String) : Option UInt32 :=
  match Numeral.int64 text with
  | .ok n => if 0 ≤ n ∧ n ≤ 4294967295 then some (UInt32.ofNat n.toNat) else none
  | .error _ => none

namespace Arguments

/-- Sets a field that was not set before. -/
def setOnce (option : ValueOption) (value : String) (old new : Option α) : Except Stop (Option α) :=
  match old, new with
  | _, none => .error (.refused (.valueInvalid option value))
  | some _, some _ => .error (.refused (.repeated option))
  | none, some v => .ok (some v)

def set (a : Arguments) (option : ValueOption) (value : String) : Except Stop Arguments := do
  match option with
  | .config =>
    let path := if value.isEmpty then none else some value
    return { a with config := ← setOnce option value a.config path }
  | .mode => return { a with mode := ← setOnce option value a.mode (modeOf? value) }
  | .seed =>
    return { a with seed := ← setOnce option value a.seed (Numeral.uint64 value).toOption }
  | .iterations =>
    return { a with iterations := ← setOnce option value a.iterations (countOf? value) }
  | .rounds => return { a with rounds := ← setOnce option value a.rounds (countOf? value) }

/-- Raises a flag. Verbosity counts up to its largest value. -/
def raiseFlag (a : Arguments) : Flag → Except Stop Arguments
  | .verbose => .ok { a with verbose := if a.verbose = 255 then 255 else a.verbose + 1 }
  | .help => .error .help
  | .version => .error .version

end Arguments

/-! ## Reading -/

/-- How far the arguments have been read. -/
structure Reading where
  arguments : Arguments := {}
  /-- The option whose value comes next. -/
  awaiting : Option ValueOption := none
  /-- No options follow. -/
  closed : Bool := false

namespace Reading

/-- Begins with a dash and is more than that. -/
def isDashed (argument : String) : Bool :=
  match argument.toList with
  | '-' :: _ :: _ => true
  | _ => false

/-- Takes in an option and its value, if that is known already. -/
def option (r : Reading) (option : ValueOption) : Option String → Except Stop Reading
  | some value => do return { r with arguments := ← r.arguments.set option value }
  | none => .ok { r with awaiting := some option }

/-- Takes in a long name, with what stands behind its equals sign. -/
def long (r : Reading) (argument : String) (name : String) (attached : Option String) :
    Except Stop Reading :=
  match ValueOption.ofName? name, Flag.ofName? name, attached with
  | some o, _, _ => r.option o attached
  | none, some f, some value => .error (.refused (.valueUnexpected f value))
  | none, some f, none => do return { r with arguments := ← r.arguments.raiseFlag f }
  | none, none, _ => .error (.refused (.unexpected argument))

/-- Takes in short names that are written together. -/
def short (argument : String) : List Char → Reading → Except Stop Reading
  | [], r => .ok r
  | c :: rest, r =>
    match ValueOption.ofLetter? c, Flag.ofLetter? c with
    | some o, _ =>
      match rest with
      | [] => r.option o none
      | '=' :: value => r.option o (some (.ofList value))
      | value => r.option o (some (.ofList value))
    | none, some f => do
      let a ← r.arguments.raiseFlag f
      short argument rest { r with arguments := a }
    | none, none => .error (.refused (.unexpected argument))

/-- Takes in an argument that is no value. -/
def argument (r : Reading) (argument : String) : Except Stop Reading :=
  match argument.toList with
  | ['-', '-'] => .ok { r with closed := true }
  | '-' :: '-' :: cs =>
    let name := cs.takeWhile (· != '=')
    let attached :=
      match cs.dropWhile (· != '=') with
      | _ :: value => some (String.ofList value)
      | [] => none
    r.long argument (.ofList name) attached
  | '-' :: c :: rest => short argument (c :: rest) r
  | _ => .error (.refused (.unexpected argument))

/-- Takes in the next argument. -/
def next (r : Reading) (argument : String) : Except Stop Reading :=
  if r.closed then .error (.refused (.unexpected argument))
  else
    match r.awaiting with
    | none => r.argument argument
    | some o =>
      if isDashed argument then .error (.refused (.valueMissing o))
      else { r with awaiting := none }.option o (some argument)

/-- What was read, once there are no more arguments. -/
def close (r : Reading) : Except Stop Arguments :=
  match r.awaiting with
  | some o => .error (.refused (.valueMissing o))
  | none => .ok r.arguments

end Reading

/-- Reads arguments. Without a configuration file among them, the environment may
name one. -/
def Arguments.read (arguments : List String) (env : Environment) : Except Stop Arguments := do
  let a ← (← arguments.foldlM Reading.next {}).close
  match a.config, env "ACTOMATON_CONFIG" with
  | none, some path => a.set .config path
  | _, _ => return a

end PushdownActors.CommandLine
