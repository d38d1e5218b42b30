-- SUMMARY: The configuration of a runtime, its defaults, and which configurations are sensible.

/-!
# Configuration

What a runtime is told about how to work: how runs are scheduled, what a failure
leads to, and the limits of bug finding.
-/

namespace PushdownActors

/-- How handler runs are scheduled. -/
inductive Mode where
  /-- In parallel. -/
  | production
  /-- One after the other, in an order that the choice source decides. -/
  | bugFinding
  deriving DecidableEq, Repr, Inhabited

/-- What a failure leads to. -/
inductive FailurePolicy where
  /-- The end of the process. -/
  | exit
  /-- A record of the failure, and no further dispatch. -/
  | report
  deriving DecidableEq, Repr, Inhabited

/-- The limits of bug finding. -/
structure Testing where
  /-- Iteration `i` runs with the seed `seed + i`. -/
  seed : UInt64 := 0
  iterations : UInt32 := 100
  /-- Scheduling steps of an iteration; zero means no bound. -/
  maxSteps : UInt64 := 10000
  deriving DecidableEq, Repr, Inhabited

/-- A configuration. -/
structure Config where
  verbosity : UInt8 := 0
  /-- Wait for the operator before a failure ends the process. -/
  pauseOnFailure : Bool := false
  mode : Mode := .production
  failurePolicy : FailurePolicy := .exit
  /-- Let a panic of an action through to the caller instead of reporting it. -/
  propagatePanics : Bool := false
  testing : Testing := {}
  deriving DecidableEq, Repr, Inhabited

/-- Why a configuration is not sensible. -/
inductive ConfigDefect where
  | noIterations
  | pauseWithoutExit
  | described (message : String)
  deriving DecidableEq, Repr, Inhabited

def ConfigDefect.text : ConfigDefect → String
  | noIterations => "bug finding requires at least one iteration"
  | pauseWithoutExit => "pause_on_assertion_failure only applies to the exit failure policy"
  | described message => message

/-- Why there is no configuration. -/
inductive ConfigError where
  | unreadable (path reason : String)
  | malformed (path reason : String)
  | invalid (defect : ConfigDefect)
  deriving DecidableEq, Repr, Inhabited

def ConfigError.message : ConfigError → String
  | unreadable path reason => "failed to read config file '" ++ path ++ "': " ++ reason
  | malformed path reason => "failed to parse config file '" ++ path ++ "': " ++ reason
  | invalid defect => "configuration validation failed: " ++ defect.text

/-- The bound on scheduling steps, if there is one. -/
def Testing.stepBound (t : Testing) : Option Nat :=
  if t.maxSteps = 0 then none else some t.maxSteps.toNat

namespace Config

/-- For tests: serial scheduling, and failures are reported. -/
def bugFinding (seed : UInt64) : Config where
  mode := .bugFinding
  failurePolicy := .report
  testing := { seed }

/-- For use inside another program: failures are reported. -/
def embedded : Config where
  failurePolicy := .report

/-- Handler runs are scheduled one after the other. -/
def serial (c : Config) : Bool := c.mode == .bugFinding

/-- Bug finding runs at least once, and only a failure that ends the process can
wait for the operator. -/
def validate (c : Config) : Except ConfigError Unit :=
  if c.mode = .bugFinding ∧ c.testing.iterations = 0 then .error (.invalid .noIterations)
  else if c.pauseOnFailure ∧ c.failurePolicy = .report then .error (.invalid .pauseWithoutExit)
  else .ok ()

/-- The least severe messages that are logged. -/
def logFilter (c : Config) : String :=
  if c.verbosity = 0 then "warn"
  else if c.verbosity = 1 then "info"
  else if c.verbosity = 2 then "debug"
  else "trace"

end Config

end PushdownActors
