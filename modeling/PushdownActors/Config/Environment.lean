-- SUMMARY: What environment variables set of a configuration.
import PushdownActors.Config.Settings
import PushdownActors.Text.Numeral

/-!
# Configuration by environment

A variable that holds a number sets its field if the number is well-formed and
in range, and nothing otherwise. A variable that holds a word always sets its
field: words are known in upper and lower case, and an unknown word stands for
the field's default.
-/

namespace PushdownActors

/-- The values of environment variables by name. -/
abbrev Environment := String → Option String

namespace Settings

/-- A switch is on if its variable says `1` or `true`. -/
def switchOf (word : String) : Bool :=
  word == "1" || word.toLower == "true"

def modeOf (word : String) : Mode :=
  if ["bug_finding", "bugfinding", "testing"].contains word.toLower then .bugFinding
  else .production

def failurePolicyOf (word : String) : FailurePolicy :=
  if word.toLower == "report" then .report else .exit

def ofEnvironment (env : Environment) : Settings where
  verbosity := (env "ACTOMATON_VERBOSITY").bind fun s => (Numeral.uint8 s).toOption
  pauseOnFailure := (env "ACTOMATON_PAUSE_ON_FAILURE").map switchOf
  mode := (env "ACTOMATON_MODE").map modeOf
  failurePolicy := (env "ACTOMATON_FAILURE_POLICY").map failurePolicyOf
  propagatePanics := (env "ACTOMATON_PROPAGATE_PANICS").map switchOf
  seed := (env "ACTOMATON_SEED").bind fun s => (Numeral.uint64 s).toOption
  iterations := (env "ACTOMATON_ITERATIONS").bind fun s => (Numeral.uint32 s).toOption
  maxSteps := (env "ACTOMATON_MAX_STEPS").bind fun s => (Numeral.uint64 s).toOption

end Settings

end PushdownActors
