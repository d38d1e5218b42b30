-- SUMMARY: The command as a program.
import PushdownActors.CommandLine

/-!
# Main

Hands the command its arguments, its environment and the file that they name,
and prints what it answers with.
-/

namespace PushdownActors

/-- The variables that the command looks at. -/
def variableNames : List String :=
  ["ACTOMATON_CONFIG", "ACTOMATON_VERBOSITY", "ACTOMATON_PAUSE_ON_FAILURE", "ACTOMATON_MODE",
    "ACTOMATON_FAILURE_POLICY", "ACTOMATON_PROPAGATE_PANICS", "ACTOMATON_SEED",
    "ACTOMATON_ITERATIONS", "ACTOMATON_MAX_STEPS"]

def readEnvironment : IO Environment := do
  let mut values : List (String × String) := []
  for name in variableNames do
    match ← IO.getEnv name with
    | some value => values := (name, value) :: values
    | none => pure ()
  let found := values
  return fun name => found.lookup name

/-- The contents of the one file that the arguments or the environment name. -/
def readFiles (arguments : List String) (env : Environment) : IO Files := do
  match CommandLine.Arguments.read arguments env with
  | .ok { config := some path, .. } =>
    let contents ← (IO.FS.readFile path).toBaseIO
    match contents with
    | .ok text => return fun _ => .ok text
    | .error e => return fun _ => .error (toString e)
  | _ => return fun _ => .error "not read"

end PushdownActors

open PushdownActors in
def main (arguments : List String) : IO UInt32 := do
  let env ← readEnvironment
  let files ← readFiles arguments env
  let outcome := CommandLine.run arguments env files
  IO.print outcome.output
  match outcome.complaint with
  | some complaint => IO.eprintln complaint.text
  | none => pure ()
  return outcome.exitCode
