-- SUMMARY: The command that runs the ping-pong system, in production mode or to look for bugs.
import PushdownActors.CommandLine.Arguments
import PushdownActors.Config.Load
import PushdownActors.Exploration.Record
import PushdownActors.PingPong
import PushdownActors.Pool
import PushdownActors.Value.Print

/-!
# The command line

The configuration comes from the file that the arguments or the environment name,
and without such a file from the environment; arguments count more than either.
Bug finding prints its report. A production run prints nothing.
-/

namespace PushdownActors.CommandLine

/-! ## Outcomes -/

/-- Why the command ends without success. -/
inductive Complaint where
  | arguments (e : ArgumentError)
  | config (e : ConfigError)
  | failure (f : Failure)
  /-- The run did not come to an end of its own. -/
  | interrupted
  deriving DecidableEq, Inhabited

namespace Complaint

def exitCode : Complaint → UInt32
  | arguments _ => 2
  | config _ | failure _ => 1
  | interrupted => 101

def text : Complaint → String
  | arguments e => "error: " ++ e.message
  | config (.unreadable path reason) =>
    "Error: IoError(" ++ Value.quoted path ++ ", " ++ Value.quoted reason ++ ")"
  | config (.malformed path reason) =>
    "Error: ParseError(" ++ Value.quoted path ++ ", " ++ Value.quoted reason ++ ")"
  | config (.invalid defect) => "Error: ValidationError(" ++ Value.quoted defect.text ++ ")"
  | failure f => "Error: " ++ f.text
  | interrupted => "Error: interrupted"

end Complaint

/-- What the command prints, and what it complains of. -/
structure Outcome where
  output : String := ""
  complaint : Option Complaint := none
  deriving DecidableEq, Inhabited

def Outcome.exitCode (o : Outcome) : UInt32 :=
  (o.complaint.map Complaint.exitCode).getD 0

/-! ## Configuration -/

/-- What the arguments set of a configuration, verbosity apart. -/
def Arguments.settings (a : Arguments) : Settings where
  mode := a.mode
  seed := a.seed
  iterations := a.iterations

/-- The configuration of a run. The environment only counts without a
configuration file, and the greater verbosity counts. -/
def configure (a : Arguments) (env : Environment) (files : Files) : Except ConfigError Config := do
  let base ←
    match a.config with
    | some path => Config.ofFile files path
    | none => pure (Config.ofEnvironment env)
  let config := a.settings.applyTo base
  let config := { config with verbosity := max config.verbosity a.verbose }
  config.validate
  return config

/-! ## Runs -/

/-- Plays in production mode. -/
def runProduction (config : Config) (rounds : UInt32) : Outcome :=
  let sys : System PingPong.Memory := ⟨PingPong.catalog, config⟩
  let session : Session PingPong.Memory RandomChoice :=
    { source := .ofSeed config.testing.seed }
  match session.execute sys Session.ample (PingPong.setup rounds) with
  | (.error _, _) => { complaint := some .interrupted }
  | (.ok (.error e), _) => { complaint := some (.failure e.toFailure) }
  | (.ok (.ok _), session) =>
    let pool := Pool.settle sys Session.ample { session }
    { complaint := pool.session.world.failure.map .failure }

/-- Plays under many schedules and reports. -/
def runExploration (config : Config) (rounds : UInt32) : Outcome :=
  let sys : System PingPong.Memory := ⟨PingPong.catalog, config⟩
  let setup : Setup PingPong.Memory :=
    (PingPong.setup rounds).bind fun client => .done (client.map fun _ => ())
  match (Exploration.run sys Session.ample setup).1 with
  | .error _ => { complaint := some .interrupted }
  | .ok report =>
    { output := Value.print 0 (.object report.fields) ++ "\n"
      complaint := report.bug.map fun b => .failure b.failure }

/-! ## The command -/

def versionText : String := "actomaton 0.1.0\n"

/-- The explanation of the options; it shows which file the environment names. -/
def helpText (env : Environment) : String :=
  "Run the actomaton ping-pong demo\n\n"
    ++ "Usage: actomaton [OPTIONS]\n\n"
    ++ "Options:\n"
    ++ "  -c, --config <CONFIG>          YAML configuration file [env: ACTOMATON_CONFIG="
    ++ (env "ACTOMATON_CONFIG").getD "" ++ "]\n"
    ++ "  -m, --mode <MODE>              Execution mode (overrides the configuration) "
    ++ "[possible values: production, bug-finding]\n"
    ++ "      --seed <SEED>              Base seed for bug finding\n"
    ++ "      --iterations <ITERATIONS>  Bug-finding iterations\n"
    ++ "  -r, --rounds <ROUNDS>          Ping-pong rounds played by the client [default: 5]\n"
    ++ "  -v, --verbose...               Increase verbosity (-v info, -vv debug, -vvv trace)\n"
    ++ "  -h, --help                     Print help\n"
    ++ "  -V, --version                  Print version\n"

/-- Five rounds, unless the arguments say otherwise. -/
def Arguments.roundsToPlay (a : Arguments) : UInt32 := a.rounds.getD 5

/-- What the command does for the given arguments. -/
def run (arguments : List String) (env : Environment) (files : Files) : Outcome :=
  match Arguments.read arguments env with
  | .error .help => { output := helpText env }
  | .error .version => { output := versionText }
  | .error (.refused e) => { complaint := some (.arguments e) }
  | .ok a =>
    match configure a env files with
    | .error e => { complaint := some (.config e) }
    | .ok config =>
      match config.mode with
      | .production => runProduction config a.roundsToPlay
      | .bugFinding => runExploration config a.roundsToPlay

end PushdownActors.CommandLine
