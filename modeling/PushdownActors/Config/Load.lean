-- SUMMARY: Where a configuration is loaded from: a file, the environment, or both.
import PushdownActors.Config.Environment
import PushdownActors.Config.File

/-!
# Loading configurations

The variable `ACTOMATON_CONFIG` names a configuration file. What other variables
set counts more than what the file sets.
-/

namespace PushdownActors

/-- The contents of files by path, or the reason why a file cannot be read. -/
abbrev Files := String → Except String String

/-- What the file at a path sets. -/
def Settings.ofFile (files : Files) (path : String) : Except ConfigError Settings :=
  match files path with
  | .error reason => .error (.unreadable path reason)
  | .ok text =>
    match Settings.ofFileText? text with
    | some s => .ok s
    | none => .error (.malformed path "not a configuration")

namespace Config

def ofFile (files : Files) (path : String) : Except ConfigError Config :=
  (Settings.ofFile files path).map Settings.toConfig

def ofEnvironment (env : Environment) : Config :=
  (Settings.ofEnvironment env).toConfig

/-- The configuration that the file named by the environment and the environment
itself set, if it is sensible. -/
def load (env : Environment) (files : Files) : Except ConfigError Config := do
  let file ←
    match env "ACTOMATON_CONFIG" with
    | some path => Settings.ofFile files path
    | none => pure {}
  let config := ((Settings.ofEnvironment env).orElse file).toConfig
  config.validate
  return config

end Config

end PushdownActors
