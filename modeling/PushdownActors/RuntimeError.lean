-- SUMMARY: The errors that operations on a running system answer with.
import PushdownActors.Automaton.BuildError
import PushdownActors.Config

/-!
# Runtime errors

An operation on a running system fails because a type does not build, because of
a failure in the system, because of the configuration, or because the mode of
scheduling does not allow it.
-/

namespace PushdownActors

inductive RuntimeError where
  | build (e : BuildError)
  | failure (f : Failure)
  | config (e : ConfigError)
  /-- Production mode without anything that could run handlers in parallel. -/
  | noExecutor
  /-- The operation needs serial scheduling. -/
  | serialOnly (operation : String)
  | notQuiescent (active : Nat)
  deriving DecidableEq, Inhabited

namespace RuntimeError

def code : RuntimeError → String
  | build e => e.code
  | failure f => f.kind.code
  | config _ => "BAD_CONFIG"
  | noExecutor => "NO_ASYNC_RUNTIME"
  | serialOnly _ => "WRONG_MODE"
  | notQuiescent _ => "NOT_QUIESCENT"

def message : RuntimeError → String
  | build e => "core error: " ++ e.message
  | failure f => f.text
  | config e => "configuration error: " ++ e.message
  | noExecutor => "production mode requires a running tokio runtime"
  | serialOnly operation => "'" ++ operation ++ "' is only available in bug-finding mode"
  | notQuiescent active => "cannot reset while " ++ toString active ++ " handler run(s) are active"

/-- The failure that the error amounts to. -/
def toFailure : RuntimeError → Failure
  | build e => e.toFailure
  | failure f => f
  | e => .assertion e.message

end RuntimeError

end PushdownActors
