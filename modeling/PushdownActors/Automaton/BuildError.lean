-- SUMMARY: The reasons for which a declaration is refused, with their wording.
import PushdownActors.Automaton
import PushdownActors.Failure

/-!
# Build errors

Why a machine or monitor type cannot be built. Each error names the type, and
the state, event or action at fault.
-/

namespace PushdownActors

/-- The five places of a state in which an event type can be declared. -/
inductive Table where
  | goto
  | push
  | action
  | ignored
  | deferred
  deriving DecidableEq, Repr, Inhabited

def Table.text : Table → String
  | goto => "goto table"
  | push => "push table"
  | action => "action table"
  | ignored => "ignored set"
  | deferred => "deferred set"

/-- What is wrong with a declaration beyond names that clash or are missing. -/
inductive Defect where
  /-- Only monitors have hot and cold states. -/
  | heatOutsideMonitor (state : StateId)
  /-- Monitors have no mailbox in which an event could wait. -/
  | deferralInMonitor (state : StateId)
  /-- The event type is internal or has an empty name. -/
  | unusableEvent (state : StateId) (event : EventType)
  | described (reason : String)
  deriving DecidableEq, Repr, Inhabited

def Defect.text : Defect → String
  | heatOutsideMonitor state =>
    "state '" ++ state.name ++ "' is marked hot or cold, which only monitors support"
  | deferralInMonitor state =>
    "monitor state '" ++ state.name ++ "' defers events, but monitors have no mailbox"
  | unusableEvent state event =>
    "state '" ++ state.name ++ "' declares reserved or empty event '" ++ event.name ++ "'"
  | described reason => reason

/-- Why a type does not build. -/
inductive BuildError where
  | noStates (type : String)
  | noStartState (type : String)
  | multipleStartStates (type : String) (states : List StateId)
  | duplicateState (type : String) (state : StateId)
  | unknownTarget (type : String) (state target : StateId)
  | unresolvedAction (type : String) (state : StateId) (action : String)
  | hotAndCold (type : String) (state : StateId)
  | conflictingDeclaration (type : String) (state : StateId) (event : EventType)
      (first second : Table)
  | invalidDefinition (type : String) (defect : Defect)
  /-- The value that should hold the declaration does not have its form. -/
  | malformed
  deriving DecidableEq, Repr, Inhabited

namespace BuildError

def code : BuildError → String
  | noStates _ => "NO_STATES"
  | noStartState _ => "NO_START_STATE"
  | multipleStartStates .. => "MULTIPLE_START_STATES"
  | duplicateState .. => "DUPLICATE_STATE"
  | unknownTarget .. => "UNKNOWN_TARGET"
  | unresolvedAction .. => "UNRESOLVED_ACTION"
  | hotAndCold .. => "HOT_AND_COLD"
  | conflictingDeclaration .. => "CONFLICTING_DECLARATION"
  | invalidDefinition .. | malformed => "BAD_DEFINITION"

def message : BuildError → String
  | noStates type => "machine '" ++ type ++ "' declares no states"
  | noStartState type => "machine '" ++ type ++ "' declares no start state"
  | multipleStartStates type states =>
    "machine '" ++ type ++ "' declares more than one start state: "
      ++ ", ".intercalate (states.map StateId.name)
  | duplicateState type state =>
    "machine '" ++ type ++ "' declares state '" ++ state.name ++ "' more than once"
  | unknownTarget type state target =>
    "state '" ++ state.name ++ "' of '" ++ type ++ "' targets unknown state '"
      ++ target.name ++ "'"
  | unresolvedAction type state action =>
    "action '" ++ action ++ "' referenced by state '" ++ state.name
      ++ "' is not defined on '" ++ type ++ "'"
  | hotAndCold type state =>
    "state '" ++ state.name ++ "' of '" ++ type ++ "' cannot be both hot and cold"
  | conflictingDeclaration type state event first second =>
    "state '" ++ state.name ++ "' of '" ++ type ++ "' declares event '" ++ event.name
      ++ "' in both " ++ first.text ++ " and " ++ second.text
  | invalidDefinition type defect =>
    "invalid machine definition '" ++ type ++ "': " ++ defect.text
  | malformed => "JSON error"

def toFailure (e : BuildError) : Failure :=
  { kind := .registry, message := e.message }

end BuildError

end PushdownActors
