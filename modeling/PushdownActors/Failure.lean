-- SUMMARY: The one form in which every fatal condition is reported, and the violations of the dispatch protocol.
import PushdownActors.Event

/-!
# Failures

Every fatal condition ends up as a `Failure`: a kind, a message, and the
machine and state that it arose in. Attribution keeps what is already there, so
a failure that crosses several layers names the innermost one.

A `Violation` is a breach of the rules that a running automaton and its actions
have to keep.
-/

namespace PushdownActors

/-! ## Failures -/

/-- What sort of fatal condition a failure is. -/
inductive FailureKind where
  /-- A machine or monitor type did not build. -/
  | registry
  /-- The rules of dispatch were broken. -/
  | protocol
  /-- An assertion did not hold. -/
  | assertion
  /-- An action failed with an error of the named type. -/
  | action (typeName : String)
  /-- A blocking receive can never be answered. -/
  | deadlock
  deriving DecidableEq, Repr, Inhabited

/-- A fatal condition. -/
structure Failure where
  kind : FailureKind
  message : String
  /-- The machine or monitor that it arose in. -/
  machine : Option String := none
  /-- The state on top of the stack when it arose. -/
  state : Option String := none
  deriving DecidableEq, Repr, Inhabited

namespace FailureKind

def text : FailureKind → String
  | registry => "registry error"
  | protocol => "protocol violation"
  | assertion => "assertion failed"
  | action typeName => "action failed (" ++ typeName ++ ")"
  | deadlock => "deadlock"

/-- The code that reports carry. -/
def code : FailureKind → String
  | registry => "REGISTRY_ERROR"
  | protocol => "PROTOCOL_VIOLATION"
  | assertion => "ASSERTION_FAILED"
  | action _ => "ACTION_FAILED"
  | deadlock => "DEADLOCK"

end FailureKind

namespace Failure

def assertion (message : String) : Failure := { kind := .assertion, message }

def action (typeName message : String) : Failure := { kind := .action typeName, message }

/-- Attributes the failure to a machine unless it names one. -/
def inMachine (f : Failure) (machine : String) : Failure :=
  { f with machine := f.machine <|> some machine }

/-- Attributes the failure to a state, if there is one, unless it names one. -/
def inState (f : Failure) (state : Option StateId) : Failure :=
  { f with state := f.state <|> state.map StateId.name }

def isProtocol (f : Failure) : Bool :=
  f.kind == .protocol

def text (f : Failure) : String :=
  f.kind.text
    ++ (match f.machine with | some m => " in " ++ m | none => "")
    ++ (match f.state with | some s => " at state '" ++ s ++ "'" | none => "")
    ++ ": " ++ f.message

end Failure

/-! ## Violations -/

/-- A breach of the rules of dispatch. -/
inductive Violation where
  | unhandledEvent (event : EventType)
  | monitorUnhandledEvent (event : EventType) (state : StateId)
  | emptyStack
  | doubleTransition
  | transitionInExit
  | transitionInOverride
  | popEmptiesStack
  | alreadyStarted
  | unknownTarget (target : String)
  | invalidEvent
  | reservedEvent (event : EventType)
  | unknownState (state : StateId)
  | machineOnly (operation : String)
  deriving DecidableEq, Repr, Inhabited

namespace Violation

def message : Violation → String
  | unhandledEvent event =>
    "received event '" ++ event.name ++ "' that cannot be handled while the state stack is empty"
  | monitorUnhandledEvent event state =>
    "monitor received event '" ++ event.name ++ "' that cannot be handled in state '"
      ++ state.name ++ "'"
  | emptyStack => "received no handleable event while the state stack is empty"
  | doubleTransition => "more than one raise, goto, push or pop requested in a single action"
  | transitionInExit => "raise, goto, push or pop requested from an exit action"
  | transitionInOverride =>
    "raise, goto, push or pop requested from the action of a goto transition"
  | popEmptiesStack => "pop would leave the state stack empty"
  | alreadyStarted => "machine was started more than once"
  | unknownTarget target => "send target '" ++ target ++ "' is not a machine of this runtime"
  | invalidEvent => "event has an empty type name"
  | reservedEvent event => "event '" ++ event.name ++ "' is reserved for internal use"
  | unknownState state => "state '" ++ state.name ++ "' is not declared"
  | machineOnly operation => "'" ++ operation ++ "' is only available to machines"

def toFailure (v : Violation) : Failure :=
  { kind := .protocol, message := v.message }

end Violation

/-- Events that users may send or raise have a type name that is neither empty
nor internal. -/
def Event.checkSendable (e : Event) : Except Violation Unit :=
  if e.type.name = "" then .error .invalidEvent
  else if e.type.isInternal then .error (.reservedEvent e.type)
  else .ok ()

end PushdownActors
