-- SUMMARY: Events and the names of their types and of states.
import PushdownActors.Value

/-!
# Events

An event is either a message, which has a type and may carry a value, or an
instruction to move to a state. Machines know a message by its type alone.

Four type names have a meaning of their own. `Halt` ends a machine that has no
state left to handle it, and `Default` is delivered when nothing else can be;
both may be sent like any other. `$GotoState` and `$Start` are internal: only
the library makes such events, and so they are not sendable.
-/

namespace PushdownActors

/-- The name of an event's type. -/
structure EventType where
  name : String
  deriving DecidableEq, Repr, Inhabited

/-- The name of a state, qualified by the groups that it is declared in. -/
structure StateId where
  name : String
  deriving DecidableEq, Repr, Inhabited

namespace EventType

/-- Ends a machine once no state on its stack handles it. -/
def halt : EventType := ⟨"Halt"⟩

/-- Delivered when nothing in the mailbox is deliverable. -/
def default : EventType := ⟨"Default"⟩

/-- The type of every instruction to move to a state. -/
def gotoState : EventType := ⟨"$GotoState"⟩

/-- The type of the event that a machine's start state is entered with. -/
def start : EventType := ⟨"$Start"⟩

/-- Only the library makes events of these types. -/
def isInternal (t : EventType) : Bool :=
  t == gotoState || t == start

/-- A type that states may mention and that users may send. -/
def isUsable (t : EventType) : Bool :=
  t.name != "" && !t.isInternal

end EventType

/-- Something that can be delivered to an automaton. -/
inductive Event where
  | message (type : EventType) (payload : Option Value)
  | goto (target : StateId)
  deriving DecidableEq, Inhabited

namespace Event

/-- Asks the receiver to halt. -/
def halt : Event := .message .halt none

/-- What is delivered when nothing else can be. -/
def default : Event := .message .default none

/-- What the start state is entered with; the payload comes from the creator. -/
def start (payload : Option Value) : Event := .message .start payload

def type : Event → EventType
  | message type _ => type
  | goto _ => .gotoState

def payload : Event → Option Value
  | message _ payload => payload
  | goto _ => none

/-- The state that the event asks to move to. -/
def target : Event → Option StateId
  | message .. => none
  | goto target => some target

def isHalt (e : Event) : Bool :=
  e.type == .halt

/-- May be sent or raised by an action. -/
def isSendable (e : Event) : Bool :=
  e.type.isUsable

def text : Event → String
  | message type _ => type.name
  | goto target => EventType.gotoState.name ++ "(" ++ target.name ++ ")"

end Event

end PushdownActors
