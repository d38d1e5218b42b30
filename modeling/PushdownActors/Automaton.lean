-- SUMMARY: Checked automata: named states, each with at most one reaction to every event type.
import PushdownActors.Declaration

/-!
# Automata

An automaton is a declaration that has been checked and indexed. In every state
an event type has at most one reaction: it moves to another state, puts one on
top, runs an action, is dropped, or has to wait.
-/

namespace PushdownActors

/-- Machines are scheduled and have a mailbox; monitors are called and have a
single current state. -/
inductive Kind where
  | machine
  | monitor
  deriving DecidableEq, Repr, Inhabited

def Kind.text : Kind → String
  | machine => "machine"
  | monitor => "monitor"

/-- What an event type does in a state. -/
inductive Reaction where
  /-- Replace the state by the target, running the action in between. -/
  | goto (target : StateId) (action : Option String)
  /-- Put the target on top of the state. -/
  | push (target : StateId)
  /-- Run an action and stay. -/
  | act (action : String)
  /-- Drop the event. -/
  | ignore
  /-- Leave the event in the mailbox. -/
  | defer
  deriving DecidableEq, Repr, Inhabited

namespace Reaction

/-- The state that the reaction leads to, if it leads to one. -/
def target? : Reaction → Option StateId
  | goto target _ | push target => some target
  | act _ | ignore | defer => none

/-- The action that the reaction runs, if it runs one. -/
def action? : Reaction → Option String
  | goto _ action => action
  | act action => some action
  | push _ | ignore | defer => none

/-- The state does something with the event now: it is neither dropped nor kept
waiting. -/
def handles : Reaction → Bool
  | goto .. | push _ | act _ => true
  | ignore | defer => false

end Reaction

/-- A state of an automaton. -/
structure State where
  id : StateId
  entry : Option String
  exit : Option String
  reactions : List (EventType × Reaction)
  hot : Bool
  cold : Bool

namespace State

/-- What the state does with events of type `t`, if it mentions them. -/
def reaction? (s : State) (t : EventType) : Option Reaction :=
  s.reactions.lookup t

def handles (s : State) (t : EventType) : Bool :=
  (s.reaction? t).any Reaction.handles

def ignores (s : State) (t : EventType) : Bool :=
  s.reaction? t == some .ignore

def defers (s : State) (t : EventType) : Bool :=
  s.reaction? t == some .defer

/-- The state reacts when nothing in the mailbox is deliverable. -/
def handlesDefault (s : State) : Bool :=
  s.handles .default

/-- Every action that the state can run, in the order entry, exit, reactions. -/
def actions (s : State) : List String :=
  s.entry.toList ++ s.exit.toList ++ s.reactions.filterMap fun (_, r) => r.action?

end State

/-- A checked machine or monitor type. -/
structure Automaton where
  name : String
  kind : Kind
  states : List State
  start : StateId
  /-- What the automaton was built from. -/
  declaration : Declaration

namespace Automaton

def state? (a : Automaton) (id : StateId) : Option State :=
  a.states.find? (·.id == id)

def hasState (a : Automaton) (id : StateId) : Bool :=
  (a.state? id).isSome

/-- Puts a state among states that are in the order of their names. -/
def insertByName (s : State) : List State → List State
  | [] => [s]
  | t :: rest => if s.id.name < t.id.name then s :: t :: rest else t :: insertByName s rest

/-- The states in the order of their names. -/
def sortedStates (a : Automaton) : List State :=
  a.states.foldl (fun sorted s => insertByName s sorted) []

end Automaton

end PushdownActors
