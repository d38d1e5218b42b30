-- SUMMARY: Picking the next event out of a mailbox.
import PushdownActors.Dispatch

/-!
# Mailboxes

A mailbox holds events in the order in which they came. Which one comes next
depends on the current state: events that it ignores are dropped on the way,
events that it defers are passed over, and the first other event is taken. With
nothing to take, a state that handles `Default` gets such an event.
-/

namespace PushdownActors

/-- Takes the first event that the state neither ignores nor defers. What is left
keeps its order, without the ignored events that were passed. -/
def State.take (s : State) : List Event → Option Event × List Event
  | [] => (none, [])
  | e :: rest =>
    if s.ignores e.type then s.take rest
    else if s.defers e.type then
      let (taken, left) := s.take rest
      (taken, e :: left)
    else (some e, rest)

/-- Takes an event, or makes a `Default` event if the state handles that. -/
def State.select (s : State) (mailbox : List Event) : Option Event × List Event :=
  match s.take mailbox with
  | (some e, left) => (some e, left)
  | (none, left) => (if s.handlesDefault then some .default else none, left)

/-- Picks the next event for the state on top of the stack. -/
def Engine.select (en : Engine) (stack : Stack) (mailbox : List Event) :
    Except Failure (Option Event × List Event) :=
  match stack.top? with
  | none => .error Violation.emptyStack.toFailure
  | some top =>
    match en.automaton.state? top with
    | none => .error (Violation.unknownState top).toFailure
    | some state => .ok (state.select mailbox)

/-- Removes the first event of one of `types`. -/
def removeFirst (types : List EventType) : List Event → Option (Event × List Event)
  | [] => none
  | e :: rest =>
    if types.contains e.type then some (e, rest)
    else (removeFirst types rest).map fun (taken, left) => (taken, e :: left)

end PushdownActors
