-- SUMMARY: The stack of states of a running automaton.
import PushdownActors.Event

/-!
# State stacks

The state on top is the current one. The frames are kept with the top first;
`toList` gives them from bottom to top.
-/

namespace PushdownActors

/-- A stack of states, the top first. -/
structure Stack where
  frames : List StateId := []
  deriving DecidableEq, Repr, Inhabited

namespace Stack

def empty : Stack := {}

/-- The stack with the given frames, from bottom to top. -/
def ofList (frames : List StateId) : Stack := ⟨frames.reverse⟩

/-- The frames from bottom to top. -/
def toList (s : Stack) : List StateId := s.frames.reverse

def top? (s : Stack) : Option StateId := s.frames.head?

def size (s : Stack) : Nat := s.frames.length

def isEmpty (s : Stack) : Bool := s.frames.isEmpty

def push (s : Stack) (state : StateId) : Stack := ⟨state :: s.frames⟩

/-- Removes the top frame, if there is one. -/
def pop (s : Stack) : Stack := ⟨s.frames.tail⟩

/-- Puts `state` in the place of the top frame; the frames beneath stay. -/
def replaceTop (s : Stack) (state : StateId) : Stack := s.pop.push state

@[simp] theorem toList_ofList (frames : List StateId) : (ofList frames).toList = frames := by
  simp [ofList, toList]

@[simp] theorem ofList_toList (s : Stack) : ofList s.toList = s := by
  simp [ofList, toList]

@[simp] theorem toList_push (s : Stack) (state : StateId) :
    (s.push state).toList = s.toList ++ [state] := by
  simp [push, toList]

@[simp] theorem pop_push (s : Stack) (state : StateId) : (s.push state).pop = s := rfl

@[simp] theorem top?_push (s : Stack) (state : StateId) : (s.push state).top? = some state := rfl

@[simp] theorem top?_replaceTop (s : Stack) (state : StateId) :
    (s.replaceTop state).top? = some state := rfl

@[simp] theorem pop_replaceTop (s : Stack) (state : StateId) :
    (s.replaceTop state).pop = s.pop := rfl

end Stack

end PushdownActors
