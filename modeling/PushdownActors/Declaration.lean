-- SUMMARY: Machines and monitors as they are declared: states with their rules, in groups nested to any depth.
import PushdownActors.Event

/-!
# Declarations

A declaration lists states and groups of states. A state says what happens when
it is entered and left, and what each event type does in it; the rules for
event types come in five tables. The states of a group are known by the path of
group names and their own name, joined by dots.

Nothing is checked here. A declaration becomes an automaton when it is built,
see `Automaton.build`.
-/

namespace PushdownActors

/-! ## Rules -/

/-- On an event, replace the current state; an action may run between leaving
the one and entering the other. -/
structure GotoRule where
  on : EventType
  target : StateId
  action : Option String := none
  deriving DecidableEq, Repr

/-- On an event, put a state on top of the current one. -/
structure PushRule where
  on : EventType
  target : StateId
  deriving DecidableEq, Repr

/-- On an event, run an action. -/
structure ActionRule where
  on : EventType
  action : String
  deriving DecidableEq, Repr

/-! ## States and groups -/

/-- A state as declared. -/
structure StateSpec where
  name : String
  start : Bool := false
  entry : Option String := none
  exit : Option String := none
  gotos : List GotoRule := []
  pushes : List PushRule := []
  actions : List ActionRule := []
  ignored : List EventType := []
  deferred : List EventType := []
  /-- For monitors: something is owed while in this state. -/
  hot : Bool := false
  /-- For monitors: nothing is owed while in this state. -/
  cold : Bool := false
  deriving DecidableEq, Repr, Inhabited

/-- A named group of states and of further groups. -/
structure GroupSpec where
  name : String
  states : List StateSpec := []
  groups : List GroupSpec := []
  deriving Inhabited

/-- A whole declaration, with optional data about it that is kept as it is. -/
structure Declaration where
  states : List StateSpec := []
  groups : List GroupSpec := []
  about : Option Value := none
  deriving Inhabited

/-! ## Writing declarations down -/

namespace StateSpec

def asStart (s : StateSpec) : StateSpec := { s with start := true }

def withEntry (s : StateSpec) (action : String) : StateSpec := { s with entry := some action }

def withExit (s : StateSpec) (action : String) : StateSpec := { s with exit := some action }

def onGoto (s : StateSpec) (event target : String) : StateSpec :=
  { s with gotos := s.gotos ++ [{ on := ⟨event⟩, target := ⟨target⟩ }] }

def onGotoWith (s : StateSpec) (event target action : String) : StateSpec :=
  { s with gotos := s.gotos ++ [{ on := ⟨event⟩, target := ⟨target⟩, action := some action }] }

def onPush (s : StateSpec) (event target : String) : StateSpec :=
  { s with pushes := s.pushes ++ [{ on := ⟨event⟩, target := ⟨target⟩ }] }

def onEvent (s : StateSpec) (event action : String) : StateSpec :=
  { s with actions := s.actions ++ [{ on := ⟨event⟩, action }] }

def ignoring (s : StateSpec) (event : String) : StateSpec :=
  { s with ignored := s.ignored ++ [⟨event⟩] }

def deferring (s : StateSpec) (event : String) : StateSpec :=
  { s with deferred := s.deferred ++ [⟨event⟩] }

def asHot (s : StateSpec) : StateSpec := { s with hot := true }

def asCold (s : StateSpec) : StateSpec := { s with cold := true }

end StateSpec

namespace GroupSpec

def state (g : GroupSpec) (s : StateSpec) : GroupSpec := { g with states := g.states ++ [s] }

def group (g : GroupSpec) (inner : GroupSpec) : GroupSpec :=
  { g with groups := g.groups ++ [inner] }

end GroupSpec

namespace Declaration

def state (d : Declaration) (s : StateSpec) : Declaration := { d with states := d.states ++ [s] }

def group (d : Declaration) (g : GroupSpec) : Declaration := { d with groups := d.groups ++ [g] }

/-- Adds everything that another declaration holds; its data, if it has any,
takes the place of what was there. -/
def table (d other : Declaration) : Declaration where
  states := d.states ++ other.states
  groups := d.groups ++ other.groups
  about := other.about <|> d.about

end Declaration

/-! ## Qualified names -/

mutual

/-- The states of a group with their qualified names: its own first, then those
of the groups inside it. `path` ends in a dot unless it is empty. -/
def GroupSpec.flatten (path : String) : GroupSpec → List (StateId × StateSpec)
  | ⟨name, states, groups⟩ =>
    states.map (fun s => (⟨path ++ name ++ "." ++ s.name⟩, s))
      ++ GroupSpec.flattenAll (path ++ name ++ ".") groups

def GroupSpec.flattenAll (path : String) : List GroupSpec → List (StateId × StateSpec)
  | [] => []
  | g :: rest => g.flatten path ++ GroupSpec.flattenAll path rest

end

/-- Every declared state with its qualified name, in declaration order: those
outside groups first. -/
def Declaration.flatten (d : Declaration) : List (StateId × StateSpec) :=
  d.states.map (fun s => (⟨s.name⟩, s)) ++ GroupSpec.flattenAll "" d.groups

end PushdownActors
