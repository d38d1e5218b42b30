-- SUMMARY: Checking a declaration and turning it into an automaton.
import PushdownActors.Automaton.BuildError
import PushdownActors.Declaration.Record

/-!
# Building automata

The checks run in a fixed order, and the first that fails gives the error: there
is a state; qualified names differ; one state is the start; then, state by state
in declaration order, the marks fit the kind and every rule claims its event
type for itself and leads to a declared state.
-/

namespace PushdownActors

/-! ## Claims -/

/-- A rule of a state, together with the table that it comes from. -/
structure Claim where
  event : EventType
  table : Table
  reaction : Reaction

/-- The rules of a state, table after table. -/
def StateSpec.claims (s : StateSpec) : List Claim :=
  s.gotos.map (fun r => ⟨r.on, .goto, .goto r.target r.action⟩)
    ++ s.pushes.map (fun r => ⟨r.on, .push, .push r.target⟩)
    ++ s.actions.map (fun r => ⟨r.on, .action, .act r.action⟩)
    ++ s.ignored.map (fun e => ⟨e, .ignored, .ignore⟩)
    ++ s.deferred.map (fun e => ⟨e, .deferred, .defer⟩)

namespace Automaton

/-- Checks one rule against the rules before it: its event type is usable and
not yet claimed, and its target is declared. -/
def checkClaim (type : String) (declared : List StateId) (state : StateId)
    (earlier : List Claim) (c : Claim) : Except BuildError Unit := do
  if !c.event.isUsable then
    throw (.invalidDefinition type (.unusableEvent state c.event))
  if let some first := earlier.find? (·.event == c.event) then
    throw (.conflictingDeclaration type state c.event first.table c.table)
  if let some target := c.reaction.target? then
    if !declared.contains target then
      throw (.unknownTarget type state target)

/-- Checks rules in order; `earlier` holds the ones before them. -/
def checkClaims (type : String) (declared : List StateId) (state : StateId) :
    List Claim → List Claim → Except BuildError Unit
  | _, [] => .ok ()
  | earlier, c :: rest => do
    checkClaim type declared state earlier c
    checkClaims type declared state (earlier ++ [c]) rest

/-- Checks that the marks of a state fit each other and the kind. -/
def checkMarks (type : String) (kind : Kind) (state : StateId) (s : StateSpec) :
    Except BuildError Unit := do
  if s.hot && s.cold then
    throw (.hotAndCold type state)
  if kind == .machine && (s.hot || s.cold) then
    throw (.invalidDefinition type (.heatOutsideMonitor state))
  if kind == .monitor && !s.deferred.isEmpty then
    throw (.invalidDefinition type (.deferralInMonitor state))

/-! ## States -/

/-- Checks a state and indexes its rules. -/
def buildState (type : String) (kind : Kind) (declared : List StateId) (id : StateId)
    (s : StateSpec) : Except BuildError State := do
  checkMarks type kind id s
  checkClaims type declared id [] s.claims
  return { id
           entry := s.entry
           exit := s.exit
           reactions := s.claims.map fun c => (c.event, c.reaction)
           hot := s.hot
           cold := s.cold }

def buildStates (type : String) (kind : Kind) (declared : List StateId) :
    List (StateId × StateSpec) → Except BuildError (List State)
  | [] => .ok []
  | (id, s) :: rest => do
    let state ← buildState type kind declared id s
    let states ← buildStates type kind declared rest
    return state :: states

/-- The first of `ids` that occurs before itself or in `seen`. -/
def firstRepeated? : List StateId → List StateId → Option StateId
  | _, [] => none
  | seen, id :: rest => if seen.contains id then some id else firstRepeated? (id :: seen) rest

/-! ## Automata -/

/-- Checks a declaration and indexes it as the automaton of type `type`. -/
def build (type : String) (kind : Kind) (d : Declaration) : Except BuildError Automaton := do
  let declared := d.flatten
  let ids := declared.map Prod.fst
  if declared.isEmpty then
    throw (.noStates type)
  if let some id := firstRepeated? [] ids then
    throw (.duplicateState type id)
  match (declared.filter fun (_, s) => s.start).map Prod.fst with
  | [] => throw (.noStartState type)
  | [start] =>
    let states ← buildStates type kind ids declared
    return { name := type, kind, states, start, declaration := d }
  | starts => throw (.multipleStartStates type starts)

/-- Reads a declaration from a value and builds it. -/
def ofValue (type : String) (kind : Kind) (v : Value) : Except BuildError Automaton :=
  match Declaration.ofValue? v with
  | some d => build type kind d
  | none => .error .malformed

/-- Every action that a state can run is known to `isDefined`; states are looked
at in the order of their names. -/
def resolveActions (a : Automaton) (isDefined : String → Bool) : Except BuildError Unit :=
  a.sortedStates.forM fun s =>
    match s.actions.find? fun action => !isDefined action with
    | some action => .error (.unresolvedAction a.name s.id action)
    | none => .ok ()

end Automaton

end PushdownActors
