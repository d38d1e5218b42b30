-- SUMMARY: A running system together with a choice source, and the operations on it.
import PushdownActors.RuntimeError
import PushdownActors.World.Step

/-!
# Sessions

A session is a world and the choice source that answers its questions. The
operations are what a program does with a runtime: create machines, send events,
register and notify monitors, let machines run, and look at the outcome.

Actions can keep a system busy for ever, so whatever lets actions run takes a
budget of small steps and says so when the budget is used up.
-/

namespace PushdownActors

/-- A running system and its source of choices. -/
structure Session (σ τ : Type) where
  world : World σ := .empty
  source : τ

/-- Why small steps came to an end. -/
inductive Stop where
  /-- The outermost run in progress is over. -/
  | returned (result : Except Failure Unit)
  | panicked (message : Option String)
  /-- The innermost run waits for an event. -/
  | parked
  | idle
  | outOfBudget
  deriving Inhabited

/-- Why an operation has no answer. -/
inductive Interruption where
  /-- A panic of an action came through. -/
  | panicked (message : Option String)
  | outOfBudget
  deriving DecidableEq, Inhabited

/-- The answer of an operation, and the session after it. -/
abbrev Answer (σ τ α : Type) := Except Interruption α × Session σ τ

namespace Session

/-- A budget that no run in practice uses up. -/
def ample : Nat := 1000000000000000

/-! ## Small steps -/

/-- Makes moves until one ends, with the questions answered by the source. -/
def drive [ChoiceSource τ] (move : World σ → Move σ) : Nat → Session σ τ → Stop × Session σ τ
  | 0, s => (.outOfBudget, s)
  | budget + 1, s =>
    match move s.world with
    | .step w => drive move budget { s with world := w }
    | .ask q next =>
      let (answer, source) := ChoiceSource.ask s.source q
      drive move budget { world := next answer, source }
    | .returned w result => (.returned result, { s with world := w })
    | .panicked w message => (.panicked message, { s with world := w })
    | .parked => (.parked, s)
    | .idle => (.idle, s)

/-- Takes over a first move and goes on until the run in progress is over. -/
def finish [ChoiceSource τ] (sys : System σ) (budget : Nat) (s : Session σ τ) (first : Move σ) :
    Stop × Session σ τ :=
  match first with
  | .step w => drive (World.next sys) budget { s with world := w }
  | .ask q next =>
    let (answer, source) := ChoiceSource.ask s.source q
    drive (World.next sys) budget { world := next answer, source }
  | .returned w result => (.returned result, { s with world := w })
  | .panicked w message => (.panicked message, { s with world := w })
  | .parked => (.parked, s)
  | .idle => (.idle, s)

/-! ## Operations -/

/-- Records a failure and makes it the answer. -/
def report (s : Session σ τ) (f : Failure) : Except RuntimeError α × Session σ τ :=
  (.error (.failure f), { s with world := s.world.fail f })

def create (s : Session σ τ) (sys : System σ) (type : String) (payload : Option Value) :
    Except RuntimeError MachineId × Session σ τ :=
  match s.world.create sys.catalog type payload with
  | .ok (id, w) => (.ok id, { s with world := w })
  | .error f => s.report f

def send (s : Session σ τ) (target : MachineId) (e : Event) :
    Except RuntimeError Unit × Session σ τ :=
  match s.world.deliver target e with
  | .ok w => (.ok (), { s with world := w })
  | .error f => s.report f

/-- The answer to an operation that ran the dispatch of a monitor. -/
def ofDispatch : Stop × Session σ τ → Answer σ τ (Except RuntimeError Unit)
  | (.returned (.ok ()), s) | (.idle, s) | (.parked, s) => (.ok (.ok ()), s)
  | (.returned (.error f), s) =>
    let (answer, s) := s.report f
    (.ok answer, s)
  | (.panicked message, s) => (.error (.panicked message), s)
  | (.outOfBudget, s) => (.error .outOfBudget, s)

def register [ChoiceSource τ] (s : Session σ τ) (sys : System σ) (budget : Nat) (type : String) :
    Answer σ τ (Except RuntimeError Unit) :=
  ofDispatch (s.finish sys budget (s.world.register sys type))

def notify [ChoiceSource τ] (s : Session σ τ) (sys : System σ) (budget : Nat) (type : String)
    (e : Event) : Answer σ τ (Except RuntimeError Unit) :=
  ofDispatch (s.finish sys budget (s.world.notify sys type e))

def assert (s : Session σ τ) (holds : Bool) (message : String) :
    Except RuntimeError Unit × Session σ τ :=
  if holds then (.ok (), s) else s.report (.assertion message)

def choose [ChoiceSource τ] (s : Session σ τ) (q : Question) : q.Answer × Session σ τ :=
  let (answer, source) := ChoiceSource.ask s.source q
  (answer, { s with source })

/-- The automaton of a machine type, built if need be. -/
def describe (s : Session σ τ) (sys : System σ) (type : String) :
    Except RuntimeError Automaton × Session σ τ :=
  match s.world.registry.fetch sys.catalog .machine type with
  | .ok (blueprint, registry) =>
    (.ok blueprint.automaton, { s with world := { s.world with registry } })
  | .error e => (.error (.build e), s)

/-- Forgets everything of the runs so far except which identities were used. In
production mode nothing may be running. -/
def reset (s : Session σ τ) (sys : System σ) : Except RuntimeError Unit × Session σ τ :=
  if !sys.config.serial && s.world.active > 0 then (.error (.notQuiescent s.world.active), s)
  else (.ok (), { s with world := s.world.reset })

/-- Serial mode: lets one pending run have its turn. Tells whether there was one. -/
def step [ChoiceSource τ] (s : Session σ τ) (sys : System σ) (budget : Nat) : Answer σ τ Bool :=
  if !sys.config.serial then (.ok false, s)
  else
    match s.finish sys budget s.world.schedulePending with
    | (.idle, s) => (.ok false, s)
    | (.returned _, s) | (.parked, s) => (.ok true, s)
    | (.panicked message, s) => (.error (.panicked message), s)
    | (.outOfBudget, s) => (.error .outOfBudget, s)

/-- Serial mode: lets pending runs have their turns until none is left, a failure
occurs or the step bound is reached. Answers with the steps taken. -/
def run [ChoiceSource τ] (s : Session σ τ) (sys : System σ) (budget : Nat) :
    Answer σ τ (Except RuntimeError Nat) :=
  if !sys.config.serial then (.ok (.error (.serialOnly "run_until_quiescent")), s)
  else
    let before := s.world.steps
    match drive (World.nextUntilQuiescent sys) budget s with
    | (.panicked message, s) => (.error (.panicked message), s)
    | (.outOfBudget, s) => (.error .outOfBudget, s)
    | (_, s) =>
      match s.world.failure with
      | some f => (.ok (.error (.failure f)), s)
      | none => (.ok (.ok (s.world.steps - before)), s)

end Session

/-! ## Operations as data -/

/-- An operation on a session. -/
inductive Operation where
  | create (type : String) (payload : Option Value)
  | send (target : MachineId) (event : Event)
  | register (type : String)
  | notify (type : String) (event : Event)
  | assert (holds : Bool) (message : String)
  | fail (failure : Failure)
  | choose (question : Question)
  | describe (type : String)
  | step
  | run
  | reset

/-- What an operation answers with. -/
abbrev Operation.Reply : Operation → Type
  | create .. => Except RuntimeError MachineId
  | send .. | register _ | notify .. | assert .. | reset => Except RuntimeError Unit
  | fail _ => Unit
  | choose question => question.Answer
  | describe _ => Except RuntimeError Automaton
  | step => Bool
  | run => Except RuntimeError Nat

/-- Performs an operation. -/
def Session.perform [ChoiceSource τ] (s : Session σ τ) (sys : System σ) (budget : Nat) :
    (op : Operation) → Answer σ τ op.Reply
  | .create type payload => let (a, s) := s.create sys type payload; (.ok a, s)
  | .send target e => let (a, s) := s.send target e; (.ok a, s)
  | .register type => s.register sys budget type
  | .notify type e => s.notify sys budget type e
  | .assert holds message => let (a, s) := s.assert holds message; (.ok a, s)
  | .fail f => (.ok (), { s with world := s.world.fail f })
  | .choose q => let (a, s) := s.choose q; (.ok a, s)
  | .describe type => let (a, s) := s.describe sys type; (.ok a, s)
  | .step => s.step sys budget
  | .run => s.run sys budget
  | .reset => let (a, s) := s.reset sys; (.ok a, s)

end PushdownActors
