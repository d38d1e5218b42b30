-- SUMMARY: Actions: what they see, how they fail, and the bookkeeping of what they ask for.
import PushdownActors.Action.Program
import PushdownActors.Text.Numeral

/-!
# Actions

An action is started for an invocation and runs a program to its verdict: it
ends well, with an error, or by a panic. While it runs, a context keeps the one
transition that it may ask for and the first failure of its requests. That
failure decides how the action ends even if the program goes on as if nothing
had happened.
-/

namespace PushdownActors

/-! ## Errors and verdicts -/

/-- An error with which an action ends. -/
inductive ActionError where
  /-- An error of the named type. -/
  | other (typeName message : String)
  /-- A failure, which passes through unchanged. -/
  | failure (failure : Failure)
  deriving DecidableEq, Inhabited

namespace ActionError

/-- An error that is only a message. -/
def ofMessage (message : String) : ActionError :=
  .other "actomaton_runtime::error::Message" message

/-- A value does not have the form that was asked for. -/
def undecodable : ActionError :=
  .other "serde_json::error::Error" "the value does not have the expected form"

def ofNumeral : NumeralError → ActionError
  | .notBool => .other "core::str::error::ParseBoolError" NumeralError.notBool.message
  | e => .other "core::num::error::ParseIntError" e.message

def typeName : ActionError → String
  | other typeName _ => typeName
  | failure _ => "actomaton_core::error::AssertionFailure"

def message : ActionError → String
  | other _ message => message
  | failure f => f.text

def text (e : ActionError) : String :=
  e.typeName ++ ": " ++ e.message

def toFailure : ActionError → Failure
  | other typeName message => .action typeName message
  | failure f => f

end ActionError

/-- How the program of an action ends. -/
inductive Verdict where
  | ok
  | error (e : ActionError)
  /-- The program was given up; it may have left a message. -/
  | panicked (message : Option String)
  deriving DecidableEq, Inhabited

namespace Verdict

/-- What is said of a panic that left no message. -/
def panicText (message : Option String) : String :=
  message.getD "action panicked"

/-- The failure that the verdict stands for, if it stands for one. -/
def failure? : Verdict → Option Failure
  | ok => none
  | error e => some e.toFailure
  | panicked message => some (.action "panic" (panicText message))

end Verdict

/-- The body of an action, started for an invocation. -/
abbrev Action (σ : Type) := Invocation → Program σ Verdict

/-! ## Contexts -/

/-- What a running action has asked for so far. -/
structure Context where
  transition : Option Transition := none
  /-- The first failure of a request. -/
  violation : Option Failure := none
  deriving DecidableEq, Inhabited

namespace Context

/-- Keeps a failure, unless there was one before. -/
def record (c : Context) (f : Failure) : Context :=
  { c with violation := c.violation <|> some f }

/-- Keeps the failure of an answer. -/
def note (c : Context) : Except Failure α → Context
  | .ok _ => c
  | .error f => c.record f

/-- Whether a transition may be asked for: only at sites that allow one, and once. -/
def permits (c : Context) (site : Site) : Except Failure Unit :=
  match site.forbids with
  | some violation => .error violation.toFailure
  | none => if c.transition.isSome then .error Violation.doubleTransition.toFailure else .ok ()

/-- Takes in the transition that an action asks for. -/
def demand (c : Context) (site : Site) (t : Transition) : Except Failure Unit × Context :=
  match c.permits site with
  | .ok () => (.ok (), { c with transition := some t })
  | .error f => (.error f, c.record f)

/-- The answer of an action to its dispatch: the first failure of its requests,
or else the failure that it ended with, or else the transition that it asked
for. -/
def answer (c : Context) (v : Verdict) : Except Failure Transition :=
  match c.violation <|> v.failure? with
  | some f => .error f
  | none => .ok (c.transition.getD .stay)

end Context

/-! ## Writing bodies -/

/-- A program that may end early with a verdict. -/
abbrev Body (σ : Type) := ExceptT Verdict (Program σ)

namespace Body

/-- The program that a body stands for: if it does not end early, it ends well. -/
def toProgram (b : Body σ Unit) : Program σ Verdict :=
  b.run.bind fun
    | .ok () => .done .ok
    | .error v => .done v

/-- Runs a part of a body and gives the verdict with which it ended early. -/
def attempt (b : Body σ Unit) : Body σ Verdict :=
  ExceptT.lift b.toProgram

def throw (e : ActionError) : Body σ α :=
  throwThe Verdict (.error e)

/-- Goes on with the value of an answer, or ends with its failure. -/
def demand : Except Failure α → Body σ α
  | .ok a => pure a
  | .error f => throw (.failure f)

def memory : Body σ σ := ExceptT.lift Program.get

def remember (memory : σ) : Body σ Unit := ExceptT.lift (Program.set memory)

def raise (event : Event) : Body σ Unit := do
  demand (← ExceptT.lift (Program.ask (.raise event)))

def goto (state : StateId) : Body σ Unit := do
  demand (← ExceptT.lift (Program.ask (.goto state)))

def push (state : StateId) : Body σ Unit := do
  demand (← ExceptT.lift (Program.ask (.push state)))

def pop : Body σ Unit := do
  demand (← ExceptT.lift (Program.ask .pop))

/-- Asks the own machine to halt once the action has ended. -/
def halt : Body σ Unit := raise .halt

def id : Body σ MachineId := do
  demand (← ExceptT.lift (Program.ask .id))

def send (target : MachineId) (event : Event) : Body σ Unit := do
  demand (← ExceptT.lift (Program.ask (.send target event)))

def create (type : String) (payload : Option Value) : Body σ MachineId := do
  demand (← ExceptT.lift (Program.ask (.create type payload)))

def notify (type : String) (event : Event) : Body σ Unit := do
  demand (← ExceptT.lift (Program.ask (.notify type event)))

def random : Body σ Bool := ExceptT.lift (Program.ask (.choose .bool))

def randomBelow (bound : UInt64) : Body σ UInt64 :=
  ExceptT.lift (Program.ask (.choose (.integer bound)))

def assert (holds : Bool) (message : String) : Body σ Unit := do
  demand (← ExceptT.lift (Program.ask (.assert holds message)))

def receive (types : List EventType) : Body σ Event := do
  demand (← ExceptT.lift (Program.ask (.receive types)))

def remark (r : Remark) : Body σ Unit := ExceptT.lift (Program.ask (.remark r))

def panic (message : Option String) : Body σ α :=
  throwThe Verdict (.panicked message)

end Body

end PushdownActors
