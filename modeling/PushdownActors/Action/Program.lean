-- SUMMARY: Action bodies as programs: trees of requests whose continuation depends on the reply.
import PushdownActors.Choice
import PushdownActors.Failure
import PushdownActors.MachineId
import PushdownActors.Dispatch

/-!
# Programs

The body of an action is a program. It reads and writes the memory of the
machine or monitor that it runs in, and it makes requests, each of which is
answered before the program goes on. A program is a well-founded tree: it may
branch on what it is told, and every path through it ends.

The requests are all that an action has to do with the system around it. It does not
get hold of the system itself, and what is done with that from outside is not open to
it: an action registers no monitor, lets no other machine have its turn, does not look
at what is pending or has failed, and resets nothing.
-/

namespace PushdownActors

/-! ## Requests -/

/-- A remark of an action, for whoever reads the journal of a run. -/
inductive Remark where
  /-- The instruction has stored or shown a value. -/
  | stored (instruction : String) (value : Value)
  /-- The error of the instruction was dropped. -/
  | swallowed (instruction : String) (failure : Failure)
  deriving DecidableEq, Inhabited

/-- A request that an action makes while it runs. -/
inductive Request where
  /-- Deliver an event to the own machine once the action has ended. -/
  | raise (event : Event)
  /-- Move to a state once the action has ended. -/
  | goto (state : StateId)
  | push (state : StateId)
  | pop
  /-- The identity of the own machine. -/
  | id
  | send (target : MachineId) (event : Event)
  | create (type : String) (payload : Option Value)
  /-- Deliver an event to a monitor, which handles it at once. -/
  | notify (type : String) (event : Event)
  | choose (question : Question)
  | assert (holds : Bool) (message : String)
  /-- Wait for an event of one of the types. -/
  | receive (types : List EventType)
  | remark (remark : Remark)
  deriving DecidableEq

/-- What a request is answered with. -/
abbrev Request.Reply : Request → Type
  | raise _ | goto _ | push _ | pop | send .. | notify .. | assert .. => Except Failure Unit
  | id | create .. => Except Failure MachineId
  | choose question => question.Answer
  | receive _ => Except Failure Event
  | remark _ => Unit

/-! ## Programs -/

/-- A computation over a memory of type `σ` that makes requests and ends with a
result. -/
inductive Program (σ α : Type) where
  | done (result : α)
  | load (next : σ → Program σ α)
  | store (memory : σ) (next : Program σ α)
  | request (r : Request) (next : r.Reply → Program σ α)

namespace Program

def bind : Program σ α → (α → Program σ β) → Program σ β
  | done a, f => f a
  | load next, f => load fun m => (next m).bind f
  | store m next, f => store m (next.bind f)
  | request r next, f => request r fun reply => (next reply).bind f

instance : Monad (Program σ) where
  pure := done
  bind := bind

/-- A single request. -/
def ask (r : Request) : Program σ r.Reply := request r done

def get : Program σ σ := load done

def set (memory : σ) : Program σ Unit := store memory (done ())

end Program

end PushdownActors
