-- SUMMARY: Systematic bug finding: many runs of one entry point under different seeds, and the replay of a trace.
import PushdownActors.Choice.Source
import PushdownActors.Session

/-!
# Exploration

An entry point sets a system up: it creates machines, registers monitors and
sends the first events. Exploration runs it again and again in serial mode, each
time in a fresh world and under another seed, and lets the system run until it is
quiescent. It stops at the first run that fails and reports the failure with the
trace of all choices made, from which the run can be repeated.
-/

namespace PushdownActors

/-! ## Entry points -/

/-- A program that works on a session. What it does next depends only on the
world that it sees and on the answers to its operations. -/
inductive Entry (σ α : Type) where
  | done (result : α)
  | look (next : World σ → Entry σ α)
  | perform (op : Operation) (next : op.Reply → Entry σ α)

namespace Entry

def bind : Entry σ α → (α → Entry σ β) → Entry σ β
  | done a, f => f a
  | look next, f => look fun w => (next w).bind f
  | perform op next, f => perform op fun reply => (next reply).bind f

instance : Monad (Entry σ) where
  pure := done
  bind := bind

/-- A single operation. -/
def ask (op : Operation) : Entry σ op.Reply := perform op done

end Entry

/-- Runs an entry point on a session. -/
def Session.execute [ChoiceSource τ] (sys : System σ) (budget : Nat) :
    Session σ τ → Entry σ α → Answer σ τ α
  | s, .done a => (.ok a, s)
  | s, .look next => execute sys budget s (next s.world)
  | s, .perform op next =>
    match s.perform sys budget op with
    | (.ok reply, s) => execute sys budget s (next reply)
    | (.error interruption, s) => (.error interruption, s)

/-- An entry point that sets a system up, unless an operation answers with an
error. -/
abbrev Setup (σ : Type) := Entry σ (Except RuntimeError Unit)

/-! ## Single runs -/

/-- What exploration makes of a configuration: runs are serial and failures are
reported. -/
def Config.forExploration (c : Config) : Config :=
  { c with mode := .bugFinding, failurePolicy := .report, pauseOnFailure := false }

namespace Exploration

/-- One run in a fresh world: the setup, then everything until it is quiescent.
Answers with the steps taken and whether the step bound cut the run short. -/
def iterate [ChoiceSource τ] (sys : System σ) (budget : Nat) (source : τ) (setup : Setup σ) :
    Answer σ τ (Except RuntimeError (Nat × Bool)) :=
  match Session.execute sys budget { source } setup with
  | (.error interruption, s) => (.error interruption, s)
  | (.ok (.error e), s) => (.ok (.error e), s)
  | (.ok (.ok ()), s) =>
    match s.run sys budget with
    | (.error interruption, s) => (.error interruption, s)
    | (.ok (.error e), s) => (.ok (.error e), s)
    | (.ok (.ok steps), s) => (.ok (.ok (steps, s.world.bounded)), s)

/-! ## Reports -/

/-- A run that failed. -/
structure Bug where
  iteration : Nat
  seed : UInt64
  failure : Failure
  /-- Every choice of the run, in order. -/
  trace : List Choice
  deriving DecidableEq, Inhabited

/-- The outcome of an exploration. -/
structure Report where
  /-- The runs made, a failing one included. -/
  iterations : Nat := 0
  /-- The steps of all runs that did not fail. -/
  steps : Nat := 0
  /-- The runs among them that reached the step bound. -/
  bounded : Nat := 0
  bug : Option Bug := none
  deriving DecidableEq, Inhabited

/-- The seed of an iteration, which wraps around. -/
def seed (c : Config) (iteration : Nat) : UInt64 :=
  c.testing.seed + UInt64.ofNat iteration

/-- The source of a recorded run with the given seed. -/
def recorder (seed : UInt64) : RecordingChoice RandomChoice :=
  .ofSource (.ofSeed seed)

/-- Makes the `remaining` runs from `iteration` on, and adds them to a report.
Also gives the world that the last run ended in. -/
def explore (sys : System σ) (budget : Nat) (setup : Setup σ) :
    (remaining iteration : Nat) → Report → World σ → Except Interruption Report × World σ
  | 0, _, report, w => (.ok report, w)
  | remaining + 1, iteration, report, _ =>
    let seed := seed sys.config iteration
    let report := { report with iterations := iteration + 1 }
    match iterate sys budget (recorder seed) setup with
    | (.error interruption, s) => (.error interruption, s.world)
    | (.ok (.error e), s) =>
      let bug : Bug := { iteration, seed, failure := e.toFailure, trace := s.source.trace }
      (.ok { report with bug := some bug }, s.world)
    | (.ok (.ok (steps, bounded)), s) =>
      let report :=
        { report with
          steps := report.steps + steps
          bounded := report.bounded + if bounded then 1 else 0 }
      explore sys budget setup remaining (iteration + 1) report s.world

/-- Explores the system from the seed of its configuration. -/
def run (sys : System σ) (budget : Nat) (setup : Setup σ) : Except Interruption Report × World σ :=
  let sys := { sys with config := sys.config.forExploration }
  explore sys budget setup sys.config.testing.iterations.toNat 0 {} .empty

/-- Repeats a run from its trace. Answers with the steps taken, or the error that
the trace leads to. -/
def replay (sys : System σ) (budget : Nat) (setup : Setup σ) (trace : List Choice) :
    Answer σ ReplayChoice (Except RuntimeError Nat) :=
  let sys := { sys with config := sys.config.forExploration }
  match iterate sys budget (ReplayChoice.ofTrace trace) setup with
  | (.error interruption, s) => (.error interruption, s)
  | (.ok answer, s) => (.ok (answer.map Prod.fst), s)

end Exploration

end PushdownActors
