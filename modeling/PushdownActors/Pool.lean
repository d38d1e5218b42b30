-- SUMMARY: Production scheduling: runs that go on until their machine is idle, with receives that park them.
import PushdownActors.Session

/-!
# Pools of runs

In production mode every scheduled run is a task of its own. A pool keeps one
task at work and the others waiting: those that have not begun, in the order in
which they were scheduled, and those that are parked in a receive. It goes on
with the task at work as long as that can go on, then with a parked one whose
event has arrived, and then begins the next.

Tasks share the world, and this order is one of those that parallel execution
allows.
-/

namespace PushdownActors

/-- A session and the runs in progress that are parked. -/
structure Pool (σ τ : Type) where
  session : Session σ τ
  parked : List (List (Frame σ)) := []

namespace Pool

/-- A parked run can go on: its event has arrived, or the system has failed. -/
def canResume (w : World σ) : List (Frame σ) → Bool
  | .acting (.machine place _) _ _ (.receiving ..) :: _ =>
    w.hasFailed || (w.machineAt? place).any (·.received.isSome)
  | _ => false

/-- Puts the next run to work, if there is one: a parked one that can go on, or
else the one that was scheduled first. -/
def next (p : Pool σ τ) : Option (Pool σ τ) :=
  let w := p.session.world
  match p.parked.findIdx? (canResume w) with
  | some index =>
    let frames := p.parked.getD index []
    some { session := { p.session with world := { w with frames } }
           parked := p.parked.eraseIdx index }
  | none =>
    if w.pending.isEmpty then none
    else some { p with session := { p.session with world := w.beginRun 0 } }

/-- Lets runs work until none can go on. A panic ends the run that it arises in. -/
def settle [ChoiceSource τ] (sys : System σ) : (budget : Nat) → Pool σ τ → Pool σ τ
  | 0, p => p
  | budget + 1, p =>
    match p.next with
    | none => p
    | some p =>
      match Session.drive (World.next sys) (budget + 1) p.session with
      | (.parked, s) =>
        let frames := s.world.frames
        settle sys budget
          { session := { s with world := { s.world with frames := [] } }
            parked := p.parked ++ [frames] }
      | (_, s) => settle sys budget { p with session := s }

end Pool

end PushdownActors
