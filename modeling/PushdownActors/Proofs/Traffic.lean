-- SUMMARY: What a small step does with the events that are sent to machines: accept, dispatch, hand over, drop.
import PushdownActors.Session

/-!
# Traffic

An event that a machine accepts waits in its mailbox or, once handed to a blocked
receive, in the slot of that receive. It is consumed in one of three ways: it is
picked and dispatched, it answers a receive, or the scan of the mailbox drops it
because the current state ignores its type. A `Default` event that is made up when
nothing else can be delivered was never sent, and does not count.
-/

namespace PushdownActors

/-- What happens to an event that was sent to the machine at a place. -/
inductive Traffic where
  /-- The machine takes it in. -/
  | accepted (place : Place) (e : Event)
  /-- It is picked from the mailbox to be dispatched. -/
  | dispatched (place : Place) (e : Event)
  /-- It is the answer of a receive. -/
  | received (place : Place) (e : Event)
  /-- The current state ignores it. -/
  | dropped (place : Place) (e : Event)
  deriving DecidableEq

namespace Traffic

/-- The event that the machine at `place` accepts. -/
def accepted? (place : Place) : Traffic → Option Event
  | accepted p e => if p = place then some e else none
  | dispatched .. | received .. | dropped .. => none

/-- The event that the machine at `place` consumes. -/
def consumed? (place : Place) : Traffic → Option Event
  | dispatched p e | received p e | dropped p e => if p = place then some e else none
  | accepted .. => none

/-- Where it happens. -/
def place : Traffic → Place
  | accepted p _ | dispatched p _ | received p _ | dropped p _ => p

end Traffic

/-- The events that were accepted at a place, in order. -/
def acceptedAt (log : List Traffic) (place : Place) : List Event :=
  log.filterMap (Traffic.accepted? place)

/-- The events that were consumed at a place, in order. -/
def consumedAt (log : List Traffic) (place : Place) : List Event :=
  log.filterMap (Traffic.consumed? place)

/-- The events that a scan for the next event drops. -/
def State.skipped (s : State) : List Event → List Event
  | [] => []
  | e :: rest =>
    if s.ignores e.type then e :: s.skipped rest
    else if s.defers e.type then s.skipped rest
    else []

/-- What the search for the next event takes out of the mailbox. -/
def Machine.scan (m : Machine σ) (place : Place) : List Traffic :=
  match m.cell.state? with
  | some state =>
    (state.skipped m.mailbox).map (.dropped place)
      ++ ((state.take m.mailbox).1.map (.dispatched place)).toList
  | none => []

/-- A selection is made by the state on top of the stack. -/
theorem Engine.select_eq_ok {en : Engine} {stack : Stack} {mailbox left : List Event}
    {taken : Option Event} (h : en.select stack mailbox = .ok (taken, left)) :
    ∃ top state, stack.top? = some top ∧ en.automaton.state? top = some state ∧
      state.select mailbox = (taken, left) := by
  unfold select at h
  split at h
  · contradiction
  · rename_i top htop
    split at h
    · contradiction
    · rename_i state hstate
      exact ⟨top, state, htop, hstate, Except.ok.inj h⟩

/-- Without a current state nothing is picked. -/
theorem Machine.scan_of_select_error {m : Machine σ} {place : Place} {f : Failure}
    (h : ((Actor.machine place m.id).engine m.cell).select m.cell.stack m.mailbox = .error f) :
    m.scan place = [] := by
  unfold Engine.select at h
  split at h
  · rename_i htop
    simp [scan, Cell.state?, htop]
  · rename_i top htop
    split at h
    · rename_i hstate
      have hstate : m.cell.blueprint.automaton.state? top = none := hstate
      simp [scan, Cell.state?, htop, hstate]
    · cases h

namespace World

/-- What sending an event does: a machine that has not halted accepts it. -/
def arrival (w : World σ) (target : MachineId) (e : Event) : List Traffic :=
  match e.checkSendable, w.locate? target with
  | .ok (), some (m, place) => if m.lifecycle = .halted then [] else [.accepted place e]
  | _, _ => []

/-- What the next small step does with the events of machines. -/
def traffic (w : World σ) : List Traffic :=
  match w.frames with
  | .ready place :: _ =>
    match w.machineAt? place with
    | some m => if m.lifecycle = .active ∧ w.hasFailed = false then m.scan place else []
    | none => []
  | .acting (.machine ..) _ _ (.running (.request (.send target e) _)) :: _ => w.arrival target e
  | .acting (.machine place _) _ _ (.running (.request (.receive types) _)) :: _ =>
    match (w.machineAt? place).bind fun m => removeFirst types m.mailbox with
    | some (e, _) => [.received place e]
    | none => []
  | .acting (.machine place _) _ _ (.receiving ..) :: _ =>
    match (w.machineAt? place).bind (·.received) with
    | some e => [.received place e]
    | none => []
  | _ => []

/-- An event that is refused is accepted by nobody. -/
theorem arrival_of_deliver_error {w : World σ} {target : MachineId} {e : Event} {f : Failure}
    (h : w.deliver target e = .error f) : w.arrival target e = [] := by
  unfold deliver at h
  unfold arrival
  split at h
  · rename_i violation hsendable
    simp [hsendable]
  · rename_i hsendable
    split at h
    · rename_i hlocate
      simp [hsendable, hlocate]
    · simp at h

end World

end PushdownActors
