-- SUMMARY: Where the failures come from that actions keep, followed beside a run from the moment at which each of them arises.
import PushdownActors.Proofs.Monitors
import PushdownActors.Proofs.Receipt

/-!
# Origins of failures

A failure does not come to light where it arises. A request of an action fails, and the
action goes on and may make others; when it ends its dispatch fails, and if that was for a
monitor then the request fails which has notified it. What is recorded in the end has gone
through several hands, each of which adds a name where there is none yet.

This module follows failures on their way. A ledger is kept beside the world. It has an entry
for each action in progress, which tells where the failure has arisen that the action keeps:
in whom, with which stack, and in whose run. An entry is made in the step in which a failure
comes to be kept, and tells what is the case then. The invariant is that what a kept failure
says of itself, and what is not said yet but will be added, agree with its entry.
-/

namespace PushdownActors

/-! ## What failures say -/

/-- The name that failures of the actor bear. -/
def Actor.name : Actor → String
  | machine _ id => id.text
  | monitor type => type

namespace Failure

/-- It says neither in whom nor in which state it has arisen. -/
structure Bare (f : Failure) : Prop where
  machine : f.machine = none
  state : f.state = none

/-- It names this, and the state on top of the stack. -/
structure Names (f : Failure) (name : String) (stack : Stack) : Prop where
  machine : f.machine = some name
  state : f.state = stack.top?.map StateId.name

variable {f : Failure} {name : String} {stack : Stack}

theorem Bare.inState (h : f.Bare) (state : Option StateId) :
    (f.inState state).machine = none ∧ (f.inState state).state = state.map StateId.name := by
  simp [Failure.inState, h.machine, h.state]

theorem bare_of_violation (v : Violation) : v.toFailure.Bare := ⟨rfl, rfl⟩

/-- A name that is there is kept. -/
theorem Names.inMachine (h : f.Names name stack) (other : String) :
    (f.inMachine other).Names name stack where
  machine := by simp [Failure.inMachine, h.machine]
  state := h.state

theorem Names.inState (h : f.Names name stack) (hne : stack.frames ≠ [])
    (state : Option StateId) : (f.inState state).Names name stack where
  machine := h.machine
  state := by
    obtain ⟨top, htop⟩ := Stack.exists_top hne
    simp [Failure.inState, h.state, htop]

end Failure

/-! ## Origins -/

/-- Where a failure has arisen. -/
structure Origin where
  /-- Whose action or dispatch has failed. -/
  actor : Actor
  /-- The stack of the actor at that moment. -/
  stack : Stack
  /-- The machine whose run was the innermost in progress. -/
  run : Option Place

/-- For each action in progress, by the number of frames beneath it, where the failure has
arisen that it keeps. The entry of an action that keeps none means nothing. -/
abbrev Ledger := Nat → Option Origin

namespace Ledger

def blank : Ledger := fun _ => none

end Ledger

/-- The failure that the action of the frame keeps. -/
def Frame.kept? : Frame σ → Option Failure
  | ready _ => none
  | acting _ _ c _ => c.violation

/-- The failure that is kept by the frame that has so many beneath it. -/
def Frame.keptAt? : List (Frame σ) → Nat → Option Failure
  | [], _ => none
  | f :: rest, height => if height = rest.length then f.kept? else keptAt? rest height

theorem Frame.keptAt?_of_suffix {f : Frame σ} {rest frames : List (Frame σ)}
    (h : f :: rest <:+ frames) : keptAt? frames rest.length = f.kept? := by
  induction frames with
  | nil => simp at h
  | cons g below ih =>
    rcases List.suffix_cons_iff.mp h with heq | hbelow
    · cases heq
      exact if_pos rfl
    · have hlt : rest.length < below.length := Nat.lt_of_succ_le hbelow.length_le
      exact (if_neg (Nat.ne_of_lt hlt)).trans (ih hbelow)

namespace World

/-- The machine whose run is the innermost in progress. -/
def run? (w : World σ) : Option Place := w.frames.findSome? Frame.place?

/-- Whose dispatch the next step carries on, if it does, and how far that comes before an
action runs. -/
def underway? (w : World σ) : Option (Actor × Progress) :=
  match w.frames with
  | .ready place :: _ =>
    (w.machineAt? place).bind fun m =>
      let actor := Actor.machine place m.id
      let en := actor.engine m.cell
      match m.lifecycle with
      | .created => some (actor, en.start m.cell.stack (.start m.startPayload))
      | .active =>
        match en.select m.cell.stack m.mailbox with
        | .ok (some e, _) => some (actor, en.handle m.cell.stack e)
        | .ok (none, _) | .error _ => none
      | .halted => none
  | .acting actor p c (.running (.done v)) :: _ =>
    (w.cell? actor).map fun cell =>
      (actor, (actor.engine cell).answer cell.stack p (c.answer v))
  | .acting (.machine ..) _ _ (.running (.request (.notify type e) _)) :: _ =>
    match e.checkSendable with
    | .ok () =>
      (w.registered? type).map fun m =>
        (.monitor type, ((Actor.monitor type).engine m.cell).handle m.cell.stack e)
    | .error _ => none
  | _ => none

/-- The actor of the frame on top, and its stack. -/
def onTop? (w : World σ) : Option (Actor × Stack) :=
  match w.frames with
  | .ready place :: _ => (w.machineAt? place).map fun m => (.machine place m.id, m.cell.stack)
  | .acting actor .. :: _ => (w.cell? actor).map fun cell => (actor, cell.stack)
  | [] => none

/-- Where a failure arises that is new with the next step: in the dispatch that the step
carries on, with the stack that this has come to, or else in the action on top. -/
def scene? (w : World σ) : Option Origin :=
  match w.underway? with
  | some (actor, progress) => some ⟨actor, progress.stack, w.run?⟩
  | none => w.onTop?.map fun (actor, stack) => ⟨actor, stack, w.run?⟩

/-- Where the failure has arisen that the next step brings to light. An action that ends
passes the failure on that it has kept; any other failure is new. -/
def cause? (w : World σ) (ledger : Ledger) : Option Origin :=
  match w.frames with
  | .acting _ _ c (.running (.done _)) :: rest =>
    if c.violation.isSome then ledger rest.length else w.scene?
  | _ => w.scene?

end World

/-- The ledger after the next step of the world. What is kept already has its entry; what
comes to be kept is what the step has brought to light. -/
def Ledger.after (ledger : Ledger) (w : World σ) : Ledger := fun height =>
  if (Frame.keptAt? w.frames height).isSome then ledger height else w.cause? ledger

/-! ## Runs with a ledger -/

namespace World

/-- The failure that the body of the action on top supplies: it ends with it, and none of its
requests has failed. -/
def supply? (w : World σ) : Option Failure :=
  match w.frames with
  | .acting _ _ c (.running (.done v)) :: _ => if c.violation.isSome then none else v.failure?
  | _ => none

/-- The worlds that runs come to, with the failures that bodies of actions have supplied since
the last reset, and the ledger of those that are kept. -/
inductive Traced (sys : System σ) : World σ → List Failure → Ledger → Prop
  | empty : Traced sys .empty [] .blank
  | next {w w' : World σ} {supplied : List Failure} {ledger : Ledger}
      (h : Traced sys w supplied ledger) (hnext : (w.next sys).LeadsTo w') :
      Traced sys w' (supplied ++ w.supply?.toList) (ledger.after w)
  | outside {w w' : World σ} {supplied : List Failure} {ledger : Ledger} {seen : List Traffic}
      (h : Traced sys w supplied ledger) (hidle : w.frames = [])
      (hi : Intervention sys w seen w') : Traced sys w' supplied .blank
  | reset {w : World σ} {supplied : List Failure} {ledger : Ledger}
      (h : Traced sys w supplied ledger) (hidle : w.frames = []) : Traced sys w.reset [] .blank

section Runs

variable {sys : System σ} {w : World σ}

theorem Traced.exists_run {supplied : List Failure} {ledger : Ledger}
    (h : Traced sys w supplied ledger) : ∃ log, Run sys w log := by
  induction h with
  | empty => exact ⟨[], .empty⟩
  | next _ hnext ih =>
    obtain ⟨log, hrun⟩ := ih
    exact ⟨_, hrun.next hnext⟩
  | outside _ hidle hi ih =>
    obtain ⟨log, hrun⟩ := ih
    exact ⟨_, hrun.outside hidle hi⟩
  | reset _ hidle ih =>
    obtain ⟨log, hrun⟩ := ih
    exact ⟨_, hrun.reset hidle⟩

/-- Every run can be followed. -/
theorem Run.exists_traced {log : List Traffic} (h : Run sys w log) :
    ∃ supplied ledger, Traced sys w supplied ledger := by
  induction h with
  | empty => exact ⟨_, _, .empty⟩
  | next _ hnext ih =>
    obtain ⟨supplied, ledger, h⟩ := ih
    exact ⟨_, _, h.next hnext⟩
  | outside _ hidle hi ih =>
    obtain ⟨supplied, ledger, h⟩ := ih
    exact ⟨_, _, h.outside hidle hi⟩
  | reset _ hidle ih =>
    obtain ⟨supplied, ledger, h⟩ := ih
    exact ⟨_, _, h.reset hidle⟩

end Runs

end World

/-! ## Kept failures and their origins -/

namespace Origin

/-- What is known of a failure that an action of the actor keeps, with the actor's stack. It
is the action's own and says nothing, or it is that of a monitor which the action has notified,
and says it all. -/
inductive Of (o : Origin) (actor : Actor) (stack : Stack) (f : Failure) : Prop
  | own (hactor : o.actor = actor) (hstack : o.stack = stack) (hbare : f.Bare)
  | monitor {place : Place} {id : MachineId} {type : String} (hself : actor = .machine place id)
      (hactor : o.actor = .monitor type) (hne : o.stack.frames ≠ [])
      (hnames : f.Names type o.stack)

/-- What is known of a failure with which a dispatch of the actor ends. The state has been
added to one of its own. -/
inductive Explains (o : Origin) (actor : Actor) (f : Failure) : Prop
  | own (hactor : o.actor = actor) (hmachine : f.machine = none)
      (hstate : f.state = o.stack.top?.map StateId.name)
  | monitor {place : Place} {id : MachineId} {type : String} (hself : actor = .machine place id)
      (hactor : o.actor = .monitor type) (hne : o.stack.frames ≠ [])
      (hnames : f.Names type o.stack)

variable {o : Origin} {actor : Actor} {stack : Stack} {f : Failure}

/-- The dispatch of an action adds the state on top. -/
theorem Of.explains (h : o.Of actor stack f) : o.Explains actor (f.inState stack.top?) := by
  cases h with
  | own hactor hstack hbare =>
    obtain ⟨hmachine, hstate⟩ := hbare.inState stack.top?
    exact .own hactor hmachine (hstack ▸ hstate)
  | monitor hself hactor hne hnames => exact .monitor hself hactor hne (hnames.inState hne _)

/-- Whoever the dispatch was for adds its name. -/
theorem Explains.names (h : o.Explains actor f) :
    (f.inMachine actor.name).Names o.actor.name o.stack := by
  cases h with
  | own hactor hmachine hstate =>
    exact ⟨by simp [Failure.inMachine, hmachine, hactor], hstate⟩
  | monitor _ hactor _ hnames =>
    rw [hactor]
    exact hnames.inMachine _

/-- A failure of a monitor's dispatch has arisen in the monitor. -/
theorem Explains.of_monitor {type : String} (h : o.Explains (.monitor type) f) :
    o.actor = .monitor type := by
  cases h with
  | own hactor => exact hactor
  | monitor hself => contradiction

end Origin

namespace World

/-- The actor is there, with this stack. -/
inductive Bears (w : World σ) : Actor → Stack → Prop
  | machine {place : Place} {m : Machine σ} (hm : w.machineAt? place = some m) :
      Bears w (.machine place m.id) m.cell.stack
  | monitor {type : String} {m : Monitor σ} (hm : w.monitor? type = some m) :
      Bears w (.monitor type) m.cell.stack

/-- If the actor is a machine, then it goes by the identity of the one at its place. -/
def Identifies (w : World σ) (actor : Actor) : Prop :=
  ∀ place id m, actor = .machine place id → w.machineAt? place = some m → m.id = id

section Bears

variable {w w' : World σ} {actor : Actor} {stack : Stack} {cell cell' : Cell σ} {place : Place}
  {m m' : Machine σ}

theorem identifies_monitor (w : World σ) (type : String) : w.Identifies (.monitor type) := by
  intro place id m hself
  contradiction

theorem identifies_machine (hm : w.machineAt? place = some m) :
    w.Identifies (.machine place m.id) := by
  rintro _ _ m' ⟨⟩ hm'
  cases hm.symm.trans hm'
  rfl

theorem Bears.identifies (h : w.Bears actor stack) : w.Identifies actor := by
  cases h with
  | machine hm => exact identifies_machine hm
  | @monitor type m _ => exact identifies_monitor w type

theorem Bears.exists_cell (h : w.Bears actor stack) :
    ∃ cell, w.cell? actor = some cell ∧ cell.stack = stack := by
  cases h with
  | machine hm => exact ⟨_, cell?_machine hm _, rfl⟩
  | monitor hm => exact ⟨_, cell?_monitor hm, rfl⟩

theorem Bears.stack_eq (h : w.Bears actor stack) (hcell : w.cell? actor = some cell) :
    cell.stack = stack := by
  obtain ⟨_, hcell', hstack⟩ := h.exists_cell
  cases hcell.symm.trans hcell'
  exact hstack

theorem Bears.congr (h : w.Bears actor stack) (hmachines : w'.machines = w.machines)
    (hmonitors : w'.monitors = w.monitors) : w'.Bears actor stack := by
  cases h with
  | machine hm => exact .machine ((machineAt?_congr hmachines _).trans hm)
  | @monitor type m hm =>
    have hm' : w'.monitor? type = some m := by
      rw [monitor?, hmonitors]
      exact hm
    exact .monitor hm'

/-- Where a machine is concerned, monitors do not matter. -/
theorem Bears.of_machines {id : MachineId} (h : w.Bears (.machine place id) stack)
    (hmachines : w'.machines = w.machines) : w'.Bears (.machine place id) stack := by
  cases h with
  | machine hm => exact .machine ((machineAt?_congr hmachines _).trans hm)

/-- A machine is exchanged for one with the same identity and the same stack. -/
theorem Bears.setMachine (h : w.Bears actor stack) (hm : w.machineAt? place = some m)
    (hid : m'.id = m.id) (hstack : m'.cell.stack = m.cell.stack) :
    (w.setMachine place m').Bears actor stack := by
  cases h with
  | monitor hm => exact .monitor hm
  | @machine other found hfound =>
    by_cases hplace : place = other
    · subst hplace
      cases hm.symm.trans hfound
      have hbears : (w.setMachine place m').Bears (.machine place m'.id) m'.cell.stack :=
        .machine (machineAt?_setMachine_self hm)
      rwa [hid, hstack] at hbears
    · exact .machine ((machineAt?_setMachine_of_ne hplace).trans hfound)

/-- An actor has the stack of the cell that it is given. -/
theorem Identifies.bears_setCell (hself : w.Identifies actor) (hcell : w.cell? actor = some cell) :
    (w.setCell actor cell').Bears actor cell'.stack := by
  cases actor with
  | machine place id =>
    obtain ⟨m, hm, rfl⟩ := Option.map_eq_some_iff.mp hcell
    obtain rfl := hself place id m rfl hm
    let m' : Machine σ := { m with cell := cell' }
    have hset : (w.setMachine place m').machineAt? place = some m' := machineAt?_setMachine_self hm
    have hbears : (w.setMachine place m').Bears (.machine place m'.id) m'.cell.stack :=
      .machine hset
    rw [setCell_machine hm]
    exact hbears
  | monitor type =>
    obtain ⟨m, hm, rfl⟩ := Option.map_eq_some_iff.mp hcell
    let m' : Monitor σ := { m with cell := cell' }
    have htype : m.type = type := type_of_monitor? hm
    have hset : (w.setMonitor m').monitor? type = some m' := monitor?_setMonitor_self hm m' htype
    have hbears : (w.setMonitor m').Bears (.monitor type) m'.cell.stack := .monitor hset
    rw [setCell_monitor hm]
    exact hbears

end Bears

end World

end PushdownActors
