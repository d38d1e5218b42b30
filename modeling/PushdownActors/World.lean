-- SUMMARY: The state of a running system: machines, monitors, pending runs, and the runs in progress.
import PushdownActors.Config
import PushdownActors.Mailbox
import PushdownActors.Registry

/-!
# Worlds

A world is everything that a running system consists of at one moment. A machine
that has something to do has a run pending or in progress, and its `active` mark
is set for as long. The runs in progress are a stack of frames: an action that
waits for an event lets other runs go on above it, and an action that notifies a
monitor waits for the monitor's dispatch above it.

The machine's own data are never held by a frame. Its memory and its stack are
in its cell at all times, so whatever a run has done so far can be seen in the
world, wherever the run is stopped.

Inside of a world a machine is known by its place, which is its own for as long
as the world is not reset. From outside it is known by its identity, whose number
comes round again when all numbers are used up; the identity then stands for the
machine that got it last.
-/

namespace PushdownActors

/-! ## Machines and monitors -/

/-- Who an action runs for. -/
inductive Owner where
  | machine (id : MachineId)
  | monitor (type : String)
  deriving DecidableEq, Inhabited

/-- Where a machine stands in the order of creation. -/
abbrev Place := Nat

/-- Who a run in progress works on. -/
inductive Actor where
  | machine (place : Place) (id : MachineId)
  | monitor (type : String)
  deriving DecidableEq, Inhabited

def Actor.owner : Actor → Owner
  | machine _ id => .machine id
  | monitor type => .monitor type

/-- The part that machines and monitors share: their type, memory and stack. -/
structure Cell (σ : Type) where
  blueprint : Blueprint σ
  memory : σ
  stack : Stack := .empty

/-- The current state, as the type declares it. -/
def Cell.state? (c : Cell σ) : Option State :=
  c.stack.top?.bind c.blueprint.automaton.state?

/-- A machine of a running system. -/
structure Machine (σ : Type) where
  id : MachineId
  cell : Cell σ
  mailbox : List Event := []
  /-- A run of the machine is pending or in progress. -/
  active : Bool := true
  lifecycle : Lifecycle := .created
  /-- What the start state will be entered with. -/
  startPayload : Option Value := none
  /-- The top of the stack as of the last dispatch that ended well. -/
  state : Option StateId := none
  /-- The types that a blocked receive waits for. -/
  waiting : Option (List EventType) := none
  /-- The event that was handed to a blocked receive. -/
  received : Option Event := none

/-- A monitor of a running system. -/
structure Monitor (σ : Type) where
  type : String
  cell : Cell σ
  /-- Its start state has been entered; before that it is not notified. -/
  registered : Bool := false

namespace Machine

/-- Takes in an event; also tells whether a run has to be scheduled for it. A
halted machine drops it, and a blocked receive that waits for its type gets it
directly. -/
def enqueue (m : Machine σ) (e : Event) : Machine σ × Bool :=
  if m.lifecycle = .halted then (m, false)
  else if (m.waiting.getD []).contains e.type then
    ({ m with waiting := none, received := some e }, false)
  else ({ m with mailbox := m.mailbox ++ [e], active := true }, !m.active)

/-- The end of a machine. -/
def halt (m : Machine σ) : Machine σ :=
  { m with
    cell := { m.cell with stack := .empty }
    mailbox := []
    active := false
    lifecycle := .halted
    startPayload := none
    state := none
    waiting := none
    received := none }

end Machine

/-! ## Runs in progress -/

/-- Where the program of an action is. -/
inductive Stage (σ : Type) where
  | running (program : Program σ Verdict)
  /-- Waits for an event of one of the types. -/
  | receiving (types : List EventType) (next : Except Failure Event → Program σ Verdict)
  /-- Waits for the dispatch of a monitor, which is the frame above. -/
  | notifying (next : Except Failure Unit → Program σ Verdict)

/-- A run in progress. -/
inductive Frame (σ : Type) where
  /-- A run of the machine that is about to begin its next dispatch. -/
  | ready (place : Place)
  /-- A dispatch that waits for an action, and how far the action is. -/
  | acting (actor : Actor) (paused : Paused) (context : Context) (stage : Stage σ)

/-- What the journal of a run tells. -/
inductive JournalEntry where
  | invoked (owner : Owner) (invocation : Invocation)
  | remarked (owner : Owner) (remark : Remark)
  deriving DecidableEq, Inhabited

/-! ## Worlds -/

/-- What does not change while a system runs. -/
structure System (σ : Type) where
  catalog : Catalog σ
  config : Config

/-- The state of a running system. -/
structure World (σ : Type) where
  registry : Registry σ := {}
  /-- In the order of their creation, so that each is at its place. -/
  machines : List (Machine σ) := []
  monitors : List (Monitor σ) := []
  /-- The number of the machine that was created last. -/
  lastId : UInt64 := 0
  /-- The machines whose runs wait for their turn. -/
  pending : List Place := []
  /-- How many runs are pending or in progress. -/
  active : Nat := 0
  steps : Nat := 0
  /-- The first failure. -/
  failure : Option Failure := none
  /-- The step bound has been reached. -/
  bounded : Bool := false
  /-- The runs in progress, the innermost first. -/
  frames : List (Frame σ) := []
  /-- What has happened, the latest first. -/
  journal : List JournalEntry := []

namespace World

def empty : World σ := {}

def hasFailed (w : World σ) : Bool := w.failure.isSome

/-- Records a failure; only the first is kept. -/
def fail (w : World σ) (f : Failure) : World σ :=
  { w with failure := w.failure <|> some f }

def write (w : World σ) (entry : JournalEntry) : World σ :=
  { w with journal := entry :: w.journal }

/-- The bound is reached with the steps taken; once seen, that stays. -/
def markBound (w : World σ) (config : Config) : World σ :=
  match config.testing.stepBound with
  | some bound => { w with bounded := w.bounded || bound ≤ w.steps }
  | none => w

section markBound

variable (w : World σ) (config : Config)

@[simp] theorem markBound_machines : (w.markBound config).machines = w.machines := by
  unfold markBound; split <;> rfl

@[simp] theorem markBound_monitors : (w.markBound config).monitors = w.monitors := by
  unfold markBound; split <;> rfl

@[simp] theorem markBound_pending : (w.markBound config).pending = w.pending := by
  unfold markBound; split <;> rfl

@[simp] theorem markBound_active : (w.markBound config).active = w.active := by
  unfold markBound; split <;> rfl

@[simp] theorem markBound_failure : (w.markBound config).failure = w.failure := by
  unfold markBound; split <;> rfl

@[simp] theorem markBound_frames : (w.markBound config).frames = w.frames := by
  unfold markBound; split <;> rfl

theorem markBound_bounded_of_bounded {w : World σ} (h : w.bounded = true) :
    (w.markBound config).bounded = true := by
  unfold markBound; split <;> simp [h]

end markBound

/-! ## Machines by place and identity, monitors by type -/

def machineAt? (w : World σ) (place : Place) : Option (Machine σ) :=
  w.machines[place]?

/-- Puts a machine at a place that holds one already. -/
def setMachine (w : World σ) (place : Place) (m : Machine σ) : World σ :=
  { w with machines := w.machines.set place m }

/-- The machine that an identity stands for, with its place: of several the one
that was created last. -/
def locate? (w : World σ) (id : MachineId) : Option (Machine σ × Place) :=
  w.machines.zipIdx.reverse.find? fun (m, _) => m.id == id

def machine? (w : World σ) (id : MachineId) : Option (Machine σ) :=
  (w.locate? id).map Prod.fst

def monitor? (w : World σ) (type : String) : Option (Monitor σ) :=
  w.monitors.find? (·.type == type)

/-- Puts a monitor in the place of the one of the same type. -/
def setMonitor (w : World σ) (m : Monitor σ) : World σ :=
  { w with monitors := w.monitors.map fun m' => if m'.type == m.type then m else m' }

def removeMonitor (w : World σ) (type : String) : World σ :=
  { w with monitors := w.monitors.filter (·.type != type) }

def cell? (w : World σ) : Actor → Option (Cell σ)
  | .machine place _ => (w.machineAt? place).map (·.cell)
  | .monitor type => (w.monitor? type).map (·.cell)

def setCell (w : World σ) (actor : Actor) (cell : Cell σ) : World σ :=
  match actor with
  | .machine place _ =>
    match w.machineAt? place with
    | some m => w.setMachine place { m with cell }
    | none => w
  | .monitor type =>
    match w.monitor? type with
    | some m => w.setMonitor { m with cell }
    | none => w

@[simp] theorem machineAt?_setMachine_self {w : World σ} {place : Place} {m m' : Machine σ}
    (h : w.machineAt? place = some m) : (w.setMachine place m').machineAt? place = some m' := by
  have hlt : place < w.machines.length := (List.getElem?_eq_some_iff.mp h).1
  simp [machineAt?, setMachine, hlt]

theorem machineAt?_setMachine_of_ne {w : World σ} {place other : Place} {m : Machine σ}
    (h : place ≠ other) : (w.setMachine place m).machineAt? other = w.machineAt? other := by
  simp [machineAt?, setMachine, List.getElem?_set_ne h]

/-- What is found after a machine was put at a place. -/
theorem machineAt?_setMachine_eq_some {w : World σ} {place other : Place} {m m' : Machine σ}
    (h : (w.setMachine place m).machineAt? other = some m') :
    (other = place ∧ m' = m) ∨ (other ≠ place ∧ w.machineAt? other = some m') := by
  by_cases hp : place = other
  · subst hp
    obtain ⟨hlt, hget⟩ := List.getElem?_eq_some_iff.mp h
    exact .inl ⟨rfl, by simpa [setMachine] using hget.symm⟩
  · exact .inr ⟨Ne.symm hp, by rwa [machineAt?_setMachine_of_ne hp] at h⟩

theorem machineAt?_congr {w w' : World σ} (h : w'.machines = w.machines) (place : Place) :
    w'.machineAt? place = w.machineAt? place := by
  rw [machineAt?, machineAt?, h]

/-- What is found after a machine was added behind the others. -/
theorem machineAt?_append_eq_some {w w' : World σ} {place : Place} {m m' : Machine σ}
    (h : w'.machines = w.machines ++ [m]) (hm' : w'.machineAt? place = some m') :
    w.machineAt? place = some m' ∨ (place = w.machines.length ∧ m' = m) := by
  rw [machineAt?, h] at hm'
  rcases Nat.lt_or_ge place w.machines.length with hlt | hge
  · rw [List.getElem?_append_left hlt] at hm'
    exact .inl hm'
  · rw [List.getElem?_append_right hge, List.getElem?_singleton] at hm'
    split at hm'
    · rename_i hzero
      exact .inr ⟨Nat.le_antisymm (Nat.sub_eq_zero_iff_le.mp hzero) hge, (Option.some.inj hm').symm⟩
    · contradiction

theorem setMachine_self {w : World σ} {place : Place} {m : Machine σ}
    (h : w.machineAt? place = some m) : w.setMachine place m = w := by
  obtain ⟨hlt, hget⟩ := List.getElem?_eq_some_iff.mp h
  have hset : w.machines.set place m = w.machines := by rw [← hget, List.set_getElem_self]
  rw [setMachine, hset]

@[simp] theorem setMachine_setMachine (w : World σ) (place : Place) (m m' : Machine σ) :
    (w.setMachine place m).setMachine place m' = w.setMachine place m' := by
  simp [setMachine, List.set_set]

theorem setCell_machine {w : World σ} {place : Place} {m : Machine σ}
    (h : w.machineAt? place = some m) (id : MachineId) (cell : Cell σ) :
    w.setCell (.machine place id) cell = w.setMachine place { m with cell } := by
  simp [setCell, h]

theorem setCell_monitor {w : World σ} {type : String} {m : Monitor σ}
    (h : w.monitor? type = some m) (cell : Cell σ) :
    w.setCell (.monitor type) cell = w.setMonitor { m with cell } := by
  simp [setCell, h]

@[simp] theorem setCell_frames (w : World σ) (actor : Actor) (cell : Cell σ) :
    (w.setCell actor cell).frames = w.frames := by
  unfold setCell
  split <;> split <;> rfl

theorem type_of_monitor? {w : World σ} {type : String} {m : Monitor σ}
    (h : w.monitor? type = some m) : m.type = type := by
  simpa using List.find?_some h

theorem monitor?_setMonitor_self {w : World σ} {type : String} {m : Monitor σ}
    (h : w.monitor? type = some m) (m' : Monitor σ) (ht : m'.type = type) :
    (w.setMonitor m').monitor? type = some m' := by
  have hsame : ((·.type == type) ∘ fun x : Monitor σ => if x.type == m'.type then m' else x)
      = (·.type == type) := by
    funext x
    by_cases hx : x.type = type <;> simp [ht, hx]
  have hm : m.type = type := type_of_monitor? h
  have hfind : w.monitors.find? (·.type == type) = some m := h
  rw [monitor?, setMonitor, List.find?_map, hsame, hfind]
  simp [hm, ht]

/-- Putting a monitor in the place of another leaves those of other types. -/
theorem monitor?_setMonitor_of_ne {w : World σ} {m : Monitor σ} {type : String}
    (h : m.type ≠ type) : (w.setMonitor m).monitor? type = w.monitor? type := by
  have hsame : ((·.type == type) ∘ fun x : Monitor σ => if x.type == m.type then m else x)
      = (·.type == type) := by
    funext x
    by_cases hx : x.type = m.type <;> simp [hx]
  rw [monitor?, setMonitor, List.find?_map, hsame]
  cases hfind : w.monitors.find? (·.type == type) with
  | none => exact hfind.symm
  | some x =>
    have hx : x.type = type := by simpa using List.find?_some hfind
    have hne : x.type ≠ m.type := fun hxm => h (hxm.symm.trans hx)
    simp [monitor?, hfind, hne]

theorem cell?_machine {w : World σ} {place : Place} {m : Machine σ}
    (h : w.machineAt? place = some m) (id : MachineId) :
    w.cell? (.machine place id) = some m.cell :=
  congrArg (Option.map Machine.cell) h

theorem cell?_monitor {w : World σ} {type : String} {m : Monitor σ}
    (h : w.monitor? type = some m) : w.cell? (.monitor type) = some m.cell :=
  congrArg (Option.map Monitor.cell) h

theorem cell?_setCell_self {w : World σ} {actor : Actor} {cell : Cell σ}
    (h : w.cell? actor = some cell) (cell' : Cell σ) :
    (w.setCell actor cell').cell? actor = some cell' := by
  cases actor with
  | machine place id =>
    obtain ⟨m, hm, _⟩ := Option.map_eq_some_iff.mp h
    simp [setCell_machine hm, cell?, machineAt?_setMachine_self hm]
  | monitor type =>
    obtain ⟨m, hm, _⟩ := Option.map_eq_some_iff.mp h
    have htype : m.type = type := type_of_monitor? hm
    simp [setCell_monitor hm, cell?, monitor?_setMonitor_self hm { m with cell := cell' } htype]

/-- The machine that an identity stands for is at the place that is found with it. -/
theorem machineAt?_of_locate? {w : World σ} {id : MachineId} {m : Machine σ} {place : Place}
    (h : w.locate? id = some (m, place)) : w.machineAt? place = some m := by
  have hmem : (m, place) ∈ w.machines.zipIdx := by
    simpa using List.mem_of_find?_eq_some h
  simpa [machineAt?] using List.mem_zipIdx_iff_getElem?.mp hmem

/-! ## Sending and creating -/

/-- Adds a run of the machine to those that wait for their turn. -/
def schedule (w : World σ) (place : Place) : World σ :=
  { w with active := w.active + 1, pending := w.pending ++ [place] }

/-- Sends an event to a machine, and schedules a run of it unless it has one. -/
def deliver (w : World σ) (target : MachineId) (e : Event) : Except Failure (World σ) :=
  match e.checkSendable with
  | .error violation => .error violation.toFailure
  | .ok () =>
    match w.locate? target with
    | none => .error (Violation.unknownTarget target.text).toFailure
    | some (m, place) =>
      let (m, idle) := m.enqueue e
      let w := w.setMachine place m
      .ok (if idle then w.schedule place else w)

/-- Makes a machine and schedules its first run, which will start it. -/
def create (w : World σ) (catalog : Catalog σ) (type : String) (payload : Option Value) :
    Except Failure (MachineId × World σ) :=
  match w.registry.fetch catalog .machine type with
  | .error e => .error e.toFailure
  | .ok (blueprint, registry) =>
    let id : MachineId := ⟨type, w.lastId + 1⟩
    let m : Machine σ :=
      { id, cell := { blueprint, memory := (catalog type).fresh }, startPayload := payload }
    let w' := { w with registry, lastId := w.lastId + 1, machines := w.machines ++ [m] }
    .ok (id, w'.schedule w.machines.length)

/-! ## Observing -/

/-- What a machine remembers, unless it has halted or is of another type. -/
def inspect (w : World σ) (type : String) (id : MachineId) : Option σ :=
  match w.machine? id with
  | some m =>
    if id.typeName = type ∧ m.lifecycle ≠ .halted then some m.cell.memory else none
  | none => none

/-- The monitor of a type, once it is registered. -/
def registered? (w : World σ) (type : String) : Option (Monitor σ) :=
  (w.monitor? type).filter (·.registered)

/-- The current state of a monitor. -/
def monitorState? (w : World σ) (type : String) : Option StateId :=
  (w.registered? type).bind fun m => m.cell.stack.top?

def isMonitorHot (w : World σ) (type : String) : Bool :=
  (w.registered? type).any fun m => m.cell.state?.any (·.hot)

def isMonitorCold (w : World σ) (type : String) : Bool :=
  (w.registered? type).any fun m => m.cell.state?.any (·.cold)

/-- The monitors in hot states, in the order of their names. -/
def hotMonitors (w : World σ) : List String :=
  ((w.monitors.filter fun m => w.isMonitorHot m.type).map (·.type)).mergeSort (· ≤ ·)

/-- Everything is as at the beginning, except that identities go on counting. -/
def reset (w : World σ) : World σ :=
  { lastId := w.lastId, journal := w.journal }

end World

end PushdownActors
