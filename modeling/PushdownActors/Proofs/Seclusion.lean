-- SUMMARY: Machines that keep to themselves: what their actions may ask for, and how far a run of one reaches.
import PushdownActors.World.Step

/-!
# Secluded machines

A machine is secluded if its actions send to the machine itself only and create no
machines. A sociable one may notify monitors, choose at random and receive; of the others
not even that is possible. Where an action sends to may depend on what the machine
remembers, such as the identity that it was told before, so what it remembers is part of
the matter. While such a machine has its run, no frame but its own is in progress, except
that of a monitor that it notifies, and nothing is changed but the machine and monitors.
-/

namespace PushdownActors

/-! ## What actions may ask for -/

/-- A machine among others, and what its actions may do. -/
structure Seclusion (σ : Type) where
  place : Place
  self : MachineId
  /-- The identities that stand for the machine. -/
  stands : MachineId → Prop
  /-- Its actions may notify monitors, choose and receive. -/
  sociable : Prop
  /-- What the machine may remember. -/
  remembers : σ → Prop

/-- The request is one of those that are possible. -/
def Request.Within (x : Seclusion σ) : Request → Prop
  | .send target _ => x.stands target
  | .create .. => False
  | .notify .. | .choose _ | .receive _ => x.sociable
  | .raise _ | .goto _ | .push _ | .pop | .id | .assert .. | .remark _ => True

/-- The answer is one that the machine can get. An action is told no identity but that of
its own machine. -/
def Request.Expects (x : Seclusion σ) : (r : Request) → r.Reply → Prop
  | .id, answer => answer = .ok x.self
  | .raise _, _ | .goto _, _ | .push _, _ | .pop, _ | .send .., _ | .create .., _ | .notify .., _
  | .choose _, _ | .assert .., _ | .receive _, _ | .remark _, _ => True

/-- All requests of the program are possible ones, whatever they are answered with, and so
is all that it leaves in the memory. -/
def Program.Within (x : Seclusion σ) : Program σ α → Prop
  | .done _ => True
  | .load next => ∀ memory, x.remembers memory → (next memory).Within x
  | .store memory next => x.remembers memory ∧ next.Within x
  | .request r next => r.Within x ∧ ∀ answer, r.Expects x answer → (next answer).Within x

/-- All actions of the type are secluded. -/
def Blueprint.Within (x : Seclusion σ) (b : Blueprint σ) : Prop :=
  ∀ name action, b.action? name = some action → ∀ i, (action i).Within x

/-! ## Frames -/

/-- What is left of an action is secluded. -/
def Stage.Within (x : Seclusion σ) : Stage σ → Prop
  | .running program => program.Within x
  | .receiving _ next => x.sociable ∧ ∀ answer, (next answer).Within x
  | .notifying next => x.sociable ∧ ∀ answer, (next answer).Within x

/-- The frames while a secluded machine has its run. -/
inductive Secluded (x : Seclusion σ) : List (Frame σ) → Prop
  | idle : Secluded x []
  | ready : Secluded x [.ready x.place]
  | acting {p : Paused} {c : Context} {stage : Stage σ} (h : stage.Within x) :
      Secluded x [.acting (.machine x.place x.self) p c stage]
  /-- A monitor has been notified. -/
  | judging {type : String} {p p' : Paused} {c c' : Context} {program : Program σ Verdict}
      {next : Except Failure Unit → Program σ Verdict} (hsociable : x.sociable)
      (h : ∀ answer, (next answer).Within x) :
      Secluded x [.acting (.monitor type) p c (.running program),
        .acting (.machine x.place x.self) p' c' (.notifying next)]

namespace World

/-! ## Places and identities -/

/-- Which place an identity stands for depends on the identities alone. -/
theorem locate?_snd (w : World σ) (target : MachineId) :
    (w.locate? target).map Prod.snd
      = ((w.machines.map Machine.id).zipIdx.reverse.find? (·.1 == target)).map Prod.snd := by
  rw [List.zipIdx_map, ← List.map_reverse, List.find?_map, Option.map_map]
  rfl

/-- A machine is exchanged for one of the same identity. -/
theorem map_id_setMachine {w : World σ} {place : Place} {m m' : Machine σ}
    (hm : w.machineAt? place = some m) (hid : m'.id = m.id) :
    (w.setMachine place m').machines.map Machine.id = w.machines.map Machine.id := by
  obtain ⟨hlt, hget⟩ := List.getElem?_eq_some_iff.mp hm
  apply List.ext_getElem?
  intro i
  by_cases hi : place = i
  · subst hi
    simp [setMachine, hlt, hid, ← hget]
  · simp [setMachine, List.getElem?_set_ne hi]

/-- Identities stand for the same places when a machine is exchanged for one of the same
identity. -/
theorem locate?_setMachine {w : World σ} {place : Place} {m m' : Machine σ}
    (hm : w.machineAt? place = some m) (hid : m'.id = m.id) (target : MachineId) :
    ((w.setMachine place m').locate? target).map Prod.snd
      = (w.locate? target).map Prod.snd := by
  rw [locate?_snd, locate?_snd, map_id_setMachine hm hid]

/-- The machine whose place an identity stands for is found by it. -/
theorem locate?_of_snd {w : World σ} {target : MachineId} {place : Place} {m : Machine σ}
    (h : (w.locate? target).map Prod.snd = some place) (hm : w.machineAt? place = some m) :
    w.locate? target = some (m, place) := by
  obtain ⟨⟨m', _⟩, hlocate, rfl⟩ := Option.map_eq_some_iff.mp h
  cases hm.symm.trans (machineAt?_of_locate? hlocate)
  exact hlocate

/-! ## Worlds -/

end World

/-- The machine is the secluded one, and it is marked. -/
structure Machine.Within (x : Seclusion σ) (m : Machine σ) : Prop where
  id : m.id = x.self
  active : m.active = true
  actions : m.cell.blueprint.Within x
  memory : x.remembers m.cell.memory

namespace World

/-- The run of the secluded machine is the only one in progress. -/
structure Within (x : Seclusion σ) (w : World σ) : Prop where
  frames : Secluded x w.frames
  machine : ∃ m, w.machineAt? x.place = some m ∧ m.Within x
  stands : ∀ target, x.stands target → (w.locate? target).map Prod.snd = some x.place

namespace Within

variable {x : Seclusion σ} {w w' : World σ} {m m' : Machine σ}

/-- Nothing is different but the frames. -/
theorem reframe (h : w.Within x) (hmachines : w'.machines = w.machines)
    (hframes : Secluded x w'.frames) : w'.Within x where
  frames := hframes
  machine := by
    rw [machineAt?_congr hmachines]
    exact h.machine
  stands := by
    intro target hstands
    rw [locate?_snd, hmachines, ← locate?_snd]
    exact h.stands target hstands

theorem congr (h : w.Within x) (hmachines : w'.machines = w.machines)
    (hframes : w'.frames = w.frames) : w'.Within x :=
  h.reframe hmachines (hframes ▸ h.frames)

theorem of_machineAt? (h : w.Within x) (hm : w.machineAt? x.place = some m) : m.Within x := by
  obtain ⟨_, hm₀, hwithin⟩ := h.machine
  cases hm.symm.trans hm₀
  exact hwithin

/-- The machine is exchanged for what it has become. -/
theorem exchange (h : w.Within x) (hm : w.machineAt? x.place = some m) (hm' : m'.Within x) :
    (w.setMachine x.place m').Within x where
  frames := h.frames
  machine := ⟨m', machineAt?_setMachine_self hm, hm'⟩
  stands := by
    intro target hstands
    have hid : m'.id = m.id := hm'.id.trans (h.of_machineAt? hm).id.symm
    rw [locate?_setMachine hm hid]
    exact h.stands target hstands

/-- A secluded machine that sends an event takes it in without another run. -/
theorem deliver_eq (h : w.Within x) (hm : w.machineAt? x.place = some m) {target : MachineId}
    {e : Event} (hstands : x.stands target) (hsendable : e.checkSendable = .ok ()) :
    w.deliver target e = .ok (w.setMachine x.place (m.enqueue e).1) := by
  have hactive := (h.of_machineAt? hm).active
  have hbusy : (m.enqueue e).2 = false := by
    unfold Machine.enqueue
    split
    · rfl
    · split
      · rfl
      · simp [hactive]
  simp [deliver, hsendable, locate?_of_snd (h.stands target hstands) hm, hbusy]

end Within

end World

namespace Machine.Within

variable {x : Seclusion σ} {m m' : Machine σ}

/-- Only a part of the machine is different that seclusion is not about. -/
theorem congr (h : m.Within x) (hid : m'.id = m.id) (hactive : m'.active = m.active)
    (hblueprint : m'.cell.blueprint = m.cell.blueprint)
    (hmemory : m'.cell.memory = m.cell.memory) : m'.Within x where
  id := hid.trans h.id
  active := hactive.trans h.active
  actions := hblueprint ▸ h.actions
  memory := hmemory ▸ h.memory

/-- A secluded machine takes in an event. -/
theorem enqueue (h : m.Within x) (e : Event) : (m.enqueue e).1.Within x := by
  unfold Machine.enqueue
  split
  · exact h
  · split
    · exact h.congr rfl rfl rfl rfl
    · exact h.congr rfl h.active.symm rfl rfl

end Machine.Within

/-! ## A snail

When it starts it remembers the identity that it is told, and crawls: it sends itself an
event. What it does with that is different from snail to snail. -/

namespace Snail

def crawl : Event := .message ⟨"Crawl"⟩ none

/-- What it does in its start. -/
def wake : Action (Option MachineId) := fun _ => Body.toProgram do
  let self ← Body.id
  Body.remember (some self)
  Body.send self crawl

/-- A snail that does this with an event. -/
def snail (move : Action (Option MachineId)) : Description (Option MachineId) :=
  let shell := (({ name := "Shell" } : StateSpec).asStart.withEntry "wake").onEvent "Crawl" "move"
  ((({} : Description (Option MachineId)).state shell).action "wake" wake).action "move" move

/-- What it remembers is nothing or its own identity. -/
def knows (self : MachineId) (memory : Option MachineId) : Prop := ∀ id ∈ memory, id = self

variable {x : Seclusion (Option MachineId)} {move : Action (Option MachineId)}

theorem wake_within (hstands : x.stands x.self) (hknows : x.remembers = knows x.self)
    (i : Invocation) : (wake i).Within x := by
  refine ⟨trivial, ?_⟩
  rintro answer rfl
  refine ⟨?_, hstands, ?_⟩
  · rw [hknows]
    rintro self ⟨⟩
    rfl
  · intro answer _
    cases answer <;> trivial

theorem snail_within (hstands : x.stands x.self) (hknows : x.remembers = knows x.self)
    (hmove : ∀ i, (move i).Within x) {b : Blueprint (Option MachineId)}
    (hactions : b.actions = (snail move).actions) : b.Within x := by
  intro name action haction i
  have hlookup : (snail move).actions.lookup name = some action := by
    rw [← hactions]
    exact haction
  simp only [snail, Description.action, Description.state, List.lookup_cons] at hlookup
  split at hlookup
  · cases hlookup
    exact hmove i
  · split at hlookup
    · cases hlookup
      exact wake_within hstands hknows i
    · cases hlookup

end Snail

end PushdownActors
