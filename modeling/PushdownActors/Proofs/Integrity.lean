-- SUMMARY: In the runs of a serial system no dispatch leaves the declaration of its type, nor is one begun on a stack that is not fit for it.
import PushdownActors.Proofs.Breakdown
import PushdownActors.Proofs.Declared
import PushdownActors.Proofs.Nesting

/-!
# Integrity of runs

What a type declares has been checked when it was built, and an engine that is used on
its own keeps to it. In a system the same stack is used by one step after another, with
other runs in between, and after failures. This module shows that a serial system uses
its engines as they are meant to be used: a machine starts once, on an empty stack;
afterwards its stack is empty only if it has halted, if the system has failed, or past
the step bound; and an action that answers finds the stack that its dispatch has left.

So no dispatch waits for an action that its type does not bind, and none fails because
it was begun twice, or on a stack without a state. Past the step bound a machine without
a state may look for an event, but then no failure is recorded any more.
-/

namespace PushdownActors

/-! ## Sound cells, machines and frames -/

/-- The type has been built, and the frames are states that it declares. -/
structure Cell.Sound (c : Cell σ) : Prop where
  built : c.blueprint.Built
  declared : c.stack.Declared c.blueprint.automaton

/-- The stack is empty until the machine starts. Afterwards it is not, unless the machine
has halted or there is an excuse. -/
structure Machine.Grounded (m : Machine σ) (excused : Prop) : Prop where
  created : m.lifecycle = .created → m.cell.stack = .empty
  active : m.lifecycle = .active → excused ∨ m.cell.stack.frames ≠ []

/-- The dispatch of the frame may wait for its action. -/
def Frame.Sound (w : World σ) : Frame σ → Prop
  | .ready _ => True
  | .acting actor p _ _ => ∃ cell, w.cell? actor = some cell ∧
      cell.stack.Waits cell.blueprint.automaton p

/-- A built type binds the action that a dispatch waits for. -/
theorem Blueprint.Built.exists_action_of_runs {b : Blueprint σ} {x : Invocation} (h : b.Built)
    (hruns : ∃ s, b.automaton.state? x.state = some s ∧ s.Runs x) :
    ∃ action, b.action? x.action = some action := by
  obtain ⟨s, hs, hruns⟩ := hruns
  exact h.exists_action (Automaton.mem_of_state? hs) hruns.mem_actions

theorem Machine.Grounded.congr {m m' : Machine σ} {excused excused' : Prop}
    (h : m.Grounded excused) (hlife : m'.lifecycle = m.lifecycle)
    (hstack : m'.cell.stack = m.cell.stack) (hexcused : excused → excused') :
    m'.Grounded excused' where
  created := by
    rw [hlife, hstack]
    exact h.created
  active := by
    rw [hlife, hstack]
    exact fun hactive => (h.active hactive).imp_left hexcused

/-- A frame depends on the type and the stack of its cell alone. -/
theorem Frame.Sound.congr {w w' : World σ} {f : Frame σ} (h : f.Sound w)
    (hcell : ∀ actor p c stage cell, f = .acting actor p c stage → w.cell? actor = some cell →
      ∃ cell', w'.cell? actor = some cell' ∧ cell'.blueprint = cell.blueprint ∧
        cell'.stack = cell.stack) : f.Sound w' := by
  cases f with
  | ready place => trivial
  | acting actor p c stage =>
    obtain ⟨cell, hold, hwaits⟩ := h
    obtain ⟨cell', hnew, hblueprint, hstack⟩ := hcell actor p c stage cell rfl hold
    refine ⟨cell', hnew, ?_⟩
    rw [hblueprint, hstack]
    exact hwaits

namespace World

/-! ## The invariant -/

/-- Failures are not recorded any more, or one has been. -/
def Excused (w : World σ) : Prop := w.bounded = true ∨ w.hasFailed = true

theorem excused_fail (w : World σ) (f : Failure) : (w.fail f).Excused := by
  right
  simp [World.fail, hasFailed]

/-- All cells and frames are sound, and all machines but the busy one are grounded. -/
structure SoundBut (w : World σ) (busy : Option Place) : Prop where
  registry : w.registry.Built
  cell {place : Place} {m : Machine σ} (hm : w.machineAt? place = some m) : m.cell.Sound
  grounded {place : Place} {m : Machine σ} (hm : w.machineAt? place = some m)
    (hbusy : busy ≠ some place) : m.Grounded w.Excused
  monitor {m : Monitor σ} (hm : m ∈ w.monitors) : m.cell.Sound
  frame {f : Frame σ} (hf : f ∈ w.frames) : f.Sound w

/-- Everything is sound. -/
abbrev Sound (w : World σ) : Prop := w.SoundBut none

/-- No frame belongs to the machine, or to a monitor if the actor is one. -/
def Apart (w : World σ) (actor : Actor) : Prop := ∀ f ∈ w.frames, f.place? ≠ actor.place?

namespace SoundBut

variable {w w' : World σ} {busy : Option Place} {place : Place} {m m' : Machine σ}

/-! ### Single changes -/

theorem weaken (h : w.Sound) (busy : Option Place) : w.SoundBut busy where
  registry := h.registry
  cell := h.cell
  grounded hm _ := h.grounded hm nofun
  monitor := h.monitor
  frame := h.frame

/-- A dispatch is over: its machine is grounded again. -/
theorem settle (h : w.SoundBut (some place)) (hm : w.machineAt? place = some m)
    (hgrounded : m.Grounded w.Excused) : w.Sound where
  registry := h.registry
  cell := h.cell
  grounded := by
    intro other m' hm' _
    by_cases hother : other = place
    · subst hother
      cases hm.symm.trans hm'
      exact hgrounded
    · refine h.grounded hm' ?_
      rintro ⟨⟩
      exact hother rfl
  monitor := h.monitor
  frame := h.frame

/-- The cells are as before, the frames are sound already. -/
theorem congr (h : w.SoundBut busy) (hregistry : w'.registry = w.registry)
    (hmachines : w'.machines = w.machines) (hmonitors : w'.monitors = w.monitors)
    (hexcused : w.Excused → w'.Excused) (hframes : ∀ f ∈ w'.frames, f.Sound w) :
    w'.SoundBut busy where
  registry := hregistry ▸ h.registry
  cell hm := h.cell ((machineAt?_congr hmachines _).symm.trans hm)
  grounded hm hbusy :=
    (h.grounded ((machineAt?_congr hmachines _).symm.trans hm) hbusy).congr rfl rfl hexcused
  monitor hm := h.monitor (hmonitors ▸ hm)
  frame := by
    intro f hf
    refine (hframes f hf).congr fun actor p c stage cell _ hcell => ⟨cell, ?_, rfl, rfl⟩
    rw [← hcell]
    cases actor with
    | machine place id => exact congrArg (Option.map Machine.cell) (machineAt?_congr hmachines place)
    | monitor type => rw [cell?, cell?, monitor?, monitor?, hmonitors]

/-- Nothing is different that matters here. -/
theorem sameFrames (h : w.SoundBut busy) (hregistry : w'.registry = w.registry)
    (hmachines : w'.machines = w.machines) (hmonitors : w'.monitors = w.monitors)
    (hexcused : w.Excused → w'.Excused) (hframes : w'.frames = w.frames) : w'.SoundBut busy :=
  h.congr hregistry hmachines hmonitors hexcused fun _ hf => h.frame (hframes ▸ hf)

theorem fresh (hregistry : w.registry = {}) (hmachines : w.machines = [])
    (hmonitors : w.monitors = []) (hframes : w.frames = []) : w.SoundBut busy where
  registry := by simp [hregistry, Registry.Built]
  cell hm := by simp [machineAt?, hmachines] at hm
  grounded hm := by simp [machineAt?, hmachines] at hm
  monitor hm := by simp [hmonitors] at hm
  frame hf := by simp [hframes] at hf

theorem retire (h : w.SoundBut busy) : w.retire.SoundBut busy :=
  h.sameFrames rfl rfl rfl id rfl

theorem fail (h : w.SoundBut busy) (f : Failure) : (w.fail f).SoundBut busy :=
  h.sameFrames rfl rfl rfl (fun _ => excused_fail w f) rfl

/-- The cell of an actor is sound. -/
theorem of_cell? {actor : Actor} {cell : Cell σ} (h : w.SoundBut busy)
    (hcell : w.cell? actor = some cell) : cell.Sound := by
  cases actor with
  | machine place id =>
    obtain ⟨m, hm, rfl⟩ := Option.map_eq_some_iff.mp hcell
    exact h.cell hm
  | monitor type =>
    obtain ⟨m, hm, rfl⟩ := Option.map_eq_some_iff.mp hcell
    exact h.monitor (List.mem_of_find?_eq_some hm)

theorem popFrame {f : Frame σ} {rest : List (Frame σ)} (h : w.SoundBut busy)
    (hframes : w.frames = f :: rest) : SoundBut { w with frames := rest } busy := by
  refine h.congr rfl rfl rfl id fun g hg => h.frame ?_
  rw [hframes]
  exact List.mem_cons_of_mem f hg

/-- The action of the innermost frame goes on. -/
theorem replaceFrame {actor : Actor} {p : Paused} {c c' : Context} {stage stage' : Stage σ}
    {rest : List (Frame σ)} (h : w.SoundBut busy)
    (hframes : w.frames = .acting actor p c stage :: rest) :
    SoundBut { w with frames := .acting actor p c' stage' :: rest } busy := by
  refine h.congr rfl rfl rfl id fun g hg => ?_
  rcases List.mem_cons.mp hg with rfl | hg
  · have hsound : Frame.Sound w (.acting actor p c stage) :=
      h.frame (hframes ▸ List.mem_cons_self)
    exact hsound
  · exact h.frame (hframes ▸ List.mem_cons_of_mem _ hg)

/-- A new frame is put on top. -/
theorem pushFrame {f : Frame σ} (h : w.SoundBut busy) (hf : f.Sound w) :
    SoundBut { w with frames := f :: w.frames } busy := by
  refine h.congr rfl rfl rfl id fun g hg => ?_
  rcases List.mem_cons.mp hg with rfl | hg
  · exact hf
  · exact h.frame hg

/-- A machine is exchanged. Either its type and its stack are as before, or no frame is
about it. -/
theorem exchange (h : w.SoundBut busy) (hm : w.machineAt? place = some m)
    (hcell : m'.cell.Sound) (hgrounded : busy ≠ some place → m'.Grounded w.Excused)
    (hframes : (m'.cell.blueprint = m.cell.blueprint ∧ m'.cell.stack = m.cell.stack) ∨
      ∀ f ∈ w.frames, f.place? ≠ some place) :
    (w.setMachine place m').SoundBut busy where
  registry := h.registry
  cell := by
    intro other m'' hm''
    rcases machineAt?_setMachine_eq_some hm'' with ⟨_, rfl⟩ | ⟨_, hold⟩
    · exact hcell
    · exact h.cell hold
  grounded := by
    intro other m'' hm'' hbusy
    rcases machineAt?_setMachine_eq_some hm'' with ⟨rfl, rfl⟩ | ⟨_, hold⟩
    · exact hgrounded hbusy
    · exact h.grounded hold hbusy
  monitor := h.monitor
  frame := by
    intro f hf
    refine (h.frame hf).congr ?_
    rintro actor p c stage cell rfl hold
    cases actor with
    | monitor type => exact ⟨cell, hold, rfl, rfl⟩
    | machine other id =>
      by_cases hother : other = place
      · subst hother
        obtain ⟨_, hm'', rfl⟩ := Option.map_eq_some_iff.mp hold
        cases hm.symm.trans hm''
        rcases hframes with ⟨hblueprint, hstack⟩ | hapart
        · refine ⟨m'.cell, ?_, hblueprint, hstack⟩
          simp [cell?, machineAt?_setMachine_self hm]
        · exact absurd rfl (hapart _ hf)
      · refine ⟨cell, ?_, rfl, rfl⟩
        rw [← hold, cell?, cell?, machineAt?_setMachine_of_ne (Ne.symm hother)]

/-- A machine is exchanged for one with the same cell. -/
theorem alter (h : w.SoundBut busy) (hm : w.machineAt? place = some m)
    (hcell : m'.cell = m.cell) (hlife : m'.lifecycle = m.lifecycle) :
    (w.setMachine place m').SoundBut busy := by
  refine h.exchange hm (hcell ▸ h.cell hm) ?_ (.inl ⟨by rw [hcell], by rw [hcell]⟩)
  intro hbusy
  exact (h.grounded hm hbusy).congr hlife (by rw [hcell]) id

/-- A monitor is exchanged. Either its type and its stack are as before, or no frame is
about it. -/
theorem exchangeMonitor {type : String} {m m' : Monitor σ} (h : w.SoundBut busy)
    (hm : w.monitor? type = some m) (htype : m'.type = type) (hcell : m'.cell.Sound)
    (hframes : (m'.cell.blueprint = m.cell.blueprint ∧ m'.cell.stack = m.cell.stack) ∨
      w.Apart (.monitor type)) :
    (w.setMonitor m').SoundBut busy where
  registry := h.registry
  cell := h.cell
  grounded := h.grounded
  monitor := by
    intro m'' hm''
    obtain ⟨old, hold, rfl⟩ := List.mem_map.mp hm''
    split
    · exact hcell
    · exact h.monitor hold
  frame := by
    intro f hf
    refine (h.frame hf).congr ?_
    rintro actor p c stage cell rfl hold
    cases actor with
    | machine place id => exact ⟨cell, hold, rfl, rfl⟩
    | monitor other =>
      rcases hframes with ⟨hblueprint, hstack⟩ | hapart
      · by_cases hother : type = other
        · subst hother
          obtain ⟨_, hm'', rfl⟩ := Option.map_eq_some_iff.mp hold
          cases hm.symm.trans hm''
          refine ⟨m'.cell, ?_, hblueprint, hstack⟩
          rw [cell?, monitor?_setMonitor_self hm m' htype]
          rfl
        · refine ⟨cell, ?_, rfl, rfl⟩
          rw [← hold, cell?, cell?, monitor?_setMonitor_of_ne (htype ▸ hother)]
      · exact absurd rfl (hapart _ hf)

/-- A monitor is forgotten that no frame is about. -/
theorem removeMonitor {type : String} (h : w.SoundBut busy) (hapart : w.Apart (.monitor type)) :
    (w.removeMonitor type).SoundBut busy where
  registry := h.registry
  cell := h.cell
  grounded := h.grounded
  monitor hm := h.monitor (List.mem_filter.mp hm).1
  frame := by
    intro f hf
    refine (h.frame hf).congr ?_
    rintro actor p c stage cell rfl hold
    cases actor with
    | machine place id => exact ⟨cell, hold, rfl, rfl⟩
    | monitor other => exact absurd rfl (hapart _ hf)

/-- A new monitor takes the place of another, while nothing is in progress. -/
theorem addMonitor {m : Monitor σ} {registry : Registry σ} (h : w.SoundBut busy)
    (hregistry : registry.Built) (hcell : m.cell.Sound) (hidle : w.frames = []) :
    (w.withMonitor registry m).SoundBut busy where
  registry := hregistry
  cell := h.cell
  grounded := h.grounded
  monitor := by
    intro m' hm'
    rcases List.mem_append.mp hm' with hold | hnew
    · exact h.monitor (List.mem_filter.mp hold).1
    · exact List.mem_singleton.mp hnew ▸ hcell
  frame := by
    intro f hf
    have hf : f ∈ w.frames := hf
    simp [hidle] at hf

/-- An action writes to its memory. -/
theorem store {actor : Actor} {cell : Cell σ} (h : w.SoundBut busy)
    (hcell : w.cell? actor = some cell) (memory : σ) :
    (w.setCell actor { cell with memory }).SoundBut busy := by
  cases actor with
  | machine place _ =>
    obtain ⟨m, hm, rfl⟩ := Option.map_eq_some_iff.mp hcell
    have hsound : m.cell.Sound := h.cell hm
    rw [setCell_machine hm]
    refine h.exchange hm ⟨hsound.built, hsound.declared⟩ ?_ (.inl ⟨rfl, rfl⟩)
    exact fun hbusy => (h.grounded hm hbusy).congr rfl rfl id
  | monitor type =>
    obtain ⟨m, hm, rfl⟩ := Option.map_eq_some_iff.mp hcell
    have hsound : m.cell.Sound := h.monitor (List.mem_of_find?_eq_some hm)
    have htype : m.type = type := type_of_monitor? hm
    rw [setCell_monitor hm]
    exact h.exchangeMonitor hm htype ⟨hsound.built, hsound.declared⟩ (.inl ⟨rfl, rfl⟩)

/-- A dispatch leaves its stack behind, which no frame is about. -/
theorem setStack {actor : Actor} {cell : Cell σ} {stack : Stack} (h : w.SoundBut actor.place?)
    (hcell : w.cell? actor = some cell) (hapart : w.Apart actor)
    (hdeclared : stack.Declared cell.blueprint.automaton) :
    (w.setCell actor { cell with stack }).SoundBut actor.place? := by
  cases actor with
  | machine place _ =>
    obtain ⟨m, hm, rfl⟩ := Option.map_eq_some_iff.mp hcell
    have hsound : m.cell.Sound := h.cell hm
    rw [setCell_machine hm]
    exact h.exchange hm ⟨hsound.built, hdeclared⟩ (fun hbusy => absurd rfl hbusy) (.inr hapart)
  | monitor type =>
    obtain ⟨m, hm, rfl⟩ := Option.map_eq_some_iff.mp hcell
    have hsound : m.cell.Sound := h.monitor (List.mem_of_find?_eq_some hm)
    have htype : m.type = type := type_of_monitor? hm
    rw [setCell_monitor hm]
    exact h.exchangeMonitor hm htype ⟨hsound.built, hdeclared⟩ (.inr hapart)

theorem markBound (h : w.SoundBut busy) (config : Config) :
    (w.markBound config).SoundBut busy := by
  refine h.congr ?_ (markBound_machines w config) (markBound_monitors w config) ?_ ?_
  · unfold World.markBound
    split <;> rfl
  · rintro (hbounded | hfailed)
    · exact .inl (markBound_bounded_of_bounded config hbounded)
    · refine .inr ?_
      rw [hasFailed, markBound_failure]
      exact hfailed
  · intro f hf
    rw [markBound_frames] at hf
    exact h.frame hf

theorem beginTurn (h : w.SoundBut busy) (index : Nat) : (w.beginTurn index).SoundBut busy := by
  unfold World.beginTurn World.beginRun
  split
  · refine h.congr rfl rfl rfl id fun f hf => ?_
    rcases List.mem_cons.mp hf with rfl | hf
    · trivial
    · exact h.frame hf
  · exact h.sameFrames rfl rfl rfl id rfl

theorem delivered {e : Event} {seen : List Traffic} (h : w.SoundBut busy)
    (hdelivered : Delivered w e seen w') : w'.SoundBut busy := by
  cases hdelivered with
  | refused _ _ => exact h
  | handed hm _ _ _ => exact h.alter hm rfl rfl
  | queued hm _ _ _ => exact h.alter hm rfl rfl
  | @woken place m hm _ _ _ =>
    let m' : Machine σ := { m with mailbox := m.mailbox ++ [e], active := true }
    have hwoken : (w.setMachine place m').SoundBut busy := h.alter hm rfl rfl
    exact hwoken.sameFrames rfl rfl rfl id rfl

/-- A new machine has an empty stack, and waits for its start. -/
theorem create {catalog : Catalog σ} {type : String} {payload : Option Value} {id : MachineId}
    (h : w.SoundBut busy) (hcreate : w.create catalog type payload = .ok (id, w')) :
    w'.SoundBut busy := by
  obtain ⟨blueprint, registry, hfetch, rfl⟩ := exists_fetch_of_create hcreate
  obtain ⟨hbuilt, hregistry⟩ := h.registry.fetch hfetch
  refine ⟨hregistry, ?_, ?_, h.monitor, ?_⟩
  · intro place m hm
    rcases machineAt?_append_eq_some rfl hm with hold | ⟨_, rfl⟩
    · exact h.cell hold
    · exact ⟨hbuilt, .empty⟩
  · intro place m hm hbusy
    rcases machineAt?_append_eq_some rfl hm with hold | ⟨_, rfl⟩
    · exact h.grounded hold hbusy
    · exact ⟨fun _ => rfl, nofun⟩
  · intro f hf
    refine (h.frame hf).congr ?_
    rintro actor p c stage cell rfl hold
    cases actor with
    | monitor type => exact ⟨cell, hold, rfl, rfl⟩
    | machine other id =>
      obtain ⟨m, hm, rfl⟩ := Option.map_eq_some_iff.mp hold
      have hlt : other < w.machines.length := (List.getElem?_eq_some_iff.mp hm).1
      refine ⟨m.cell, ?_, rfl, rfl⟩
      exact congrArg (Option.map Machine.cell) ((List.getElem?_append_left hlt).trans hm)

/-! ### Dispatches -/

/-- A run that ends with a failure is excused, also past the step bound. -/
theorem abort {failure : Failure} (h : w.SoundBut (some place)) (hm : w.machineAt? place = some m)
    (hcell : m'.cell.Sound) (hlive : m'.lifecycle ≠ .created)
    (hframes : (m'.cell.blueprint = m.cell.blueprint ∧ m'.cell.stack = m.cell.stack) ∨
      ∀ f ∈ w.frames, f.place? ≠ some place) :
    (w.abort place m' failure).retire.Sound := by
  let ended : World σ := w.setMachine place { m' with active := false }
  have hended : ended.SoundBut (some place) :=
    h.exchange hm hcell (fun hbusy => absurd rfl hbusy) hframes
  have hm' : ended.machineAt? place = some { m' with active := false } :=
    machineAt?_setMachine_self hm
  have hgrounded {excused : Prop} (hexcused : excused) :
      Machine.Grounded { m' with active := false } excused :=
    ⟨fun hcreated => absurd hcreated hlive, fun _ => .inl hexcused⟩
  unfold World.abort
  dsimp only
  split
  · rename_i hbounded
    exact hended.retire.settle hm' (hgrounded (.inl hbounded))
  · exact (hended.fail _).retire.settle hm' (hgrounded (excused_fail ended _))

theorem giveBack {result : Except Failure Unit} (h : w.SoundBut busy)
    (hback : (w.giveBack result).LeadsTo w') : w'.SoundBut busy := by
  unfold World.giveBack at hback
  split at hback
  · rename_i hframes
    exact Move.leadsTo_step.mp hback ▸ h.replaceFrame hframes
  · exact Move.leadsTo_returned.mp hback ▸ h

/-- A monitor that has failed to start is forgotten. -/
theorem concludeMonitor {type : String} {m : Monitor σ} {result : Except Failure Status}
    (h : w.SoundBut busy) (hm : w.monitor? type = some m) (hcell : m.cell.Sound)
    (hapart : w.Apart (.monitor type)) (hback : (w.concludeMonitor m result).LeadsTo w') :
    w'.SoundBut busy := by
  have htype : m.type = type := type_of_monitor? hm
  unfold World.concludeMonitor at hback
  split at hback
  · have hset : (w.setMonitor { m with registered := true }).SoundBut busy :=
      h.exchangeMonitor hm htype hcell (.inr hapart)
    exact hset.giveBack hback
  · dsimp only at hback
    split at hback
    · exact h.giveBack hback
    · rw [htype] at hback
      exact (h.removeMonitor hapart).giveBack hback

/-- A dispatch that has kept to its declaration leaves everything sound, whether it goes on
or ends. -/
theorem carried {actor : Actor} {cell : Cell σ} {prompt : Prompt} {progress : Progress}
    (hcarried : Carried w actor progress w') (h : w.SoundBut actor.place?)
    (hapart : w.Apart actor) (hcell : w.cell? actor = some cell)
    (hlive : ∀ place m, actor.place? = some place → w.machineAt? place = some m →
      m.lifecycle ≠ .created)
    (horderly : progress.Orderly cell.blueprint.automaton prompt) : w'.Sound := by
  have hsound : cell.Sound := h.of_cell? hcell
  cases hcarried with
  | @acting actor _ progress p action hcell' hpaused haction =>
    cases hcell.symm.trans hcell'
    have hwaits : progress.stack.Waits cell.blueprint.automaton p := horderly.waits hpaused
    let reached : Cell σ := { cell with stack := progress.stack }
    have hset : (w.setCell actor reached).SoundBut actor.place? :=
      h.setStack hcell hapart horderly.declared
    have hframe : Frame.Sound (w.setCell actor reached)
        (.acting actor p {} (.running (action p.invocation))) :=
      ⟨reached, cell?_setCell_self hcell reached, hwaits⟩
    have hpushed := hset.pushFrame hframe
    cases actor with
    | monitor type => exact hpushed.sameFrames rfl rfl rfl id rfl
    | machine place other =>
      obtain ⟨m, hm, rfl⟩ := Option.map_eq_some_iff.mp hcell
      have hm' : (w.setCell (.machine place other) reached).machineAt? place
          = some { m with cell := reached } := by
        rw [setCell_machine hm]
        exact machineAt?_setMachine_self hm
      refine settle (hpushed.sameFrames rfl rfl rfl id rfl) hm' ?_
      have hne : progress.stack.frames ≠ [] := Stack.frames_ne_nil hwaits.top
      exact ⟨fun hcreated => absurd hcreated (hlive place m rfl hm), fun _ => .inr hne⟩
  | @yielded place other m progress hm hresult =>
    cases hcell.symm.trans (cell?_machine hm other)
    have hne : progress.stack.frames ≠ [] :=
      horderly.frames_ne_nil (Progress.finished_of_result? hresult)
    let m' : Machine σ :=
      { m with cell := { m.cell with stack := progress.stack }, state := progress.stack.top? }
    have hset : (w.setMachine place m').SoundBut (some place) :=
      h.exchange hm ⟨hsound.built, horderly.declared⟩ (fun hbusy => absurd rfl hbusy)
        (.inr hapart)
    refine settle (hset.sameFrames rfl rfl rfl id rfl) (machineAt?_setMachine_self hm) ?_
    exact ⟨fun hcreated => absurd hcreated (hlive place m rfl hm), fun _ => .inr hne⟩
  | @halted place other m progress hm hresult =>
    cases hcell.symm.trans (cell?_machine hm other)
    have hset : (w.setMachine place m.halt).SoundBut (some place) :=
      h.exchange hm ⟨hsound.built, .empty⟩ (fun hbusy => absurd rfl hbusy) (.inr hapart)
    refine settle (hset.sameFrames rfl rfl rfl id rfl) (machineAt?_setMachine_self hm) ?_
    exact ⟨nofun, nofun⟩
  | @aborted place other m progress f hm hresult =>
    cases hcell.symm.trans (cell?_machine hm other)
    exact h.abort hm ⟨hsound.built, horderly.declared⟩ (hlive place m rfl hm) (.inr hapart)
  | @judged type m progress result w' hm hresult hback =>
    cases hcell.symm.trans (cell?_monitor hm)
    have htype : m.type = type := type_of_monitor? hm
    let m' : Monitor σ := { m with cell := { m.cell with stack := progress.stack } }
    have hcell' : m'.cell.Sound := ⟨hsound.built, horderly.declared⟩
    have hset : (w.setMonitor m').Sound := h.exchangeMonitor hm htype hcell' (.inr hapart)
    exact hset.concludeMonitor (monitor?_setMonitor_self hm m' htype) hcell' hapart hback

end SoundBut

/-! ## Dispatches -/

/-- A dispatch that the world is to carry on: whose it is, the cell as of now, what the
dispatch is told, and how far it comes before an action runs. -/
inductive Dispatches (sys : System σ) (w : World σ) :
    Actor → Cell σ → Prompt → Progress → Prop
  /-- A machine starts. -/
  | start {place : Place} {rest : List (Frame σ)} {m : Machine σ}
      (hframes : w.frames = .ready place :: rest) (hm : w.machineAt? place = some m)
      (hcreated : m.lifecycle = .created) :
      Dispatches sys w (.machine place m.id) m.cell (.ok none)
        (((Actor.machine place m.id).engine m.cell).start m.cell.stack (.start m.startPayload))
  /-- A machine handles the event that it has picked. -/
  | handle {place : Place} {rest : List (Frame σ)} {m : Machine σ} {e : Event}
      {left : List Event} (hframes : w.frames = .ready place :: rest)
      (hm : w.machineAt? place = some m) (hactive : m.lifecycle = .active)
      (hselect : ((Actor.machine place m.id).engine m.cell).select m.cell.stack m.mailbox
        = .ok (some e, left)) :
      Dispatches sys w (.machine place m.id) m.cell (.ok e.target)
        (((Actor.machine place m.id).engine m.cell).handle m.cell.stack e)
  /-- An action of a machine or of a monitor has ended. -/
  | answer {actor : Actor} {p : Paused} {c : Context} {verdict : Verdict}
      {rest : List (Frame σ)} {cell : Cell σ}
      (hframes : w.frames = .acting actor p c (.running (.done verdict)) :: rest)
      (hcell : w.cell? actor = some cell) :
      Dispatches sys w actor cell (.ofReply (c.answer verdict))
        ((actor.engine cell).answer cell.stack p (c.answer verdict))
  /-- A monitor starts. -/
  | register {type : String} {cell : Cell σ} {registry : Registry σ}
      (hfetch : w.registry.fetch sys.catalog .monitor type = .ok (cell.blueprint, registry)) :
      Dispatches sys w (.monitor type) cell (.ok none)
        (((Actor.monitor type).engine cell).start .empty (.start none))
  /-- A monitor handles an event. -/
  | notify {type : String} {m : Monitor σ} {e : Event} (hm : w.registered? type = some m)
      (hsendable : e.checkSendable = .ok ()) :
      Dispatches sys w (.monitor type) m.cell (.ok e.target)
        (((Actor.monitor type).engine m.cell).handle m.cell.stack e)

/-- Users cannot send an instruction to move. -/
theorem target_of_checkSendable {e : Event} (h : e.checkSendable = .ok ()) : e.target = none := by
  cases e with
  | message => rfl
  | goto target => contradiction

/-- A registered monitor is one of the monitors. -/
theorem monitor?_of_registered? {w : World σ} {type : String} {m : Monitor σ}
    (h : w.registered? type = some m) : w.monitor? type = some m :=
  (Option.filter_eq_some_iff.mp h).1

/-- A new monitor is the one of its type. -/
theorem monitor?_withMonitor {w : World σ} {registry : Registry σ} {m : Monitor σ} :
    (w.withMonitor registry m).monitor? m.type = some m := by
  have hothers : (w.removeMonitor m.type).monitors.find? (·.type == m.type) = none := by
    simp [World.removeMonitor]
  simp [monitor?, withMonitor, hothers]

section Orderly

variable {sys : System σ} {w : World σ} {actor : Actor} {cell : Cell σ} {prompt : Prompt}
  {progress : Progress}

/-- Where everything is sound, a dispatch begins and goes on as it should. -/
theorem Dispatches.orderly (h : w.Sound) (hd : w.Dispatches sys actor cell prompt progress) :
    cell.blueprint.Built ∧ progress.Orderly cell.blueprint.automaton prompt := by
  cases hd with
  | @start place rest m hframes hm hcreated =>
    have hbuilt : m.cell.blueprint.Built := (h.cell hm).built
    have hclosed : ((Actor.machine place m.id).engine m.cell).automaton.Closed := hbuilt.closed
    refine ⟨hbuilt, ?_⟩
    rw [(h.grounded hm nofun).created hcreated]
    exact Engine.orderly_start hclosed
  | @handle place rest m e left hframes hm hactive hselect =>
    have hsound : m.cell.Sound := h.cell hm
    have hclosed : ((Actor.machine place m.id).engine m.cell).automaton.Closed :=
      hsound.built.closed
    obtain ⟨top, _, htop, _⟩ := Engine.select_eq_ok hselect
    refine ⟨hsound.built, ?_⟩
    exact Engine.orderly_deliver hclosed hsound.declared rfl fun _ => Stack.frames_ne_nil htop
  | @answer actor p c verdict rest cell hframes hcell =>
    have hframe : Frame.Sound w (.acting actor p c (.running (.done verdict))) :=
      h.frame (hframes ▸ List.mem_cons_self)
    obtain ⟨_, hcell', hwaits⟩ := hframe
    cases hcell.symm.trans hcell'
    have hbuilt : cell.blueprint.Built := (h.of_cell? hcell).built
    have hclosed : (actor.engine cell).automaton.Closed := hbuilt.closed
    exact ⟨hbuilt, Engine.orderly_answer hclosed hwaits _⟩
  | @register type cell registry hfetch =>
    have hbuilt : cell.blueprint.Built := (h.registry.fetch hfetch).1
    have hclosed : ((Actor.monitor type).engine cell).automaton.Closed := hbuilt.closed
    exact ⟨hbuilt, Engine.orderly_start hclosed⟩
  | @notify type m e hm hsendable =>
    have hsound : m.cell.Sound :=
      h.monitor (List.mem_of_find?_eq_some (monitor?_of_registered? hm))
    have hclosed : ((Actor.monitor type).engine m.cell).automaton.Closed := hsound.built.closed
    refine ⟨hsound.built, Engine.orderly_deliver hclosed hsound.declared rfl ?_⟩
    intro htarget
    exact absurd (target_of_checkSendable hsendable) htarget

end Orderly

/-! ## Runs -/

section Runs

variable {sys : System σ} {w w' : World σ} {lost : List Place} {seen : List Traffic}

/-- Beneath the frame of a machine there is no other frame of it. -/
theorem apart_of_machine {f : Frame σ} {rest : List (Frame σ)} {place : Place} {id : MachineId}
    (h : w.Accounted (lost ++ w.runs)) (hframes : w.frames = f :: rest)
    (hplace : f.place? = some place) : Apart { w with frames := rest } (.machine place id) :=
  h.place?_ne_of_frames hframes hplace

/-- Beneath the frame of a monitor there are frames of machines only. -/
theorem apart_of_beneath {rest : List (Frame σ)} {type : String}
    (h : Beneath (.monitor type) rest) : Apart { w with frames := rest } (.monitor type) := by
  have hblocked {g : Frame σ} (hg : g.Blocked) : g.place? ≠ none := by
    cases hg
    exact nofun
  intro f hf
  cases h with
  | outside => contradiction
  | notifying hnotifying hrest =>
    rcases List.mem_cons.mp hf with rfl | hf
    · cases hnotifying
      exact nofun
    · exact hblocked (hrest f hf)

theorem apart_of_idle (hidle : w.frames = []) (actor : Actor) : w.Apart actor := by
  rw [Apart, hidle]
  exact List.forall_mem_nil _

/-- The dispatch of a monitor is carried on, above the frames of machines only. -/
theorem Carried.sound_of_monitor {type : String} {m : Monitor σ} {prompt : Prompt}
    {progress : Progress} (hcarried : Carried w (.monitor type) progress w') (h : w.Sound)
    (hapart : w.Apart (.monitor type)) (hm : w.monitor? type = some m)
    (horderly : progress.Orderly m.cell.blueprint.automaton prompt) : w'.Sound := by
  refine h.carried hcarried hapart (cell?_monitor hm) ?_ horderly
  intro place m hplace
  contradiction

/-- The first dispatch of a turn is carried on. -/
theorem Carried.sound_of_ready {place : Place} {rest : List (Frame σ)} {m m' : Machine σ}
    {prompt : Prompt} {progress : Progress}
    (hcarried : Carried ({ w with frames := rest }.setMachine place m') (.machine place m.id)
      progress w')
    (haccounted : w.Accounted (lost ++ w.runs)) (h : w.Sound)
    (hframes : w.frames = .ready place :: rest) (hm : w.machineAt? place = some m)
    (hcell : m'.cell = m.cell) (hlive : m'.lifecycle ≠ .created)
    (horderly : progress.Orderly m.cell.blueprint.automaton prompt) : w'.Sound := by
  let popped : World σ := { w with frames := rest }
  have hpopped : popped.SoundBut (some place) := (h.weaken (some place)).popFrame hframes
  have hm' : (popped.setMachine place m').machineAt? place = some m' :=
    machineAt?_setMachine_self hm
  have hbegun : (popped.setMachine place m').SoundBut (some place) :=
    hpopped.exchange hm (hcell ▸ h.cell hm) (fun hbusy => absurd rfl hbusy)
      (.inl ⟨by rw [hcell], by rw [hcell]⟩)
  have hapart : (popped.setMachine place m').Apart (.machine place m.id) :=
    apart_of_machine haccounted hframes rfl
  refine hbegun.carried hcarried hapart (cell?_machine hm' m.id) ?_ (hcell ▸ horderly)
  rintro _ m'' ⟨⟩ hm''
  cases hm'.symm.trans hm''
  exact hlive

/-- A dispatch is carried on when its action has answered. -/
theorem Carried.sound_of_answer {actor : Actor} {p : Paused} {c : Context} {stage : Stage σ}
    {rest : List (Frame σ)} {cell : Cell σ} {prompt : Prompt} {progress : Progress}
    (hcarried : Carried { w with frames := rest } actor progress w')
    (haccounted : w.Accounted (lost ++ w.runs)) (h : w.Sound)
    (hframes : w.frames = .acting actor p c stage :: rest) (hbeneath : Beneath actor rest)
    (hcell : w.cell? actor = some cell)
    (horderly : progress.Orderly cell.blueprint.automaton prompt) : w'.Sound := by
  have hpopped : SoundBut { w with frames := rest } actor.place? :=
    (h.weaken actor.place?).popFrame hframes
  have hapart : Apart { w with frames := rest } actor := by
    cases actor with
    | machine place id => exact apart_of_machine haccounted hframes rfl
    | monitor type => exact apart_of_beneath hbeneath
  refine hpopped.carried hcarried hapart hcell ?_ horderly
  intro place m hplace hm hcreated
  -- An action has been waited for, so the stack is not as it was before the start.
  have hframe : Frame.Sound w (.acting actor p c stage) := h.frame (hframes ▸ List.mem_cons_self)
  obtain ⟨cell', hcell', hwaits⟩ := hframe
  cases actor with
  | monitor type => contradiction
  | machine other id =>
    cases hplace
    cases (cell?_machine hm id).symm.trans hcell'
    apply Stack.frames_ne_nil hwaits.top
    rw [(h.grounded hm nofun).created hcreated]
    rfl

/-- Every small step keeps everything sound. -/
theorem Transition.sound (haccounted : w.Accounted (lost ++ w.runs)) (hnested : w.Nested)
    (h : w.Sound) (ht : Transition sys w seen w') : w'.Sound := by
  cases ht with
  | start hframes hm hcreated hcarried =>
    have hd : w.Dispatches sys _ _ _ _ := .start hframes hm hcreated
    exact hcarried.sound_of_ready haccounted h hframes hm rfl nofun (hd.orderly h).2
  | @dispatch place rest m e left _ hframes hm hactive hfailed hselect hcarried =>
    have hd : w.Dispatches sys _ _ _ _ := .handle hframes hm hactive hselect
    have hlive : m.lifecycle ≠ .created := by
      rw [hactive]
      exact nofun
    exact hcarried.sound_of_ready haccounted h hframes hm rfl hlive (hd.orderly h).2
  | rest hframes hm hactive hfailed hselect =>
    exact .retire ((h.popFrame hframes).alter hm rfl rfl)
  | @unselectable place rest m f hframes hm hactive hfailed hselect =>
    have hpopped : SoundBut { w with frames := rest } (some place) :=
      (h.weaken (some place)).popFrame hframes
    have hlive : m.lifecycle ≠ .created := by
      rw [hactive]
      exact nofun
    exact hpopped.abort hm (h.cell hm) hlive (.inl ⟨rfl, rfl⟩)
  | stop hframes hm hwhy => exact .retire ((h.popFrame hframes).alter hm rfl rfl)
  | answer hframes hcell hcarried =>
    have hd : w.Dispatches sys _ _ _ _ := .answer hframes hcell
    exact hcarried.sound_of_answer haccounted h hframes (hnested.beneath hframes) hcell
      (hd.orderly h).2
  | panic hpropagate => exact h.congr rfl rfl rfl id (List.forall_mem_nil _)
  | goOn hframes => exact h.replaceFrame hframes
  | store hframes hcell =>
    exact (h.store hcell _).replaceFrame ((setCell_frames ..).trans hframes)
  | remark hframes => exact (h.replaceFrame hframes).sameFrames rfl rfl rfl id rfl
  | send hframes hdeliver =>
    have hdelivered := delivered_of_deliver hdeliver
    exact (h.delivered hdelivered).replaceFrame (hdelivered.frames.trans hframes)
  | create hframes hcreate =>
    have hgrown := h.create hcreate
    obtain ⟨blueprint, registry, rfl⟩ := create_eq_ok hcreate
    exact hgrown.replaceFrame hframes
  | @notify place id p c type e next rest m _ hframes hm hcarried hsendable =>
    let frame : Frame σ := .acting (.machine place id) p c (.notifying next)
    have hpushed : Sound { w with frames := frame :: rest } := h.replaceFrame hframes
    have hapart : Apart { w with frames := frame :: rest } (.monitor type) := by
      cases hnested.beneath hframes with
      | machine hbelow => exact apart_of_beneath (.notifying .notifying hbelow)
    have hd : w.Dispatches sys _ _ _ _ := .notify hm hsendable
    exact hcarried.sound_of_monitor hpushed hapart (monitor?_of_registered? hm) (hd.orderly h).2
  | take hframes hm htake => exact (h.replaceFrame hframes).alter hm rfl rfl
  | block hframes hm htake => exact (h.replaceFrame hframes).alter hm rfl rfl
  | resume hframes hm hreceived => exact (h.replaceFrame hframes).alter hm rfl rfl
  | giveUp hframes hm hreceived hgiven =>
    have hgivenSound := hgiven.keeps (P := Sound) h (h.markBound sys.config)
    have hm' := (machineAt?_congr hgiven.machines _).trans hm
    have hframes' := hgiven.frames.trans hframes
    exact (hgivenSound.replaceFrame hframes').alter hm' rfl rfl
  | turn hframes hm hreceived hfailed hbounded hindex =>
    exact (h.markBound sys.config).beginTurn _

/-- Every operation from outside keeps everything sound. -/
theorem Operated.sound (hidle : w.frames = []) (h : w.Sound) (ho : Operated sys w seen w') :
    w'.Sound := by
  cases ho with
  | unchanged => exact h
  | create hcreate => exact h.create hcreate
  | send hdeliver => exact h.delivered (delivered_of_deliver hdeliver)
  | fail f => exact h.fail f
  | describe registry hfetch =>
    exact ⟨(h.registry.fetch hfetch).2, h.cell, h.grounded, h.monitor, h.frame⟩
  | @register type m registry _ htype hcarried hfetch hfresh =>
    subst htype
    obtain ⟨hbuilt, hregistry⟩ := h.registry.fetch hfetch
    have hcell : m.cell.Sound := ⟨hbuilt, hfresh ▸ .empty⟩
    have hadded : (w.withMonitor registry m).Sound := h.addMonitor hregistry hcell hidle
    have hd : w.Dispatches sys _ _ _ _ := .register hfetch
    exact hcarried.sound_of_monitor hadded (apart_of_idle hidle _) monitor?_withMonitor
      (hd.orderly h).2
  | notify hm hcarried hsendable =>
    have hd : w.Dispatches sys _ _ _ _ := .notify hm hsendable
    exact hcarried.sound_of_monitor h (apart_of_idle hidle _) (monitor?_of_registered? hm)
      (hd.orderly h).2
  | step hindex => exact h.beginTurn _
  | settle hend => exact h.markBound sys.config
  | run hindex => exact (h.markBound sys.config).beginTurn _

/-- In all runs of a serial system everything is sound. -/
theorem Run.sound {log : List Traffic} (hserial : sys.config.serial = true)
    (hrun : Run sys w log) : w.Sound := by
  induction hrun with
  | empty => exact .fresh rfl rfl rfl rfl
  | next hrun hnext ih =>
    obtain ⟨lost, haccounted, _⟩ := hrun.exists_accounted hserial
    exact (next_leadsTo hserial hnext).sound haccounted (hrun.nested hserial) ih
  | outside hrun hidle hi ih => exact (hi.operated hserial hidle).sound hidle ih
  | reset hrun hidle ih => exact .fresh rfl rfl rfl rfl

end Runs

/-! ## Failures -/

section Failures

variable {sys : System σ} {w w' : World σ} {actor : Actor} {cell : Cell σ} {prompt : Prompt}
  {progress : Progress} {f : Failure} {v : Violation}

/-- No action is missing. -/
theorem Dispatches.exists_action (h : w.Sound) (hd : w.Dispatches sys actor cell prompt progress)
    {p : Paused} (hpaused : progress.outcome = .paused p) :
    ∃ action, cell.blueprint.action? p.invocation.action = some action := by
  obtain ⟨hbuilt, horderly⟩ := hd.orderly h
  exact hbuilt.exists_action_of_runs (horderly.waits hpaused).runs

/-- A dispatch is not refused: if its failure says so, an action has told it. -/
theorem Dispatches.told (h : w.Sound) (hd : w.Dispatches sys actor cell prompt progress)
    (hf : progress.outcome = .failed f) (hv : v = .alreadyStarted ∨ v = .emptyStack)
    (hmessage : f.message = v.message) :
    ∃ g, prompt = .error g ∧ f = g.inState progress.stack.top? := by
  have hstructural : v.isStructural = true := by rcases hv with rfl | rfl <;> rfl
  rcases (hd.orderly h).2.of_structural hf hstructural hmessage with htold | ⟨id, rfl, _⟩
  · exact htold
  · rcases hv with hv | hv <;> contradiction

/-- With no action missing, the failure with which a dispatch ends is its own. -/
theorem Dispatches.failed_of_result? (h : w.Sound)
    (hd : w.Dispatches sys actor cell prompt progress)
    (hresult : progress.result? cell.blueprint = some (.error f)) :
    progress.outcome = .failed f := by
  unfold Progress.result? at hresult
  split at hresult
  · cases hresult
  · rename_i g hfailed
    cases hresult
    exact hfailed
  · rename_i p hpaused
    obtain ⟨action, haction⟩ := hd.exists_action h hpaused
    simp [haction] at hresult

/-- A declared state can always look for an event. -/
theorem exists_select {en : Engine} {stack : Stack} (hstack : stack.Declared en.automaton)
    (hne : stack.frames ≠ []) (mailbox : List Event) :
    ∃ selected, en.select stack mailbox = .ok selected := by
  obtain ⟨top, htop⟩ := Stack.exists_top hne
  obtain ⟨state, hstate⟩ := hstack.state? htop
  exact ⟨state.select mailbox, by simp [Engine.select, htop, hstate]⟩

/-- Where a run breaks down in a way that is recorded, and its failure is that of a
dispatch that is refused, an action has told it. -/
theorem BreaksDown.told {id : MachineId} (h : w.Sound) (hbreaks : BreaksDown sys w id f)
    (hbounded : w.bounded = false) (hv : v = .alreadyStarted ∨ v = .emptyStack)
    (hmessage : f.message = v.message) :
    ∃ actor p c verdict rest g, w.frames = .acting actor p c (.running (.done verdict)) :: rest ∧
      c.answer verdict = .error g ∧ g.message = v.message := by
  cases hbreaks with
  | start hframes hm hcreated hresult =>
    have hd : w.Dispatches sys _ _ _ _ := .start hframes hm hcreated
    obtain ⟨g, hprompt, _⟩ := hd.told h (hd.failed_of_result? h hresult) hv hmessage
    contradiction
  | dispatch hframes hm hactive hfailed hselect hresult =>
    have hd : w.Dispatches sys _ _ _ _ := .handle hframes hm hactive hselect
    obtain ⟨g, hprompt, _⟩ := hd.told h (hd.failed_of_result? h hresult) hv hmessage
    contradiction
  | @unselectable place rest m f hframes hm hactive hfailed hselect =>
    -- An active machine has a state, unless it is excused; and then nothing is recorded.
    rcases (h.grounded hm nofun).active hactive with (hmarked | hexcused) | hne
    · rw [hbounded] at hmarked
      contradiction
    · rw [hfailed] at hexcused
      contradiction
    · have hdeclared : m.cell.stack.Declared ((Actor.machine place m.id).engine m.cell).automaton :=
        (h.cell hm).declared
      obtain ⟨selected, hok⟩ := exists_select hdeclared hne m.mailbox
      rw [hselect] at hok
      contradiction
  | @answer place other p c verdict rest m f hframes hm hcaught hresult =>
    have hd : w.Dispatches sys _ _ _ _ := .answer hframes (cell?_machine hm other)
    obtain ⟨g, hprompt, rfl⟩ := hd.told h (hd.failed_of_result? h hresult) hv hmessage
    refine ⟨_, p, c, verdict, rest, g, hframes, ?_, hmessage⟩
    cases hanswer : c.answer verdict with
    | ok t =>
      rw [hanswer] at hprompt
      contradiction
    | error g' =>
      rw [hanswer] at hprompt
      cases hprompt
      rfl

/-- The failure that a step records is that of the run that breaks down with it. -/
theorem exists_breaksDown (hserial : sys.config.serial = true) (hstep : (w.next sys).LeadsTo w')
    (hrecorded : w'.failure = some f) (hnew : w.failure ≠ some f) :
    w.bounded = false ∧ ∃ id g, BreaksDown sys w id g ∧ f = g.inMachine id.text := by
  have hchanged : w'.failure ≠ w.failure := fun hsame => hnew (hsame.symm.trans hrecorded)
  obtain ⟨id, g, hbreaks⟩ := breaksDown_of_next hserial hstep hchanged
  obtain ⟨ended, hmove, htally⟩ := hbreaks.collapses
  rw [hmove, endRun_leadsTo] at hstep
  subst hstep
  have hfailure : w'.failure = (w.tally.abort (g.inMachine id.text)).failure :=
    congrArg Tally.failure htally
  have hbounded : w.bounded = false := by
    refine Bool.eq_false_iff.mpr fun hmarked => hchanged ?_
    rw [hfailure, Tally.abort_of_bounded hmarked]
    rfl
  refine ⟨hbounded, id, g, hbreaks, ?_⟩
  rw [Tally.abort_failure hbounded] at hfailure
  have hsome : some f = some (w.failure.getD (g.inMachine id.text)) :=
    hrecorded.symm.trans hfailure
  cases hbefore : w.failure with
  | none =>
    rw [hbefore] at hsome
    exact Option.some.inj hsome
  | some first =>
    rw [hbefore] at hsome
    exact absurd (hbefore.trans hsome.symm) hnew

end Failures

/-! ## Results -/

/-- What the next steps of a world keep to: the dispatches that they carry on, and the
failures that they record. -/
structure Confined (sys : System σ) (w : World σ) : Prop where
  /-- A dispatch keeps to the declaration of its type. -/
  dispatch {actor : Actor} {cell : Cell σ} {prompt : Prompt} {progress : Progress}
    (hd : w.Dispatches sys actor cell prompt progress) :
    progress.Confined cell.blueprint.automaton prompt
  /-- The type binds each action that a dispatch waits for. -/
  bound {actor : Actor} {cell : Cell σ} {prompt : Prompt} {progress : Progress} {p : Paused}
    (hd : w.Dispatches sys actor cell prompt progress) (hpaused : progress.outcome = .paused p) :
    ∃ action, cell.blueprint.action? p.invocation.action = some action
  /-- No dispatch is refused as a second start, or for want of a state, unless an action
  has told so. -/
  told {actor : Actor} {cell : Cell σ} {prompt : Prompt} {progress : Progress} {f : Failure}
    {v : Violation} (hd : w.Dispatches sys actor cell prompt progress)
    (hf : progress.outcome = .failed f) (hv : v = .alreadyStarted ∨ v = .emptyStack)
    (hmessage : f.message = v.message) :
    ∃ g, prompt = .error g ∧ f = g.inState progress.stack.top?
  /-- No such failure is recorded, unless an action has told it. -/
  recorded {w' : World σ} {f : Failure} {v : Violation} (hstep : (w.next sys).LeadsTo w')
    (hrecorded : w'.failure = some f) (hnew : w.failure ≠ some f)
    (hv : v = .alreadyStarted ∨ v = .emptyStack) (hmessage : f.message = v.message) :
    ∃ actor p c verdict rest g, w.frames = .acting actor p c (.running (.done verdict)) :: rest ∧
      c.answer verdict = .error g ∧ g.message = v.message

theorem Run.confined {sys : System σ} {w : World σ} {log : List Traffic}
    (hserial : sys.config.serial = true) (hrun : Run sys w log) : w.Confined sys where
  dispatch := fun hd => (hd.orderly (hrun.sound hserial)).2.confined
  bound := fun hd => hd.exists_action (hrun.sound hserial)
  told := fun hd => hd.told (hrun.sound hserial)
  recorded := by
    intro w' f v hstep hrecorded hnew hv hmessage
    obtain ⟨hbounded, id, g, hbreaks, rfl⟩ := exists_breaksDown hserial hstep hrecorded hnew
    exact hbreaks.told (hrun.sound hserial) hbounded hv hmessage

end World

/-- Types that have been checked do not fail for what their declarations leave out. However
an engine is used, each of its dispatches keeps to the declaration, and whoever runs the
actions, the frames are declared states when a run has ended. The type of a dispatch
that waits for an action binds it. And in a serial system each dispatch keeps to its
declaration as well, none is refused, and no failure is recorded that says so, unless
it is what an action has failed with. -/
theorem dispatches_confined :
    (∀ {type : String} {kind : Kind} {d : Declaration} {en : Engine},
      Automaton.build type kind d = .ok en.automaton →
        ∀ {prompt : Prompt} {progress : Progress}, en.Used prompt progress →
          progress.Confined en.automaton prompt ∧
            ∀ {ι : Type} (invoke : ι → Invocation → Except Failure Transition × ι) (fuel : Nat)
              (i : ι) {stack : Stack} {result : Except Failure Status} {i' : ι},
              en.run invoke fuel i progress = some (stack, result, i') →
                stack.Declared en.automaton) ∧
    (∀ {σ : Type} {b : Blueprint σ}, b.Built →
      ∀ {discipline : Discipline} {prompt : Prompt} {stack : Stack} {p : Paused},
        Engine.Used ⟨b.automaton, discipline⟩ prompt ⟨stack, .paused p⟩ →
          ∃ action, b.action? p.invocation.action = some action) ∧
    ∀ {σ : Type} {sys : System σ} {w : World σ} {log : List Traffic},
      sys.config.serial = true → World.Run sys w log → w.Confined sys := by
  refine ⟨?_, ?_, ?_⟩
  · intro type kind d en hbuild prompt progress hused
    have hclosed : en.automaton.Closed := Automaton.closed_of_build hbuild
    refine ⟨hused.confined hclosed, ?_⟩
    intro ι invoke fuel i stack result i' hrun
    obtain ⟨prompt', outcome, hended, _⟩ := hused.run hrun
    exact (hended.confined hclosed).frames
  · intro σ b hbuilt discipline prompt stack p hused
    have hclosed : (Engine.mk b.automaton discipline).automaton.Closed := hbuilt.closed
    exact hbuilt.exists_action_of_runs ((hused.confined hclosed).action rfl)
  · intro σ sys w log hserial hrun
    exact hrun.confined hserial

namespace Exchange

/-- The type of the asker, as it is built. -/
def asking : Blueprint Unit where
  automaton :=
    { name := "Asker"
      kind := .machine
      states := [{ id := ⟨"Asking"⟩, entry := some "go", exit := none, reactions := [],
                   hot := false, cold := false }]
      start := ⟨"Asking"⟩
      declaration := asker.declaration }
  actions := asker.actions

def engine : Engine := ⟨asking.automaton, .stack⟩

/-- The asker waits for its entry action. -/
def entering : Progress :=
  ⟨⟨[⟨"Asking"⟩]⟩, .paused ⟨⟨"go", .entry, ⟨"Asking"⟩, .start none⟩, .apply⟩⟩

theorem built_asking : Blueprint.build "Asker" .machine asker = .ok asking := rfl

theorem used_entering : engine.Used (.ok none) entering :=
  Engine.Used.start .fresh nofun (.start none)

end Exchange

theorem dispatches_confined_exchange :
    Automaton.build "Asker" .machine Exchange.asker.declaration = .ok Exchange.engine.automaton ∧
      Exchange.engine.Used (.ok none) Exchange.entering ∧ Exchange.asking.Built ∧
      Exchange.system.config.serial = true ∧
      World.Run Exchange.system Exchange.opened [] ∧
      Exchange.entering.Confined Exchange.engine.automaton (.ok none) ∧
      (∃ action, Exchange.asking.action? "go" = some action) ∧
      ∃ actor cell prompt progress,
        Exchange.opened.Dispatches Exchange.system actor cell prompt progress ∧
          progress.Confined cell.blueprint.automaton prompt := by
  have hbuild : Automaton.build "Asker" .machine Exchange.asker.declaration
      = .ok Exchange.engine.automaton := rfl
  have hbuilt : Exchange.asking.Built := ⟨_, _, _, Exchange.built_asking⟩
  have hd : Exchange.opened.Dispatches Exchange.system _ _ _ _ := .start rfl rfl rfl
  exact ⟨hbuild, Exchange.used_entering, hbuilt, rfl, Exchange.run_opened,
    (dispatches_confined.1 hbuild Exchange.used_entering).1,
    dispatches_confined.2.1 hbuilt Exchange.used_entering,
    _, _, _, _, hd, (dispatches_confined.2.2 rfl Exchange.run_opened).dispatch hd⟩

end PushdownActors
