-- SUMMARY: What is done with a machine from its creation on: one start, turns and actions after it, and nothing once it has halted.
import PushdownActors.Proofs.Aftermath
import PushdownActors.Proofs.Integrity

/-!
# Lifetimes

A machine is created, starts, and may halt. It starts in its first turn: whatever has come
to its mailbox by then has to wait until its start state has been entered. It can halt in
any dispatch, also in its first one or in one that other machines wait beneath, and from
then on it is only there to be addressed. Events that are sent to it are dropped, and no
run of it is left that could do anything.

What is done with machines is written down here as a list of deeds, which a step adds to.
-/

namespace PushdownActors

/-! ## Deeds -/

/-- What is done with the machine at a place. -/
inductive Deed where
  /-- It is created, with the payload that it will start with. -/
  | created (place : Place) (payload : Option Value)
  /-- It has a turn, which enters its start state. -/
  | started (place : Place) (payload : Option Value)
  /-- It has a turn, which looks for an event in its mailbox. -/
  | looked (place : Place)
  /-- It has a turn, which is over at once. -/
  | passed (place : Place)
  /-- One of its actions is invoked. -/
  | invoked (place : Place) (x : Invocation)
  deriving DecidableEq

namespace Deed

/-- Where it is done. -/
def place : Deed → Place
  | created place _ | started place _ | looked place | passed place | invoked place _ => place

/-- It belongs to the beginning of a machine, and is done once. -/
def isBeginning : Deed → Bool
  | created .. | started .. => true
  | looked _ | passed _ | invoked .. => false

end Deed

/-- The deeds at a place, in order. -/
def deedsAt (deeds : List Deed) (place : Place) : List Deed :=
  deeds.filter (·.place == place)

theorem deedsAt_append (deeds later : List Deed) (place : Place) :
    deedsAt (deeds ++ later) place = deedsAt deeds place ++ deedsAt later place :=
  List.filter_append ..

theorem mem_deedsAt {deeds : List Deed} {place : Place} {d : Deed} :
    d ∈ deedsAt deeds place ↔ d ∈ deeds ∧ d.place = place := by
  simp [deedsAt]

theorem deedsAt_eq_nil {deeds : List Deed} {place : Place} :
    deedsAt deeds place = [] ↔ ∀ d ∈ deeds, d.place ≠ place := by
  simp [deedsAt]

namespace World

/-- What a turn is for that has just begun. -/
def turn (w : World σ) : List Deed :=
  match w.frames with
  | .ready place :: _ =>
    match w.machineAt? place with
    | some m =>
      match m.lifecycle with
      | .created => [.started place m.startPayload]
      | .active => if w.hasFailed then [.passed place] else [.looked place]
      | .halted => [.passed place]
    | none => []
  | _ => []

/-- The action that a step has invoked: it is the innermost one afterwards, and the journal
tells that it was invoked last. -/
def invocation (w w' : World σ) : List Deed :=
  match w'.frames with
  | .acting (.machine place id) p _ _ :: _ =>
    if w'.journal = .invoked (.machine id) p.invocation :: w.journal then
      [.invoked place p.invocation]
    else []
  | _ => []

/-- The machines that a step has added. -/
def creations (w w' : World σ) : List Deed :=
  ((w'.machines.drop w.machines.length).zipIdx w.machines.length).map fun (m, place) =>
    .created place m.startPayload

/-- What a step from the first to the second world does with machines. -/
def deeds (w w' : World σ) : List Deed :=
  w.turn ++ w.invocation w' ++ w.creations w'

/-- A small step, or an operation from outside while nothing is in progress. -/
inductive Proceeds (sys : System σ) (w : World σ) : World σ → Prop
  | next {w' : World σ} (hnext : (w.next sys).LeadsTo w') : Proceeds sys w w'
  | outside {w' : World σ} {seen : List Traffic} (hidle : w.frames = [])
      (hi : Intervention sys w seen w') : Proceeds sys w w'

/-- The worlds that a run comes to from a world on without a reset, and what is done with
machines on the way. -/
inductive Chronicle (sys : System σ) (w : World σ) : List Deed → World σ → Prop
  | refl : Chronicle sys w [] w
  | proceed {w' w'' : World σ} {deeds : List Deed} (h : Chronicle sys w deeds w')
      (hp : Proceeds sys w' w'') : Chronicle sys w (deeds ++ w'.deeds w'') w''

theorem Proceeds.run {sys : System σ} {w w' : World σ} (h : Proceeds sys w w')
    {log : List Traffic} (hrun : Run sys w log) : ∃ log', Run sys w' log' := by
  cases h with
  | next hnext => exact ⟨_, hrun.next hnext⟩
  | outside hidle hi => exact ⟨_, hrun.outside hidle hi⟩

theorem Chronicle.run {sys : System σ} {w w' : World σ} {deeds : List Deed}
    (h : Chronicle sys w deeds w') {log : List Traffic} (hrun : Run sys w log) :
    ∃ log', Run sys w' log' := by
  induction h with
  | refl => exact ⟨log, hrun⟩
  | proceed _ hp ih =>
    obtain ⟨log', hrun'⟩ := ih
    exact hp.run hrun'

end World

/-! ## Machines -/

/-- From one stage of its life a machine comes to the next one only. -/
inductive Lifecycle.LeadsTo : Lifecycle → Lifecycle → Prop
  | stays (l : Lifecycle) : LeadsTo l l
  | starts : LeadsTo .created .active
  | halts : LeadsTo .active .halted

namespace Machine

/-- A machine that has halted is as halting leaves it. -/
def Finished (m : Machine σ) : Prop := m.lifecycle = .halted → m.halt = m

/-- What a step makes of a machine. It starts only in a turn of its own. -/
inductive Ages (turn : Prop) (m m' : Machine σ) : Prop
  | stays (hlife : m'.lifecycle = m.lifecycle) (hpayload : m'.startPayload = m.startPayload)
      (hhalted : m.lifecycle = .halted → m' = m)
  | starts (hturn : turn) (hcreated : m.lifecycle = .created) (hactive : m'.lifecycle = .active)
  | halts (hactive : m.lifecycle = .active) (hhalted : m'.lifecycle = .halted)
      (hfinished : m'.Finished)

namespace Ages

variable {turn : Prop} {m m' : Machine σ}

theorem refl (m : Machine σ) : m.Ages turn m := .stays rfl rfl fun _ => rfl

/-- A machine that has not halted goes on in its stage. -/
theorem goesOn (hlife : m'.lifecycle = m.lifecycle) (hpayload : m'.startPayload = m.startPayload)
    (hlive : m.lifecycle ≠ .halted) : m.Ages turn m' :=
  .stays hlife hpayload fun hhalted => absurd hhalted hlive

theorem leadsTo (h : m.Ages turn m') : m.lifecycle.LeadsTo m'.lifecycle := by
  cases h with
  | stays hlife => exact hlife ▸ .stays _
  | starts _ hcreated hactive => exact hcreated ▸ hactive ▸ .starts
  | halts hactive hhalted => exact hactive ▸ hhalted ▸ .halts

theorem finished (h : m.Ages turn m') (hm : m.Finished) : m'.Finished := by
  intro hhalted'
  cases h with
  | stays hlife _ hhalted =>
    have hold : m.lifecycle = .halted := hlife.symm.trans hhalted'
    rw [hhalted hold]
    exact hm hold
  | starts _ _ hactive =>
    rw [hactive] at hhalted'
    contradiction
  | halts _ _ hfinished => exact hfinished hhalted'

/-- A machine that has halted stays as it is. -/
theorem eq_of_halted (h : m.Ages turn m') (hhalted : m.lifecycle = .halted) : m' = m := by
  cases h with
  | stays _ _ hsame => exact hsame hhalted
  | starts _ hcreated =>
    rw [hhalted] at hcreated
    contradiction
  | halts hactive =>
    rw [hhalted] at hactive
    contradiction

end Ages

end Machine

namespace World

/-! ## Steps -/

/-- What a step makes of the machines of a world. -/
structure Ages (w w' : World σ) : Prop where
  machine {place : Place} {m : Machine σ} (hm : w.machineAt? place = some m) :
    ∃ m', w'.machineAt? place = some m' ∧ m.Ages (∃ rest, w.frames = .ready place :: rest) m'
  fresh {place : Place} {m' : Machine σ} (hnone : w.machineAt? place = none)
    (hm' : w'.machineAt? place = some m') : m'.lifecycle = .created

/-- All machines that have halted are as halting leaves them. -/
def Finished (w : World σ) : Prop := ∀ place m, w.machineAt? place = some m → m.Finished

theorem Finished.nil {w : World σ} (hmachines : w.machines = []) : w.Finished := by
  intro place m hm
  simp [machineAt?, hmachines] at hm

namespace Ages

variable {w w' : World σ} {place : Place} {m m' : Machine σ}

theorem congr (hmachines : w'.machines = w.machines) : w.Ages w' where
  machine hm := ⟨_, (machineAt?_congr hmachines _).trans hm, .refl _⟩
  fresh hnone hm' := by
    rw [machineAt?_congr hmachines, hnone] at hm'
    contradiction

theorem then_same (h : w.Ages w') {w'' : World σ} (hmachines : w''.machines = w'.machines) :
    w.Ages w'' where
  machine hm := by
    rw [machineAt?_congr hmachines]
    exact h.machine hm
  fresh hnone hm' := h.fresh hnone ((machineAt?_congr hmachines _).symm.trans hm')

/-- One machine is exchanged for what becomes of it. -/
theorem update (hm : w.machineAt? place = some m)
    (hmachines : w'.machines = (w.setMachine place m').machines)
    (hages : m.Ages (∃ rest, w.frames = .ready place :: rest) m') : w.Ages w' where
  machine := by
    intro other old hold
    rw [machineAt?_congr hmachines]
    by_cases hplace : place = other
    · subst hplace
      cases hm.symm.trans hold
      exact ⟨m', machineAt?_setMachine_self hm, hages⟩
    · exact ⟨old, (machineAt?_setMachine_of_ne hplace).trans hold, .refl old⟩
  fresh := by
    intro other m'' hnone hm''
    rw [machineAt?_congr hmachines] at hm''
    rcases machineAt?_setMachine_eq_some hm'' with ⟨rfl, _⟩ | ⟨_, hold⟩
    · rw [hm] at hnone
      contradiction
    · rw [hold] at hnone
      contradiction

/-- A machine is added that has not started. -/
theorem append (hmachines : w'.machines = w.machines ++ [m]) (hcreated : m.lifecycle = .created) :
    w.Ages w' where
  machine := by
    intro place old hold
    have hlt : place < w.machines.length := (List.getElem?_eq_some_iff.mp hold).1
    refine ⟨old, ?_, .refl old⟩
    rw [machineAt?, hmachines, List.getElem?_append_left hlt]
    exact hold
  fresh := by
    intro place m' hnone hm'
    rcases machineAt?_append_eq_some hmachines hm' with hold | ⟨_, rfl⟩
    · rw [hold] at hnone
      contradiction
    · exact hcreated

theorem machines_beginTurn (w : World σ) (index : Nat) :
    (w.beginTurn index).machines = w.machines := by
  unfold World.beginTurn beginRun
  split <;> rfl

/-- A turn that begins changes no machine. -/
theorem beginTurn (w : World σ) (index : Nat) : w.Ages (w.beginTurn index) :=
  .congr (machines_beginTurn w index)

theorem beginTurn_markBound (w : World σ) (config : Config) (index : Nat) :
    w.Ages ((w.markBound config).beginTurn index) :=
  .congr ((machines_beginTurn _ index).trans (markBound_machines w config))

theorem delivered {e : Event} {seen : List Traffic} (h : Delivered w e seen w') : w.Ages w' := by
  cases h with
  | refused _ _ => exact .congr rfl
  | handed hm hlive | queued hm hlive | woken hm hlive =>
    exact .update hm rfl (.goesOn rfl rfl hlive)

theorem create {catalog : Catalog σ} {type : String} {payload : Option Value} {id : MachineId}
    (h : w.create catalog type payload = .ok (id, w')) : w.Ages w' := by
  obtain ⟨blueprint, registry, rfl⟩ := create_eq_ok h
  exact .append (m := w.newMachine catalog type payload blueprint) rfl rfl

theorem finished (h : w.Ages w') (hw : w.Finished) : w'.Finished := by
  intro place m' hm'
  cases hm : w.machineAt? place with
  | none =>
    intro hhalted
    rw [h.fresh hm hm'] at hhalted
    contradiction
  | some m =>
    obtain ⟨m'', hm'', hages⟩ := h.machine hm
    cases hm'.symm.trans hm''
    exact hages.finished (hw place m hm)

end Ages

section Steps

variable {sys : System σ} {w w' : World σ} {lost : List Place} {seen : List Traffic}
  {place : Place} {m : Machine σ}

/-- A machine that has halted has no run. -/
theorem Finished.not_mem_runs (h : w.Finished) (haccounted : w.Accounted (lost ++ w.runs))
    (hm : w.machineAt? place = some m) (hhalted : m.lifecycle = .halted) : place ∉ w.runs := by
  have hidle : m.active = false := by
    rw [← h place m hm hhalted]
    rfl
  exact fun hmem => haccounted.not_mem_of_idle hm hidle (List.mem_append_right lost hmem)

/-- The machine of the innermost frame has not halted. -/
theorem Finished.live (h : w.Finished) (haccounted : w.Accounted (lost ++ w.runs)) {f : Frame σ}
    {rest : List (Frame σ)} (hframes : w.frames = f :: rest) (hplace : f.place? = some place)
    (hm : w.machineAt? place = some m) : m.lifecycle ≠ .halted := by
  intro hhalted
  apply h.not_mem_runs haccounted hm hhalted
  simp [runs, running_of_frames hframes, hplace]

/-- A machine whose action is waited for has started. -/
theorem SoundBut.started (h : w.Sound) {id : MachineId} {p : Paused} {c : Context}
    {stage : Stage σ} (hf : .acting (.machine place id) p c stage ∈ w.frames)
    (hm : w.machineAt? place = some m) : m.lifecycle ≠ .created := by
  intro hcreated
  obtain ⟨cell, hcell, hwaits⟩ := h.frame hf
  cases (cell?_machine hm id).symm.trans hcell
  apply Stack.frames_ne_nil hwaits.top
  rw [(h.grounded hm nofun).created hcreated]
  rfl

/-- Of the machines, a dispatch changes its own, which halts or goes on. -/
theorem Carried.exists_machine {id : MachineId} {progress : Progress}
    (h : Carried w (.machine place id) progress w') (hm : w.machineAt? place = some m) :
    ∃ m', w'.machines = (w.setMachine place m').machines ∧
      (m'.lifecycle = m.lifecycle ∧ m'.startPayload = m.startPayload ∨
        progress.outcome = .finished .halted ∧ m' = m.halt) := by
  cases h with
  | acting hcell hpaused haction =>
    rw [setCell_machine hm]
    exact ⟨_, rfl, .inl ⟨rfl, rfl⟩⟩
  | yielded hm' hresult =>
    cases hm.symm.trans hm'
    exact ⟨_, rfl, .inl ⟨rfl, rfl⟩⟩
  | halted hm' hresult =>
    cases hm.symm.trans hm'
    exact ⟨m.halt, rfl, .inr ⟨Progress.finished_of_result? hresult, rfl⟩⟩
  | aborted hm' hresult =>
    cases hm.symm.trans hm'
    unfold World.abort
    dsimp only
    split <;> exact ⟨_, rfl, .inl ⟨rfl, rfl⟩⟩

/-- A start does not halt. -/
theorem start_not_halted (en : Engine) (stack : Stack) (e : Event) :
    ¬ (en.start stack e).outcome = .finished .halted := by
  unfold Engine.start Engine.enter
  split
  · split
    · exact nofun
    · split
      · exact nofun
      · split <;> exact nofun
  · exact nofun

/-- What every small step makes of the machines. -/
theorem Transition.ages (haccounted : w.Accounted (lost ++ w.runs)) (hsound : w.Sound)
    (hfinished : w.Finished) (ht : Transition sys w seen w') : w.Ages w' := by
  cases ht with
  | @start place rest m _ hframes hm hcreated hcarried =>
    let popped : World σ := { w with frames := rest }
    let begun : Machine σ := { m with lifecycle := .active, startPayload := none }
    have hm' : (popped.setMachine place begun).machineAt? place = some begun :=
      machineAt?_setMachine_self hm
    obtain ⟨m', hmachines, ⟨hlife, _⟩ | ⟨hhalted, _⟩⟩ := hcarried.exists_machine hm'
    · rw [setMachine_setMachine] at hmachines
      exact .update hm hmachines (.starts ⟨rest, hframes⟩ hcreated hlife)
    · exact absurd hhalted (start_not_halted _ _ _)
  | @dispatch place rest m e left _ hframes hm hactive hfailed hselect hcarried =>
    let popped : World σ := { w with frames := rest }
    let begun : Machine σ := { m with mailbox := left }
    have hm' : (popped.setMachine place begun).machineAt? place = some begun :=
      machineAt?_setMachine_self hm
    obtain ⟨m', hmachines, ⟨hlife, hpayload⟩ | ⟨_, rfl⟩⟩ := hcarried.exists_machine hm' <;>
      rw [setMachine_setMachine] at hmachines
    · exact .update hm hmachines (.goesOn hlife hpayload (by simp [hactive]))
    · exact .update hm hmachines (.halts hactive rfl fun _ => rfl)
  | rest hframes hm hactive hfailed hselect =>
    exact .update hm rfl (.goesOn rfl rfl (by simp [hactive]))
  | unselectable hframes hm hactive hfailed hselect =>
    unfold World.abort
    dsimp only
    split <;> exact .update hm rfl (.goesOn rfl rfl (by simp [hactive]))
  | stop hframes hm hwhy =>
    exact .update hm rfl (.goesOn rfl rfl (hfinished.live haccounted hframes rfl hm))
  | @answer actor p c verdict rest cell _ hframes hcell hcarried =>
    cases actor with
    | monitor type => exact .congr (SameRuns.carried hcarried).machines
    | machine place id =>
      obtain ⟨m, hm, _⟩ := Option.map_eq_some_iff.mp hcell
      have hstarted := hsound.started (hframes ▸ List.mem_cons_self) hm
      have hlive := hfinished.live haccounted hframes rfl hm
      obtain ⟨m', hmachines, ⟨hlife, hpayload⟩ | ⟨_, rfl⟩⟩ := hcarried.exists_machine hm
      · exact .update hm hmachines (.goesOn hlife hpayload hlive)
      · refine .update hm hmachines (.halts ?_ rfl fun _ => rfl)
        cases hlife : m.lifecycle with
        | created => exact absurd hlife hstarted
        | active => rfl
        | halted => exact absurd hlife hlive
  | panic hpropagate => exact .congr rfl
  | goOn hframes | remark hframes => exact .congr rfl
  | @store actor p c memory next rest cell hframes hcell =>
    cases actor with
    | monitor type => exact .congr (SameRuns.setMonitorCell w type _).machines
    | machine place id =>
      obtain ⟨m, hm, rfl⟩ := Option.map_eq_some_iff.mp hcell
      rw [setCell_machine hm]
      exact .update hm rfl (.goesOn rfl rfl (hfinished.live haccounted hframes rfl hm))
  | send hframes hdeliver => exact (Ages.delivered (delivered_of_deliver hdeliver)).then_same rfl
  | create hframes hcreate => exact (Ages.create hcreate).then_same rfl
  | notify hframes hm hcarried => exact .congr (SameRuns.carried hcarried).machines
  | take hframes hm htake | block hframes hm htake | resume hframes hm hreceived =>
    exact .update hm rfl (.goesOn rfl rfl (hfinished.live haccounted hframes rfl hm))
  | @giveUp place id p c types next rest m given f hframes hm hreceived hgiven =>
    have hmachines : (given.setMachine place { m with waiting := none }).machines
        = (w.setMachine place { m with waiting := none }).machines := by
      rw [setMachine, setMachine, hgiven.machines]
    exact .update hm hmachines (.goesOn rfl rfl (hfinished.live haccounted hframes rfl hm))
  | turn hframes hm hreceived hfailed hbounded hindex =>
    exact .beginTurn_markBound w sys.config _

/-- Operations from outside change no machine but for events that they send. -/
theorem Operated.ages (ho : Operated sys w seen w') : w.Ages w' := by
  cases ho with
  | unchanged | fail f | describe registry => exact .congr rfl
  | create hcreate => exact .create hcreate
  | send hdeliver => exact .delivered (delivered_of_deliver hdeliver)
  | register htype hcarried => exact .congr (SameRuns.carried hcarried).machines
  | notify hm hcarried => exact .congr (SameRuns.carried hcarried).machines
  | step hindex => exact .beginTurn w _
  | settle hend => exact .congr (markBound_machines w sys.config)
  | run hindex => exact .beginTurn_markBound w sys.config _

theorem Run.finished {log : List Traffic} (hserial : sys.config.serial = true)
    (hrun : Run sys w log) : w.Finished := by
  induction hrun with
  | empty => exact .nil rfl
  | next hrun hnext ih =>
    obtain ⟨lost, haccounted, _⟩ := hrun.exists_accounted hserial
    exact ((next_leadsTo hserial hnext).ages haccounted (hrun.sound hserial) ih).finished ih
  | outside hrun hidle hi ih => exact (hi.operated hserial hidle).ages.finished ih
  | reset hrun hidle ih => exact .nil rfl

/-- What every step of a run makes of the machines. -/
theorem Proceeds.ages {log : List Traffic} (hserial : sys.config.serial = true)
    (hrun : Run sys w log) (h : Proceeds sys w w') : w.Ages w' := by
  cases h with
  | next hnext =>
    obtain ⟨lost, haccounted, _⟩ := hrun.exists_accounted hserial
    exact (next_leadsTo hserial hnext).ages haccounted (hrun.sound hserial) (hrun.finished hserial)
  | outside hidle hi => exact (hi.operated hserial hidle).ages

/-! ## The deeds of a step -/

/-- A turn is one of the machine whose frame is the innermost. -/
theorem turn_place {d : Deed} (hd : d ∈ w.turn) :
    ∃ rest m, w.frames = .ready d.place :: rest ∧ w.machineAt? d.place = some m ∧
      (d.isBeginning = true → m.lifecycle = .created ∧ d = .started d.place m.startPayload) := by
  unfold turn at hd
  split at hd
  · rename_i place rest hframes
    split at hd
    · rename_i m hm
      split at hd
      · rename_i hcreated
        cases List.mem_singleton.mp hd
        exact ⟨rest, m, hframes, hm, fun _ => ⟨hcreated, rfl⟩⟩
      · split at hd <;> cases List.mem_singleton.mp hd <;> exact ⟨rest, m, hframes, hm, nofun⟩
      · cases List.mem_singleton.mp hd
        exact ⟨rest, m, hframes, hm, nofun⟩
    · contradiction
  · contradiction

theorem invocation_place {d : Deed} (hd : d ∈ w.invocation w') :
    d.isBeginning = false ∧
      ∃ id p c stage, .acting (.machine d.place id) p c stage ∈ w'.frames := by
  unfold invocation at hd
  split at hd
  · rename_i place id p c stage rest hframes
    split at hd
    · cases List.mem_singleton.mp hd
      exact ⟨rfl, id, p, c, stage, hframes ▸ List.mem_cons_self⟩
    · contradiction
  · contradiction

theorem creations_place {d : Deed} (hd : d ∈ w.creations w') :
    w.machineAt? d.place = none ∧ ∃ m, w'.machineAt? d.place = some m := by
  obtain ⟨⟨m, place⟩, hmem, rfl⟩ := List.mem_map.mp hd
  obtain ⟨hle, hget⟩ := List.mk_mem_zipIdx_iff_le_and_getElem?_sub.mp hmem
  rw [List.getElem?_drop, Nat.add_sub_cancel' hle] at hget
  exact ⟨List.getElem?_eq_none hle, m, hget⟩

/-- The numbers of list entries are those that are counted from the first one on. -/
theorem deedsAt_zipIdx (machines : List (Machine σ)) {first place : Nat} (hle : first ≤ place) :
    deedsAt ((machines.zipIdx first).map fun (m, other) => .created other m.startPayload) place
      = (machines[place - first]?.map fun m => .created place m.startPayload).toList := by
  induction machines generalizing first with
  | nil => simp [deedsAt]
  | cons m rest ih =>
    rcases Nat.eq_or_lt_of_le hle with rfl | hlt
    · have hrest : deedsAt ((rest.zipIdx (first + 1)).map fun (m, other) =>
          Deed.created other m.startPayload) first = [] := by
        rw [deedsAt_eq_nil]
        intro d hd
        obtain ⟨⟨m', other⟩, hmem, rfl⟩ := List.mem_map.mp hd
        exact Nat.ne_of_gt (List.le_snd_of_mem_zipIdx hmem)
      simpa [deedsAt, Deed.place] using hrest
    · have hsub : place - first = place - (first + 1) + 1 := by omega
      have hother : deedsAt (((m :: rest).zipIdx first).map fun (m, other) =>
          Deed.created other m.startPayload) place
            = deedsAt ((rest.zipIdx (first + 1)).map fun (m, other) =>
                Deed.created other m.startPayload) place := by
        simp [deedsAt, Deed.place, Nat.ne_of_lt hlt]
      rw [hother, ih hlt, hsub, List.getElem?_cons_succ]

/-- A machine that a step has added is created by it. -/
theorem deedsAt_creations (hnone : w.machineAt? place = none) (hm : w'.machineAt? place = some m) :
    deedsAt (w.creations w') place = [.created place m.startPayload] := by
  have hle : w.machines.length ≤ place := List.getElem?_eq_none_iff.mp hnone
  rw [creations, deedsAt_zipIdx _ hle, List.getElem?_drop, Nat.add_sub_cancel' hle]
  rw [machineAt?] at hm
  rw [hm]
  rfl

end Steps

end World

/-! ## Accounts of lives -/

/-- The deeds tell the life of the machine so far: it was created, and unless this is all it
has started in its first turn, with the payload that it was created with. -/
def Machine.Tells (m : Machine σ) (place : Place) (deeds : List Deed) : Prop :=
  match m.lifecycle with
  | .created => deeds = [.created place m.startPayload]
  | .active | .halted => ∃ payload later,
      deeds = .created place payload :: .started place payload :: later ∧
        ∀ d ∈ later, d.isBeginning = false

namespace World

section Chronicles

variable {sys : System σ} {w w' w₀ : World σ} {log : List Traffic} {deeds : List Deed}
  {place : Place} {m m' : Machine σ}

theorem tells_of_started {payload : Option Value} {later : List Deed}
    (hstarted : m.lifecycle ≠ .created) (hlater : ∀ d ∈ later, d.isBeginning = false) :
    m.Tells place (.created place payload :: .started place payload :: later) := by
  unfold Machine.Tells
  split
  · contradiction
  · exact ⟨payload, later, rfl, hlater⟩
  · exact ⟨payload, later, rfl, hlater⟩

/-- A machine that has not started has started after its turn. -/
theorem Proceeds.starts (hserial : sys.config.serial = true) (hp : Proceeds sys w w')
    {rest : List (Frame σ)} (hframes : w.frames = .ready place :: rest)
    (hm : w.machineAt? place = some m) (hcreated : m.lifecycle = .created)
    (hm' : w'.machineAt? place = some m') : m'.lifecycle ≠ .created := by
  cases hp with
  | outside hidle hi =>
    rw [hidle] at hframes
    contradiction
  | next hnext =>
    have hcarried := carried_of_created hserial hframes hm hcreated hnext
    let popped : World σ := { w with frames := rest }
    let begun : Machine σ := { m with lifecycle := .active, startPayload := none }
    have hbegun : (popped.setMachine place begun).machineAt? place = some begun :=
      machineAt?_setMachine_self hm
    obtain ⟨m'', hmachines, hbecome⟩ := hcarried.exists_machine hbegun
    rw [setMachine_setMachine] at hmachines
    have hset : (popped.setMachine place m'').machineAt? place = some m'' :=
      machineAt?_setMachine_self hm
    have hm'' : w'.machineAt? place = some m'' := (machineAt?_congr hmachines place).trans hset
    cases hm'.symm.trans hm''
    rcases hbecome with ⟨hlife, _⟩ | ⟨_, rfl⟩
    · rw [hlife]
      exact nofun
    · exact nofun

/-- What a step does with a machine that was there is a turn of it or an action of it. -/
theorem deed_of_machine {d : Deed} (hm : w.machineAt? place = some m) (hd : d ∈ w.deeds w')
    (hplace : d.place = place) : d ∈ w.turn ∨ d ∈ w.invocation w' := by
  rcases List.mem_append.mp hd with hd | hd
  · exact List.mem_append.mp hd
  · rw [← hplace, (creations_place hd).1] at hm
    contradiction

/-- Nothing of what a step does with a machine that has started belongs to the beginning. -/
theorem isBeginning_of_started (hm : w.machineAt? place = some m)
    (hstarted : m.lifecycle ≠ .created) :
    ∀ d ∈ deedsAt (w.deeds w') place, d.isBeginning = false := by
  intro d hd
  obtain ⟨hd, hplace⟩ := mem_deedsAt.mp hd
  rcases deed_of_machine hm hd hplace with hturn | hinvocation
  · obtain ⟨rest, m', _, hm', hbeginning⟩ := turn_place hturn
    rw [hplace] at hm'
    cases hm.symm.trans hm'
    cases hkind : d.isBeginning with
    | false => rfl
    | true => exact absurd (hbeginning hkind).1 hstarted
  · exact (invocation_place hinvocation).1

/-- The machine of a frame that waits for an action is there, and has started. -/
theorem SoundBut.exists_started (h : w.Sound) {id : MachineId} {p : Paused} {c : Context}
    {stage : Stage σ} (hf : .acting (.machine place id) p c stage ∈ w.frames) :
    ∃ m, w.machineAt? place = some m ∧ m.lifecycle ≠ .created := by
  obtain ⟨cell, hcell, _⟩ := h.frame hf
  obtain ⟨m, hm, _⟩ := Option.map_eq_some_iff.mp hcell
  exact ⟨m, hm, h.started hf hm⟩

/-- Nothing is done with a machine that has not started, unless it starts. -/
theorem deedsAt_of_created (hserial : sys.config.serial = true) (hp : Proceeds sys w w')
    (hsound' : w'.Sound) (hm : w.machineAt? place = some m) (hcreated : m.lifecycle = .created)
    (hm' : w'.machineAt? place = some m') (hcreated' : m'.lifecycle = .created) :
    deedsAt (w.deeds w') place = [] := by
  rw [deedsAt_eq_nil]
  rintro d hd rfl
  rcases deed_of_machine hm hd rfl with hturn | hinvocation
  · obtain ⟨rest, _, hframes, _⟩ := turn_place hturn
    exact hp.starts hserial hframes hm hcreated hm' hcreated'
  · obtain ⟨_, id, p, c, stage, hf⟩ := invocation_place hinvocation
    exact hsound'.started hf hm' hcreated'

/-- The turn in which a machine starts tells so, and nothing of the beginning comes after. -/
theorem deedsAt_of_starts {rest : List (Frame σ)} (hframes : w.frames = .ready place :: rest)
    (hm : w.machineAt? place = some m) (hcreated : m.lifecycle = .created) :
    ∃ later, deedsAt (w.deeds w') place = .started place m.startPayload :: later ∧
      ∀ d ∈ later, d.isBeginning = false := by
  have hturn : w.turn = [.started place m.startPayload] := by simp [turn, hframes, hm, hcreated]
  refine ⟨deedsAt (w.invocation w' ++ w.creations w') place, ?_, ?_⟩
  · simp [deeds, hturn, deedsAt, Deed.place]
  · intro d hd
    obtain ⟨hmem, rfl⟩ := mem_deedsAt.mp hd
    rcases List.mem_append.mp hmem with hinvocation | hcreation
    · exact (invocation_place hinvocation).1
    · rw [(creations_place hcreation).1] at hm
      contradiction

/-- A step goes on with the account of a machine's life. -/
theorem Proceeds.tells (hserial : sys.config.serial = true) (hrun : Run sys w log)
    (hp : Proceeds sys w w') (hm : w.machineAt? place = some m)
    (hm' : w'.machineAt? place = some m') (h : m.Tells place deeds) :
    m'.Tells place (deeds ++ deedsAt (w.deeds w') place) := by
  obtain ⟨log', hrun'⟩ := hp.run hrun
  obtain ⟨_, hsome, hages⟩ := (hp.ages hserial hrun).machine hm
  cases hm'.symm.trans hsome
  by_cases hcreated : m.lifecycle = .created
  · have hdeeds : deeds = [.created place m.startPayload] := by
      simpa [Machine.Tells, hcreated] using h
    rw [hdeeds]
    cases hages with
    | stays hlife hpayload =>
      have hcreated' : m'.lifecycle = .created := hlife.trans hcreated
      rw [deedsAt_of_created hserial hp (hrun'.sound hserial) hm hcreated hm' hcreated']
      simp [Machine.Tells, hcreated', hpayload]
    | starts hturn _ hactive =>
      obtain ⟨rest, hframes⟩ := hturn
      obtain ⟨later, hdeeds', hlater⟩ : ∃ later, deedsAt (w.deeds w') place
          = .started place m.startPayload :: later ∧ ∀ d ∈ later, d.isBeginning = false :=
        deedsAt_of_starts hframes hm hcreated
      rw [hdeeds']
      exact tells_of_started (by simp [hactive]) hlater
    | halts hactive =>
      rw [hcreated] at hactive
      contradiction
  · have hstarted' : m'.lifecycle ≠ .created := by
      cases hages with
      | stays hlife => rwa [hlife]
      | starts _ hcreated' => exact absurd hcreated' hcreated
      | halts _ hhalted => simp [hhalted]
    obtain ⟨payload, later, rfl, hlater⟩ : ∃ payload later,
        deeds = .created place payload :: .started place payload :: later ∧
          ∀ d ∈ later, d.isBeginning = false := by
      unfold Machine.Tells at h
      split at h
      · contradiction
      · exact h
      · exact h
    refine tells_of_started hstarted' ?_
    intro d hd
    rcases List.mem_append.mp hd with hd | hd
    · exact hlater d hd
    · exact isBeginning_of_started hm hcreated d hd

/-- A step begins the account of a machine that it creates. -/
theorem Proceeds.tells_created (hserial : sys.config.serial = true) (hrun : Run sys w log)
    (hp : Proceeds sys w w') (hnone : w.machineAt? place = none)
    (hm' : w'.machineAt? place = some m') : m'.Tells place (deedsAt (w.deeds w') place) := by
  obtain ⟨log', hrun'⟩ := hp.run hrun
  have hcreated' : m'.lifecycle = .created := (hp.ages hserial hrun).fresh hnone hm'
  have hearlier : deedsAt (w.turn ++ w.invocation w') place = [] := by
    rw [deedsAt_eq_nil]
    rintro d hd rfl
    rcases List.mem_append.mp hd with hturn | hinvocation
    · obtain ⟨rest, m, _, hm, _⟩ := turn_place hturn
      rw [hnone] at hm
      contradiction
    · obtain ⟨_, id, p, c, stage, hf⟩ := invocation_place hinvocation
      exact (hrun'.sound hserial).started hf hm' hcreated'
  rw [World.deeds, deedsAt_append, hearlier, deedsAt_creations hnone hm']
  simp [Machine.Tells, hcreated']

/-- The deeds tell the lives of all machines, and are about no others. -/
structure Told (w : World σ) (deeds : List Deed) : Prop where
  known : ∀ d ∈ deeds, ∃ m, w.machineAt? d.place = some m
  tells : ∀ place m, w.machineAt? place = some m → m.Tells place (deedsAt deeds place)

theorem Proceeds.told (hserial : sys.config.serial = true) (hrun : Run sys w log)
    (hp : Proceeds sys w w') (h : w.Told deeds) : w'.Told (deeds ++ w.deeds w') := by
  obtain ⟨log', hrun'⟩ := hp.run hrun
  have hages := hp.ages hserial hrun
  refine ⟨?_, ?_⟩
  · intro d hd
    rcases List.mem_append.mp hd with hd | hd
    · obtain ⟨m, hm⟩ := h.known d hd
      obtain ⟨m', hm', _⟩ := hages.machine hm
      exact ⟨m', hm'⟩
    · rcases List.mem_append.mp hd with hd | hcreation
      · rcases List.mem_append.mp hd with hturn | hinvocation
        · obtain ⟨rest, m, _, hm, _⟩ := turn_place hturn
          obtain ⟨m', hm', _⟩ := hages.machine hm
          exact ⟨m', hm'⟩
        · obtain ⟨_, id, p, c, stage, hf⟩ := invocation_place hinvocation
          obtain ⟨m', hm', _⟩ := (hrun'.sound hserial).exists_started hf
          exact ⟨m', hm'⟩
      · exact (creations_place hcreation).2
  · intro place m' hm'
    rw [deedsAt_append]
    cases hm : w.machineAt? place with
    | some m => exact hp.tells hserial hrun hm hm' (h.tells place m hm)
    | none =>
      have hearlier : deedsAt deeds place = [] := by
        rw [deedsAt_eq_nil]
        rintro d hd rfl
        obtain ⟨m, hm'⟩ := h.known d hd
        rw [hm] at hm'
        contradiction
      rw [hearlier, List.nil_append]
      exact hp.tells_created hserial hrun hm hm'

/-- From a world without machines on, the deeds tell the lives of all machines. -/
theorem Chronicle.told (hserial : sys.config.serial = true) (hrun : Run sys w₀ log)
    (hnone : w₀.machines = []) (h : Chronicle sys w₀ deeds w) : w.Told deeds := by
  induction h with
  | refl =>
    refine ⟨nofun, ?_⟩
    intro place m hm
    simp [machineAt?, hnone] at hm
  | proceed h hp ih =>
    obtain ⟨log', hrun'⟩ := h.run hrun
    exact hp.told hserial hrun' ih

/-- A machine that has halted stays as it is, and nothing is done with it. -/
theorem Chronicle.halted (hserial : sys.config.serial = true) (hrun : Run sys w log)
    (hm : w.machineAt? place = some m) (hhalted : m.lifecycle = .halted)
    (h : Chronicle sys w deeds w') :
    w'.machineAt? place = some m ∧ place ∉ w'.runs ∧ deedsAt deeds place = [] := by
  -- A machine that has halted has no run in any world of a run.
  have hfree {w : World σ} {log : List Traffic} (hrun : Run sys w log)
      (hm : w.machineAt? place = some m) : place ∉ w.runs := by
    obtain ⟨lost, haccounted, _⟩ := hrun.exists_accounted hserial
    exact (hrun.finished hserial).not_mem_runs haccounted hm hhalted
  induction h with
  | refl => exact ⟨hm, hfree hrun hm, rfl⟩
  | @proceed w' w'' deeds h hp ih =>
    obtain ⟨log', hrun'⟩ := h.run hrun
    obtain ⟨log'', hrun''⟩ := hp.run hrun'
    obtain ⟨hm', hruns, hdeeds⟩ := ih
    obtain ⟨m'', hm'', hages⟩ := (hp.ages hserial hrun').machine hm'
    rw [hages.eq_of_halted hhalted] at hm''
    refine ⟨hm'', hfree hrun'' hm'', ?_⟩
    rw [deedsAt_append, hdeeds, List.nil_append, deedsAt_eq_nil]
    rintro d hd hplace
    rcases deed_of_machine hm' hd hplace with hturn | hinvocation
    · obtain ⟨rest, _, hframes, _⟩ := turn_place hturn
      apply hruns
      rw [← hplace, runs, running_of_frames hframes]
      simp [Frame.place?]
    · obtain ⟨_, id, p, c, stage, hf⟩ := invocation_place hinvocation
      apply hfree hrun'' hm''
      rw [← hplace]
      exact List.mem_append_left _ (List.mem_filterMap.mpr ⟨_, hf, rfl⟩)

/-- A sendable event for a machine that has halted is dropped, and nothing changes. -/
theorem deliver_halted (hm : w.machineAt? place = some m) (hhalted : m.lifecycle = .halted)
    {target : MachineId} {e : Event} (hlocate : (w.locate? target).map Prod.snd = some place)
    (hsendable : e.checkSendable = .ok ()) : w.deliver target e = .ok w := by
  obtain ⟨⟨m', _⟩, hlocated, rfl⟩ := Option.map_eq_some_iff.mp hlocate
  have hm' := machineAt?_of_locate? hlocated
  cases hm.symm.trans hm'
  simp [deliver, hsendable, hlocated, Machine.enqueue, hhalted, setMachine_self hm]

/-- The turn of a machine that has not started enters its start state on an empty stack. -/
theorem next_of_created (hsound : w.Sound) {rest : List (Frame σ)}
    (hframes : w.frames = .ready place :: rest) (hm : w.machineAt? place = some m)
    (hcreated : m.lifecycle = .created) :
    w.next sys = ({ w with frames := rest }.setMachine place
      { m with lifecycle := .active, startPayload := none }).carry sys (.machine place m.id)
        (((Actor.machine place m.id).engine m.cell).enter
          (Stack.empty.push m.cell.blueprint.automaton.start) (.start m.startPayload)) := by
  have hempty : m.cell.stack = .empty := (hsound.grounded hm nofun).created hcreated
  simp only [World.next, hframes, hm, beginDispatch, hcreated, hempty]
  rfl

/-! ### Invocations

Every action of a machine that the journal tells of is one of the deeds, so nothing is done
that they do not tell. -/

/-- What a step writes to the journal: nothing, a remark, or that the action is invoked
which is the innermost one from then on. -/
inductive Writes (w w' : World σ) : Prop
  | nothing (h : w'.journal = w.journal)
  | remark {owner : Owner} {r : Remark} (h : w'.journal = .remarked owner r :: w.journal)
  | invocation {actor : Actor} {p : Paused} {c : Context} {stage : Stage σ}
      {rest : List (Frame σ)} (hframes : w'.frames = .acting actor p c stage :: rest)
      (h : w'.journal = .invoked actor.owner p.invocation :: w.journal)

theorem setCell_journal (w : World σ) (actor : Actor) (cell : Cell σ) :
    (w.setCell actor cell).journal = w.journal := by
  unfold setCell
  split <;> split <;> rfl

theorem markBound_journal (w : World σ) (config : Config) :
    (w.markBound config).journal = w.journal := by
  unfold markBound
  split <;> rfl

theorem beginTurn_journal (w : World σ) (index : Nat) :
    (w.beginTurn index).journal = w.journal := by
  unfold beginTurn beginRun
  split <;> rfl

theorem abort_journal (w : World σ) (place : Place) (m : Machine σ) (f : Failure) :
    (w.abort place m f).journal = w.journal := by
  unfold abort
  dsimp only
  split <;> rfl

theorem giveBack_journal {result : Except Failure Unit} (h : (w.giveBack result).LeadsTo w') :
    w'.journal = w.journal := by
  unfold giveBack at h
  split at h
  · exact Move.leadsTo_step.mp h ▸ rfl
  · exact Move.leadsTo_returned.mp h ▸ rfl

theorem concludeMonitor_journal {m : Monitor σ} {result : Except Failure Status}
    (h : (w.concludeMonitor m result).LeadsTo w') : w'.journal = w.journal := by
  unfold concludeMonitor at h
  split at h
  · exact (giveBack_journal h).trans rfl
  · dsimp only at h
    split at h <;> exact (giveBack_journal h).trans rfl

theorem Delivered.journal {e : Event} {seen : List Traffic} (h : Delivered w e seen w') :
    w'.journal = w.journal := by
  cases h <;> rfl

theorem Carried.writes {actor : Actor} {progress : Progress} (h : Carried w actor progress w')
    (hw : w.journal = w₀.journal) : w₀.Writes w' := by
  cases h with
  | @acting actor cell progress p action hcell hpaused haction =>
    refine .invocation rfl ?_
    rw [← hw, ← setCell_journal w actor { cell with stack := progress.stack }]
    rfl
  | yielded hm hresult | halted hm hresult => exact .nothing hw
  | aborted hm hresult => exact .nothing ((abort_journal ..).trans hw)
  | judged hm hresult hback => exact .nothing ((concludeMonitor_journal hback).trans hw)

theorem Transition.writes {seen : List Traffic} (ht : Transition sys w seen w') :
    w.Writes w' := by
  cases ht with
  | start _ _ _ hcarried | dispatch _ _ _ _ _ hcarried | answer _ _ hcarried
  | notify _ _ hcarried => exact hcarried.writes rfl
  | rest | stop | panic | goOn | take | block | resume => exact .nothing rfl
  | unselectable => exact .nothing (abort_journal ..)
  | store => exact .nothing (setCell_journal ..)
  | remark => exact .remark rfl
  | send _ hdeliver => exact .nothing (delivered_of_deliver hdeliver).journal
  | create _ hcreate =>
    obtain ⟨_, _, rfl⟩ := create_eq_ok hcreate
    exact .nothing rfl
  | giveUp _ _ _ hgiven =>
    exact .nothing (hgiven.keeps (P := fun given => given.journal = w.journal) rfl
      (markBound_journal ..))
  | turn => exact .nothing ((beginTurn_journal ..).trans (markBound_journal ..))

theorem Operated.writes {seen : List Traffic} (ho : Operated sys w seen w') : w.Writes w' := by
  cases ho with
  | unchanged | fail | describe => exact .nothing rfl
  | create hcreate =>
    obtain ⟨_, _, rfl⟩ := create_eq_ok hcreate
    exact .nothing rfl
  | send hdeliver => exact .nothing (delivered_of_deliver hdeliver).journal
  | register _ hcarried | notify _ hcarried => exact hcarried.writes rfl
  | step => exact .nothing (beginTurn_journal ..)
  | settle => exact .nothing (markBound_journal ..)
  | run => exact .nothing ((beginTurn_journal ..).trans (markBound_journal ..))

/-- What a step adds to the journal tells of no action of a machine that is not among the
deeds. -/
theorem Proceeds.journal (hserial : sys.config.serial = true) (hp : Proceeds sys w w') :
    ∃ entries, w'.journal = entries ++ w.journal ∧
      ∀ id x, .invoked (.machine id) x ∈ entries → ∃ place, .invoked place x ∈ w.deeds w' := by
  have hwrites : w.Writes w' := by
    cases hp with
    | next hnext => exact (next_leadsTo hserial hnext).writes
    | outside hidle hi => exact (hi.operated hserial hidle).writes
  cases hwrites with
  | nothing h => exact ⟨[], h, by simp⟩
  | remark h => exact ⟨[_], h, by simp⟩
  | @invocation actor p c stage rest hframes h =>
    refine ⟨[.invoked actor.owner p.invocation], h, ?_⟩
    intro id x hx
    cases actor with
    | monitor type => simp [Actor.owner] at hx
    | machine place id' =>
      cases List.mem_singleton.mp hx
      refine ⟨place, List.mem_append_left _ (List.mem_append_right _ ?_)⟩
      have hjournal : w'.journal = .invoked (.machine id) p.invocation :: w.journal := h
      simp [World.invocation, hframes, hjournal]

theorem Chronicle.journal (hserial : sys.config.serial = true) (h : Chronicle sys w deeds w') :
    ∃ entries, w'.journal = entries ++ w.journal ∧
      ∀ id x, .invoked (.machine id) x ∈ entries → ∃ place, .invoked place x ∈ deeds := by
  induction h with
  | refl => exact ⟨[], rfl, by simp⟩
  | proceed h hp ih =>
    obtain ⟨entries, hentries, hbefore⟩ := ih
    obtain ⟨more, hmore, hnow⟩ := hp.journal hserial
    refine ⟨more ++ entries, by rw [hmore, hentries, List.append_assoc], ?_⟩
    intro id x hx
    rcases List.mem_append.mp hx with hx | hx
    · obtain ⟨place, hdeed⟩ := hnow id x hx
      exact ⟨place, List.mem_append_right _ hdeed⟩
    · obtain ⟨place, hdeed⟩ := hbefore id x hx
      exact ⟨place, List.mem_append_left _ hdeed⟩

end Chronicles

end World

/-! ## A fuse

A machine that halts in the entry action of its start state, which is its first turn. -/

namespace Fuse

def fuse : Description Unit :=
  let lit := ({ name := "Lit" } : StateSpec).asStart.withEntry "burn"
  (({} : Description Unit).state lit).action "burn" fun _ => Body.toProgram Body.halt

def system : System Unit where
  catalog := fun _ => { fresh := (), describe := fun _ => fuse }
  config := .bugFinding 0

def length : Option Value := some (.string "long")

def session : Session Unit CyclicChoice := { source := { numbers := [] } }

/-- It has been made. -/
def made : Session Unit CyclicChoice := (session.perform system 0 (.create "Fuse" length)).2

/-- It has been lit, and its turn comes so far. -/
def lit (budget : Nat) : Session Unit CyclicChoice := (made.perform system budget .step).2

end Fuse

/-! ## Results -/

namespace World

variable {sys : System σ} {w w₀ : World σ} {log : List Traffic} {deeds : List Deed}

/-- What the life of a machine is, from its creation on and until a reset. It is created,
becomes active and halts, in this order. It starts once, in its first turn and before any
event is looked for in its mailbox, and its start enters the start state with the payload
that it was created with. Once it has halted it stays as it is: its mailbox is empty, it
has no state, no run of it is pending or in progress, events that are sent to it change
nothing, it has no turn any more, and all actions that the journal tells of from then on are
those of other machines. -/
theorem Chronicle.lifetime (hserial : sys.config.serial = true) (hrun : Run sys w₀ log)
    (hnone : w₀.machines = []) (h : Chronicle sys w₀ deeds w) (place : Place) :
    (∀ m, w.machineAt? place = some m → m.Tells place (deedsAt deeds place)) ∧
      (∀ m rest, w.machineAt? place = some m → m.lifecycle = .created →
        w.frames = .ready place :: rest →
          w.next sys = ({ w with frames := rest }.setMachine place
            { m with lifecycle := .active, startPayload := none }).carry sys
              (.machine place m.id)
              (((Actor.machine place m.id).engine m.cell).enter
                (Stack.empty.push m.cell.blueprint.automaton.start) (.start m.startPayload))) ∧
      (∀ w', Proceeds sys w w' →
        (∀ m, w.machineAt? place = some m →
          ∃ m', w'.machineAt? place = some m' ∧ m.lifecycle.LeadsTo m'.lifecycle) ∧
        (∀ m', w.machineAt? place = none → w'.machineAt? place = some m' →
          m'.lifecycle = .created)) ∧
      ∀ m, w.machineAt? place = some m → m.lifecycle = .halted →
        ∀ later w', Chronicle sys w later w' →
          w'.machineAt? place = some m ∧ m.mailbox = [] ∧ m.state = none ∧
          place ∉ w'.pending ∧ place ∉ w'.running ∧
          (∀ target e, (w'.locate? target).map Prod.snd = some place →
            e.checkSendable = .ok () → w'.deliver target e = .ok w') ∧
          deedsAt later place = [] ∧
          ∃ entries, w'.journal = entries ++ w.journal ∧
            ∀ id x, .invoked (.machine id) x ∈ entries →
              ∃ other, other ≠ place ∧ .invoked other x ∈ later := by
  obtain ⟨log', hrun'⟩ := h.run hrun
  refine ⟨?_, ?_, ?_, ?_⟩
  · exact (h.told hserial hrun hnone).tells place
  · intro m rest hm hcreated hframes
    exact next_of_created (hrun'.sound hserial) hframes hm hcreated
  · intro w' hp
    have hages := hp.ages hserial hrun'
    refine ⟨?_, fun m' hnone hm' => hages.fresh hnone hm'⟩
    intro m hm
    obtain ⟨m', hm', hbecomes⟩ := hages.machine hm
    exact ⟨m', hm', hbecomes.leadsTo⟩
  · intro m hm hhalted later w' hlater
    obtain ⟨hm', hruns, hdeeds⟩ := hlater.halted hserial hrun' hm hhalted
    have hfinished : m.halt = m := hrun'.finished hserial place m hm hhalted
    refine ⟨hm', by rw [← hfinished]; rfl, by rw [← hfinished]; rfl, ?_, ?_, ?_, hdeeds, ?_⟩
    · exact fun hpending => hruns (List.mem_append_right _ hpending)
    · exact fun hrunning => hruns (List.mem_append_left _ hrunning)
    · intro target e hlocate hsendable
      exact deliver_halted hm' hhalted hlocate hsendable
    · obtain ⟨entries, hentries, htold⟩ := hlater.journal hserial
      refine ⟨entries, hentries, ?_⟩
      intro id x hx
      obtain ⟨other, hdeed⟩ := htold id x hx
      refine ⟨other, ?_, hdeed⟩
      rintro rfl
      exact deedsAt_eq_nil.mp hdeeds _ hdeed rfl

theorem Chronicle.lifetime_fuse :
    ∃ deeds m,
      Chronicle Fuse.system .empty deeds (Fuse.lit 3).world ∧
      (Fuse.lit 3).world.machineAt? 0 = some m ∧ m.lifecycle = .halted ∧
      deedsAt deeds 0 = [.created 0 Fuse.length, .started 0 Fuse.length,
        .invoked 0 ⟨"burn", .entry, ⟨"Lit"⟩, .start Fuse.length⟩] ∧
      m.Tells 0 (deedsAt deeds 0) ∧
      (Fuse.lit 3).world.deliver ⟨"Fuse", 1⟩ .halt = .ok (Fuse.lit 3).world := by
  have hcreate : World.empty.create Fuse.system.catalog "Fuse" Fuse.length
      = .ok (⟨"Fuse", 1⟩, Fuse.made.world) := rfl
  have hmade : Chronicle Fuse.system .empty _ Fuse.made.world :=
    Chronicle.refl.proceed (.outside rfl (.create hcreate))
  have hlit : Chronicle Fuse.system .empty _ (Fuse.lit 0).world :=
    hmade.proceed (.outside rfl (.step .step))
  have hinvoked : Chronicle Fuse.system .empty _ (Fuse.lit 1).world :=
    hlit.proceed (.next .step)
  have hraised : Chronicle Fuse.system .empty _ (Fuse.lit 2).world :=
    hinvoked.proceed (.next .step)
  have hburnt : Chronicle Fuse.system .empty _ (Fuse.lit 3).world :=
    hraised.proceed (.next .returned)
  obtain ⟨htells, _, _, hhalted⟩ := Chronicle.lifetime rfl .empty rfl hburnt 0
  refine ⟨_, _, hburnt, rfl, rfl, rfl, htells _ rfl, ?_⟩
  obtain ⟨_, _, _, _, _, hdrop, _⟩ := hhalted _ rfl rfl [] _ .refl
  exact hdrop ⟨"Fuse", 1⟩ .halt rfl rfl

end World

end PushdownActors
