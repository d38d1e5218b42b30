-- SUMMARY: No wakeup is lost: a machine without a run has nothing that it could handle.
import PushdownActors.Proofs.History
import PushdownActors.Proofs.Mailbox

/-!
# Quiescence

A machine loses its run when it finds nothing to dispatch, and it gets one when an
event arrives. Between the two its mailbox holds only events that its current state
defers. The exceptions are machines that have halted, systems that have failed, and
systems past their step bound, where a run may end with work left. So when a serial
system comes to rest without a failure and within its bound, it has come to rest
because nobody has anything to do.
-/

namespace PushdownActors

/-! ## Machines at rest -/

/-- The machine is started and has a current state, which defers all that is in the
mailbox and does not handle `Default`. -/
structure Machine.Rests (m : Machine σ) : Prop where
  started : m.lifecycle = .active
  state : ∃ top state, m.cell.stack.top? = some top ∧
    m.cell.blueprint.automaton.state? top = some state ∧
    (∀ e ∈ m.mailbox, state.defers e.type = true) ∧ state.handlesDefault = false

/-- A machine that finds nothing to dispatch rests with what the scan has left. -/
theorem Machine.rests_of_select {m : Machine σ} {place : Place} {left : List Event}
    (hactive : m.lifecycle = .active)
    (h : ((Actor.machine place m.id).engine m.cell).select m.cell.stack m.mailbox
      = .ok (none, left)) :
    Machine.Rests { m with mailbox := left, active := false } := by
  obtain ⟨top, state, htop, hstate, hselect⟩ := Engine.select_eq_ok h
  exact ⟨hactive, top, state, htop, hstate, State.defers_of_select_eq_none hselect⟩

/-! ## The invariant -/

namespace World

/-- Nothing has failed and the step bound is not reached. -/
def Calm (w : World σ) : Prop := w.failure = none ∧ w.bounded = false

/-- If the actor is a machine, it has a run. -/
def Marked (w : World σ) : Actor → Prop
  | .machine place _ => ∃ m, w.machineAt? place = some m ∧ m.active = true
  | .monitor _ => True

theorem Marked.active {w : World σ} {place : Place} {id : MachineId} {m : Machine σ}
    (h : w.Marked (.machine place id)) (hm : w.machineAt? place = some m) : m.active = true := by
  obtain ⟨m', hm', hactive⟩ := h
  cases hm.symm.trans hm'
  exact hactive

/-- While the system is calm, a machine without a run has halted or rests. -/
def Attentive (w : World σ) : Prop :=
  w.Calm → ∀ place m, w.machineAt? place = some m → m.active = false →
    m.lifecycle = .halted ∨ m.Rests

namespace Attentive

variable {w w' : World σ} {place : Place} {m m' : Machine σ}

/-- Only the machines matter, and that the world was calm before. -/
theorem congr (h : w.Attentive) (hmachines : w'.machines = w.machines)
    (hcalm : w'.Calm → w.Calm) : w'.Attentive := by
  intro hcalm' place m hm
  rw [machineAt?_congr hmachines] at hm
  exact h (hcalm hcalm') place m hm

theorem sameRuns (h : w.Attentive) (hsame : SameRuns w w') : w'.Attentive := by
  refine h.congr hsame.machines ?_
  rw [Calm, Calm, hsame.failure, hsame.bounded]
  exact id

theorem of_no_machines (h : w.machines = []) : w.Attentive := by
  intro _ place m hm
  rw [machineAt?, h] at hm
  contradiction

/-- A machine is exchanged for one that has a run, has halted or rests. -/
theorem update (h : w.Attentive) (hmachines : w'.machines = (w.setMachine place m').machines)
    (hcalm : w'.Calm → w.Calm)
    (hm' : m'.active = false → m'.lifecycle = .halted ∨ m'.Rests) : w'.Attentive := by
  intro hcalm' other m hm hidle
  rw [machineAt?_congr hmachines] at hm
  rcases machineAt?_setMachine_eq_some hm with ⟨rfl, rfl⟩ | ⟨_, hm⟩
  · exact hm' hidle
  · exact h (hcalm hcalm') other m hm hidle

/-- A world that is not calm promises nothing. -/
theorem of_not_calm (h : ¬ w.Calm) : w.Attentive :=
  fun hcalm => absurd hcalm h

/-- A machine that has a run is exchanged for one that has it still. -/
theorem updateActive (h : w.Attentive)
    (hmachines : w'.machines = (w.setMachine place m').machines) (hcalm : w'.Calm → w.Calm)
    (hactive : m.active = true) (hmark : m'.active = m.active) : w'.Attentive := by
  refine h.update hmachines hcalm fun hidle => ?_
  rw [hmark, hactive] at hidle
  contradiction

theorem setCell (h : w.Attentive) {actor : Actor} {cell : Cell σ} (hmarked : w.Marked actor)
    (hcell : w.cell? actor = some cell) (cell' : Cell σ) : (w.setCell actor cell').Attentive := by
  cases actor with
  | monitor type => exact h.sameRuns (.setMonitorCell w type cell')
  | machine place id =>
    obtain ⟨m, hm, rfl⟩ := Option.map_eq_some_iff.mp hcell
    rw [setCell_machine hm]
    exact h.updateActive rfl (fun hcalm => hcalm) (hmarked.active hm) rfl

theorem delivered {e : Event} {seen : List Traffic} (h : w.Attentive)
    (hdelivered : Delivered w e seen w') : w'.Attentive := by
  cases hdelivered with
  | refused _ _ => exact h
  | @handed place m types hm _ _ _ =>
    intro hcalm other m' hm' hidle
    rcases machineAt?_setMachine_eq_some hm' with ⟨rfl, rfl⟩ | ⟨_, hm'⟩
    -- The event goes past the mailbox, so a machine at rest stays at rest.
    · rcases h hcalm other m hm hidle with hhalted | ⟨hstarted, hstate⟩
      · exact .inl hhalted
      · exact .inr ⟨hstarted, hstate⟩
    · exact h hcalm other m' hm' hidle
  | queued _ _ _ _ => exact h.update rfl (fun hcalm => hcalm) nofun
  | woken _ _ _ _ => exact h.update rfl (fun hcalm => hcalm) nofun

theorem create {catalog : Catalog σ} {type : String} {payload : Option Value} {id : MachineId}
    (h : w.Attentive) (hcreate : w.create catalog type payload = .ok (id, w')) :
    w'.Attentive := by
  obtain ⟨blueprint, registry, rfl⟩ := create_eq_ok hcreate
  intro hcalm place m hm hidle
  rcases machineAt?_append_eq_some rfl hm with hm | ⟨_, rfl⟩
  · exact h hcalm place m hm hidle
  · contradiction

theorem markBound (h : w.Attentive) (config : Config) : (w.markBound config).Attentive := by
  refine h.congr (markBound_machines w config) ?_
  rintro ⟨hfailure, hbounded⟩
  refine ⟨by simpa using hfailure, ?_⟩
  cases hbound : w.bounded with
  | false => rfl
  | true =>
    rw [markBound_bounded_of_bounded config hbound] at hbounded
    contradiction

theorem beginTurn (h : w.Attentive) (index : Nat) : (w.beginTurn index).Attentive := by
  unfold World.beginTurn World.beginRun
  split <;> exact h.congr rfl fun hcalm => hcalm

/-- A machine that fails leaves a failure behind, unless the bound is reached. -/
theorem abort {f : Failure} : (w.abort place m f).retire.Attentive := by
  refine of_not_calm ?_
  rintro ⟨hfailure, hbounded⟩
  unfold World.abort at hfailure hbounded
  dsimp only at hfailure hbounded
  split at hfailure
  · rename_i hbound
    rw [if_pos hbound] at hbounded
    exact Bool.false_ne_true (hbounded.symm.trans hbound)
  · simp [World.retire, World.fail] at hfailure

theorem carried {actor : Actor} {progress : Progress} (hcarried : Carried w actor progress w')
    (h : w.Attentive) (hmarked : w.Marked actor) : w'.Attentive := by
  cases hcarried with
  | acting hcell hpaused haction =>
    exact (h.setCell hmarked hcell _).congr rfl fun hcalm => hcalm
  | yielded hm hresult =>
    exact h.updateActive rfl (fun hcalm => hcalm) (hmarked.active hm) rfl
  | halted hm hresult => exact h.update rfl (fun hcalm => hcalm) fun _ => .inl rfl
  | aborted hm hresult => exact abort
  | judged hm hresult hback =>
    exact h.sameRuns (SameRuns.carried (.judged hm hresult hback))

end Attentive

section Runs

variable {sys : System σ} {w w' : World σ} {seen : List Traffic}

theorem Accounted.marked {actor : Actor} {p : Paused} {c : Context} {stage : Stage σ}
    {rest : List (Frame σ)} (h : w.Accounted ([] ++ w.runs))
    (hframes : w.frames = .acting actor p c stage :: rest) : w.Marked actor := by
  cases actor with
  | monitor type => trivial
  | machine place id =>
    refine (h.mem_iff place).mp ?_
    simp [runs, running_of_frames hframes, Frame.place?, Actor.place?]

/-- Every small step keeps it that resting machines have nothing to do. -/
theorem Transition.attentive (haccounted : w.Accounted ([] ++ w.runs)) (h : w.Attentive)
    (ht : Transition sys w seen w') : w'.Attentive := by
  cases ht with
  | start hframes hm hcreated hcarried =>
    have hactive := haccounted.active_of_frames hframes rfl hm
    exact .carried hcarried (h.updateActive rfl (fun hcalm => hcalm) hactive rfl)
      ⟨_, machineAt?_setMachine_self hm, hactive⟩
  | dispatch hframes hm _ hfailed hselect hcarried =>
    have hactive := haccounted.active_of_frames hframes rfl hm
    exact .carried hcarried (h.updateActive rfl (fun hcalm => hcalm) hactive rfl)
      ⟨_, machineAt?_setMachine_self hm, hactive⟩
  | rest hframes hm hactive hfailed hselect =>
    exact h.update rfl (fun hcalm => hcalm) fun _ => .inr (Machine.rests_of_select hactive hselect)
  | unselectable hframes hm hactive hfailed hselect => exact .abort
  | stop hframes hm hwhy =>
    rcases hwhy with hhalted | ⟨_, hfailed⟩
    · exact h.update rfl (fun hcalm => hcalm) fun _ => .inl hhalted
    · refine .of_not_calm fun hcalm => ?_
      have hfailure : w.failure = none := hcalm.1
      simp [hasFailed, hfailure] at hfailed
  | @answer actor _ _ _ _ _ _ hframes hcell hcarried =>
    have hmarked := haccounted.marked hframes
    refine .carried hcarried (h.congr rfl fun hcalm => hcalm) ?_
    cases actor <;> exact hmarked
  | panic hpropagate => exact h.congr rfl fun hcalm => hcalm
  | goOn hframes => exact h.congr rfl fun hcalm => hcalm
  | store hframes hcell =>
    exact (h.setCell (haccounted.marked hframes) hcell _).congr rfl fun hcalm => hcalm
  | remark hframes => exact h.congr rfl fun hcalm => hcalm
  | send hframes hdeliver =>
    exact (h.delivered (delivered_of_deliver hdeliver)).congr rfl fun hcalm => hcalm
  | create hframes hcreate => exact (h.create hcreate).congr rfl fun hcalm => hcalm
  | notify hframes hm hcarried =>
    exact .carried hcarried (h.congr rfl fun hcalm => hcalm) trivial
  | take hframes hm htake =>
    have hactive := haccounted.active_of_frames hframes rfl hm
    exact h.updateActive rfl (fun hcalm => hcalm) hactive rfl
  | block hframes hm htake =>
    have hactive := haccounted.active_of_frames hframes rfl hm
    exact h.updateActive rfl (fun hcalm => hcalm) hactive rfl
  | resume hframes hm hreceived =>
    have hactive := haccounted.active_of_frames hframes rfl hm
    exact h.updateActive rfl (fun hcalm => hcalm) hactive rfl
  | giveUp hframes hm hreceived hgiven =>
    have hactive := haccounted.active_of_frames hframes rfl hm
    have hgivenAttentive := hgiven.keeps (P := Attentive) h (h.markBound sys.config)
    exact hgivenAttentive.updateActive rfl (fun hcalm => hcalm) hactive rfl
  | turn hframes hm hreceived hfailed hbounded hindex =>
    exact (h.markBound sys.config).beginTurn _

/-- Every operation from outside keeps it as well. -/
theorem Operated.attentive (h : w.Attentive) (ho : Operated sys w seen w') : w'.Attentive := by
  cases ho with
  | unchanged => exact h
  | create hcreate => exact h.create hcreate
  | send hdeliver => exact h.delivered (delivered_of_deliver hdeliver)
  | fail f =>
    refine .of_not_calm fun hcalm => ?_
    have hfailure : (w.failure <|> some f) = none := hcalm.1
    cases hw : w.failure <;> simp [hw] at hfailure
  | describe registry => exact h.congr rfl fun hcalm => hcalm
  | register htype hcarried =>
    exact .carried hcarried (h.congr rfl fun hcalm => hcalm) trivial
  | notify hm hcarried => exact .carried hcarried h trivial
  | step hindex => exact h.beginTurn _
  | settle hend => exact h.markBound sys.config
  | run hindex => exact (h.markBound sys.config).beginTurn _

/-- In all runs of a serial system whose panics are caught, machines at rest have
nothing to do. -/
theorem Run.attentive {log : List Traffic} (hserial : sys.config.serial = true)
    (hcaught : sys.config.propagatePanics = false) (hrun : Run sys w log) : w.Attentive := by
  induction hrun with
  | empty => exact .of_no_machines rfl
  | next hrun hnext ih =>
    exact (next_leadsTo hserial hnext).attentive (hrun.accounted hserial hcaught) ih
  | outside hrun hidle hi ih => exact (hi.operated hserial hidle).attentive ih
  | reset hrun hidle ih => exact .of_no_machines rfl

end Runs

end World

/-! ## Sessions -/

namespace Session

open World

variable [ChoiceSource τ] {sys : System σ}

/-- After any history, if running until nothing is left ends well and within the step
bound, nothing is pending, every machine was started, and what is left in the mailbox
of a machine that has not halted is deferred by its current state, which does not
handle `Default`. -/
theorem History.quiescent (hserial : sys.config.serial = true)
    (hcaught : sys.config.propagatePanics = false) {s : Session σ τ} (h : History sys s)
    {budget steps : Nat} (hrun : (s.run sys budget).1 = .ok (.ok steps))
    (hbound : (s.run sys budget).2.world.bounded = false) :
    (s.run sys budget).2.world.pending = [] ∧
      ∀ m ∈ (s.run sys budget).2.world.machines,
        m.active = false ∧ m.lifecycle ≠ .created ∧
          (m.lifecycle ≠ .halted →
            ∃ top state, m.cell.stack.top? = some top ∧
              m.cell.blueprint.automaton.state? top = some state ∧
              (∀ e ∈ m.mailbox, state.defers e.type = true) ∧ state.handlesDefault = false) := by
  have hrest := h.atRest hserial
  have hended : (s.run sys budget).1 ≠ .error .outOfBudget := by
    rw [hrun]
    exact nofun
  obtain ⟨⟨log, hreached⟩, hframes⟩ := run_left hserial budget hrest
  have hframes := hframes hended
  obtain ⟨hfailure, hend⟩ := run_eq_ok hserial hrest hrun
  have hpending : (s.run sys budget).2.world.pending = [] := by
    rcases hend with hbounded | hpending
    · rw [hbound] at hbounded
      contradiction
    · exact hpending
  have haccounted := hreached.accounted hserial hcaught
  have hattentive := hreached.attentive hserial hcaught
  have hruns : (s.run sys budget).2.world.runs = [] := by
    simp [runs, running, hframes, hpending]
  refine ⟨hpending, ?_⟩
  intro m hm
  obtain ⟨place, hplace⟩ := List.mem_iff_getElem?.mp hm
  have hidle : m.active = false := by
    cases hactive : m.active with
    | false => rfl
    | true =>
      have hmem := (haccounted.mem_iff place).mpr ⟨m, hplace, hactive⟩
      rw [hruns] at hmem
      contradiction
  refine ⟨hidle, ?_⟩
  -- The system is calm and nothing runs, so the invariant speaks of every machine.
  rcases hattentive ⟨hfailure, hbound⟩ place m hplace hidle with hhalted | ⟨hstarted, hstate⟩
  · exact ⟨by simp [hhalted], fun hlive => absurd hhalted hlive⟩
  · exact ⟨by simp [hstarted], fun _ => hstate⟩

theorem History.quiescent_begun :
    (Rendezvous.begun.run Rendezvous.system 100).1 = .ok (.ok 4) ∧
      (Rendezvous.begun.run Rendezvous.system 100).2.world.bounded = false ∧
      (Rendezvous.begun.run Rendezvous.system 100).2.world.pending = [] ∧
      ∀ m ∈ (Rendezvous.begun.run Rendezvous.system 100).2.world.machines, m.active = false := by
  have hrun : (Rendezvous.begun.run Rendezvous.system 100).1 = .ok (.ok 4) := rfl
  have hbound : (Rendezvous.begun.run Rendezvous.system 100).2.world.bounded = false := rfl
  obtain ⟨hpending, hmachines⟩ :=
    History.quiescent rfl rfl Rendezvous.history_begun hrun hbound
  exact ⟨hrun, hbound, hpending, fun m hm => (hmachines m hm).1⟩

end Session

end PushdownActors
