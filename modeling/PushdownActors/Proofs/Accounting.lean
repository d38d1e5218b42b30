-- SUMMARY: Every machine has at most one run, and its mark, the queue, the frames and the counter agree about it.
import Mathlib.Data.List.Perm.Basic
import PushdownActors.Proofs.Frames

/-!
# The account of runs

Three things tell whether a machine has a run: its `active` mark, its place in the
queue or among the frames, and the number of runs that the world counts. They are
kept in different parts of the world and change at different moments of a step. This
module shows that they agree whenever a step is over.

A panic that comes through ends all runs in progress at once. Their machines keep
their marks for ever, so an account that is to hold under panics as well has to name
the runs that were lost.
-/

namespace PushdownActors

namespace World

/-- The listed runs are all that there are: one for each machine that is marked, and
as many as the world counts. -/
structure Accounted (w : World σ) (runs : List Place) : Prop where
  nodup : runs.Nodup
  mem_iff : ∀ place, place ∈ runs ↔ ∃ m, w.machineAt? place = some m ∧ m.active = true
  count : w.active = runs.length

namespace Accounted

variable {w w' : World σ} {runs runs' lost : List Place} {place : Place} {m m' : Machine σ}

/-! ## Single changes -/

theorem perm (h : w.Accounted runs) (hperm : runs.Perm runs') : w.Accounted runs' where
  nodup := hperm.nodup_iff.mp h.nodup
  mem_iff := fun place => hperm.mem_iff.symm.trans (h.mem_iff place)
  count := h.count.trans hperm.length_eq

/-- Without machines there are no runs. -/
theorem nil (hmachines : w.machines = []) (hactive : w.active = 0) : w.Accounted [] where
  nodup := List.nodup_nil
  mem_iff := by simp [machineAt?, hmachines]
  count := hactive

/-- The account depends on the machines and the counter alone. -/
theorem congr (h : w.Accounted runs) (hmachines : w'.machines = w.machines)
    (hactive : w'.active = w.active) : w'.Accounted runs where
  nodup := h.nodup
  mem_iff := by simpa only [machineAt?, hmachines] using h.mem_iff
  count := hactive.trans h.count

theorem sameRuns (h : w.Accounted (lost ++ w.runs)) (hsame : SameRuns w w') :
    w'.Accounted (lost ++ w'.runs) := by
  rw [hsame.runs]
  exact h.congr hsame.machines hsame.active

/-- A machine that has a run is marked. -/
theorem active_of_mem (h : w.Accounted runs) (hmem : place ∈ runs)
    (hm : w.machineAt? place = some m) : m.active = true := by
  obtain ⟨m', hm', hactive⟩ := (h.mem_iff place).mp hmem
  cases hm.symm.trans hm'
  exact hactive

/-- The machine whose frame is the innermost is marked. -/
theorem active_of_frames {f : Frame σ} {rest : List (Frame σ)} (h : w.Accounted (lost ++ w.runs))
    (hframes : w.frames = f :: rest) (hplace : f.place? = some place)
    (hm : w.machineAt? place = some m) : m.active = true := by
  refine h.active_of_mem ?_ hm
  simp [runs, running_of_frames hframes, hplace]

/-- No frame beneath that of a machine belongs to the same machine. -/
theorem place?_ne_of_frames {f : Frame σ} {rest : List (Frame σ)}
    (h : w.Accounted (lost ++ w.runs)) (hframes : w.frames = f :: rest)
    (hplace : f.place? = some place) : ∀ g ∈ rest, g.place? ≠ some place := by
  intro g hg hsame
  have hrunning : w.running = place :: rest.filterMap Frame.place? := by
    rw [running_of_frames hframes, hplace]
    rfl
  have hnodup := (List.nodup_append.mp h.nodup).2.1
  rw [runs, hrunning] at hnodup
  refine (List.nodup_cons.mp (List.nodup_append.mp hnodup).1).1 ?_
  exact List.mem_filterMap.mpr ⟨g, hg, hsame⟩

/-- A machine that is not marked has no run. -/
theorem not_mem_of_idle (h : w.Accounted runs) (hm : w.machineAt? place = some m)
    (hidle : m.active = false) : place ∉ runs := by
  intro hmem
  rw [h.active_of_mem hmem hm] at hidle
  contradiction

/-- A machine is exchanged for one with the same mark. -/
theorem update (h : w.Accounted runs) (hm : w.machineAt? place = some m)
    (hmachines : w'.machines = (w.setMachine place m').machines) (hactive : w'.active = w.active)
    (hmark : m'.active = m.active) : w'.Accounted runs where
  nodup := h.nodup
  mem_iff := by
    intro other
    rw [h.mem_iff other, machineAt?_congr hmachines]
    by_cases hplace : other = place
    · subst hplace
      simp [hm, machineAt?_setMachine_self hm, hmark]
    · rw [machineAt?_setMachine_of_ne (Ne.symm hplace)]
  count := hactive.trans h.count

/-- The run of a machine ends, and with it the mark. -/
theorem retire (h : w.Accounted (place :: runs)) (hm : w.machineAt? place = some m)
    (hmachines : w'.machines = (w.setMachine place m').machines)
    (hactive : w'.active = w.active - 1) (hidle : m'.active = false) : w'.Accounted runs where
  nodup := (List.nodup_cons.mp h.nodup).2
  mem_iff := by
    intro other
    have hfresh : place ∉ runs := (List.nodup_cons.mp h.nodup).1
    have hmem := h.mem_iff other
    rw [machineAt?_congr hmachines]
    by_cases hplace : other = place
    · subst hplace
      simp [hfresh, machineAt?_setMachine_self hm, hidle]
    · rw [machineAt?_setMachine_of_ne (Ne.symm hplace), ← hmem]
      simp [hplace]
  count := by rw [hactive, h.count, List.length_cons, Nat.add_sub_cancel]

/-- A machine without a run is marked and gets one. -/
theorem schedule (h : w.Accounted runs) (hm : w.machineAt? place = some m)
    (hidle : m.active = false) (hmachines : w'.machines = (w.setMachine place m').machines)
    (hactive : w'.active = w.active + 1) (hmark : m'.active = true) :
    w'.Accounted (place :: runs) where
  nodup := List.nodup_cons.mpr ⟨h.not_mem_of_idle hm hidle, h.nodup⟩
  mem_iff := by
    intro other
    rw [machineAt?_congr hmachines]
    by_cases hplace : other = place
    · subst hplace
      simp [machineAt?_setMachine_self hm, hmark]
    · rw [machineAt?_setMachine_of_ne (Ne.symm hplace), ← h.mem_iff other]
      simp [hplace]
  count := by rw [hactive, h.count, List.length_cons]

/-- A new machine is marked and gets its first run. -/
theorem append (h : w.Accounted runs) (hmachines : w'.machines = w.machines ++ [m])
    (hactive : w'.active = w.active + 1) (hmark : m.active = true) :
    w'.Accounted (w.machines.length :: runs) where
  nodup := by
    refine List.nodup_cons.mpr ⟨?_, h.nodup⟩
    intro hmem
    -- A run that was there already would be of a machine at this place.
    obtain ⟨m', hm', _⟩ := (h.mem_iff _).mp hmem
    simp [machineAt?] at hm'
  mem_iff := by
    intro other
    have hmem := h.mem_iff other
    simp only [machineAt?] at hmem
    simp only [machineAt?, hmachines, List.mem_cons, hmem, List.getElem?_append]
    rcases Nat.lt_trichotomy other w.machines.length with hlt | heq | hgt
    · simp [hlt, Nat.ne_of_lt hlt]
    · simp [heq, hmark]
    · have hbeyond : other - w.machines.length ≠ 0 := Nat.sub_ne_zero_of_lt hgt
      simp [Nat.not_lt_of_gt hgt, Nat.ne_of_gt hgt, hbeyond]
  count := by simp [hactive, h.count]

/-- The innermost frame is another, of the same run. -/
theorem replaceFrame {f f' : Frame σ} {rest : List (Frame σ)} (h : w.Accounted (lost ++ w.runs))
    (hframes : w.frames = f :: rest) (hplace : f'.place? = f.place?) :
    { w with frames := f' :: rest }.Accounted (lost ++ { w with frames := f' :: rest }.runs) := by
  rw [World.runs, running_replaceFrame hframes hplace]
  exact h.congr rfl rfl

theorem setCell {actor : Actor} {cell : Cell σ} (h : w.Accounted (lost ++ w.runs))
    (hcell : w.cell? actor = some cell) (cell' : Cell σ) :
    (w.setCell actor cell').Accounted (lost ++ (w.setCell actor cell').runs) := by
  cases actor with
  | monitor type => exact h.sameRuns (.setMonitorCell w type cell')
  | machine place id =>
    obtain ⟨m, hm, rfl⟩ := Option.map_eq_some_iff.mp hcell
    rw [setCell_machine hm]
    exact h.update hm rfl rfl rfl

/-! ## Sending, creating, turns -/

/-- A run that is pending behind all others. -/
theorem perm_pending (lost running pending : List Place) (place : Place) :
    (place :: (lost ++ (running ++ pending))).Perm (lost ++ (running ++ (pending ++ [place]))) := by
  rw [← List.append_assoc, ← List.append_assoc, ← List.append_assoc]
  exact (List.perm_append_singleton ..).symm

theorem delivered {e : Event} {seen : List Traffic} (h : w.Accounted (lost ++ w.runs))
    (hdelivered : Delivered w e seen w') : w'.Accounted (lost ++ w'.runs) := by
  cases hdelivered with
  | refused _ _ => exact h
  | handed hm _ _ _ => exact h.update hm rfl rfl rfl
  | queued hm _ _ hactive => exact h.update hm rfl rfl hactive.symm
  | @woken place m hm _ _ hidle =>
    let m' : Machine σ := { m with mailbox := m.mailbox ++ [e], active := true }
    have hwoken : ((w.setMachine place m').schedule place).Accounted (place :: (lost ++ w.runs)) :=
      h.schedule hm hidle rfl rfl rfl
    exact hwoken.perm (perm_pending ..)

theorem create {catalog : Catalog σ} {type : String} {payload : Option Value} {id : MachineId}
    (h : w.Accounted (lost ++ w.runs)) (hcreate : w.create catalog type payload = .ok (id, w')) :
    w'.Accounted (lost ++ w'.runs) := by
  obtain ⟨blueprint, registry, rfl⟩ := create_eq_ok hcreate
  let m := w.newMachine catalog type payload blueprint
  exact (h.append (m := m) rfl rfl rfl).perm (perm_pending ..)

theorem beginTurn {index : Nat} (h : w.Accounted (lost ++ w.runs))
    (hindex : index < w.pending.length) :
    (w.beginTurn index).Accounted (lost ++ (w.beginTurn index).runs) := by
  have hrun : w.beginRun index
      = { w with
          pending := w.pending.eraseIdx index
          frames := .ready w.pending[index] :: w.frames } := by
    simp [beginRun, List.getElem?_eq_getElem hindex]
  refine (h.perm ?_).congr (by simp [World.beginTurn, hrun]) (by simp [World.beginTurn, hrun])
  refine List.Perm.append_left lost ?_
  have hpick : (w.pending[index] :: w.pending.eraseIdx index).Perm w.pending :=
    List.getElem_cons_eraseIdx_perm hindex
  simp only [World.beginTurn, hrun, World.runs, World.running, List.filterMap_cons, Frame.place?]
  exact ((List.perm_middle.symm).trans (hpick.append_left _)).symm

theorem markBound {config : Config} (h : w.Accounted (lost ++ w.runs)) :
    (w.markBound config).Accounted (lost ++ (w.markBound config).runs) := by
  refine Accounted.congr ?_ (markBound_machines w config) (markBound_active w config)
  simpa [World.runs, World.running] using h

/-! ## Dispatches -/

/-- Without its innermost frame a world has one run less, if the frame is part of one. -/
theorem popFrame {f : Frame σ} {rest : List (Frame σ)} (h : w.Accounted (lost ++ w.runs))
    (hframes : w.frames = f :: rest) :
    { w with frames := rest }.Accounted
      (lost ++ (f.place?.toList ++ { w with frames := rest }.runs)) := by
  have hruns : w.runs = f.place?.toList ++ { w with frames := rest }.runs := by
    rw [World.runs, running_of_frames hframes, List.append_assoc]
    rfl
  exact (hruns ▸ h).congr rfl rfl

/-- The runs that a panic ends are lost. -/
theorem panic (h : w.Accounted (lost ++ w.runs)) :
    { w with frames := [] }.Accounted
      (lost ++ w.running ++ { w with frames := [] }.runs) := by
  rw [List.append_assoc]
  exact h.congr rfl rfl

/-- The run of a machine that fails ends like any other. -/
theorem abort {f : Failure} (h : w.Accounted (place :: (lost ++ w.runs)))
    (hm : w.machineAt? place = some m) :
    (w.abort place m' f).retire.Accounted (lost ++ (w.abort place m' f).retire.runs) := by
  unfold World.abort
  dsimp only
  split <;> exact h.retire hm rfl rfl rfl

/-- However the dispatch of an actor is carried on, its run is back among the runs or
has ended. -/
theorem carried {actor : Actor} {progress : Progress}
    (hcarried : Carried w actor progress w')
    (h : w.Accounted (lost ++ (actor.place?.toList ++ w.runs))) :
    w'.Accounted (lost ++ w'.runs) := by
  cases actor with
  | monitor type => exact h.sameRuns (SameRuns.carried hcarried)
  | machine place id =>
    -- All ways but one take the run of this machine away, or put it behind the queue.
    have hfirst : w.Accounted (place :: (lost ++ w.runs)) := h.perm List.perm_middle
    cases hcarried with
    | acting hcell hpaused haction =>
      obtain ⟨m, hm, rfl⟩ := Option.map_eq_some_iff.mp hcell
      rw [setCell_machine hm]
      exact h.update hm rfl rfl rfl
    | yielded hm hresult => exact (hfirst.perm (perm_pending ..)).update hm rfl rfl rfl
    | halted hm hresult => exact hfirst.retire hm rfl rfl rfl
    | aborted hm hresult => exact hfirst.abort hm

end Accounted

/-! ## Runs of a system -/

section Runs

variable {sys : System σ} {w w' : World σ} {lost : List Place} {seen : List Traffic}

/-- Every small step keeps the account, unless a panic ends all runs in progress. -/
theorem Transition.accounted (h : w.Accounted (lost ++ w.runs)) (ht : Transition sys w seen w') :
    w'.Accounted (lost ++ w'.runs) ∨
      sys.config.propagatePanics = true ∧ w' = { w with frames := [] } ∧ seen = [] := by
  cases ht with
  | panic hpropagate => exact .inr ⟨hpropagate, rfl, rfl⟩
  | start hframes hm hcreated hcarried =>
    exact .inl (.carried hcarried ((h.popFrame hframes).update hm rfl rfl rfl))
  | dispatch hframes hm hactive hfailed hselect hcarried =>
    exact .inl (.carried hcarried ((h.popFrame hframes).update hm rfl rfl rfl))
  | rest hframes hm hactive hfailed hselect =>
    exact .inl (((h.popFrame hframes).perm List.perm_middle).retire hm rfl rfl rfl)
  | unselectable hframes hm hactive hfailed hselect =>
    exact .inl (((h.popFrame hframes).perm List.perm_middle).abort hm)
  | stop hframes hm hwhy =>
    exact .inl (((h.popFrame hframes).perm List.perm_middle).retire hm rfl rfl rfl)
  | answer hframes hcell hcarried => exact .inl (.carried hcarried (h.popFrame hframes))
  | goOn hframes => exact .inl (h.replaceFrame hframes rfl)
  | store hframes hcell =>
    exact .inl ((h.setCell hcell _).replaceFrame ((setCell_frames ..).trans hframes) rfl)
  | remark hframes =>
    exact .inl ((h.sameRuns (.write w _)).replaceFrame hframes rfl)
  | send hframes hdeliver =>
    have hdelivered := delivered_of_deliver hdeliver
    exact .inl ((h.delivered hdelivered).replaceFrame (hdelivered.frames.trans hframes) rfl)
  | create hframes hcreate =>
    have hgrown := h.create hcreate
    obtain ⟨blueprint, registry, rfl⟩ := create_eq_ok hcreate
    exact .inl (hgrown.replaceFrame hframes rfl)
  | notify hframes hm hcarried =>
    exact .inl (.carried hcarried (h.replaceFrame hframes rfl))
  | take hframes hm htake =>
    exact .inl ((h.replaceFrame hframes rfl).update hm rfl rfl rfl)
  | block hframes hm htake =>
    exact .inl ((h.replaceFrame hframes rfl).update hm rfl rfl rfl)
  | resume hframes hm hreceived =>
    exact .inl ((h.replaceFrame hframes rfl).update hm rfl rfl rfl)
  | giveUp hframes hm hreceived hgiven =>
    have hgivenAccounted := hgiven.keeps (P := fun w => w.Accounted (lost ++ w.runs)) h h.markBound
    have hm' := (machineAt?_congr hgiven.machines _).trans hm
    have hframes' := hgiven.frames.trans hframes
    exact .inl ((hgivenAccounted.replaceFrame hframes' rfl).update hm' rfl rfl rfl)
  | turn hframes hm hreceived hfailed hbounded hindex =>
    exact .inl (h.markBound.beginTurn (by simpa using hindex))

/-- Every operation from outside keeps the account. -/
theorem Operated.accounted (h : w.Accounted (lost ++ w.runs)) (ho : Operated sys w seen w') :
    w'.Accounted (lost ++ w'.runs) := by
  cases ho with
  | unchanged => exact h
  | create hcreate => exact h.create hcreate
  | send hdeliver => exact h.delivered (delivered_of_deliver hdeliver)
  | fail f => exact h.congr rfl rfl
  | describe registry => exact h.congr rfl rfl
  | @register _ m registry _ htype hcarried =>
    have hadded : (w.withMonitor registry m).Accounted _ := h.congr rfl rfl
    exact .carried hcarried hadded
  | notify hm hcarried => exact .carried hcarried h
  | step hindex => exact h.beginTurn hindex
  | settle hend => exact h.markBound
  | run hindex => exact h.markBound.beginTurn (by simpa using hindex)

/-- In all runs of a serial system the account is right, once the runs that panics
have ended are counted in. -/
theorem Run.exists_accounted {log : List Traffic} (hserial : sys.config.serial = true)
    (hrun : Run sys w log) :
    ∃ lost, w.Accounted (lost ++ w.runs) ∧ (sys.config.propagatePanics = false → lost = []) := by
  refine Run.invariant
    (P := fun w _ => ∃ lost, w.Accounted (lost ++ w.runs) ∧
      (sys.config.propagatePanics = false → lost = [])) hserial ?_ ?_ ?_ ?_ hrun
  · exact ⟨[], .nil rfl rfl, fun _ => rfl⟩
  · rintro w w' log seen ⟨lost, h, hlost⟩ ht
    rcases ht.accounted h with h' | ⟨hpropagate, rfl, _⟩
    · exact ⟨lost, h', hlost⟩
    · exact ⟨lost ++ w.running, h.panic, by simp [hpropagate]⟩
  · rintro w w' log seen ⟨lost, h, hlost⟩ _ ho
    exact ⟨lost, ho.accounted h, hlost⟩
  · intro w log _
    exact ⟨[], .nil rfl rfl, fun _ => rfl⟩

/-- Without panics that come through there are no lost runs. -/
theorem Run.accounted {log : List Traffic} (hserial : sys.config.serial = true)
    (hcaught : sys.config.propagatePanics = false) (hrun : Run sys w log) :
    w.Accounted w.runs := by
  obtain ⟨lost, h, hlost⟩ := hrun.exists_accounted hserial
  rw [hlost hcaught] at h
  exact h

end Runs

end World

end PushdownActors
