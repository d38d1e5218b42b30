-- SUMMARY: How frames lie on each other, and that a serial system with something in progress always has a next step.
import PushdownActors.Proofs.Accounting

/-!
# Nesting

Frames lie on each other for two reasons only: a machine that is blocked in a receive
lets other runs go first, and a machine that notifies a monitor waits for it. So all
frames but the innermost are blocked receives, except that one notifying machine may
lie beneath the frame of a monitor. From this follows progress: the innermost frame
is never one that only waits, and the outermost run is reported as over only when no
frame is left.
-/

namespace PushdownActors

/-- The frame waits in a receive of a machine. -/
inductive Frame.Blocked : Frame σ → Prop
  | receiving {place : Place} {id : MachineId} {p : Paused} {c : Context}
      {types : List EventType} {next : Except Failure Event → Program σ Verdict} :
      Blocked (.acting (.machine place id) p c (.receiving types next))

/-- The frame waits for the dispatch of a monitor. -/
inductive Frame.Notifying : Frame σ → Prop
  | notifying {place : Place} {id : MachineId} {p : Paused} {c : Context}
      {next : Except Failure Unit → Program σ Verdict} :
      Notifying (.acting (.machine place id) p c (.notifying next))

/-- What may lie beneath the frame of an actor. -/
inductive Beneath : Actor → List (Frame σ) → Prop
  | machine {place : Place} {id : MachineId} {rest : List (Frame σ)}
      (h : ∀ f ∈ rest, f.Blocked) : Beneath (.machine place id) rest
  | outside {type : String} : Beneath (.monitor type) []
  | notifying {type : String} {f : Frame σ} {rest : List (Frame σ)} (hf : f.Notifying)
      (h : ∀ f ∈ rest, f.Blocked) : Beneath (.monitor type) (f :: rest)

/-- How the frames of a world may lie on each other. -/
inductive WellNested : List (Frame σ) → Prop
  | idle : WellNested []
  | ready {place : Place} {rest : List (Frame σ)} (h : ∀ f ∈ rest, f.Blocked) :
      WellNested (.ready place :: rest)
  | running {actor : Actor} {p : Paused} {c : Context} {program : Program σ Verdict}
      {rest : List (Frame σ)} (h : Beneath actor rest) :
      WellNested (.acting actor p c (.running program) :: rest)
  | blocked {f : Frame σ} {rest : List (Frame σ)} (hf : f.Blocked) (h : ∀ f ∈ rest, f.Blocked) :
      WellNested (f :: rest)

theorem WellNested.of_blocked {frames : List (Frame σ)} (h : ∀ f ∈ frames, f.Blocked) :
    WellNested frames := by
  cases frames with
  | nil => exact .idle
  | cons f rest =>
    obtain ⟨hf, hrest⟩ := List.forall_mem_cons.mp h
    exact .blocked hf hrest

/-- The monitor whose action is the innermost. -/
def Frame.judge? : List (Frame σ) → Option String
  | .acting (.monitor type) _ _ _ :: _ => some type
  | _ => none

namespace World

/-- The frames of the world are well nested, and the monitor on top of them exists. -/
structure Nested (w : World σ) : Prop where
  frames : WellNested w.frames
  judge : ∀ type, Frame.judge? w.frames = some type → (w.monitor? type).isSome

namespace Nested

variable {w w' : World σ}

theorem of_blocked (h : ∀ f ∈ w.frames, f.Blocked) : w.Nested where
  frames := .of_blocked h
  judge := by
    intro type htype
    cases hframes : w.frames with
    | nil =>
      rw [hframes] at htype
      contradiction
    | cons f rest =>
      have hf : f.Blocked := h f (hframes ▸ List.mem_cons_self)
      rw [hframes] at htype
      cases hf
      contradiction

theorem of_idle (h : w.frames = []) : w.Nested :=
  of_blocked (by simp [h])

/-- What lies beneath an action. -/
theorem beneath {actor : Actor} {p : Paused} {c : Context} {program : Program σ Verdict}
    {rest : List (Frame σ)} (h : w.Nested)
    (hframes : w.frames = .acting actor p c (.running program) :: rest) : Beneath actor rest := by
  have hnested := h.frames
  rw [hframes] at hnested
  cases hnested with
  | running h => exact h
  | blocked hf _ => cases hf

/-- The frames beneath a run, or beneath a blocked receive, are blocked. -/
theorem blocked_of_ready {place : Place} {rest : List (Frame σ)} (h : w.Nested)
    (hframes : w.frames = .ready place :: rest) : ∀ f ∈ rest, f.Blocked := by
  have hnested := h.frames
  rw [hframes] at hnested
  cases hnested with
  | ready h => exact h
  | blocked hf _ => cases hf

theorem blocked_of_receiving {place : Place} {id : MachineId} {p : Paused} {c : Context}
    {types : List EventType} {next : Except Failure Event → Program σ Verdict}
    {rest : List (Frame σ)} (h : w.Nested)
    (hframes : w.frames = .acting (.machine place id) p c (.receiving types next) :: rest) :
    ∀ f ∈ rest, f.Blocked := by
  have hnested := h.frames
  rw [hframes] at hnested
  cases hnested with
  | blocked _ h => exact h

/-- The action of a machine is on top of blocked receives. -/
theorem of_machine {place : Place} {id : MachineId} {p : Paused} {c : Context}
    {program : Program σ Verdict} {rest : List (Frame σ)} (h : ∀ f ∈ rest, f.Blocked)
    (hframes : w.frames = .acting (.machine place id) p c (.running program) :: rest) :
    w.Nested where
  frames := hframes ▸ .running (.machine h)
  judge := by
    intro type htype
    rw [hframes] at htype
    contradiction

end Nested

theorem isSome_monitor?_congr {w w' : World σ} (h : w'.monitors = w.monitors) (type : String) :
    (w'.monitor? type).isSome = (w.monitor? type).isSome := by
  rw [monitor?, monitor?, h]

/-- Putting a monitor in the place of another keeps which types have one. -/
theorem isSome_monitor?_setMonitor (w : World σ) (m : Monitor σ) (type : String) :
    ((w.setMonitor m).monitor? type).isSome = (w.monitor? type).isSome := by
  have hsame : ((·.type == type) ∘ fun x : Monitor σ => if x.type == m.type then m else x)
      = (·.type == type) := by
    funext x
    by_cases hx : x.type = m.type <;> simp [hx]
  rw [monitor?, setMonitor, List.find?_map, hsame, Option.isSome_map, monitor?]

theorem isSome_monitor?_setCell (w : World σ) (actor : Actor) (cell : Cell σ) (type : String) :
    ((w.setCell actor cell).monitor? type).isSome = (w.monitor? type).isSome := by
  cases actor with
  | machine place id =>
    cases hm : w.machineAt? place with
    | none => simp [setCell, hm]
    | some m => rw [setCell_machine hm]; rfl
  | monitor other =>
    cases hm : w.monitor? other with
    | none => simp [setCell, hm]
    | some m => rw [setCell_monitor hm, isSome_monitor?_setMonitor]

/-- After the dispatch of a monitor the frames beneath it are on top. -/
theorem giveBack_nested {w w' : World σ} {type : String} {result : Except Failure Unit}
    (h : (w.giveBack result).LeadsTo w') (hbeneath : Beneath (.monitor type) w.frames) :
    w'.Nested := by
  unfold giveBack at h
  cases hframes : w.frames with
  | nil =>
    simp only [hframes, Move.leadsTo_returned] at h
    subst h
    exact .of_blocked (by simp [hframes])
  | cons f rest =>
    rw [hframes] at hbeneath
    cases hbeneath with
    | notifying hf hbelow =>
      cases hf with
      | notifying =>
        simp only [hframes, Move.leadsTo_step] at h
        subst h
        exact .of_machine hbelow rfl

/-- However a dispatch is carried on, frames stay well nested. -/
theorem Carried.nested {w w' : World σ} {actor : Actor} {progress : Progress}
    (hbeneath : Beneath actor w.frames) (hcarried : Carried w actor progress w') :
    w'.Nested := by
  cases hcarried with
  | acting hcell hpaused haction =>
    refine ⟨.running ?_, ?_⟩
    · exact (setCell_frames w actor _).symm ▸ hbeneath
    · intro type htype
      cases actor with
      | machine place id => contradiction
      | monitor other =>
        obtain rfl : other = type := Option.some.inj htype
        -- The monitor was there when its dispatch was carried on, and is there still.
        change ((w.setCell _ _).monitor? other).isSome = true
        rw [isSome_monitor?_setCell]
        obtain ⟨m, hm, _⟩ := Option.map_eq_some_iff.mp hcell
        simp [hm]
  | yielded hm hresult =>
    cases hbeneath with
    | machine h => exact .of_blocked h
  | halted hm hresult =>
    cases hbeneath with
    | machine h => exact .of_blocked h
  | aborted hm hresult =>
    cases hbeneath with
    | machine h =>
      refine .of_blocked ?_
      simp only [abort]
      split <;> exact h
  | judged hm hresult hback =>
    obtain ⟨judged, answer, heq, hframes, _⟩ := SameRuns.concludeMonitor_eq (w.setMonitor _) _ _
    rw [heq] at hback
    exact giveBack_nested hback (hframes ▸ hbeneath)

section Runs

variable {sys : System σ} {w w' : World σ} {seen : List Traffic}

/-- An action that goes on is where it was before, above the same frames. -/
theorem Nested.goOn {actor : Actor} {p : Paused} {c c' : Context}
    {program program' : Program σ Verdict} {rest : List (Frame σ)} (h : w.Nested)
    (hframes : w.frames = .acting actor p c (.running program) :: rest)
    (hframes' : w'.frames = .acting actor p c' (.running program') :: rest)
    (hmonitors : ∀ type, (w'.monitor? type).isSome = (w.monitor? type).isSome) : w'.Nested where
  frames := hframes' ▸ .running (h.beneath hframes)
  judge := by
    intro type htype
    rw [hmonitors]
    refine h.judge type ?_
    rw [hframes'] at htype
    rw [hframes]
    cases actor <;> exact htype

/-- The turn of a pending run begins on top of blocked receives. -/
theorem beginTurn_nested {index : Nat} (h : ∀ f ∈ w.frames, f.Blocked) :
    (w.beginTurn index).Nested := by
  unfold beginTurn beginRun
  cases w.pending[index]? with
  | none => exact .of_blocked h
  | some place => exact ⟨.ready h, nofun⟩

/-- Every small step keeps frames well nested. -/
theorem Transition.nested (h : w.Nested) (ht : Transition sys w seen w') : w'.Nested := by
  cases ht with
  | start hframes hm hcreated hcarried =>
    exact hcarried.nested (.machine (h.blocked_of_ready hframes))
  | dispatch hframes hm hactive hfailed hselect hcarried =>
    exact hcarried.nested (.machine (h.blocked_of_ready hframes))
  | rest hframes hm hactive hfailed hselect => exact .of_blocked (h.blocked_of_ready hframes)
  | unselectable hframes hm hactive hfailed hselect =>
    refine .of_blocked ?_
    simp only [abort]
    split <;> exact h.blocked_of_ready hframes
  | stop hframes hm hwhy => exact .of_blocked (h.blocked_of_ready hframes)
  | answer hframes hcell hcarried => exact hcarried.nested (h.beneath hframes)
  | panic hpropagate => exact .of_idle rfl
  | goOn hframes => exact h.goOn hframes rfl (isSome_monitor?_congr rfl)
  | store hframes hcell => exact h.goOn hframes rfl (isSome_monitor?_setCell w _ _)
  | remark hframes => exact h.goOn hframes rfl (isSome_monitor?_congr rfl)
  | send hframes hdeliver =>
    cases h.beneath hframes with
    | machine hbelow => exact .of_machine hbelow rfl
  | create hframes hcreate =>
    cases h.beneath hframes with
    | machine hbelow => exact .of_machine hbelow rfl
  | notify hframes hm hcarried =>
    cases h.beneath hframes with
    | machine hbelow => exact hcarried.nested (.notifying .notifying hbelow)
  | take hframes hm htake =>
    cases h.beneath hframes with
    | machine hbelow => exact .of_machine hbelow rfl
  | block hframes hm htake =>
    cases h.beneath hframes with
    | machine hbelow => exact .of_blocked (List.forall_mem_cons.mpr ⟨.receiving, hbelow⟩)
  | resume hframes hm hreceived => exact .of_machine (h.blocked_of_receiving hframes) rfl
  | giveUp hframes hm hreceived hgiven => exact .of_machine (h.blocked_of_receiving hframes) rfl
  | turn hframes hm hreceived hfailed hbounded hindex =>
    refine beginTurn_nested ?_
    rw [markBound_frames, hframes]
    exact List.forall_mem_cons.mpr ⟨.receiving, h.blocked_of_receiving hframes⟩

/-- An operation from outside begins with no frames. -/
theorem Operated.nested (hidle : w.frames = []) (ho : Operated sys w seen w') : w'.Nested := by
  have hblocked : ∀ f ∈ w.frames, f.Blocked := by simp [hidle]
  cases ho with
  | unchanged => exact .of_blocked hblocked
  | create hcreate =>
    obtain ⟨_, _, rfl⟩ := create_eq_ok hcreate
    exact .of_blocked hblocked
  | send hdeliver =>
    exact .of_blocked ((delivered_of_deliver hdeliver).frames.symm ▸ hblocked)
  | fail f => exact .of_blocked hblocked
  | describe registry => exact .of_blocked hblocked
  | @register _ m registry _ htype hcarried =>
    have hframes : (w.withMonitor registry m).frames = [] := hidle
    refine hcarried.nested ?_
    rw [hframes]
    exact .outside
  | notify hm hcarried =>
    refine hcarried.nested ?_
    rw [hidle]
    exact .outside
  | step hindex => exact beginTurn_nested hblocked
  | settle hend => exact .of_blocked (by simpa using hblocked)
  | run hindex => exact beginTurn_nested (by simpa using hblocked)

/-- In all runs of a serial system frames are well nested. -/
theorem Run.nested {log : List Traffic} (hserial : sys.config.serial = true)
    (hrun : Run sys w log) : w.Nested := by
  refine Run.invariant (P := fun w _ => w.Nested) hserial ?_ ?_ ?_ ?_ hrun
  · exact .of_idle rfl
  · intro w w' log seen h ht
    exact ht.nested h
  · intro w w' log seen _ hidle ho
    exact ho.nested hidle
  · intro w log _
    exact .of_idle rfl

end Runs

end World

/-! ## Progress -/

/-- The move is not stuck, and it reports an end only when nothing is in progress. -/
inductive Move.Sound : Move σ → Prop
  | step {w : World σ} : Sound (.step w)
  | ask {q : Question} {next : q.Answer → World σ} : Sound (.ask q next)
  | returned {w : World σ} {result : Except Failure Unit} (hidle : w.frames = []) :
      Sound (.returned w result)
  | panicked {w : World σ} {message : Option String} (hidle : w.frames = []) :
      Sound (.panicked w message)

namespace World

theorem endRun_sound (w : World σ) : w.endRun.Sound := by
  unfold endRun
  split
  · rename_i hempty
    exact .returned (List.isEmpty_iff.mp hempty)
  · exact .step

theorem giveBack_sound {w : World σ} {type : String} {result : Except Failure Unit}
    (hbeneath : Beneath (.monitor type) w.frames) : (w.giveBack result).Sound := by
  unfold giveBack
  cases hframes : w.frames with
  | nil => exact .returned hframes
  | cons f rest =>
    rw [hframes] at hbeneath
    cases hbeneath with
    | notifying hf _ =>
      cases hf
      exact .step

section Progress

variable {sys : System σ} {w : World σ}

theorem conclude_sound {actor : Actor} {result : Except Failure Status}
    (hserial : sys.config.serial = true) (hcell : (w.cell? actor).isSome)
    (hbeneath : Beneath actor w.frames) : (w.conclude sys actor result).Sound := by
  obtain ⟨cell, hcell⟩ := Option.isSome_iff_exists.mp hcell
  cases actor with
  | machine place id =>
    obtain ⟨m, hm, _⟩ := Option.map_eq_some_iff.mp hcell
    simp only [conclude, hm]
    unfold concludeMachine
    split
    · simp only [hserial, if_true]
      exact endRun_sound _
    · exact endRun_sound _
    · exact endRun_sound _
  | monitor type =>
    obtain ⟨m, hm, _⟩ := Option.map_eq_some_iff.mp hcell
    simp only [conclude, hm]
    obtain ⟨judged, answer, heq, hframes, _⟩ := SameRuns.concludeMonitor_eq w m result
    rw [heq]
    exact giveBack_sound (hframes ▸ hbeneath)

theorem isSome_cell?_setCell {actor : Actor} (h : (w.cell? actor).isSome) (cell : Cell σ) :
    ((w.setCell actor cell).cell? actor).isSome := by
  cases actor with
  | machine place id =>
    obtain ⟨_, hcell⟩ := Option.isSome_iff_exists.mp h
    obtain ⟨m, hm, _⟩ := Option.map_eq_some_iff.mp hcell
    simp [setCell_machine hm, cell?, machineAt?_setMachine_self hm]
  | monitor type =>
    rw [cell?, Option.isSome_map] at h ⊢
    rw [isSome_monitor?_setCell]
    exact h

theorem carry_sound {actor : Actor} {progress : Progress} (hserial : sys.config.serial = true)
    (hcell : (w.cell? actor).isSome) (hbeneath : Beneath actor w.frames) :
    (w.carry sys actor progress).Sound := by
  obtain ⟨cell, hsome⟩ := Option.isSome_iff_exists.mp hcell
  have hcell' := isSome_cell?_setCell hcell { cell with stack := progress.stack }
  have hbeneath' := setCell_frames w actor { cell with stack := progress.stack } ▸ hbeneath
  unfold carry
  simp only [hsome]
  split
  · exact conclude_sound hserial hcell' hbeneath'
  · exact conclude_sound hserial hcell' hbeneath'
  · split
    · exact .step
    · exact conclude_sound hserial hcell' hbeneath'

theorem notify_sound {type : String} {e : Event} (hserial : sys.config.serial = true)
    (hbeneath : Beneath (.monitor type) w.frames) : (w.notify sys type e).Sound := by
  unfold notify
  split
  · exact giveBack_sound hbeneath
  · split
    · exact giveBack_sound hbeneath
    · rename_i m hm
      have hm' : w.monitor? type = some m := (Option.filter_eq_some_iff.mp hm).1
      exact carry_sound hserial (by simp [cell?, hm']) hbeneath

theorem schedulePending_sound (h : w.pending ≠ []) : w.schedulePending.Sound := by
  unfold schedulePending
  split
  · contradiction
  · exact .step
  · exact .ask

theorem serve_sound {rest : List (Frame σ)} {actor : Actor} {p : Paused} {c : Context}
    {r : Request} {next : r.Reply → Program σ Verdict} (hserial : sys.config.serial = true)
    (hcell : (w.cell? actor).isSome) (hbeneath : Beneath actor rest) :
    (w.serve sys rest actor p c r next).Sound := by
  cases r with
  | raise e =>
    simp only [serve]
    split <;> exact .step
  | goto _ | push _ | pop | assert _ _ | remark _ => exact .step
  | choose q => exact .ask
  | id => cases actor <;> exact .step
  | send target e =>
    cases actor with
    | monitor type => exact .step
    | machine place id =>
      simp only [serve]
      split <;> exact .step
  | create type payload =>
    cases actor with
    | monitor type => exact .step
    | machine place id =>
      simp only [serve]
      split <;> exact .step
  | notify type e =>
    cases actor with
    | monitor type => exact .step
    | machine place id =>
      cases hbeneath with
      | machine h => exact notify_sound hserial (.notifying .notifying h)
  | receive types =>
    cases actor with
    | monitor type => exact .step
    | machine place id =>
      rw [cell?, Option.isSome_map] at hcell
      obtain ⟨m, hm⟩ := Option.isSome_iff_exists.mp hcell
      simp only [serve, hm]
      split <;> exact .step

theorem execute_sound {rest : List (Frame σ)} {actor : Actor} {p : Paused} {c : Context}
    {cell : Cell σ} {program : Program σ Verdict} (hserial : sys.config.serial = true)
    (hcell : w.cell? actor = some cell) (hbeneath : Beneath actor rest) :
    (w.execute sys rest actor p c cell program).Sound := by
  have hsome : (w.cell? actor).isSome := by simp [hcell]
  cases program with
  | done verdict =>
    simp only [execute]
    split
    · exact .panicked rfl
    · have hcell' : (World.cell? { w with frames := rest } actor).isSome := by
        cases actor <;> exact hsome
      exact carry_sound hserial hcell' hbeneath
  | load next => exact .step
  | store memory next => exact .step
  | request r next => exact serve_sound hserial hsome hbeneath

theorem beginDispatch_sound {place : Place} {m : Machine σ} (hserial : sys.config.serial = true)
    (hm : w.machineAt? place = some m) (hblocked : ∀ f ∈ w.frames, f.Blocked) :
    (beginDispatch sys w place m).Sound := by
  have hcell : ∀ m' : Machine σ,
      ((w.setMachine place m').cell? (.machine place m.id)).isSome := by
    intro m'
    simp [cell?, machineAt?_setMachine_self hm]
  unfold beginDispatch
  dsimp only
  split
  · exact endRun_sound _
  · exact carry_sound hserial (hcell _) (.machine hblocked)
  · split
    · exact endRun_sound _
    · split
      · exact endRun_sound _
      · exact endRun_sound _
      · exact carry_sound hserial (hcell _) (.machine hblocked)

theorem await_sound {rest : List (Frame σ)} {actor : Actor} {p : Paused} {c : Context}
    {types : List EventType} {next : Except Failure Event → Program σ Verdict} {place : Place}
    {m : Machine σ} (hserial : sys.config.serial = true) :
    (w.await sys rest actor p c types next place m).Sound := by
  unfold await
  split
  · exact .step
  · simp only [hserial, Bool.not_true, Bool.false_eq_true, if_false]
    split
    · exact .step
    · split
      · exact .step
      · split
        · exact .step
        · rename_i hpending
          exact schedulePending_sound (by simpa using hpending)

/-- Whatever is in progress has a next step, and it is only over when nothing else
is in progress. -/
theorem next_sound (hserial : sys.config.serial = true) (hnested : w.Nested)
    (hplaces : ∀ place ∈ w.running, (w.machineAt? place).isSome) (hframes : w.frames ≠ []) :
    (w.next sys).Sound := by
  unfold next
  split
  · contradiction
  · rename_i place rest htop
    have hmem : place ∈ w.running := by simp [running_of_frames htop, Frame.place?]
    obtain ⟨m, hm⟩ := Option.isSome_iff_exists.mp (hplaces place hmem)
    simp only [hm]
    exact beginDispatch_sound hserial hm (hnested.blocked_of_ready htop)
  · rename_i actor p c program rest htop
    have hcell : (w.cell? actor).isSome := by
      cases actor with
      | machine place id =>
        have hmem : place ∈ w.running := by
          simp [running_of_frames htop, Frame.place?, Actor.place?]
        rw [cell?, Option.isSome_map]
        exact hplaces place hmem
      | monitor type =>
        rw [cell?, Option.isSome_map]
        exact hnested.judge type (by rw [htop]; rfl)
    obtain ⟨cell, hcell⟩ := Option.isSome_iff_exists.mp hcell
    simp only [hcell]
    exact execute_sound hserial hcell (hnested.beneath htop)
  · rename_i place id p c types next rest htop
    have hmem : place ∈ w.running := by
      simp [running_of_frames htop, Frame.place?, Actor.place?]
    obtain ⟨m, hm⟩ := Option.isSome_iff_exists.mp (hplaces place hmem)
    simp only [hm]
    exact await_sound hserial
  -- The innermost frame is no receive of a monitor, and does not wait for a monitor.
  · rename_i htop
    have hfalse := hnested.frames
    rw [htop] at hfalse
    cases hfalse with
    | blocked hf _ => cases hf
  · rename_i htop
    have hfalse := hnested.frames
    rw [htop] at hfalse
    cases hfalse with
    | blocked hf _ => cases hf

/-- The move is not stuck, or there is nothing in progress and it says so. -/
def Closes (w : World σ) (move : Move σ) : Prop :=
  move.Sound ∨ w.frames = [] ∧ move = .idle

theorem schedulePending_closes (hidle : w.frames = []) : w.Closes w.schedulePending := by
  by_cases hpending : w.pending = []
  · refine .inr ⟨hidle, ?_⟩
    unfold schedulePending
    simp [hpending]
  · exact .inl (schedulePending_sound hpending)

theorem register_closes {type : String} (hserial : sys.config.serial = true)
    (hidle : w.frames = []) : w.Closes (w.register sys type) := by
  refine .inl ?_
  unfold register
  split
  · exact .returned hidle
  · split
    · exact .returned hidle
    · rename_i blueprint registry _
      let m : Monitor σ := { type, cell := { blueprint, memory := (sys.catalog type).fresh } }
      have hframes : (w.withMonitor registry m).frames = [] := hidle
      have hcell : ((w.withMonitor registry m).cell? (.monitor type)).isSome := by
        simp [cell?, withMonitor, removeMonitor, monitor?, m]
      have hbeneath : Beneath (.monitor type) (w.withMonitor registry m).frames := by
        rw [hframes]
        exact .outside
      exact carry_sound hserial hcell hbeneath

theorem notify_closes {type : String} {e : Event} (hserial : sys.config.serial = true)
    (hidle : w.frames = []) : w.Closes (w.notify sys type e) := by
  have hbeneath : Beneath (.monitor type) w.frames := by
    rw [hidle]
    exact .outside
  exact .inl (notify_sound hserial hbeneath)

/-- In all runs of a serial system the next step is there, unless nothing is in
progress. -/
theorem Run.next_closes {log : List Traffic} (hserial : sys.config.serial = true)
    (hrun : Run sys w log) : w.Closes (w.next sys) := by
  by_cases hframes : w.frames = []
  · refine .inr ⟨hframes, ?_⟩
    unfold World.next
    simp [hframes]
  · obtain ⟨lost, haccounted, _⟩ := hrun.exists_accounted hserial
    refine .inl (next_sound hserial (hrun.nested hserial) ?_ hframes)
    intro place hplace
    have hmem : place ∈ lost ++ w.runs := by simp [runs, hplace]
    obtain ⟨m, hm, _⟩ := (haccounted.mem_iff place).mp hmem
    simp [hm]

/-- A run until nothing is left is never stuck. -/
theorem Run.nextUntilQuiescent_sound {log : List Traffic} (hserial : sys.config.serial = true)
    (hrun : Run sys w log) : (w.nextUntilQuiescent sys).Sound := by
  have hnext := hrun.next_closes hserial
  unfold World.nextUntilQuiescent
  split
  · rename_i hidle
    split
    · exact .returned hidle
    · dsimp only
      split
      · exact .returned (by simpa using hidle)
      · rename_i hpending
        exact schedulePending_sound (by simp_all)
  · rename_i hframes
    split
    · exact .step
    · rcases hnext with hsound | ⟨hidle, _⟩
      · exact hsound
      · rw [hidle] at hframes
        contradiction

end Progress

end World

end PushdownActors
