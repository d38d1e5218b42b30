-- SUMMARY: Machines that have nothing to do with each other come to the same end under every schedule.
import PushdownActors.Proofs.Draining
import PushdownActors.Proofs.Quiescence

/-!
# Independent machines

What a machine does in its turn depends on itself alone if it is secluded and not sociable.
The turn can then be told apart from the world that it is taken in: it makes one machine
out of another, writes some entries, and is given up or ends the run. So the turns that a
machine takes until its run ends are its own, and a schedule only decides how those of
different machines are interleaved. Once one schedule is known to come to an end, all
machines have only so many turns left, and no other schedule can take more.
-/

namespace PushdownActors

namespace World

/-- The machine at a place keeps to itself, and its actions notify no monitors, choose
nothing and do not receive. -/
def solitary (w : World σ) (place : Place) (self : MachineId) (remembers : σ → Prop) :
    Seclusion σ where
  place := place
  self := self
  stands := fun target => (w.locate? target).map Prod.snd = some place
  sociable := False
  remembers := remembers

/-! ## Turns -/

/-- Small steps that ask nothing lead to the end of the run in progress. -/
inductive Ends (sys : System σ) : World σ → World σ → Prop
  | returned {w w' : World σ} (h : w.next sys = .returned w' (.ok ())) : Ends sys w w'
  | step {w w₁ w' : World σ} (h : w.next sys = .step w₁) (hrest : Ends sys w₁ w') :
      Ends sys w w'

/-- The world in the middle of a run, with what has become of the machine and with the
entries that it has written. -/
def inTurn (w : World σ) (place : Place) (m : Machine σ) (entries : List JournalEntry)
    (frames : List (Frame σ)) : World σ :=
  { w.setMachine place m with journal := entries ++ w.journal, frames }

/-- The world after a turn, which was given up or has ended the run. -/
def afterTurn (w : World σ) (place : Place) (m : Machine σ) (entries : List JournalEntry)
    (again : Bool) : World σ :=
  if again then (w.inTurn place m entries []).requeue place
  else (w.inTurn place m entries []).retire

/-- A world in which the machine can have a turn. -/
structure Hosts (x : Seclusion σ) (w : World σ) : Prop where
  calm : w.Calm
  machine : ∃ m, w.machineAt? x.place = some m ∧ m.id = x.self
  stands : ∀ target, x.stands target → (w.locate? target).map Prod.snd = some x.place

/-- In two worlds the machine has come equally far with its turn. -/
inductive Abreast (x : Seclusion σ) (w₀ v₀ : World σ) : World σ → World σ → Prop
  | intro {m : Machine σ} {entries : List JournalEntry} {frames : List (Frame σ)}
      (hm : m.Within x) (hframes : Secluded x frames)
      (howner : ∀ entry ∈ entries, entry.owner = .machine x.self) :
      Abreast x w₀ v₀ (w₀.inTurn x.place m entries frames) (v₀.inTurn x.place m entries frames)

/-- In two worlds the turn of the machine ends alike. Nothing is said of turns that fail. -/
inductive Alike (x : Seclusion σ) (w₀ v₀ : World σ) : Move σ → Move σ → Prop
  | ended {m : Machine σ} {entries : List JournalEntry} {again : Bool} (hid : m.id = x.self)
      (hm : again = true → m.Within x)
      (howner : ∀ entry ∈ entries, entry.owner = .machine x.self) :
      Alike x w₀ v₀ (.returned (w₀.afterTurn x.place m entries again) (.ok ()))
        (.returned (v₀.afterTurn x.place m entries again) (.ok ()))
  | failed {w : World σ} {move : Move σ} (h : w.hasFailed = true) :
      Alike x w₀ v₀ (.returned w (.ok ())) move
  | panicked {w : World σ} {message : Option String} {move : Move σ} :
      Alike x w₀ v₀ (.panicked w message) move

section Locality

variable {sys : System σ} {x : Seclusion σ} {w₀ v₀ w v w' : World σ} {m : Machine σ}
  {entries : List JournalEntry} {frames : List (Frame σ)}

theorem machineAt?_inTurn (h : w₀.Hosts x) :
    (w₀.inTurn x.place m entries frames).machineAt? x.place = some m := by
  obtain ⟨m₀, hm₀, -⟩ := h.machine
  exact machineAt?_setMachine_self hm₀

theorem Hosts.within (h : w₀.Hosts x) (hm : m.Within x) (hframes : Secluded x frames) :
    (w₀.inTurn x.place m entries frames).Within x where
  frames := hframes
  machine := ⟨m, machineAt?_inTurn h, hm⟩
  stands := by
    intro target hstands
    obtain ⟨m₀, hm₀, hid⟩ := h.machine
    have hsame : ((w₀.setMachine x.place m).locate? target).map Prod.snd
        = (w₀.locate? target).map Prod.snd := locate?_setMachine hm₀ (hm.id.trans hid.symm) target
    exact hsame.trans (h.stands target hstands)

theorem inTurn_setMachine (m' : Machine σ) :
    (w₀.inTurn x.place m entries frames).setMachine x.place m'
      = w₀.inTurn x.place m' entries frames := by
  simp [inTurn, setMachine, List.set_set]

/-- The turn is given up. -/
theorem alike_again {m' : Machine σ} (hm' : m'.Within x)
    (howner : ∀ entry ∈ entries, entry.owner = .machine x.self) :
    Alike x w₀ v₀
      (((w₀.inTurn x.place m entries []).setMachine x.place m').requeue x.place).endRun
      (((v₀.inTurn x.place m entries []).setMachine x.place m').requeue x.place).endRun := by
  rw [inTurn_setMachine, inTurn_setMachine, endRun_of_idle rfl, endRun_of_idle rfl]
  have hended : Alike x w₀ v₀ (.returned (w₀.afterTurn x.place m' entries true) (.ok ()))
      (.returned (v₀.afterTurn x.place m' entries true) (.ok ())) :=
        .ended hm'.id (fun _ => hm') howner
  exact hended

/-- The run is over. -/
theorem alike_ended {m' : Machine σ} (hid : m'.id = x.self)
    (howner : ∀ entry ∈ entries, entry.owner = .machine x.self) :
    Alike x w₀ v₀ ((w₀.inTurn x.place m entries []).setMachine x.place m').retire.endRun
      ((v₀.inTurn x.place m entries []).setMachine x.place m').retire.endRun := by
  rw [inTurn_setMachine, inTurn_setMachine, endRun_of_idle rfl, endRun_of_idle rfl]
  have hended : Alike x w₀ v₀ (.returned (w₀.afterTurn x.place m' entries false) (.ok ()))
      (.returned (v₀.afterTurn x.place m' entries false) (.ok ())) := .ended hid nofun howner
  exact hended

/-- The run has failed. -/
theorem alike_abort (hw₀ : w₀.Hosts x) (m' : Machine σ) (f : Failure) (move : Move σ) :
    Alike x w₀ v₀ ((w₀.inTurn x.place m entries []).abort x.place m' f).retire.endRun move := by
  have hbounded : ((w₀.inTurn x.place m entries []).setMachine x.place
      { m' with active := false }).bounded = false := hw₀.calm.2
  simp only [World.abort, hbounded, Bool.false_eq_true, if_false]
  rw [endRun_of_idle rfl]
  refine .failed ?_
  have hrecorded : (w₀.failure <|> some (f.inMachine m'.id.text)).isSome = true := by
    simp [hw₀.calm.1]
  exact hrecorded

/-- Wherever the machine has its turn, it goes through it in lockstep. -/
theorem lockstep_abreast (hserial : sys.config.serial = true) (hsociable : ¬ x.sociable)
    (hw₀ : w₀.Hosts x) (hv₀ : v₀.Hosts x) :
    Lockstep sys sys x (Abreast x w₀ v₀) (Alike x w₀ v₀) where
  panics := rfl
  within := by
    rintro _ _ ⟨hm, hframes, -⟩
    exact ⟨hw₀.within hm hframes, hv₀.within hm hframes⟩
  frames := by
    rintro _ _ ⟨-, -, -⟩
    rfl
  machine := by
    rintro _ _ ⟨-, -, -⟩
    rw [machineAt?_inTurn hw₀, machineAt?_inTurn hv₀]
  monitors _ h := absurd h hsociable
  failed := by
    rintro _ _ ⟨-, -, -⟩
    exact congrArg Option.isSome (hv₀.calm.1.trans hw₀.calm.1.symm)
  reframe := by
    rintro _ _ frames ⟨hm, -, howner⟩ hframes
    exact .intro hm hframes howner
  exchange := by
    rintro _ _ m' ⟨-, hframes, howner⟩ hm'
    rw [inTurn_setMachine, inTurn_setMachine]
    exact .intro hm' hframes howner
  write := by
    rintro _ _ entry @⟨m, entries, frames, hm, hframes, howner⟩ hentry
    have howner' : ∀ e ∈ entry :: entries, e.owner = .machine x.self :=
      List.forall_mem_cons.mpr ⟨hentry.resolve_right hsociable, howner⟩
    exact .intro hm hframes howner'
  judge _ h := absurd h hsociable
  conclude := by
    rintro _ _ m' ⟨hm, hframes, howner⟩ rfl hm' result
    have hwithin : m'.Within x := (hw₀.within hm hframes).of_machineAt? hm'
    cases result with
    | error f => exact .ends (alike_abort hw₀ m' f _)
    | ok status =>
      cases status with
      | halted => exact .ends (alike_ended hwithin.id howner)
      | running =>
        have hstated : Machine.Within x { m' with state := m'.cell.stack.top? } :=
          hwithin.congr rfl rfl rfl rfl
        simp only [concludeMachine, hserial, if_true]
        exact .ends (alike_again hstated howner)
  rest := by
    rintro _ _ m' ⟨hm, hframes, howner⟩ rfl hm' mailbox
    exact alike_ended ((hw₀.within hm hframes).of_machineAt? hm').id howner
  abort := by
    rintro _ _ m' ⟨hm, hframes, howner⟩ rfl hm' f
    exact alike_abort hw₀ m' f _
  panic _ _ := .panicked
  await _ h := absurd h hsociable

/-- A turn that ends without a failure in one world ends alike in the other. -/
theorem Abreast.ends (hserial : sys.config.serial = true) (hsociable : ¬ x.sociable)
    (hw₀ : w₀.Hosts x) (hv₀ : v₀.Hosts x) (h : Abreast x w₀ v₀ w v) (hends : Ends sys w w')
    (hcalm : w'.failure = none) :
    ∃ m entries again, m.id = x.self ∧ (again = true → m.Within x) ∧
      (∀ entry ∈ entries, entry.owner = .machine x.self) ∧
      w' = w₀.afterTurn x.place m entries again ∧
      Ends sys v (v₀.afterTurn x.place m entries again) := by
  induction hends generalizing v with
  | @returned w w' hnext =>
    have halong := (lockstep_abreast hserial hsociable hw₀ hv₀).next h
    rw [hnext] at halong
    generalize hmove : v.next sys = move at halong
    cases halong with
    | ends hends =>
      cases hends with
      | ended hid hm howner => exact ⟨_, _, _, hid, hm, howner, rfl, .returned hmove⟩
      | failed hfailed =>
        simp [hasFailed, hcalm] at hfailed
  | @step w w₁ w' hnext _ ih =>
    have halong := (lockstep_abreast hserial hsociable hw₀ hv₀).next h
    rw [hnext] at halong
    generalize hmove : v.next sys = move at halong
    cases halong with
    | step h₁ _ =>
      obtain ⟨m, entries, again, hid, hm, howner, hend, hrest⟩ := ih h₁ hcalm
      exact ⟨m, entries, again, hid, hm, howner, hend, .step hmove hrest⟩
    | ends hends => cases hends

end Locality

/-! ## Turns and the world around them -/

/-- The world after the machine whose run is pending at `index` has had a turn. -/
def turned (w : World σ) (index : Nat) (place : Place) (m : Machine σ)
    (entries : List JournalEntry) (again : Bool) : World σ :=
  (w.beginTurn index).afterTurn place m entries again

/-- A moment between the turns of machines with these identities, when nothing has failed. -/
structure Between (ids : List MachineId) (w : World σ) : Prop where
  ids : w.machines.map Machine.id = ids
  idle : w.frames = []
  calm : w.Calm

section Turned

variable {w : World σ} {index : Nat} {place other : Place} {m m' : Machine σ}
  {entries : List JournalEntry} {again : Bool} {ids : List MachineId}

theorem beginTurn_eq (hplace : w.pending[index]? = some place) (hidle : w.frames = []) :
    w.beginTurn index = { w with
      pending := w.pending.eraseIdx index
      frames := [.ready place]
      steps := w.steps + 1 } := by
  simp [beginTurn, beginRun, hplace, hidle]

theorem turned_eq (hplace : w.pending[index]? = some place) (hidle : w.frames = []) :
    w.turned index place m entries again = { w with
      machines := w.machines.set place m
      pending := w.pending.eraseIdx index ++ if again then [place] else []
      active := if again then w.active else w.active - 1
      steps := w.steps + 1
      journal := entries ++ w.journal } := by
  rw [turned, beginTurn_eq hplace hidle]
  cases again <;> simp [afterTurn, inTurn, requeue, retire, setMachine, hidle]

theorem turned_inj {again' : Bool} {entries' : List JournalEntry}
    (hplace : w.pending[index]? = some place) (hidle : w.frames = [])
    (hlt : place < w.machines.length)
    (h : w.turned index place m entries again = w.turned index place m' entries' again') :
    m = m' ∧ entries = entries' ∧ again = again' := by
  rw [turned_eq hplace hidle, turned_eq hplace hidle] at h
  have hmachines : w.machines.set place m = w.machines.set place m' := congrArg World.machines h
  have hjournal : entries ++ w.journal = entries' ++ w.journal := congrArg World.journal h
  have hpending := congrArg (fun w => w.pending.length) h
  refine ⟨?_, List.append_cancel_right hjournal, ?_⟩
  · have hget := congrArg (·[place]?) hmachines
    simpa [hlt] using hget
  · cases again <;> cases again' <;> simp at hpending ⊢

theorem steps_turned (hplace : w.pending[index]? = some place) (hidle : w.frames = []) :
    (w.turned index place m entries again).steps = w.steps + 1 := by
  rw [turned_eq hplace hidle]

theorem journal_turned (hplace : w.pending[index]? = some place) (hidle : w.frames = []) :
    (w.turned index place m entries again).journal = entries ++ w.journal := by
  rw [turned_eq hplace hidle]

theorem machineAt?_turned_self (hplace : w.pending[index]? = some place) (hidle : w.frames = [])
    (hm : w.machineAt? place = some m) :
    (w.turned index place m' entries again).machineAt? place = some m' := by
  rw [turned_eq hplace hidle]
  exact machineAt?_setMachine_self hm

theorem machineAt?_turned_of_ne (hplace : w.pending[index]? = some place) (hidle : w.frames = [])
    (hne : place ≠ other) :
    (w.turned index place m' entries again).machineAt? other = w.machineAt? other := by
  rw [turned_eq hplace hidle]
  exact machineAt?_setMachine_of_ne hne

theorem Between.turned (h : Between ids w) (hplace : w.pending[index]? = some place)
    (hm : w.machineAt? place = some m) (hid : m'.id = m.id) :
    Between ids (w.turned index place m' entries again) := by
  rw [turned_eq hplace h.idle]
  exact ⟨(map_id_setMachine hm hid).trans h.ids, h.idle, h.calm⟩

end Turned

/-! ## Pending runs -/

section Pending

variable {w : World σ} {index : Nat} {place other : Place} {m : Machine σ}
  {entries : List JournalEntry} {again : Bool}

theorem perm_eraseIdx (hplace : w.pending[index]? = some place) :
    (place :: w.pending.eraseIdx index).Perm w.pending := by
  obtain ⟨hlt, rfl⟩ := List.getElem?_eq_some_iff.mp hplace
  exact List.getElem_cons_eraseIdx_perm hlt

/-- Of the other machines the same ones are pending after a turn. -/
theorem mem_pending_turned (hplace : w.pending[index]? = some place) (hidle : w.frames = [])
    (hne : other ≠ place) :
    other ∈ (w.turned index place m entries again).pending ↔ other ∈ w.pending := by
  rw [turned_eq hplace hidle, ← (perm_eraseIdx hplace).mem_iff]
  cases again <;> simp [hne]

/-- The machine that has had a turn is pending if it has given it up. -/
theorem mem_pending_turned_self (hnodup : w.pending.Nodup)
    (hplace : w.pending[index]? = some place) (hidle : w.frames = []) :
    place ∈ (w.turned index place m entries again).pending ↔ again = true := by
  have hfresh : place ∉ w.pending.eraseIdx index :=
    (List.nodup_cons.mp ((perm_eraseIdx hplace).nodup_iff.mpr hnodup)).1
  rw [turned_eq hplace hidle]
  cases again <;> simp [hfresh]

theorem nodup_pending_turned (hnodup : w.pending.Nodup)
    (hplace : w.pending[index]? = some place) (hidle : w.frames = []) :
    (w.turned index place m entries again).pending.Nodup := by
  have hfirst := (perm_eraseIdx hplace).nodup_iff.mpr hnodup
  rw [turned_eq hplace hidle]
  cases again with
  | true => exact (List.perm_append_singleton ..).nodup_iff.mpr hfirst
  | false => simpa using (List.nodup_cons.mp hfirst).2

end Pending

/-! ## Turns of a machine on its own -/

/-- Wherever the machine has its next turn, it becomes this one, writes these entries, and
gives the turn up or ends its run. -/
def Turn (sys : System σ) (ids : List MachineId) (place : Place) (m : Machine σ)
    (entries : List JournalEntry) (m' : Machine σ) (again : Bool) : Prop :=
  m'.id = m.id ∧ (∀ entry ∈ entries, entry.owner = .machine m.id) ∧
    ∀ (w : World σ) (index : Nat), Between ids w → w.machineAt? place = some m →
      w.pending[index]? = some place →
      Ends sys (w.beginTurn index) (w.turned index place m' entries again)

/-- The turns that a machine takes until its run is over, each with its entries. -/
inductive Course (sys : System σ) (ids : List MachineId) (place : Place) :
    Machine σ → List (List JournalEntry) → Machine σ → Prop
  | last {m m' : Machine σ} {entries : List JournalEntry}
      (h : Turn sys ids place m entries m' false) : Course sys ids place m [entries] m'
  | again {m m₁ m' : Machine σ} {entries : List JournalEntry} {rest : List (List JournalEntry)}
      (h : Turn sys ids place m entries m₁ true) (hrest : Course sys ids place m₁ rest m') :
      Course sys ids place m (entries :: rest) m'

section Turn

variable {sys : System σ} {w w' : World σ} {index : Nat} {place : Place} {m : Machine σ}
  {ids : List MachineId} {remembers : σ → Prop}

/-- At the beginning of its turn a machine is as it was, and has written nothing. -/
theorem inTurn_beginTurn (hplace : w.pending[index]? = some place) (hidle : w.frames = [])
    (hm : w.machineAt? place = some m) :
    (w.beginTurn index).inTurn place m [] [.ready place] = w.beginTurn index := by
  have hset : w.machines.set place m = w.machines := congrArg World.machines (setMachine_self hm)
  rw [beginTurn_eq hplace hidle]
  simp [inTurn, setMachine, hset]

/-- A world between turns, in which the machine begins one. -/
theorem Between.hosts {v : World σ} (h : Between ids w) (hv : Between ids v)
    (hm : v.machineAt? place = some m) (hplace : v.pending[index]? = some place) :
    (v.beginTurn index).Hosts (w.solitary place m.id remembers) := by
  rw [beginTurn_eq hplace hv.idle]
  refine ⟨hv.calm, ⟨m, hm, rfl⟩, ?_⟩
  intro target hstands
  have hsame : (w.locate? target).map Prod.snd = some place := hstands
  rw [locate?_snd, h.ids] at hsame
  rw [locate?_snd, hv.ids]
  exact hsame

/-- In two worlds between turns the machine begins one. -/
theorem Between.abreast {v : World σ} {index' : Nat} (h : Between ids w) (hv : Between ids v)
    (hplace : w.pending[index]? = some place) (hplace' : v.pending[index']? = some place)
    (hm : w.machineAt? place = some m) (hvm : v.machineAt? place = some m)
    (hwithin : m.Within (w.solitary place m.id remembers)) :
    Abreast (w.solitary place m.id remembers) (w.beginTurn index) (v.beginTurn index')
      (w.beginTurn index) (v.beginTurn index') := by
  have hbegun : Abreast (w.solitary place m.id remembers) (w.beginTurn index) (v.beginTurn index')
      ((w.beginTurn index).inTurn place m [] [.ready place])
      ((v.beginTurn index').inTurn place m [] [.ready place]) := .intro hwithin .ready nofun
  rwa [inTurn_beginTurn hplace h.idle hm, inTurn_beginTurn hplace' hv.idle hvm] at hbegun

/-- A turn of a solitary machine is one that it would take anywhere. -/
theorem turn_of_ends (hserial : sys.config.serial = true) (h : Between ids w)
    (hplace : w.pending[index]? = some place) (hm : w.machineAt? place = some m)
    (hwithin : m.Within (w.solitary place m.id remembers))
    (hends : Ends sys (w.beginTurn index) w') (hcalm : w'.failure = none) :
    ∃ entries m' again, Turn sys ids place m entries m' again ∧
      w' = w.turned index place m' entries again ∧
      (again = true → m'.Within (w.solitary place m.id remembers)) := by
  have hhosts : (w.beginTurn index).Hosts (w.solitary place m.id remembers) :=
    h.hosts h hm hplace
  obtain ⟨m', entries, again, hid, hagain, howner, hend, -⟩ :=
    (h.abreast h hplace hplace hm hm hwithin).ends hserial id hhosts hhosts hends hcalm
  refine ⟨entries, m', again, ⟨hid, howner, ?_⟩, hend, hagain⟩
  intro v index' hv hvm hplace'
  obtain ⟨m₂, entries₂, again₂, -, -, -, hend₂, hturned⟩ :=
    (h.abreast hv hplace hplace' hm hvm hwithin).ends hserial id hhosts (h.hosts hv hvm hplace')
      hends hcalm
  have hlt : place < w.machines.length := (List.getElem?_eq_some_iff.mp hm).1
  obtain ⟨rfl, rfl, rfl⟩ := turned_inj hplace h.idle hlt (hend.symm.trans hend₂)
  exact hturned

end Turn

/-! ## Schedules -/

/-- Turns of pending runs that end without a failure, each with the machine that took it and
with the entries that it has written. -/
inductive Turns (sys : System σ) : World σ → List (Place × List JournalEntry) → World σ → Prop
  | none {w : World σ} : Turns sys w [] w
  | turn {w w₁ w' : World σ} {index : Nat} {place : Place} {m : Machine σ}
      {entries : List JournalEntry} {rest : List (Place × List JournalEntry)}
      (hplace : w.pending[index]? = some place) (hm : w.machineAt? place = some m)
      (hends : Ends sys (w.beginTurn index) w₁) (hcalm : w₁.failure = none)
      (hjournal : w₁.journal = entries ++ w.journal)
      (howner : ∀ entry ∈ entries, entry.owner = .machine m.id)
      (hrest : Turns sys w₁ rest w') : Turns sys w ((place, entries) :: rest) w'

/-- The turns of one machine among others, each with its entries. -/
def turnsOf (turns : List (Place × List JournalEntry)) (place : Place) :
    List (List JournalEntry) :=
  turns.filterMap fun turn => if turn.1 = place then some turn.2 else none

@[simp] theorem turnsOf_cons_self (place : Place) (entries : List JournalEntry)
    (turns : List (Place × List JournalEntry)) :
    turnsOf ((place, entries) :: turns) place = entries :: turnsOf turns place := by
  simp [turnsOf]

theorem turnsOf_cons_of_ne {place other : Place} (h : place ≠ other)
    (entries : List JournalEntry) (turns : List (Place × List JournalEntry)) :
    turnsOf ((place, entries) :: turns) other = turnsOf turns other := by
  simp [turnsOf, h]

/-- Without one of its turns a machine has the others left. -/
theorem turnsOf_erase_self (turns : List (Place × List JournalEntry)) (place : Place)
    (entries : List JournalEntry) :
    turnsOf (turns.erase (place, entries)) place = (turnsOf turns place).erase entries := by
  induction turns with
  | nil => rfl
  | cons turn turns ih =>
    obtain ⟨other, others⟩ := turn
    by_cases hplace : other = place
    · subst hplace
      by_cases hentries : others = entries
      · subst hentries
        simp
      · simp [hentries, ih]
    · simp [hplace, turnsOf_cons_of_ne hplace, ih]

/-- The turns of other machines are left as they are. -/
theorem turnsOf_erase_of_ne (turns : List (Place × List JournalEntry)) {place other : Place}
    (h : place ≠ other) (entries : List JournalEntry) :
    turnsOf (turns.erase (place, entries)) other = turnsOf turns other := by
  induction turns with
  | nil => rfl
  | cons turn turns ih =>
    by_cases hturn : turn = (place, entries)
    · subst hturn
      simp [turnsOf_cons_of_ne h]
    · obtain ⟨first, others⟩ := turn
      by_cases hfirst : first = other
      · subst hfirst
        simp [hturn, ih]
      · simp [hturn, turnsOf_cons_of_ne hfirst, ih]

theorem count_turnsOf (turns : List (Place × List JournalEntry)) (place : Place)
    (entries : List JournalEntry) :
    (turnsOf turns place).count entries = turns.count (place, entries) := by
  induction turns with
  | nil => rfl
  | cons turn turns ih =>
    obtain ⟨other, others⟩ := turn
    by_cases hplace : other = place
    · subst hplace
      simp [List.count_cons, ih]
    · rw [turnsOf_cons_of_ne hplace, ih]
      simp [hplace]

theorem mem_of_turnsOf {turns : List (Place × List JournalEntry)} {place : Place}
    {entries : List JournalEntry} {rest : List (List JournalEntry)}
    (h : turnsOf turns place = entries :: rest) : (place, entries) ∈ turns := by
  rw [← List.count_pos_iff, ← count_turnsOf, h, List.count_cons_self]
  exact Nat.succ_pos _

/-- Schedules that give each machine the same turns differ only in their order. -/
theorem perm_of_turnsOf {turns turns' : List (Place × List JournalEntry)}
    (h : ∀ place, turnsOf turns place = turnsOf turns' place) : turns.Perm turns' := by
  rw [List.perm_iff_count]
  rintro ⟨place, entries⟩
  rw [← count_turnsOf, ← count_turnsOf, h]

/-- Machines whose runs are pending, each one solitary. -/
structure Independent (w : World σ) : Prop where
  nodup : w.pending.Nodup
  solitary : ∀ place ∈ w.pending, ∃ m remembers, w.machineAt? place = some m ∧
    m.Within (w.solitary place m.id remembers)

section Schedules

variable {sys : System σ} {w w' : World σ} {index : Nat} {place : Place} {m m' : Machine σ}
  {ids : List MachineId} {entries : List JournalEntry} {again : Bool} {remembers : σ → Prop}

theorem solitary_congr (h : w'.machines.map Machine.id = w.machines.map Machine.id) :
    w'.solitary = w.solitary := by
  funext place self remembers
  have hstands : (fun target => (w'.locate? target).map Prod.snd = some place)
      = fun target => (w.locate? target).map Prod.snd = some place := by
    funext target
    rw [locate?_snd, locate?_snd, h]
  rw [solitary, solitary, hstands]

/-- After a turn of one of them the machines are still solitary. -/
theorem Independent.turned (h : w.Independent) (hb : Between ids w)
    (hplace : w.pending[index]? = some place) (hm : w.machineAt? place = some m)
    (hid : m'.id = m.id) (hagain : again = true → m'.Within (w.solitary place m.id remembers)) :
    (w.turned index place m' entries again).Independent := by
  have hids : (w.turned index place m' entries again).machines.map Machine.id
      = w.machines.map Machine.id := (hb.turned hplace hm hid).ids.trans hb.ids.symm
  refine ⟨nodup_pending_turned h.nodup hplace hb.idle, ?_⟩
  intro other hother
  rw [solitary_congr hids]
  by_cases hsame : other = place
  · subst hsame
    have hyes := (mem_pending_turned_self h.nodup hplace hb.idle).mp hother
    exact ⟨m', remembers, machineAt?_turned_self hplace hb.idle hm, hid ▸ hagain hyes⟩
  · have hpending := (mem_pending_turned hplace hb.idle hsame).mp hother
    rw [machineAt?_turned_of_ne hplace hb.idle (Ne.symm hsame)]
    exact h.solitary other hpending

end Schedules

/-! ## What is left for each machine -/

/-- The turns that a machine takes until its run is over, and what becomes of it then. -/
inductive Fate (sys : System σ) (ids : List MachineId) (w : World σ) (place : Place) :
    List (List JournalEntry) → Option (Machine σ) → Prop
  | waits {m m' : Machine σ} {turns : List (List JournalEntry)} (hpending : place ∈ w.pending)
      (hm : w.machineAt? place = some m) (hcourse : Course sys ids place m turns m') :
      Fate sys ids w place turns (some m')
  | rests (hpending : place ∉ w.pending) : Fate sys ids w place [] (w.machineAt? place)

namespace Fate

variable {sys : System σ} {ids : List MachineId} {w w' : World σ} {index : Nat}
  {place other : Place} {m m' : Machine σ} {entries : List JournalEntry} {again : Bool}
  {turns : List (List JournalEntry)} {last : Option (Machine σ)}

theorem congr (h : Fate sys ids w place turns last)
    (hpending : place ∈ w'.pending ↔ place ∈ w.pending)
    (hmachine : w'.machineAt? place = w.machineAt? place) :
    Fate sys ids w' place turns last := by
  cases h with
  | waits hmem hm hcourse => exact .waits (hpending.mpr hmem) (hmachine.trans hm) hcourse
  | rests hnot =>
    rw [← hmachine]
    exact .rests fun hmem => hnot (hpending.mp hmem)

/-- The turns of other machines are nothing to a machine. -/
theorem turned_of_ne (hplace : w.pending[index]? = some place) (hidle : w.frames = [])
    (hne : other ≠ place) :
    Fate sys ids (w.turned index place m' entries again) other turns last
      ↔ Fate sys ids w other turns last := by
  let w₁ := w.turned index place m' entries again
  have hpending : other ∈ w₁.pending ↔ other ∈ w.pending := mem_pending_turned hplace hidle hne
  have hmachine : w₁.machineAt? other = w.machineAt? other :=
    machineAt?_turned_of_ne hplace hidle hne.symm
  exact ⟨fun h => h.congr hpending.symm hmachine.symm, fun h => h.congr hpending hmachine⟩

/-- A machine has one turn more before it than after it. -/
theorem before (hnodup : w.pending.Nodup) (hplace : w.pending[index]? = some place)
    (hidle : w.frames = []) (hm : w.machineAt? place = some m)
    (hturn : Turn sys ids place m entries m' again)
    (h : Fate sys ids (w.turned index place m' entries again) place turns last) :
    Fate sys ids w place (entries :: turns) last := by
  have hmem : place ∈ w.pending := List.mem_of_getElem? hplace
  have hself : (w.turned index place m' entries again).machineAt? place = some m' :=
    machineAt?_turned_self hplace hidle hm
  cases h with
  | waits hpending hm' hcourse =>
    obtain rfl := (mem_pending_turned_self hnodup hplace hidle).mp hpending
    cases hself.symm.trans hm'
    exact .waits hmem hm (.again hturn hcourse)
  | rests hpending =>
    cases again with
    | true => exact absurd ((mem_pending_turned_self hnodup hplace hidle).mpr rfl) hpending
    | false =>
      rw [hself]
      exact .waits hmem hm (.last hturn)

/-- A machine whose run is pending has a turn, and after it one turn less. -/
theorem after (hnodup : w.pending.Nodup) (hplace : w.pending[index]? = some place)
    (hidle : w.frames = []) (h : Fate sys ids w place turns last) :
    ∃ m entries rest m' again, turns = entries :: rest ∧ w.machineAt? place = some m ∧
      Turn sys ids place m entries m' again ∧
      Fate sys ids (w.turned index place m' entries again) place rest last := by
  cases h with
  | rests hpending => exact absurd (List.mem_of_getElem? hplace) hpending
  | @waits m m' _ hpending hm hcourse =>
    cases hcourse with
    | @last _ _ entries hturn =>
      refine ⟨m, entries, [], m', false, rfl, hm, hturn, ?_⟩
      have hself : (w.turned index place m' entries false).machineAt? place = some m' :=
        machineAt?_turned_self hplace hidle hm
      rw [← hself]
      refine .rests fun hmem => ?_
      exact Bool.false_ne_true ((mem_pending_turned_self hnodup hplace hidle).mp hmem)
    | @again _ m₁ _ entries rest hturn hrest =>
      refine ⟨m, entries, rest, m₁, true, rfl, hm, hturn, ?_⟩
      exact .waits ((mem_pending_turned_self hnodup hplace hidle).mpr rfl)
        (machineAt?_turned_self hplace hidle hm) hrest

/-- Where nothing is pending, nothing is left for a machine. -/
theorem of_alone (h : Fate sys ids w place turns last) (hpending : w.pending = []) :
    turns = [] ∧ w.machineAt? place = last := by
  cases h with
  | waits hmem _ _ =>
    rw [hpending] at hmem
    cases hmem
  | rests _ => exact ⟨rfl, rfl⟩

end Fate

end World

/-! ## Turns of a run until nothing is left -/

namespace Session

open World

variable [ChoiceSource τ] {sys : System σ} {ids : List MachineId} {w w₀ w' : World σ} {source : τ}

/-- A turn that ends is a part of the run. -/
theorem leads_of_ends (h : Ends sys w w') (source : τ) :
    Leads (World.nextUntilQuiescent sys) ⟨w, source⟩ (⟨w', source⟩ : Session σ τ) := by
  induction h with
  | @returned w w' hnext =>
    have hmove : w.nextUntilQuiescent sys = .step w' := by
      rw [nextUntilQuiescent_of_frames (frames_ne_nil_of_next hnext nofun), hnext]
    exact (Leads.refl _).step hmove
  | @step w w₁ w' hnext _ ih =>
    have hmove : w.nextUntilQuiescent sys = .step w₁ := by
      rw [nextUntilQuiescent_of_frames (frames_ne_nil_of_next hnext nofun), hnext]
    exact ((Leads.refl _).step hmove).trans ih

/-- Between turns one of the pending runs is chosen, and begins its turn. -/
theorem exists_beginTurn (hbound : sys.config.testing.stepBound = none) (h : Between ids w)
    (hpending : w.pending ≠ []) (source : τ) :
    ∃ (index : Nat) (place : Place) (source' : τ), w.pending[index]? = some place ∧
      ∀ budget, drive (World.nextUntilQuiescent sys) (budget + 1) ⟨w, source⟩
        = drive (World.nextUntilQuiescent sys) budget ⟨w.beginTurn index, source'⟩ := by
  have hmove : w.nextUntilQuiescent sys = w.schedulePending := by
    simp [World.nextUntilQuiescent, h.idle, hasFailed, h.calm.1, markBound, hbound, h.calm.2,
      hpending]
  unfold schedulePending at hmove
  split at hmove
  · contradiction
  · rename_i place hone
    refine ⟨0, place, source, by simp [hone], ?_⟩
    intro budget
    simp only [drive, hmove]
  · let n := (ChoiceSource.ask source (.integer (UInt64.ofNat w.pending.length))).1
    have hlt : min n.toNat (w.pending.length - 1) < w.pending.length := by
      have hpos : 0 < w.pending.length := List.length_pos_iff.mpr hpending
      omega
    refine ⟨_, _, (ChoiceSource.ask source (.integer (UInt64.ofNat w.pending.length))).2,
      List.getElem?_eq_getElem hlt, ?_⟩
    intro budget
    simp only [drive, hmove]
    rfl

/-- A run that has failed does not end without a failure. -/
theorem failure_of_drive (hserial : sys.config.serial = true) {budget : Nat} {s : Session σ τ}
    (h : (drive (World.nextUntilQuiescent sys) budget s).2.world.failure = none) :
    s.world.failure = none := by
  cases hfailure : s.world.failure with
  | none => rfl
  | some f =>
    have hkept := drive_kept (P := fun w => w.failure = some f)
      (fun hw hmove => (nextUntilQuiescent_step hserial hmove).failure hw) budget hfailure
    rw [h] at hkept
    cases hkept

/-- A run in which a solitary machine has its turn comes to the end of the turn. -/
theorem ends_of_drive (hserial : sys.config.serial = true) {x : Seclusion σ}
    (hsociable : ¬ x.sociable) (hw₀ : w₀.Hosts x) {result : Except Failure Unit}
    {t : Session σ τ} (budget : Nat) :
    ∀ {w : World σ}, Abreast x w₀ w₀ w w → w.frames ≠ [] →
      drive (World.nextUntilQuiescent sys) budget ⟨w, source⟩ = (.returned result, t) →
      ∃ w' budget', budget' < budget ∧ Ends sys w w' ∧
        drive (World.nextUntilQuiescent sys) budget' ⟨w', source⟩ = (.returned result, t) := by
  induction budget with
  | zero =>
    intro _ _ _ hdrive
    cases hdrive
  | succ budget ih =>
    intro w habreast hframes hdrive
    have halong := (lockstep_abreast hserial hsociable hw₀ hw₀).next habreast
    generalize hnext : w.next sys = move at halong
    have hmove : w.nextUntilQuiescent sys = _ := nextUntilQuiescent_of_frames hframes
    rw [hnext] at hmove
    cases move with
    | step w₁ =>
      simp only [drive, hmove] at hdrive
      cases halong with
      | step h hbusy =>
        obtain ⟨w', budget', hlt, hends, hrest⟩ := ih h hbusy hdrive
        exact ⟨w', budget', Nat.lt_succ_of_lt hlt, .step hnext hends, hrest⟩
      | ends h => cases h
    | ask q next =>
      cases halong with
      | ask hyes _ => exact absurd hyes hsociable
      | ends h => cases h
    | returned w₁ result₁ =>
      simp only [drive, hmove] at hdrive
      have hok : result₁ = .ok () := by
        cases halong with
        | ends h => cases h <;> rfl
      exact ⟨w₁, budget, Nat.lt_succ_self budget, .returned (hok ▸ hnext), hdrive⟩
    | panicked _ _ | parked | idle =>
      simp only [drive, hmove] at hdrive
      cases hdrive

/-! ## One schedule and all others -/

/-- A run of solitary machines that ends without a failure is a schedule of their turns, and
each machine has taken what was left for it. -/
theorem turns_of_drive (hserial : sys.config.serial = true)
    (hbound : sys.config.testing.stepBound = none) {result : Except Failure Unit}
    {t : Session σ τ} (hcalm : t.world.failure = none) (budget : Nat) :
    ∀ {w : World σ} {source : τ}, Between ids w → w.Independent →
      drive (World.nextUntilQuiescent sys) budget ⟨w, source⟩ = (.returned result, t) →
      ∃ turns, Turns sys w turns t.world ∧ t.world.steps = w.steps + turns.length ∧
        ∀ place, Fate sys ids w place (turnsOf turns place) (t.world.machineAt? place) := by
  induction budget using Nat.strongRecOn with
  | ind budget ih =>
    intro w source hbetween hindependent hdrive
    cases budget with
    | zero => cases hdrive
    | succ budget =>
      by_cases hpending : w.pending = []
      · simp only [drive, nextUntilQuiescent_of_alone hbound hbetween.idle hpending] at hdrive
        cases hdrive
        exact ⟨[], .none, rfl, fun place => .rests (by simp [hpending])⟩
      · obtain ⟨index, place, source', hplace, hturn⟩ :=
          exists_beginTurn hbound hbetween hpending source
        rw [hturn] at hdrive
        obtain ⟨m, remembers, hm, hwithin⟩ :=
          hindependent.solitary place (List.mem_of_getElem? hplace)
        -- The first turn comes to its end, and what is left of the run begins there.
        have hbusy : (w.beginTurn index).frames ≠ [] := by
          simp [beginTurn_eq hplace hbetween.idle]
        obtain ⟨w₁, budget', hlt, hends, hrest⟩ := ends_of_drive hserial id
          (hbetween.hosts hbetween hm hplace) budget
          (hbetween.abreast hbetween hplace hplace hm hm hwithin) hbusy hdrive
        have hcalm₁ : w₁.failure = none :=
          failure_of_drive (s := ⟨w₁, source'⟩) hserial (by rw [hrest]; exact hcalm)
        obtain ⟨entries, m', again, hmade, rfl, hagain⟩ :=
          turn_of_ends hserial hbetween hplace hm hwithin hends hcalm₁
        obtain ⟨turns, hturns, hsteps, hfates⟩ := ih budget' (Nat.lt_succ_of_lt hlt)
          (hbetween.turned hplace hm hmade.1)
          (hindependent.turned hbetween hplace hm hmade.1 hagain) hrest
        refine ⟨(place, entries) :: turns, ?_, ?_, ?_⟩
        · exact .turn hplace hm hends hcalm₁ (journal_turned hplace hbetween.idle) hmade.2.1 hturns
        · rw [hsteps, steps_turned hplace hbetween.idle, List.length_cons]
          omega
        · intro other
          by_cases hsame : other = place
          · subst hsame
            rw [turnsOf_cons_self]
            exact (hfates other).before hindependent.nodup hplace hbetween.idle hm hmade
          · rw [turnsOf_cons_of_ne (Ne.symm hsame)]
            exact (Fate.turned_of_ne hplace hbetween.idle hsame).mp (hfates other)

/-- Whatever a choice source chooses, the machines take the turns that are left for them, and
end as they have to. -/
theorem exists_run_of_fates (hbound : sys.config.testing.stepBound = none)
    {last : Place → Option (Machine σ)} (n : Nat) :
    ∀ {w : World σ} {left : List (Place × List JournalEntry)} (source : τ), left.length = n →
      Between ids w → w.pending.Nodup →
      (∀ place, Fate sys ids w place (turnsOf left place) (last place)) →
      ∃ (turns : List (Place × List JournalEntry)) (t : Session σ τ),
        Leads (World.nextUntilQuiescent sys) ⟨w, source⟩ t ∧ Turns sys w turns t.world ∧
          Between ids t.world ∧ t.world.pending = [] ∧
          t.world.steps = w.steps + turns.length ∧
          (∀ place, turnsOf turns place = turnsOf left place) ∧
          ∀ place, t.world.machineAt? place = last place := by
  induction n using Nat.strongRecOn with
  | ind n ih =>
    intro w left source hlength hbetween hnodup hfates
    by_cases hpending : w.pending = []
    · refine ⟨[], ⟨w, source⟩, .refl _, .none, hbetween, hpending, rfl, ?_, ?_⟩
      · exact fun place => ((hfates place).of_alone hpending).1.symm
      · exact fun place => ((hfates place).of_alone hpending).2
    · obtain ⟨index, place, source', hplace, hturn⟩ :=
        exists_beginTurn hbound hbetween hpending source
      obtain ⟨m, entries, rest, m', again, hleft, hm, hmade, hfate⟩ :=
        (hfates place).after hnodup hplace hbetween.idle
      have hmem : (place, entries) ∈ left := mem_of_turnsOf hleft
      have hends := hmade.2.2 w index hbetween hm hplace
      let w₁ := w.turned index place m' entries again
      have hbetween₁ : Between ids w₁ := hbetween.turned hplace hm hmade.1
      have hfates₁ : ∀ other, Fate sys ids w₁ other (turnsOf (left.erase (place, entries)) other)
          (last other) := by
        intro other
        by_cases hsame : other = place
        · subst hsame
          rw [turnsOf_erase_self, hleft, List.erase_cons_head]
          exact hfate
        · rw [turnsOf_erase_of_ne left (Ne.symm hsame)]
          exact (Fate.turned_of_ne hplace hbetween.idle hsame).mpr (hfates other)
      have hless : (left.erase (place, entries)).length < n := by
        have hpos := List.length_pos_of_mem hmem
        rw [List.length_erase_of_mem hmem]
        omega
      obtain ⟨turns, t, hleads, hturns, hend, halone, hsteps, htaken, hlast⟩ :=
        ih _ hless source' rfl hbetween₁ (nodup_pending_turned hnodup hplace hbetween.idle) hfates₁
      refine ⟨(place, entries) :: turns, t, ?_, ?_, hend, halone, ?_, ?_, hlast⟩
      · have hbegun : Leads (World.nextUntilQuiescent sys) ⟨w, source⟩
            (⟨w.beginTurn index, source'⟩ : Session σ τ) := ⟨1, hturn 0⟩
        exact (hbegun.trans (leads_of_ends hends source')).trans hleads
      · exact .turn hplace hm hends hbetween₁.calm.1 (journal_turned hplace hbetween.idle)
          hmade.2.1 hturns
      · rw [hsteps, steps_turned hplace hbetween.idle, List.length_cons]
        omega
      · intro other
        by_cases hsame : other = place
        · subst hsame
          rw [turnsOf_cons_self, htaken, turnsOf_erase_self, hleft, List.erase_cons_head]
        · rw [turnsOf_cons_of_ne (Ne.symm hsame), htaken,
            turnsOf_erase_of_ne left (Ne.symm hsame)]

end Session

/-! ## Two snails in a hurry

With the first event that it gets each of them sends itself another, and forgets itself.
They choose nothing, but one of the two has to be chosen for the next turn. -/

namespace Snail

def hurry : Action (Option MachineId) := fun _ => Body.toProgram do
  match ← Body.memory with
  | some self =>
    Body.remember none
    Body.send self crawl
  | none => pure ()

def race : System (Option MachineId) where
  catalog := fun _ => { fresh := none, describe := fun _ => snail hurry }
  config := { Config.bugFinding 0 with testing := { maxSteps := 0 } }

/-- Two snails that have not started, and a source that chooses between them. -/
def ready (numbers : List UInt64) : Session (Option MachineId) CyclicChoice :=
  let s : Session (Option MachineId) CyclicChoice := { source := { numbers } }
  let s := (s.perform race 0 (.create "Snail" none)).2
  (s.perform race 0 (.create "Snail" none)).2

theorem history_ready (numbers : List UInt64) : Session.History race (ready numbers) := by
  refine .perform (.perform (.fresh _) (.create ..) 0 ?_) (.create ..) 0 ?_
  · exact nofun
  · exact nofun

theorem hurry_within {x : Seclusion (Option MachineId)} (hstands : x.stands x.self)
    (hknows : x.remembers = knows x.self) (i : Invocation) : (hurry i).Within x := by
  intro memory hmemory
  rw [hknows] at hmemory
  cases memory with
  | none => trivial
  | some self =>
    cases hmemory self rfl
    refine ⟨?_, hstands, ?_⟩
    · rw [hknows]
      exact nofun
    · intro answer _
      cases answer <;> trivial

/-- Both snails are solitary. -/
theorem solitary_ready (numbers : List UInt64) (place : Place) (m : Machine (Option MachineId))
    (hm : (ready numbers).world.machineAt? place = some m) :
    ∃ remembers : Option MachineId → Prop, remembers m.cell.memory ∧
      m.cell.blueprint.Within ((ready numbers).world.solitary place m.id remembers) := by
  refine ⟨knows m.id, ?_⟩
  match place, hm with
  | 0, hm | 1, hm =>
    cases hm
    exact ⟨nofun, snail_within rfl rfl (hurry_within rfl rfl) rfl⟩
  | place + 2, hm => cases hm

end Snail

namespace Session

open World

variable [ChoiceSource τ] {sys : System σ}

/-- Between operations, before anything has failed, solitary machines can have their turns. -/
theorem independent_of_atRest (hserial : sys.config.serial = true)
    (hbound : sys.config.testing.stepBound = none) {w : World σ} (h : AtRest sys w)
    (hcalm : w.failure = none)
    (hsolitary : ∀ place m, w.machineAt? place = some m →
      ∃ remembers : σ → Prop, remembers m.cell.memory ∧
        m.cell.blueprint.Within (w.solitary place m.id remembers)) :
    Between (w.machines.map Machine.id) w ∧ w.Independent := by
  obtain ⟨⟨log, hrun⟩, hidle⟩ := h
  have hbounded : w.bounded = false := by
    cases hmarked : w.bounded with
    | false => rfl
    | true =>
      obtain ⟨bound, hsome, -⟩ := hrun.honest hserial hmarked
      rw [hbound] at hsome
      cases hsome
  obtain ⟨lost, haccounted, -⟩ := hrun.exists_accounted hserial
  have hruns : w.runs = w.pending := by simp [runs, running, hidle]
  rw [hruns] at haccounted
  refine ⟨⟨rfl, hidle, hcalm, hbounded⟩, (List.nodup_append.mp haccounted.nodup).2.1, ?_⟩
  intro place hplace
  obtain ⟨m, hm, hactive⟩ := (haccounted.mem_iff place).mp (List.mem_append_right lost hplace)
  obtain ⟨remembers, hmemory, hactions⟩ := hsolitary place m hm
  exact ⟨m, remembers, hm, rfl, hactive, hactions, hmemory⟩

theorem outcome_of_calm {before : Nat} {w : World σ} (hcalm : w.failure = none) :
    outcome before w = .ok (w.steps - before) := by
  simp only [outcome, hcalm]

/-- Let machines be solitary, and let nothing bound the steps. If a run until nothing is left
comes to its end without a failure under one choice source, then it does under every other.
The schedule is another, but each machine has the same turns with the same entries in the
journal, so there are as many steps, and it ends as the same machine, down to its stack, its
mailbox and what it remembers. -/
theorem run_independent [ChoiceSource υ] (hserial : sys.config.serial = true)
    (hbound : sys.config.testing.stepBound = none) {s : Session σ τ} {s' : Session σ υ}
    (h : AtRest sys s.world) (hsame : s'.world = s.world)
    (hsolitary : ∀ place m, s.world.machineAt? place = some m →
      ∃ remembers : σ → Prop, remembers m.cell.memory ∧
        m.cell.blueprint.Within (s.world.solitary place m.id remembers))
    {budget steps : Nat} (hrun : (s.run sys budget).1 = .ok (.ok steps)) :
    ∃ (budget' : Nat) (turns turns' : List (Place × List JournalEntry)),
      (s'.run sys budget').1 = .ok (.ok steps) ∧
        Turns sys s.world turns (s.run sys budget).2.world ∧
        Turns sys s'.world turns' (s'.run sys budget').2.world ∧
        (∀ place, turnsOf turns' place = turnsOf turns place) ∧
        ∀ place, (s'.run sys budget').2.world.machineAt? place
          = (s.run sys budget).2.world.machineAt? place := by
  obtain ⟨_, result, hdrive, -⟩ := drive_of_run_ok hserial h hrun
  have hcalm := (run_eq_ok hserial h hrun).1
  have hcalm₀ : s.world.failure = none := failure_of_drive hserial (by rw [hdrive]; exact hcalm)
  obtain ⟨hbetween, hindependent⟩ := independent_of_atRest hserial hbound h hcalm₀ hsolitary
  obtain ⟨turns, hturns, hsteps, hfates⟩ :=
    turns_of_drive hserial hbound hcalm budget hbetween hindependent hdrive
  obtain ⟨turns', t, hleads, hturns', hend, halone, hsteps', htaken, hlast⟩ :=
    exists_run_of_fates hbound turns.length s'.source rfl hbetween hindependent.nodup hfates
  obtain ⟨budget', hdrive'⟩ :=
    hleads.returned (nextUntilQuiescent_of_alone hbound hend.idle halone)
  rw [← hsame] at hdrive' hturns' hsteps'
  have hcount : steps = turns'.length := by
    rw [run_eq budget hserial, hdrive] at hrun
    have hanswer := (outcome_of_calm hcalm).symm.trans (Except.ok.inj hrun)
    have hlength := (perm_of_turnsOf htaken).length_eq
    have hsteps := Except.ok.inj hanswer
    omega
  have hrun' : s'.run sys budget' = (.ok (.ok steps), t) := by
    rw [run_eq budget' hserial, hdrive']
    simp only [settled, outcome_of_calm hend.calm.1, hsteps', Nat.add_sub_cancel_left, hcount]
  refine ⟨budget', turns, turns', ?_, hturns, ?_, htaken, ?_⟩
  · rw [hrun']
  · rw [hrun']
    exact hturns'
  · rw [hrun']
    exact hlast

/-- Whichever snail is chosen first, both crawl twice and come to rest. -/
theorem run_independent_snails :
    ((Snail.ready [0]).run Snail.race 100).1 = .ok (.ok 8) ∧
      ∃ budget, ((Snail.ready [1]).run Snail.race budget).1 = .ok (.ok 8) ∧
        ∀ place, ((Snail.ready [1]).run Snail.race budget).2.world.machineAt? place
          = ((Snail.ready [0]).run Snail.race 100).2.world.machineAt? place := by
  have hserial : Snail.race.config.serial = true := rfl
  have hrun : ((Snail.ready [0]).run Snail.race 100).1 = .ok (.ok 8) := rfl
  have hsame : (Snail.ready [1]).world = (Snail.ready [0]).world := rfl
  obtain ⟨budget, _, _, hagain, -, -, -, hmachines⟩ :=
    run_independent hserial rfl ((Snail.history_ready [0]).atRest hserial) hsame
      (Snail.solitary_ready [0]) hrun
  exact ⟨hrun, budget, hagain, hmachines⟩

end Session

end PushdownActors
