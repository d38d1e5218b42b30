-- SUMMARY: What still happens after a failure is recorded: runs in progress end, runs that begin end at once, but new machines start.
import PushdownActors.Proofs.StepBound

/-!
# The aftermath of a failure

A failure does not end what is in progress when it is recorded. Receives that are blocked
give up, the other actions go on to their end, and operations from outside are still
possible. What a failure is to prevent is that anything else begins: a run that gets its
turn afterwards looks for the failure before it looks for an event, and ends.

It looks for the failure too late to be right about machines that have not started yet.
Their first turn enters the start state, as if nothing had happened. All others are left
alone for as long as the world is not reset: they keep their memory, their states and the
events in their mailboxes, and no action runs for them.
-/

namespace PushdownActors

namespace World

/-! ## What comes after -/

/-- The worlds that a run comes to from a world on, without a reset. -/
inductive Ensues (sys : System σ) (w : World σ) : World σ → Prop
  | refl : Ensues sys w w
  | next {w' w'' : World σ} (h : Ensues sys w w') (hnext : (w'.next sys).LeadsTo w'') :
      Ensues sys w w''
  | outside {w' w'' : World σ} {seen : List Traffic} (h : Ensues sys w w')
      (hidle : w'.frames = []) (hi : Intervention sys w' seen w'') : Ensues sys w w''

/-- What comes after a world of a run is a world of a run. -/
theorem Ensues.run {sys : System σ} {w w' : World σ} (h : Ensues sys w w') {log : List Traffic}
    (hrun : Run sys w log) : ∃ log', Run sys w' log' := by
  induction h with
  | refl => exact ⟨log, hrun⟩
  | next _ hnext ih =>
    obtain ⟨log', hrun'⟩ := ih
    exact ⟨_, hrun'.next hnext⟩
  | outside _ hidle hi ih =>
    obtain ⟨log', hrun'⟩ := ih
    exact ⟨_, hrun'.outside hidle hi⟩

/-- What holds of a world, and is kept by every transition and every operation, holds of
all that ensues. -/
theorem Ensues.invariant {sys : System σ} {w w' : World σ} {P : World σ → Prop}
    (hserial : sys.config.serial = true)
    (hnext : ∀ {w w' : World σ} {seen : List Traffic}, P w → Transition sys w seen w' → P w')
    (houtside : ∀ {w w' : World σ} {seen : List Traffic}, P w → w.frames = [] →
      Operated sys w seen w' → P w')
    (h : Ensues sys w w') (hw : P w) : P w' := by
  induction h with
  | refl => exact hw
  | next _ h ih => exact hnext ih (next_leadsTo hserial h)
  | outside _ hidle hi ih => exact houtside ih hidle (hi.operated hserial hidle)

end World

/-! ## Machines that are left alone -/

/-- The machine is as it was, but for events that have come. -/
structure Machine.Kept (m m' : Machine σ) : Prop where
  cell : m'.cell = m.cell
  lifecycle : m'.lifecycle = m.lifecycle
  state : m'.state = m.state
  mailbox : m.mailbox <+: m'.mailbox

namespace Machine.Kept

theorem refl (m : Machine σ) : m.Kept m := ⟨rfl, rfl, rfl, List.prefix_rfl⟩

theorem trans {m m' m'' : Machine σ} (h : m.Kept m') (h' : m'.Kept m'') : m.Kept m'' where
  cell := h'.cell.trans h.cell
  lifecycle := h'.lifecycle.trans h.lifecycle
  state := h'.state.trans h.state
  mailbox := h.mailbox.trans h'.mailbox

end Machine.Kept

namespace World

/-- After a failure: the machine at the place is as it was, and a run of it that is in
progress has done nothing yet. -/
structure Spared (w : World σ) (place : Place) (m : Machine σ) : Prop where
  failed : w.hasFailed = true
  kept : ∃ m', w.machineAt? place = some m' ∧ m.Kept m'
  untouched : ∀ f ∈ w.frames, f.place? = some place → f = .ready place

namespace Spared

variable {w w' : World σ} {place other : Place} {m m' m'' : Machine σ} {f : Frame σ}
  {rest : List (Frame σ)}

theorem congr (h : w.Spared place m) (hmachines : w'.machines = w.machines)
    (hfailed : w'.hasFailed = true)
    (hframes : ∀ f ∈ w'.frames, f ∈ w.frames ∨ (f.place? = some place → f = .ready place)) :
    w'.Spared place m where
  failed := hfailed
  kept := by
    rw [machineAt?_congr hmachines]
    exact h.kept
  untouched := by
    intro f hf
    rcases hframes f hf with hold | hnew
    · exact h.untouched f hold
    · exact hnew

/-- A machine is exchanged. If it is the one that is spared, it is as it was. -/
theorem update (h : w.Spared place m) (hm : w.machineAt? other = some m')
    (hmachines : w'.machines = (w.setMachine other m'').machines)
    (hfailed : w'.hasFailed = true) (hframes : w'.frames = w.frames)
    (hkept : other = place → m'.Kept m'') : w'.Spared place m where
  failed := hfailed
  kept := by
    obtain ⟨m₀, hm₀, hkept₀⟩ := h.kept
    rw [machineAt?_congr hmachines]
    by_cases hplace : other = place
    · subst hplace
      cases hm.symm.trans hm₀
      exact ⟨m'', machineAt?_setMachine_self hm, hkept₀.trans (hkept rfl)⟩
    · exact ⟨m₀, (machineAt?_setMachine_of_ne hplace).trans hm₀, hkept₀⟩
  untouched := by
    rw [hframes]
    exact h.untouched

theorem popFrame (h : w.Spared place m) (hframes : w.frames = f :: rest) :
    Spared { w with frames := rest } place m := by
  refine h.congr rfl h.failed fun f' hf' => ?_
  left
  rw [hframes]
  exact List.mem_cons_of_mem f hf'

/-- An action that runs is one of another machine. -/
theorem place_ne {actor : Actor} {p : Paused} {c : Context} {stage : Stage σ}
    (h : w.Spared place m) (hframes : w.frames = .acting actor p c stage :: rest) :
    actor.place? ≠ some place := by
  intro hplace
  have hready := h.untouched (.acting actor p c stage) (hframes ▸ List.mem_cons_self) hplace
  contradiction

/-- The frame of an action of another machine is put on top. -/
theorem pushFrame {actor : Actor} {p : Paused} {c : Context} {stage : Stage σ}
    (h : w.Spared place m) (hother : actor.place? ≠ some place) :
    Spared { w with frames := .acting actor p c stage :: w.frames } place m := by
  refine h.congr rfl h.failed fun f hf => ?_
  rcases List.mem_cons.mp hf with rfl | hf
  · right
    intro hplace
    exact absurd hplace hother
  · left
    exact hf

/-- The innermost action goes on. -/
theorem replaceFrame {actor : Actor} {p p' : Paused} {c c' : Context} {stage stage' : Stage σ}
    (h : w.Spared place m) (hframes : w.frames = .acting actor p c stage :: rest) :
    Spared { w with frames := .acting actor p' c' stage' :: rest } place m := by
  have hpopped := h.popFrame hframes
  exact hpopped.pushFrame (h.place_ne hframes)

theorem markBound (h : w.Spared place m) (config : Config) :
    (w.markBound config).Spared place m := by
  apply h.congr (markBound_machines w config)
  · rw [hasFailed, markBound_failure]
    exact h.failed
  · intro f hf
    left
    rw [markBound_frames] at hf
    exact hf

/-- A turn that begins has done nothing yet. -/
theorem beginTurn (h : w.Spared place m) (index : Nat) : (w.beginTurn index).Spared place m := by
  unfold World.beginTurn World.beginRun
  split
  · rename_i begun _
    refine h.congr rfl h.failed fun f hf => ?_
    rcases List.mem_cons.mp hf with rfl | hf
    · right
      intro hplace
      cases hplace
      rfl
    · left
      exact hf
  · exact h.congr rfl h.failed fun f hf => .inl hf

theorem write (h : w.Spared place m) (entry : JournalEntry) : (w.write entry).Spared place m :=
  h.congr rfl h.failed fun _ hf => .inl hf

theorem setCell {actor : Actor} (h : w.Spared place m) (hother : actor.place? ≠ some place)
    (cell : Cell σ) : (w.setCell actor cell).Spared place m := by
  unfold World.setCell
  split
  · rename_i other id
    split
    · rename_i m' hm'
      refine h.update hm' rfl h.failed rfl ?_
      rintro rfl
      exact absurd rfl hother
    · exact h
  · split
    · exact h.congr rfl h.failed fun f hf => .inl hf
    · exact h

theorem delivered {e : Event} {seen : List Traffic} (h : w.Spared place m)
    (hdelivered : Delivered w e seen w') : w'.Spared place m := by
  cases hdelivered with
  | refused _ _ => exact h
  | handed hm _ _ _ =>
    exact h.update hm rfl h.failed rfl fun _ => ⟨rfl, rfl, rfl, List.prefix_rfl⟩
  | queued hm _ _ _ | woken hm _ _ _ =>
    exact h.update hm rfl h.failed rfl fun _ => ⟨rfl, rfl, rfl, List.prefix_append ..⟩

theorem create {catalog : Catalog σ} {type : String} {payload : Option Value} {id : MachineId}
    (h : w.Spared place m) (hcreate : w.create catalog type payload = .ok (id, w')) :
    w'.Spared place m := by
  obtain ⟨blueprint, registry, rfl⟩ := create_eq_ok hcreate
  obtain ⟨m₀, hm₀, hkept⟩ := h.kept
  have hlt : place < w.machines.length := (List.getElem?_eq_some_iff.mp hm₀).1
  exact ⟨h.failed, ⟨m₀, (List.getElem?_append_left hlt).trans hm₀, hkept⟩, h.untouched⟩

theorem abort {failure : Failure} (h : w.Spared place m) (hm : w.machineAt? other = some m')
    (hother : other ≠ place) : (w.abort other m'' failure).retire.Spared place m := by
  unfold World.abort
  dsimp only
  split
  · exact h.update hm rfl h.failed rfl fun heq => absurd heq hother
  · refine h.update hm rfl ?_ rfl fun heq => absurd heq hother
    have hfailed := h.failed
    rw [hasFailed, Option.isSome_iff_exists] at hfailed
    obtain ⟨first, hfirst⟩ := hfailed
    simp [hasFailed, retire, fail, setMachine, hfirst]

theorem giveBack {result : Except Failure Unit} (h : w.Spared place m)
    (hback : (w.giveBack result).LeadsTo w') : w'.Spared place m := by
  unfold World.giveBack at hback
  split at hback
  · rename_i hframes
    exact Move.leadsTo_step.mp hback ▸ h.replaceFrame hframes
  · exact Move.leadsTo_returned.mp hback ▸ h

/-- However the dispatch of another actor is carried on, the machine is spared. -/
theorem carried {actor : Actor} {progress : Progress} (h : w.Spared place m)
    (hcarried : Carried w actor progress w') (hother : actor.place? ≠ some place) :
    w'.Spared place m := by
  cases hcarried with
  | @acting actor cell progress p action hcell hpaused haction =>
    have hset := h.setCell hother { cell with stack := progress.stack }
    exact (hset.write (.invoked actor.owner p.invocation)).pushFrame hother
  | yielded hm hresult | halted hm hresult =>
    refine h.update hm rfl h.failed rfl ?_
    rintro rfl
    exact absurd rfl hother
  | aborted hm hresult =>
    apply h.abort hm
    rintro rfl
    exact absurd rfl hother
  | judged hm hresult hback =>
    obtain ⟨judged, answer, heq, hframes, hsame⟩ :=
      SameRuns.concludeMonitor_eq (w.setMonitor _) _ _
    rw [heq] at hback
    refine Spared.giveBack (h.congr hsame.machines ?_ ?_) hback
    · rw [hasFailed, hsame.failure]
      exact h.failed
    · intro f hf
      left
      rw [hframes] at hf
      exact hf

end Spared

section Steps

variable {sys : System σ} {w w' : World σ} {place : Place} {m : Machine σ} {seen : List Traffic}

theorem place?_monitor_ne (type : String) (place : Place) :
    (Actor.monitor type).place? ≠ some place :=
  (Option.some_ne_none place).symm

/-- No small step after a failure touches a machine that has started, unless its run was
in progress. -/
theorem Transition.spared (h : w.Spared place m) (hstarted : m.lifecycle ≠ .created)
    (ht : Transition sys w seen w') : w'.Spared place m := by
  have hfailed := h.failed
  cases ht with
  | panic hpropagate =>
    exact h.congr rfl h.failed fun f hf => absurd hf List.not_mem_nil
  | @start other rest m' w' hframes hm hcreated hcarried =>
    have hother : other ≠ place := by
      rintro rfl
      obtain ⟨m₀, hm₀, hkept⟩ := h.kept
      cases hm.symm.trans hm₀
      exact hstarted (hkept.lifecycle.symm.trans hcreated)
    refine Spared.carried ((h.popFrame hframes).update hm rfl h.failed rfl ?_) hcarried ?_
    · exact fun heq => absurd heq hother
    · exact fun heq => hother (Option.some.inj heq)
  | dispatch hframes hm hactive hnot hselect hcarried | rest hframes hm hactive hnot hselect
  | unselectable hframes hm hactive hnot hselect | turn hframes hm hreceived hnot hbounded hindex =>
    rw [hfailed] at hnot
    contradiction
  | stop hframes hm hwhy =>
    exact (h.popFrame hframes).update hm rfl h.failed rfl fun _ => ⟨rfl, rfl, rfl, List.prefix_rfl⟩
  | answer hframes hcell hcarried =>
    exact (h.popFrame hframes).carried hcarried (h.place_ne hframes)
  | goOn hframes => exact h.replaceFrame hframes
  | store hframes hcell =>
    exact (h.setCell (h.place_ne hframes) _).replaceFrame ((setCell_frames ..).trans hframes)
  | remark hframes => exact (h.write _).replaceFrame hframes
  | send hframes hdeliver =>
    have hdelivered := delivered_of_deliver hdeliver
    exact (h.delivered hdelivered).replaceFrame (hdelivered.frames.trans hframes)
  | create hframes hcreate =>
    have hgrown := h.create hcreate
    obtain ⟨blueprint, registry, rfl⟩ := create_eq_ok hcreate
    exact hgrown.replaceFrame hframes
  | notify hframes hm hcarried =>
    exact (h.replaceFrame hframes).carried hcarried (place?_monitor_ne _ place)
  | take hframes hm htake | block hframes hm htake | resume hframes hm hreceived =>
    refine (h.replaceFrame hframes).update hm rfl h.failed rfl ?_
    rintro rfl
    exact absurd rfl (h.place_ne hframes)
  | giveUp hframes hm hreceived hgiven =>
    have hgivenSpared := hgiven.keeps (P := fun given => given.Spared place m) h
      (h.markBound sys.config)
    have hm' := (machineAt?_congr hgiven.machines _).trans hm
    refine (hgivenSpared.replaceFrame (hgiven.frames.trans hframes)).update hm' rfl
      hgivenSpared.failed rfl ?_
    rintro rfl
    exact absurd rfl (h.place_ne hframes)

theorem Operated.spared (h : w.Spared place m) (ho : Operated sys w seen w') :
    w'.Spared place m := by
  cases ho with
  | unchanged => exact h
  | create hcreate => exact h.create hcreate
  | send hdeliver => exact h.delivered (delivered_of_deliver hdeliver)
  | fail f =>
    refine h.congr rfl ?_ fun f hf => .inl hf
    simp [hasFailed, World.fail]
  | describe registry => exact h.congr rfl h.failed fun f hf => .inl hf
  | @register type m' registry w' htype hcarried =>
    have hmade : (w.withMonitor registry m').Spared place m :=
      h.congr rfl h.failed fun f hf => .inl hf
    exact hmade.carried hcarried (place?_monitor_ne type place)
  | notify hm hcarried => exact h.carried hcarried (place?_monitor_ne _ place)
  | step hindex => exact h.beginTurn _
  | settle hend => exact h.markBound sys.config
  | run hindex => exact (h.markBound sys.config).beginTurn _

/-- The first failure stays, whatever is done. -/
theorem Operated.failure (ho : Operated sys w seen w') {f : Failure} (hf : w.failure = some f) :
    w'.failure = some f := by
  cases ho with
  | unchanged | describe registry => exact hf
  | create hcreate => exact (congrArg Tally.failure (create_tally hcreate)).trans hf
  | send hdeliver =>
    exact (congrArg Tally.failure (delivered_of_deliver hdeliver).tally).trans hf
  | fail g => simp [World.fail, hf]
  | register htype hcarried | notify hm hcarried => exact (hcarried.tally sys.config).failure hf
  | step hindex => exact (beginTurn_failure _).trans hf
  | settle hend => exact (markBound_failure w sys.config).trans hf
  | run hindex => exact ((beginTurn_failure _).trans (markBound_failure w sys.config)).trans hf

theorem Ensues.failure (hserial : sys.config.serial = true) (h : Ensues sys w w') {f : Failure}
    (hf : w.failure = some f) : w'.failure = some f := by
  apply h.invariant (P := fun w => w.failure = some f) hserial _ _ hf
  · intro w w' seen hf ht
    exact ht.tally.failure hf
  · intro w w' seen hf _ ho
    exact ho.failure hf

theorem Ensues.spared (hserial : sys.config.serial = true) (h : Ensues sys w w')
    (hfailed : w.hasFailed = true) (hm : w.machineAt? place = some m)
    (hstarted : m.lifecycle ≠ .created) (hfree : place ∉ w.running) : w'.Spared place m := by
  have hspared : w.Spared place m := by
    refine ⟨hfailed, ⟨m, hm, .refl m⟩, ?_⟩
    intro f hf hplace
    exact absurd (List.mem_filterMap.mpr ⟨f, hf, hplace⟩) hfree
  apply h.invariant (P := fun w => w.Spared place m) hserial _ _ hspared
  · intro w w' seen h ht
    exact ht.spared h hstarted
  · intro w w' seen h _ ho
    exact ho.spared h

/-! ## Turns after a failure -/

/-- The turn of a machine that has started is over at once. -/
theorem next_of_ready (hfailed : w.hasFailed = true) {rest : List (Frame σ)}
    (hframes : w.frames = .ready place :: rest) (hm : w.machineAt? place = some m)
    (hstarted : m.lifecycle ≠ .created) :
    w.next sys = ({ w with frames := rest }.setMachine place
      { m with active := false }).retire.endRun := by
  have hfailed : hasFailed { w with frames := rest } = true := hfailed
  simp only [World.next, hframes, hm, beginDispatch]
  cases hlife : m.lifecycle with
  | halted => rfl
  | created => contradiction
  | active => simp only [hfailed, if_true]

/-- The turn of a machine that has not started begins its start. -/
theorem carried_of_created (hserial : sys.config.serial = true) {rest : List (Frame σ)}
    (hframes : w.frames = .ready place :: rest) (hm : w.machineAt? place = some m)
    (hcreated : m.lifecycle = .created) (h : (w.next sys).LeadsTo w') :
    Carried ({ w with frames := rest }.setMachine place
        { m with lifecycle := .active, startPayload := none })
      (.machine place m.id)
      (((Actor.machine place m.id).engine m.cell).start m.cell.stack
        (.start m.startPayload)) w' := by
  simp only [World.next, hframes, hm, beginDispatch, hcreated] at h
  exact carry_leadsTo hserial h

/-- A blocked receive goes on with its event or gives up, and no other run goes first. -/
theorem next_of_receiving (hfailed : w.hasFailed = true) {id : MachineId} {p : Paused}
    {c : Context} {types : List EventType} {next : Except Failure Event → Program σ Verdict}
    {rest : List (Frame σ)}
    (hframes : w.frames = .acting (.machine place id) p c (.receiving types next) :: rest)
    (hm : w.machineAt? place = some m) :
    ∃ w' c' answer, w.next sys = .step w' ∧
      w'.frames = .acting (.machine place id) p c' (.running (next answer)) :: rest ∧
      (answer = .error interruptedByFailure ∨ ∃ e, m.received = some e ∧ answer = .ok e) := by
  cases hreceived : m.received with
  | some e => exact ⟨_, _, _, next_of_received hframes hm hreceived, rfl, .inr ⟨e, rfl, rfl⟩⟩
  | none =>
    rw [next_eq_await hframes hm]
    simp only [await, hreceived, hfailed, if_true]
    exact ⟨_, _, _, rfl, rfl, .inl rfl⟩

theorem nextUntilQuiescent_of_failed (hfailed : w.hasFailed = true) (hidle : w.frames = []) :
    w.nextUntilQuiescent sys = .returned w (.ok ()) := by
  simp only [World.nextUntilQuiescent, hidle, hfailed, if_true]

end Steps

end World

/-! ## Guests

Two machines of one type, which ring as they start: one has started when a failure is
recorded, and the other has not. -/

namespace Guests

def guest : Description Unit :=
  let outside := ({ name := "Outside" } : StateSpec).asStart.withEntry "ring"
  (({} : Description Unit).state outside).action "ring" fun _ => Body.toProgram (pure ())

def system : System Unit where
  catalog := fun _ => { fresh := (), describe := fun _ => guest }
  config := .bugFinding 0

def failure : Failure := .assertion "the house is full"

/-- One guest has come. -/
def early : Session Unit CyclicChoice :=
  let s : Session Unit CyclicChoice := { source := { numbers := [] } }
  ((s.perform system 0 (.create "Guest" none)).2.perform system 100 .run).2

/-- Another one is on the way when it is too late. -/
def late : Session Unit CyclicChoice :=
  ((early.perform system 0 (.create "Guest" none)).2.perform system 0 (.fail failure)).2

theorem history_late : Session.History system late := by
  refine .perform (.perform (.perform (.perform (.fresh _) (.create ..) 0 ?_) .run 100 ?_)
    (.create ..) 0 ?_) (.fail _) 0 ?_ <;> exact nofun

end Guests

/-! ## Results -/

namespace World

variable {sys : System σ} {w w' : World σ}

/-- Once a failure is recorded it stays until a reset, and so does every machine that has
started and has no run in progress: it keeps its memory, its states and its mailbox, and
no action runs for it. Running until nothing is left begins no turn, and neither does a
blocked receive. A turn that begins by a scheduling step is over at once, unless it is the
first one of a machine. Then the machine is started. -/
theorem Ensues.aftermath (hserial : sys.config.serial = true) {f : Failure}
    (hf : w.failure = some f) (h : Ensues sys w w') :
    w'.failure = some f ∧
      (∀ place m, w.machineAt? place = some m → m.lifecycle ≠ .created → place ∉ w.running →
        w'.Spared place m) ∧
      (w'.frames = [] → w'.nextUntilQuiescent sys = .returned w' (.ok ())) ∧
      (∀ place id p c types next rest m,
        w'.frames = .acting (.machine place id) p c (.receiving types next) :: rest →
        w'.machineAt? place = some m →
          ∃ w'' c' answer, w'.next sys = .step w'' ∧
            w''.frames = .acting (.machine place id) p c' (.running (next answer)) :: rest ∧
            (answer = .error interruptedByFailure ∨
              ∃ e, m.received = some e ∧ answer = .ok e)) ∧
      ∀ place rest m, w'.frames = .ready place :: rest → w'.machineAt? place = some m →
        (m.lifecycle ≠ .created →
          w'.next sys = ({ w' with frames := rest }.setMachine place
            { m with active := false }).retire.endRun) ∧
        (m.lifecycle = .created → ∀ w'', (w'.next sys).LeadsTo w'' →
          Carried ({ w' with frames := rest }.setMachine place
              { m with lifecycle := .active, startPayload := none })
            (.machine place m.id)
            (((Actor.machine place m.id).engine m.cell).start m.cell.stack
              (.start m.startPayload)) w'') := by
  have hf' := h.failure hserial hf
  have hfailed : w.hasFailed = true := by simp [hasFailed, hf]
  have hfailed' : w'.hasFailed = true := by simp [hasFailed, hf']
  refine ⟨hf', ?_, ?_, ?_, ?_⟩
  · intro place m hm hstarted hfree
    exact h.spared hserial hfailed hm hstarted hfree
  · intro hidle
    exact nextUntilQuiescent_of_failed hfailed' hidle
  · intro place id p c types next rest m hframes hm
    exact next_of_receiving hfailed' hframes hm
  · intro place rest m hframes hm
    refine ⟨fun hstarted => next_of_ready hfailed' hframes hm hstarted, ?_⟩
    intro hcreated w'' hnext
    exact carried_of_created hserial hframes hm hcreated hnext

theorem Ensues.aftermath_guests :
    Session.History Guests.system Guests.late ∧
      Guests.late.world.failure = some Guests.failure ∧
      (∃ m, Guests.late.world.machineAt? 0 = some m ∧ m.lifecycle ≠ .created ∧
        (Guests.late.world.beginTurn 0).Spared 0 m) ∧
      (Guests.late.world.beginTurn 0).failure = some Guests.failure := by
  have hensues : Ensues Guests.system Guests.late.world (Guests.late.world.beginTurn 0) :=
    Ensues.refl.outside rfl (.step .step)
  have hafter := Ensues.aftermath rfl (f := Guests.failure) rfl hensues
  exact ⟨Guests.history_late, rfl,
    ⟨_, rfl, nofun, hafter.2.1 0 _ rfl nofun List.not_mem_nil⟩, hafter.1⟩

/-- After a failure, a scheduling step starts the guest that has not started: its action
runs, and it enters its state. -/
theorem late_guest_starts :
    Session.History Guests.system Guests.late ∧
      Guests.late.world.failure = some Guests.failure ∧
      (Guests.late.world.machineAt? 1).map (fun m => (m.lifecycle, m.cell.stack))
        = some (.created, .empty) ∧
      (Guests.late.perform Guests.system 100 .step).2.world.journal
        = .invoked (.machine ⟨"Guest", 2⟩) ⟨"ring", .entry, ⟨"Outside"⟩, .start none⟩
          :: Guests.late.world.journal ∧
      ((Guests.late.perform Guests.system 100 .step).2.world.machineAt? 1).map
          (fun m => (m.lifecycle, m.cell.stack))
        = some (.active, ⟨[⟨"Outside"⟩]⟩) :=
  ⟨Guests.history_late, rfl, rfl, rfl, rfl⟩

end World

end PushdownActors
