-- SUMMARY: What one small step of a serial system can do to its world, as a relation with one case for each kind of step.
import PushdownActors.Proofs.Traffic

/-!
# Transitions

A move is a computation. This module says what comes of it: `Carried` has a case
for each way in which a dispatch goes on or ends, and `Transition` a case for each
kind of small step of a serial system. A case tells where the step starts from,
under which conditions, and what world it ends in. Invariants of all runs are proved
from these cases. `World.next` itself is opened again only where a step has to be
there, or where it is known which one it is.
-/

namespace PushdownActors

/-! ## What a move leads to -/

/-- The worlds that a move may lead to: after a question there is one for each
answer. -/
inductive Move.LeadsTo : Move σ → World σ → Prop
  | step {w : World σ} : LeadsTo (.step w) w
  | ask {q : Question} {next : q.Answer → World σ} (answer : q.Answer) :
      LeadsTo (.ask q next) (next answer)
  | returned {w : World σ} {result : Except Failure Unit} : LeadsTo (.returned w result) w
  | panicked {w : World σ} {message : Option String} : LeadsTo (.panicked w message) w

namespace Move

variable {w w' : World σ}

@[simp] theorem leadsTo_step : (step w).LeadsTo w' ↔ w' = w :=
  ⟨fun h => by cases h; rfl, fun h => h ▸ .step⟩

@[simp] theorem leadsTo_ask {q : Question} {next : q.Answer → World σ} :
    (ask q next).LeadsTo w' ↔ ∃ answer, w' = next answer :=
  ⟨fun h => by cases h with | ask answer => exact ⟨answer, rfl⟩,
    fun ⟨answer, h⟩ => h ▸ .ask answer⟩

@[simp] theorem leadsTo_returned {result : Except Failure Unit} :
    (returned w result).LeadsTo w' ↔ w' = w :=
  ⟨fun h => by cases h; rfl, fun h => h ▸ .returned⟩

@[simp] theorem leadsTo_panicked {message : Option String} :
    (panicked w message).LeadsTo w' ↔ w' = w :=
  ⟨fun h => by cases h; rfl, fun h => h ▸ .panicked⟩

@[simp] theorem not_leadsTo_parked : ¬ (parked : Move σ).LeadsTo w' := nofun

@[simp] theorem not_leadsTo_idle : ¬ (idle : Move σ).LeadsTo w' := nofun

end Move

/-! ## Requests of an action -/

/-- The request concerns nobody but the action that makes it and its dispatch. Of those that
concern others a monitor may make none, so they are refused without a look at anyone. -/
def Request.isInward (actor : Actor) : Request → Bool
  | raise _ | goto _ | push _ | pop | id | choose _ | assert .. => true
  | send .. | create .. | notify .. | receive _ =>
    match actor with
    | .machine .. => false
    | .monitor _ => true
  | remark _ => false

/-! ## The end of a dispatch -/

/-- The result with which a dispatch ends that has come as far as this, unless it
waits for an action. An action that the type does not bind ends it as well. -/
def Progress.result? (progress : Progress) (b : Blueprint σ) : Option (Except Failure Status) :=
  match progress.outcome with
  | .finished status => some (.ok status)
  | .failed f => some (.error f)
  | .paused p =>
    match b.action? p.invocation.action with
    | some _ => none
    | none =>
      let error : BuildError :=
        .unresolvedAction b.automaton.name p.invocation.state p.invocation.action
      some (.error (error.toFailure.inState progress.stack.top?))

/-- A dispatch without a result waits for an action that its type binds. -/
theorem Progress.paused_of_result? {progress : Progress} {b : Blueprint σ}
    (h : progress.result? b = none) :
    ∃ p action, progress.outcome = .paused p ∧ b.action? p.invocation.action = some action := by
  unfold result? at h
  split at h
  · contradiction
  · contradiction
  · rename_i p hpaused
    split at h
    · rename_i action haction
      exact ⟨p, action, hpaused, haction⟩
    · contradiction

theorem Progress.finished_of_result? {progress : Progress} {b : Blueprint σ} {status : Status}
    (h : progress.result? b = some (.ok status)) : progress.outcome = .finished status := by
  unfold result? at h
  split at h
  · rename_i hfinished
    cases h
    exact hfinished
  · cases h
  · split at h <;> cases h

namespace World

/-- The frame that a new action gets, on top of the frames of a world. -/
def enterAction (w : World σ) (actor : Actor) (p : Paused) (action : Action σ) : World σ :=
  { w with frames := .acting actor p {} (.running (action p.invocation)) :: w.frames }

/-- How the dispatch of an actor is carried on, its own frame being gone already. -/
inductive Carried (w : World σ) : Actor → Progress → World σ → Prop
  /-- It waits for its next action. -/
  | acting {actor : Actor} {cell : Cell σ} {progress : Progress} {p : Paused} {action : Action σ}
      (hcell : w.cell? actor = some cell) (hpaused : progress.outcome = .paused p)
      (haction : cell.blueprint.action? p.invocation.action = some action) :
      Carried w actor progress
        (((w.setCell actor { cell with stack := progress.stack }).write
          (.invoked actor.owner p.invocation)).enterAction actor p action)
  /-- It has ended, and the machine waits for its next turn. -/
  | yielded {place : Place} {id : MachineId} {m : Machine σ} {progress : Progress}
      (hm : w.machineAt? place = some m)
      (hresult : progress.result? m.cell.blueprint = some (.ok .running)) :
      Carried w (.machine place id) progress
        ((w.setMachine place
          { m with
            cell := { m.cell with stack := progress.stack }
            state := progress.stack.top? }).requeue place)
  /-- The machine has ended. -/
  | halted {place : Place} {id : MachineId} {m : Machine σ} {progress : Progress}
      (hm : w.machineAt? place = some m)
      (hresult : progress.result? m.cell.blueprint = some (.ok .halted)) :
      Carried w (.machine place id) progress (w.setMachine place m.halt).retire
  /-- It has failed, and with it the run of the machine. -/
  | aborted {place : Place} {id : MachineId} {m : Machine σ} {progress : Progress} {f : Failure}
      (hm : w.machineAt? place = some m)
      (hresult : progress.result? m.cell.blueprint = some (.error f)) :
      Carried w (.machine place id) progress
        (w.abort place { m with cell := { m.cell with stack := progress.stack } } f).retire
  /-- The dispatch of a monitor has ended. -/
  | judged {type : String} {m : Monitor σ} {progress : Progress}
      {result : Except Failure Status} {w' : World σ}
      (hm : w.monitor? type = some m)
      (hresult : progress.result? m.cell.blueprint = some result)
      (hback : ((w.setMonitor { m with cell := { m.cell with stack := progress.stack } }
        ).concludeMonitor { m with cell := { m.cell with stack := progress.stack } } result
        ).LeadsTo w') :
      Carried w (.monitor type) progress w'

@[simp] theorem endRun_leadsTo {w w' : World σ} : w.endRun.LeadsTo w' ↔ w' = w := by
  unfold endRun
  split <;> simp

/-- A dispatch that has its result is carried on by its conclusion. -/
theorem carried_of_conclude {sys : System σ} {w w' : World σ} {actor : Actor} {cell : Cell σ}
    {progress : Progress} {result : Except Failure Status} (hserial : sys.config.serial = true)
    (hcell : w.cell? actor = some cell)
    (hresult : progress.result? cell.blueprint = some result)
    (h : ((w.setCell actor { cell with stack := progress.stack }).conclude sys actor
      result).LeadsTo w') :
    Carried w actor progress w' := by
  cases actor with
  | machine place id =>
    obtain ⟨m, hm, rfl⟩ := Option.map_eq_some_iff.mp hcell
    rw [setCell_machine hm] at h
    simp only [conclude, machineAt?_setMachine_self hm] at h
    match result with
    | .ok .running =>
      simp only [concludeMachine, hserial, if_true, setMachine_setMachine, endRun_leadsTo] at h
      exact h ▸ .yielded hm hresult
    | .ok .halted =>
      simp only [concludeMachine, setMachine_setMachine, endRun_leadsTo] at h
      obtain rfl : w' = (w.setMachine place m.halt).retire := h
      exact .halted hm hresult
    | .error f =>
      simp only [concludeMachine, abort, setMachine_setMachine, endRun_leadsTo] at h
      exact h ▸ .aborted hm hresult
  | monitor type =>
    obtain ⟨m, hm, rfl⟩ := Option.map_eq_some_iff.mp hcell
    -- The conclusion looks the monitor up again, and finds it with its new stack.
    have htype : m.type = type := type_of_monitor? hm
    have hfind := monitor?_setMonitor_self hm
      { m with cell := { m.cell with stack := progress.stack } } htype
    rw [setCell_monitor hm] at h
    simp only [conclude, hfind] at h
    exact .judged hm hresult h

/-- A dispatch that has its result is concluded with it. -/
theorem carry_eq_conclude {sys : System σ} {w : World σ} {actor : Actor} {cell : Cell σ}
    {progress : Progress} {result : Except Failure Status} (hcell : w.cell? actor = some cell)
    (hresult : progress.result? cell.blueprint = some result) :
    w.carry sys actor progress
      = (w.setCell actor { cell with stack := progress.stack }).conclude sys actor result := by
  unfold carry
  rw [hcell]
  cases hout : progress.outcome with
  | finished status | failed f =>
    simp only [Progress.result?, hout] at hresult
    cases hresult
    rfl
  | paused p =>
    simp only [Progress.result?, hout] at hresult
    cases haction : cell.blueprint.action? p.invocation.action with
    | some action =>
      simp only [haction] at hresult
      contradiction
    | none =>
      simp only [haction] at hresult ⊢
      cases hresult
      rfl

theorem carry_leadsTo {sys : System σ} {w w' : World σ} {actor : Actor} {progress : Progress}
    (hserial : sys.config.serial = true) (h : (w.carry sys actor progress).LeadsTo w') :
    Carried w actor progress w' := by
  cases hcell : w.cell? actor with
  | none =>
    unfold carry at h
    simp [hcell] at h
  | some cell =>
    cases hresult : progress.result? cell.blueprint with
    | some result =>
      rw [carry_eq_conclude hcell hresult] at h
      exact carried_of_conclude hserial hcell hresult h
    | none =>
      obtain ⟨p, action, hpaused, haction⟩ := Progress.paused_of_result? hresult
      unfold carry at h
      simp only [hcell, hpaused, haction, Move.leadsTo_step] at h
      exact h ▸ .acting hcell hpaused haction

/-! ## Sending and creating -/

/-- What comes of an event that can be sent, and whether it is accepted. -/
inductive Delivered (w : World σ) (e : Event) : List Traffic → World σ → Prop
  /-- A machine that has halted drops it. -/
  | refused {place : Place} {m : Machine σ} (hm : w.machineAt? place = some m)
      (hhalted : m.lifecycle = .halted) : Delivered w e [] w
  /-- A blocked receive gets it. -/
  | handed {place : Place} {m : Machine σ} {types : List EventType}
      (hm : w.machineAt? place = some m) (hlive : m.lifecycle ≠ .halted)
      (hwaiting : m.waiting = some types) (htype : types.contains e.type = true) :
      Delivered w e [.accepted place e]
        (w.setMachine place { m with waiting := none, received := some e })
  /-- It waits for a run that there is already. -/
  | queued {place : Place} {m : Machine σ} (hm : w.machineAt? place = some m)
      (hlive : m.lifecycle ≠ .halted) (hwaiting : (m.waiting.getD []).contains e.type = false)
      (hactive : m.active = true) :
      Delivered w e [.accepted place e]
        (w.setMachine place { m with mailbox := m.mailbox ++ [e], active := true })
  /-- The machine gets a run for it. -/
  | woken {place : Place} {m : Machine σ} (hm : w.machineAt? place = some m)
      (hlive : m.lifecycle ≠ .halted) (hwaiting : (m.waiting.getD []).contains e.type = false)
      (hidle : m.active = false) :
      Delivered w e [.accepted place e]
        ((w.setMachine place { m with mailbox := m.mailbox ++ [e], active := true }).schedule place)

theorem delivered_of_deliver {w w' : World σ} {target : MachineId} {e : Event}
    (h : w.deliver target e = .ok w') : Delivered w e (w.arrival target e) w' := by
  unfold deliver at h
  split at h
  · contradiction
  · rename_i hsendable
    split at h
    · contradiction
    · rename_i m place hlocate
      have hm := machineAt?_of_locate? hlocate
      by_cases hhalted : m.lifecycle = .halted
      · have ht : w.arrival target e = [] := by simp [arrival, hsendable, hlocate, hhalted]
        simp only [Machine.enqueue, hhalted, if_true, setMachine_self hm] at h
        cases h
        exact ht ▸ .refused hm hhalted
      · have ht : w.arrival target e = [.accepted place e] := by
          simp [arrival, hsendable, hlocate, hhalted]
        rw [ht]
        by_cases hwaiting : (m.waiting.getD []).contains e.type = true
        · have henqueue : m.enqueue e
              = ({ m with waiting := none, received := some e }, false) := by
            rw [Machine.enqueue, if_neg hhalted, if_pos hwaiting]
          simp only [henqueue] at h
          cases h
          cases htypes : m.waiting with
          | none => simp [htypes] at hwaiting
          | some types =>
            rw [htypes, Option.getD_some] at hwaiting
            exact .handed hm hhalted htypes hwaiting
        · have henqueue : m.enqueue e
              = ({ m with mailbox := m.mailbox ++ [e], active := true }, !m.active) := by
            rw [Machine.enqueue, if_neg hhalted, if_neg hwaiting]
          simp only [henqueue] at h
          cases h
          have hwaiting : (m.waiting.getD []).contains e.type = false := by simpa using hwaiting
          cases hactive : m.active with
          | true => exact .queued hm hhalted hwaiting hactive
          | false => exact .woken hm hhalted hwaiting hactive

theorem Delivered.frames {w w' : World σ} {e : Event} {seen : List Traffic}
    (h : Delivered w e seen w') : w'.frames = w.frames := by
  cases h <;> rfl

/-- The machine that creation adds to a world, behind all others. -/
def newMachine (w : World σ) (catalog : Catalog σ) (type : String) (payload : Option Value)
    (blueprint : Blueprint σ) : Machine σ :=
  { id := ⟨type, w.lastId + 1⟩, cell := { blueprint, memory := (catalog type).fresh },
    startPayload := payload }

/-- A machine that is created has a type that was found or built. -/
theorem exists_fetch_of_create {w w' : World σ} {catalog : Catalog σ} {type : String}
    {payload : Option Value} {id : MachineId} (h : w.create catalog type payload = .ok (id, w')) :
    ∃ blueprint registry, w.registry.fetch catalog .machine type = .ok (blueprint, registry) ∧
      w' =
        { w with
          registry
          lastId := w.lastId + 1
          machines := w.machines ++ [w.newMachine catalog type payload blueprint]
          active := w.active + 1
          pending := w.pending ++ [w.machines.length] } := by
  unfold create at h
  split at h
  · contradiction
  · rename_i blueprint registry hfetch
    cases h
    exact ⟨blueprint, registry, hfetch, rfl⟩

theorem create_eq_ok {w w' : World σ} {catalog : Catalog σ} {type : String}
    {payload : Option Value} {id : MachineId} (h : w.create catalog type payload = .ok (id, w')) :
    ∃ blueprint registry, w' =
      { w with
        registry
        lastId := w.lastId + 1
        machines := w.machines ++ [w.newMachine catalog type payload blueprint]
        active := w.active + 1
        pending := w.pending ++ [w.machines.length] } := by
  obtain ⟨blueprint, registry, _, heq⟩ := exists_fetch_of_create h
  exact ⟨blueprint, registry, heq⟩

/-! ## Small steps -/

/-- Why a blocked receive gives up, and the world in which it does. Only a receive
that looks for other runs to go first looks at the step bound. -/
inductive GivesUp (sys : System σ) (w : World σ) (types : List EventType) :
    World σ → Failure → Prop
  | failed (hfailed : w.hasFailed = true) : GivesUp sys w types w interruptedByFailure
  | bounded (hfailed : w.hasFailed = false) (hbounded : (w.markBound sys.config).bounded = true) :
      GivesUp sys w types (w.markBound sys.config) interruptedByBound
  | deadlocked (hfailed : w.hasFailed = false)
      (hbounded : (w.markBound sys.config).bounded = false) (hpending : w.pending = []) :
      GivesUp sys w types (w.markBound sys.config) (deadlocked types)

/-- A receive that gives up has looked at the step bound, or has changed nothing. -/
theorem GivesUp.keeps {P : World σ → Prop} {sys : System σ} {w given : World σ}
    {types : List EventType} {f : Failure} (h : GivesUp sys w types given f) (hw : P w)
    (hmark : P (w.markBound sys.config)) : P given := by
  cases h with
  | failed _ => exact hw
  | bounded _ _ | deadlocked _ _ _ => exact hmark

theorem GivesUp.machines {sys : System σ} {w given : World σ} {types : List EventType}
    {f : Failure} (h : GivesUp sys w types given f) : given.machines = w.machines :=
  h.keeps (P := fun given => given.machines = w.machines) rfl (markBound_machines w sys.config)

theorem GivesUp.frames {sys : System σ} {w given : World σ} {types : List EventType}
    {f : Failure} (h : GivesUp sys w types given f) : given.frames = w.frames :=
  h.keeps (P := fun given => given.frames = w.frames) rfl (markBound_frames w sys.config)

/-- The innermost run is blocked in a receive of these types, which gives up now. -/
inductive Concedes (sys : System σ) (w : World σ) (place : Place) (types : List EventType)
    (f : Failure) : Prop
  | giveUp {id : MachineId} {p : Paused} {c : Context}
      {next : Except Failure Event → Program σ Verdict} {rest : List (Frame σ)} {m : Machine σ}
      {given : World σ}
      (hframes : w.frames = .acting (.machine place id) p c (.receiving types next) :: rest)
      (hm : w.machineAt? place = some m) (hreceived : m.received = none)
      (hgiven : GivesUp sys w types given f) : Concedes sys w place types f

/-- The small steps of a serial system: the world before, what happens to sent
events, and the world after. -/
inductive Transition (sys : System σ) (w : World σ) : List Traffic → World σ → Prop
  /-- A machine enters its start state. -/
  | start {place : Place} {rest : List (Frame σ)} {m : Machine σ} {w' : World σ}
      (hframes : w.frames = .ready place :: rest) (hm : w.machineAt? place = some m)
      (hcreated : m.lifecycle = .created)
      (hcarried : Carried
        ({ w with frames := rest }.setMachine place
          { m with lifecycle := .active, startPayload := none })
        (.machine place m.id)
        (((Actor.machine place m.id).engine m.cell).start m.cell.stack (.start m.startPayload)) w') :
      Transition sys w [] w'
  /-- A machine dispatches the next event. -/
  | dispatch {place : Place} {rest : List (Frame σ)} {m : Machine σ} {e : Event}
      {left : List Event} {w' : World σ}
      (hframes : w.frames = .ready place :: rest) (hm : w.machineAt? place = some m)
      (hactive : m.lifecycle = .active) (hfailed : w.hasFailed = false)
      (hselect : ((Actor.machine place m.id).engine m.cell).select m.cell.stack m.mailbox
        = .ok (some e, left))
      (hcarried : Carried
        ({ w with frames := rest }.setMachine place { m with mailbox := left })
        (.machine place m.id)
        (((Actor.machine place m.id).engine m.cell).handle m.cell.stack e) w') :
      Transition sys w (m.scan place) w'
  /-- A machine finds nothing to dispatch and rests. -/
  | rest {place : Place} {rest : List (Frame σ)} {m : Machine σ} {left : List Event}
      (hframes : w.frames = .ready place :: rest) (hm : w.machineAt? place = some m)
      (hactive : m.lifecycle = .active) (hfailed : w.hasFailed = false)
      (hselect : ((Actor.machine place m.id).engine m.cell).select m.cell.stack m.mailbox
        = .ok (none, left)) :
      Transition sys w (m.scan place)
        ({ w with frames := rest }.setMachine place
          { m with mailbox := left, active := false }).retire
  /-- A machine has no current state to look for an event with. -/
  | unselectable {place : Place} {rest : List (Frame σ)} {m : Machine σ} {f : Failure}
      (hframes : w.frames = .ready place :: rest) (hm : w.machineAt? place = some m)
      (hactive : m.lifecycle = .active) (hfailed : w.hasFailed = false)
      (hselect : ((Actor.machine place m.id).engine m.cell).select m.cell.stack m.mailbox
        = .error f) :
      Transition sys w []
        ({ w with frames := rest }.abort place m (f.inState m.cell.stack.top?)).retire
  /-- A machine has halted or the system has failed, so its run ends. -/
  | stop {place : Place} {rest : List (Frame σ)} {m : Machine σ}
      (hframes : w.frames = .ready place :: rest) (hm : w.machineAt? place = some m)
      (hwhy : m.lifecycle = .halted ∨ m.lifecycle = .active ∧ w.hasFailed = true) :
      Transition sys w []
        ({ w with frames := rest }.setMachine place { m with active := false }).retire
  /-- An action ends, and its dispatch goes on from the answer. -/
  | answer {actor : Actor} {p : Paused} {c : Context} {verdict : Verdict}
      {rest : List (Frame σ)} {cell : Cell σ} {w' : World σ}
      (hframes : w.frames = .acting actor p c (.running (.done verdict)) :: rest)
      (hcell : w.cell? actor = some cell)
      (hcarried : Carried { w with frames := rest } actor
        ((actor.engine cell).answer cell.stack p (c.answer verdict)) w') :
      Transition sys w [] w'
  /-- A panic ends every run in progress. -/
  | panic (hpropagate : sys.config.propagatePanics = true) :
      Transition sys w [] { w with frames := [] }
  /-- An action goes on by a step that leaves everything else as it is. -/
  | goOn {actor : Actor} {p : Paused} {c c' : Context} {program program' : Program σ Verdict}
      {rest : List (Frame σ)} (hframes : w.frames = .acting actor p c (.running program) :: rest) :
      Transition sys w [] { w with frames := .acting actor p c' (.running program') :: rest }
  /-- An action writes to the memory of its machine or monitor. -/
  | store {actor : Actor} {p : Paused} {c : Context} {memory : σ} {next : Program σ Verdict}
      {rest : List (Frame σ)} {cell : Cell σ}
      (hframes : w.frames = .acting actor p c (.running (.store memory next)) :: rest)
      (hcell : w.cell? actor = some cell) :
      Transition sys w []
        { w.setCell actor { cell with memory } with
          frames := .acting actor p c (.running next) :: rest }
  /-- An action makes a remark. -/
  | remark {actor : Actor} {p : Paused} {c : Context} {remark : Remark}
      {next : Unit → Program σ Verdict} {rest : List (Frame σ)}
      (hframes : w.frames
        = .acting actor p c (.running (.request (.remark remark) next)) :: rest) :
      Transition sys w []
        { w.write (.remarked actor.owner remark) with
          frames := .acting actor p c (.running (next ())) :: rest }
  /-- An action sends an event. -/
  | send {place : Place} {id : MachineId} {p : Paused} {c : Context} {target : MachineId}
      {e : Event} {next : Except Failure Unit → Program σ Verdict} {rest : List (Frame σ)}
      {sent : World σ}
      (hframes : w.frames
        = .acting (.machine place id) p c (.running (.request (.send target e) next)) :: rest)
      (hdeliver : w.deliver target e = .ok sent) :
      Transition sys w (w.arrival target e)
        { sent with frames := .acting (.machine place id) p c (.running (next (.ok ()))) :: rest }
  /-- An action creates a machine. -/
  | create {place : Place} {id : MachineId} {p : Paused} {c : Context} {type : String}
      {payload : Option Value} {next : Except Failure MachineId → Program σ Verdict}
      {rest : List (Frame σ)} {created : MachineId} {grown : World σ}
      (hframes : w.frames
        = .acting (.machine place id) p c (.running (.request (.create type payload) next)) :: rest)
      (hcreate : w.create sys.catalog type payload = .ok (created, grown)) :
      Transition sys w []
        { grown with
          frames := .acting (.machine place id) p c (.running (next (.ok created))) :: rest }
  /-- An action notifies a monitor, whose dispatch begins above it. -/
  | notify {place : Place} {id : MachineId} {p : Paused} {c : Context} {type : String} {e : Event}
      {next : Except Failure Unit → Program σ Verdict} {rest : List (Frame σ)} {m : Monitor σ}
      {w' : World σ}
      (hframes : w.frames
        = .acting (.machine place id) p c (.running (.request (.notify type e) next)) :: rest)
      (hm : w.registered? type = some m)
      (hcarried : Carried
        { w with frames := .acting (.machine place id) p c (.notifying next) :: rest }
        (.monitor type) (((Actor.monitor type).engine m.cell).handle m.cell.stack e) w')
      (hsendable : e.checkSendable = .ok ()) :
      Transition sys w [] w'
  /-- A receive takes an event that waits in the mailbox. -/
  | take {place : Place} {id : MachineId} {p : Paused} {c : Context} {types : List EventType}
      {next : Except Failure Event → Program σ Verdict} {rest : List (Frame σ)} {m : Machine σ}
      {e : Event} {left : List Event}
      (hframes : w.frames
        = .acting (.machine place id) p c (.running (.request (.receive types) next)) :: rest)
      (hm : w.machineAt? place = some m) (htake : removeFirst types m.mailbox = some (e, left)) :
      Transition sys w [.received place e]
        { w.setMachine place { m with mailbox := left } with
          frames := .acting (.machine place id) p c (.running (next (.ok e))) :: rest }
  /-- A receive finds nothing and blocks. -/
  | block {place : Place} {id : MachineId} {p : Paused} {c : Context} {types : List EventType}
      {next : Except Failure Event → Program σ Verdict} {rest : List (Frame σ)} {m : Machine σ}
      (hframes : w.frames
        = .acting (.machine place id) p c (.running (.request (.receive types) next)) :: rest)
      (hm : w.machineAt? place = some m) (htake : removeFirst types m.mailbox = none) :
      Transition sys w []
        { w.setMachine place { m with waiting := some types } with
          frames := .acting (.machine place id) p c (.receiving types next) :: rest }
  /-- A blocked receive has got its event. -/
  | resume {place : Place} {id : MachineId} {p : Paused} {c : Context} {types : List EventType}
      {next : Except Failure Event → Program σ Verdict} {rest : List (Frame σ)} {m : Machine σ}
      {e : Event}
      (hframes : w.frames = .acting (.machine place id) p c (.receiving types next) :: rest)
      (hm : w.machineAt? place = some m) (hreceived : m.received = some e) :
      Transition sys w [.received place e]
        { w.setMachine place { m with received := none } with
          frames := .acting (.machine place id) p c (.running (next (.ok e))) :: rest }
  /-- A blocked receive gives up. -/
  | giveUp {place : Place} {id : MachineId} {p : Paused} {c : Context} {types : List EventType}
      {next : Except Failure Event → Program σ Verdict} {rest : List (Frame σ)} {m : Machine σ}
      {given : World σ} {f : Failure}
      (hframes : w.frames = .acting (.machine place id) p c (.receiving types next) :: rest)
      (hm : w.machineAt? place = some m) (hreceived : m.received = none)
      (hgiven : GivesUp sys w types given f) :
      Transition sys w []
        { given.setMachine place { m with waiting := none } with
          frames := .acting (.machine place id) p (c.record f) (.running (next (.error f))) :: rest }
  /-- While a receive is blocked another run has a turn. -/
  | turn {place : Place} {id : MachineId} {p : Paused} {c : Context} {types : List EventType}
      {next : Except Failure Event → Program σ Verdict} {rest : List (Frame σ)} {m : Machine σ}
      {index : Nat}
      (hframes : w.frames = .acting (.machine place id) p c (.receiving types next) :: rest)
      (hm : w.machineAt? place = some m) (hreceived : m.received = none)
      (hfailed : w.hasFailed = false) (hbounded : (w.markBound sys.config).bounded = false)
      (hindex : index < w.pending.length) :
      Transition sys w [] ((w.markBound sys.config).beginTurn index)

@[simp] theorem goOn_leadsTo {w w' : World σ} {rest : List (Frame σ)} {actor : Actor} {p : Paused}
    {c : Context} {program : Program σ Verdict} :
    (w.goOn rest actor p c program).LeadsTo w'
      ↔ w' = { w with frames := .acting actor p c (.running program) :: rest } := by
  simp [goOn]

@[simp] theorem reply_leadsTo {α : Type} {w w' : World σ} {rest : List (Frame σ)} {actor : Actor}
    {p : Paused} {c : Context} {answer : Except Failure α}
    {next : Except Failure α → Program σ Verdict} :
    (w.reply rest actor p c answer next).LeadsTo w'
      ↔ w' = { w with
          frames := .acting actor p (c.note answer) (.running (next answer)) :: rest } := by
  simp [reply]

/-- A scheduling step begins the turn of one of the pending runs. -/
theorem schedulePending_leadsTo {w w' : World σ} (h : w.schedulePending.LeadsTo w') :
    ∃ index < w.pending.length, w' = w.beginTurn index := by
  unfold schedulePending at h
  split at h
  · simp at h
  · rename_i place hpending
    exact ⟨0, by simp [hpending], by simpa using h⟩
  · rename_i hne hne'
    -- Whatever the answer is, the index is cut down to the length of the queue.
    obtain ⟨n, rfl⟩ := Move.leadsTo_ask.mp h
    refine ⟨_, ?_, rfl⟩
    have hpos : 0 < w.pending.length := List.length_pos_iff.mpr hne
    omega

section Inversion

variable {sys : System σ} {w w' : World σ}

/-- The dispatch of a monitor that is notified by an action, or the refusal to
begin one. -/
theorem notify_leadsTo (hserial : sys.config.serial = true) {type : String} {e : Event}
    (h : (w.notify sys type e).LeadsTo w') :
    (∃ result, (w.giveBack result).LeadsTo w') ∨
      e.checkSendable = .ok () ∧ ∃ m, w.registered? type = some m ∧ Carried w (.monitor type)
        (((Actor.monitor type).engine m.cell).handle m.cell.stack e) w' := by
  unfold notify at h
  cases hsendable : e.checkSendable with
  | error violation =>
    simp only [hsendable] at h
    exact .inl ⟨_, h⟩
  | ok _ =>
    simp only [hsendable] at h
    cases hm : w.registered? type with
    | none =>
      simp only [hm] at h
      exact .inl ⟨_, h⟩
    | some m =>
      simp only [hm] at h
      exact .inr ⟨rfl, m, rfl, carry_leadsTo hserial h⟩

section Requests

variable {rest : List (Frame σ)} {actor : Actor} {p : Paused} {c : Context} {place : Place}
  {id : MachineId}

/-- A request that concerns nobody but its action is answered at once, and nothing else changes. -/
theorem serve_inward_leadsTo {r : Request} {next : r.Reply → Program σ Verdict}
    (hinward : r.isInward actor = true) (h : (w.serve sys rest actor p c r next).LeadsTo w') :
    ∃ c' answer, w' = { w with frames := .acting actor p c' (.running (next answer)) :: rest } := by
  cases r with
  | raise e =>
    simp only [serve] at h
    split at h
    · exact ⟨_, _, reply_leadsTo.mp h⟩
    · exact ⟨_, _, goOn_leadsTo.mp h⟩
  | goto | push | pop => exact ⟨_, _, goOn_leadsTo.mp h⟩
  | assert => exact ⟨_, _, reply_leadsTo.mp h⟩
  | choose q =>
    obtain ⟨answer, rfl⟩ := Move.leadsTo_ask.mp h
    exact ⟨c, answer, rfl⟩
  | id =>
    cases actor with
    | machine | monitor => exact ⟨_, _, reply_leadsTo.mp h⟩
  | send | create | notify | receive =>
    cases actor with
    | machine => contradiction
    | monitor => exact ⟨_, _, reply_leadsTo.mp h⟩
  | remark => contradiction

theorem traffic_of_inward {r : Request} {next : r.Reply → Program σ Verdict}
    (hframes : w.frames = .acting actor p c (.running (.request r next)) :: rest)
    (hinward : r.isInward actor = true) : w.traffic = [] := by
  cases actor with
  | monitor => simp only [traffic, hframes]
  | machine =>
    cases r with
    | send | receive => contradiction
    | _ => simp only [traffic, hframes]

theorem serve_send_leadsTo {target : MachineId} {e : Event}
    {next : Except Failure Unit → Program σ Verdict}
    (hframes : w.frames
      = .acting (.machine place id) p c (.running (.request (.send target e) next)) :: rest)
    (h : (w.serve sys rest (.machine place id) p c (.send target e) next).LeadsTo w') :
    Transition sys w w.traffic w' := by
  have ht : w.traffic = w.arrival target e := by simp only [traffic, hframes]
  simp only [serve] at h
  rw [ht]
  split at h
  · rename_i sent hdeliver
    exact reply_leadsTo.mp h ▸ .send hframes hdeliver
  · rename_i f hdeliver
    rw [arrival_of_deliver_error hdeliver]
    exact reply_leadsTo.mp h ▸ .goOn hframes

theorem serve_create_leadsTo {type : String} {payload : Option Value}
    {next : Except Failure MachineId → Program σ Verdict}
    (hframes : w.frames
      = .acting (.machine place id) p c (.running (.request (.create type payload) next)) :: rest)
    (h : (w.serve sys rest (.machine place id) p c (.create type payload) next).LeadsTo w') :
    Transition sys w w.traffic w' := by
  have ht : w.traffic = [] := by simp only [traffic, hframes]
  simp only [serve] at h
  rw [ht]
  split at h
  · rename_i created grown hcreate
    exact reply_leadsTo.mp h ▸ .create hframes hcreate
  · exact reply_leadsTo.mp h ▸ .goOn hframes

theorem serve_notify_leadsTo (hserial : sys.config.serial = true) {type : String} {e : Event}
    {next : Except Failure Unit → Program σ Verdict}
    (hframes : w.frames
      = .acting (.machine place id) p c (.running (.request (.notify type e) next)) :: rest)
    (h : (w.serve sys rest (.machine place id) p c (.notify type e) next).LeadsTo w') :
    Transition sys w w.traffic w' := by
  have ht : w.traffic = [] := by simp only [traffic, hframes]
  rw [ht]
  rcases notify_leadsTo hserial h with ⟨result, hback⟩ | ⟨hsendable, m, hm, hcarried⟩
  · exact Move.leadsTo_step.mp hback ▸ .goOn hframes
  · exact .notify hframes hm hcarried hsendable

theorem serve_receive_leadsTo {types : List EventType}
    {next : Except Failure Event → Program σ Verdict}
    (hframes : w.frames
      = .acting (.machine place id) p c (.running (.request (.receive types) next)) :: rest)
    (h : (w.serve sys rest (.machine place id) p c (.receive types) next).LeadsTo w') :
    Transition sys w w.traffic w' := by
  simp only [serve] at h
  split at h
  · exact absurd h Move.not_leadsTo_idle
  · rename_i m hm
    split at h
    · rename_i e left htake
      have ht : w.traffic = [.received place e] := by simp [traffic, hframes, hm, htake]
      rw [ht]
      exact reply_leadsTo.mp h ▸ .take hframes hm htake
    · rename_i htake
      have ht : w.traffic = [] := by simp [traffic, hframes, hm, htake]
      rw [ht]
      exact Move.leadsTo_step.mp h ▸ .block hframes hm htake

theorem serve_leadsTo (hserial : sys.config.serial = true) {r : Request}
    {next : r.Reply → Program σ Verdict}
    (hframes : w.frames = .acting actor p c (.running (.request r next)) :: rest)
    (h : (w.serve sys rest actor p c r next).LeadsTo w') : Transition sys w w.traffic w' := by
  by_cases hinward : r.isInward actor = true
  · obtain ⟨c', answer, rfl⟩ := serve_inward_leadsTo hinward h
    rw [traffic_of_inward hframes hinward]
    exact .goOn hframes
  · cases r with
    | remark remark =>
      have ht : w.traffic = [] := by simp only [traffic, hframes]
      rw [ht]
      exact goOn_leadsTo.mp h ▸ .remark hframes
    | send target e =>
      cases actor with
      | machine => exact serve_send_leadsTo hframes h
      | monitor => exact absurd rfl hinward
    | create type payload =>
      cases actor with
      | machine => exact serve_create_leadsTo hframes h
      | monitor => exact absurd rfl hinward
    | notify type e =>
      cases actor with
      | machine => exact serve_notify_leadsTo hserial hframes h
      | monitor => exact absurd rfl hinward
    | receive types =>
      cases actor with
      | machine => exact serve_receive_leadsTo hframes h
      | monitor => exact absurd rfl hinward
    | raise | goto | push | pop | id | choose | assert => exact absurd rfl hinward

end Requests

theorem execute_leadsTo (hserial : sys.config.serial = true) {rest : List (Frame σ)}
    {actor : Actor} {p : Paused} {c : Context} {cell : Cell σ} {program : Program σ Verdict}
    (hframes : w.frames = .acting actor p c (.running program) :: rest)
    (hcell : w.cell? actor = some cell)
    (h : (w.execute sys rest actor p c cell program).LeadsTo w') :
    Transition sys w w.traffic w' := by
  cases program with
  | done verdict =>
    have ht : w.traffic = [] := by simp [traffic, hframes]
    simp only [execute] at h
    rw [ht]
    split at h
    · rename_i hpropagate
      exact Move.leadsTo_panicked.mp h ▸ .panic hpropagate
    · exact .answer hframes hcell (carry_leadsTo hserial h)
  | load next =>
    have ht : w.traffic = [] := by simp [traffic, hframes]
    simp only [execute, goOn_leadsTo] at h
    rw [ht]
    exact h ▸ .goOn hframes
  | store memory next =>
    have ht : w.traffic = [] := by simp [traffic, hframes]
    simp only [execute, goOn_leadsTo] at h
    rw [ht]
    exact h ▸ .store hframes hcell
  | request r next => exact serve_leadsTo hserial hframes h

theorem beginDispatch_leadsTo (hserial : sys.config.serial = true) {place : Place}
    {rest : List (Frame σ)} {m : Machine σ} (hframes : w.frames = .ready place :: rest)
    (hm : w.machineAt? place = some m)
    (h : (beginDispatch sys { w with frames := rest } place m).LeadsTo w') :
    Transition sys w w.traffic w' := by
  unfold beginDispatch at h
  dsimp only at h
  split at h
  · rename_i hlife
    have ht : w.traffic = [] := by simp [traffic, hframes, hm, hlife]
    rw [ht]
    exact endRun_leadsTo.mp h ▸ .stop hframes hm (.inl hlife)
  · rename_i hlife
    have ht : w.traffic = [] := by simp [traffic, hframes, hm, hlife]
    rw [ht]
    exact .start hframes hm hlife (carry_leadsTo hserial h)
  · rename_i hlife
    split at h
    · rename_i hfailed
      have hfailed : w.hasFailed = true := hfailed
      have ht : w.traffic = [] := by simp [traffic, hframes, hm, hfailed]
      rw [ht]
      exact endRun_leadsTo.mp h ▸ .stop hframes hm (.inr ⟨hlife, hfailed⟩)
    · rename_i hfailed
      have hfailed : w.hasFailed = false := Bool.eq_false_iff.mpr hfailed
      have ht : w.traffic = m.scan place := by simp [traffic, hframes, hm, hlife, hfailed]
      rw [ht]
      split at h
      · rename_i f hselect
        rw [Machine.scan_of_select_error hselect]
        exact endRun_leadsTo.mp h ▸ .unselectable hframes hm hlife hfailed hselect
      · rename_i left hselect
        exact endRun_leadsTo.mp h ▸ .rest hframes hm hlife hfailed hselect
      · rename_i e left hselect
        exact .dispatch hframes hm hlife hfailed hselect (carry_leadsTo hserial h)

theorem await_leadsTo (hserial : sys.config.serial = true) {place : Place} {id : MachineId}
    {p : Paused} {c : Context} {types : List EventType}
    {next : Except Failure Event → Program σ Verdict} {rest : List (Frame σ)} {m : Machine σ}
    (hframes : w.frames = .acting (.machine place id) p c (.receiving types next) :: rest)
    (hm : w.machineAt? place = some m)
    (h : (w.await sys rest (.machine place id) p c types next place m).LeadsTo w') :
    Transition sys w w.traffic w' := by
  unfold await at h
  split at h
  · rename_i e hreceived
    have ht : w.traffic = [.received place e] := by simp [traffic, hframes, hm, hreceived]
    rw [ht]
    exact reply_leadsTo.mp h ▸ .resume hframes hm hreceived
  · rename_i hreceived
    have ht : w.traffic = [] := by simp [traffic, hframes, hm, hreceived]
    simp only [hserial, Bool.not_true, Bool.false_eq_true, if_false, giveUp] at h
    rw [ht]
    split at h
    · rename_i hfailed
      exact reply_leadsTo.mp h ▸ .giveUp hframes hm hreceived (.failed hfailed)
    · rename_i hfailed
      have hfailed : w.hasFailed = false := by simpa using hfailed
      split at h
      · rename_i hbounded
        exact reply_leadsTo.mp h ▸ .giveUp hframes hm hreceived (.bounded hfailed hbounded)
      · rename_i hbounded
        have hbounded : (w.markBound sys.config).bounded = false := by simpa using hbounded
        split at h
        · rename_i hpending
          have hpending : w.pending = [] := by simpa using hpending
          exact reply_leadsTo.mp h ▸
            .giveUp hframes hm hreceived (.deadlocked hfailed hbounded hpending)
        · obtain ⟨index, hindex, rfl⟩ := schedulePending_leadsTo h
          have hindex : index < w.pending.length := by simpa using hindex
          exact .turn hframes hm hreceived hfailed hbounded hindex

theorem next_eq_await {place : Place} {id : MachineId} {p : Paused} {c : Context}
    {types : List EventType} {next : Except Failure Event → Program σ Verdict}
    {rest : List (Frame σ)} {m : Machine σ}
    (hframes : w.frames = .acting (.machine place id) p c (.receiving types next) :: rest)
    (hm : w.machineAt? place = some m) :
    w.next sys = w.await sys rest (.machine place id) p c types next place m := by
  simp only [World.next, hframes, hm]

/-- A receive that has its event answers the action that asked for it with the event. -/
theorem next_of_received {place : Place} {id : MachineId} {p : Paused} {c : Context}
    {types : List EventType} {next : Except Failure Event → Program σ Verdict}
    {rest : List (Frame σ)} {m : Machine σ} {e : Event}
    (hframes : w.frames = .acting (.machine place id) p c (.receiving types next) :: rest)
    (hm : w.machineAt? place = some m) (hreceived : m.received = some e) :
    w.next sys = .step { w.setMachine place { m with received := none } with
      frames := .acting (.machine place id) p c (.running (next (.ok e))) :: rest } := by
  rw [next_eq_await hframes hm]
  unfold await
  rw [hreceived]
  rfl

/-- A receive that gives up answers the action that asked for it with the failure. -/
theorem Concedes.next_eq (hserial : sys.config.serial = true) {place : Place}
    {types : List EventType} {f : Failure} (h : Concedes sys w place types f) :
    ∃ id p c next rest given,
      w.frames = .acting (.machine place id) p c (.receiving types next) :: rest ∧
      GivesUp sys w types given f ∧
      ∃ m, w.machineAt? place = some m ∧ w.next sys = .step
        { given.setMachine place { m with waiting := none } with
          frames :=
            .acting (.machine place id) p (c.record f) (.running (next (.error f))) :: rest } := by
  obtain @⟨id, p, c, next, rest, m, given, hframes, hm, hreceived, hgiven⟩ := h
  refine ⟨id, p, c, next, rest, given, hframes, hgiven, m, hm, ?_⟩
  rw [next_eq_await hframes hm]
  unfold await
  split
  · rename_i e he
    rw [hreceived] at he
    contradiction
  · simp only [hserial, Bool.not_true, Bool.false_eq_true, if_false]
    cases hgiven with
    | failed hfailed => exact if_pos hfailed
    | bounded hfailed hbounded =>
      simp only [hfailed, hbounded, Bool.false_eq_true, if_false, if_true]
      rfl
    | deadlocked hfailed hbounded hpending =>
      simp only [hfailed, hbounded, markBound_pending, hpending, List.isEmpty_nil,
        Bool.false_eq_true, if_false, if_true]
      rfl

/-- Every small step of a serial system is one of the transitions. -/
theorem next_leadsTo (hserial : sys.config.serial = true) (h : (w.next sys).LeadsTo w') :
    Transition sys w w.traffic w' := by
  unfold next at h
  split at h
  · simp at h
  · rename_i place rest hframes
    cases hm : w.machineAt? place with
    | none => simp [hm] at h
    | some m =>
      simp only [hm] at h
      exact beginDispatch_leadsTo hserial hframes hm h
  · rename_i actor p c program rest hframes
    cases hcell : w.cell? actor with
    | none => simp [hcell] at h
    | some cell =>
      simp only [hcell] at h
      exact execute_leadsTo hserial hframes hcell h
  · rename_i place id p c types next rest hframes
    cases hm : w.machineAt? place with
    | none => simp [hm] at h
    | some m =>
      simp only [hm] at h
      exact await_leadsTo hserial hframes hm h
  · simp at h
  · simp at h

end Inversion

end World

end PushdownActors
