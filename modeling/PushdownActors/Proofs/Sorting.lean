-- SUMMARY: What a state handles is handled first, and what it has deferred after the machine has moved on, each in the order of sending.
import PushdownActors.Proofs.Course
import PushdownActors.Proofs.Cutoff
import PushdownActors.Proofs.Integrity
import PushdownActors.Proofs.Lifetime
import PushdownActors.Proofs.Quiet
import PushdownActors.Proofs.Selection

/-!
# Sorting by deferring

A state that defers events of some types keeps them in the mailbox, in the order in which
they came, while it handles the others in theirs. If it is left for a state that handles what
it has deferred, the machine has sorted its mail: first comes what the one state handles,
then what the other does, and what is ignored is gone.

With quiet actions the turns of the machine follow from its mailbox alone. As long as a state
stays, its turns go through the mailbox once from the front, and what it puts off gathers
before the place that they have come to.
-/

namespace PushdownActors

/-! ## What the states run -/

theorem Automaton.id_of_state? {a : Automaton} {id : StateId} {s : State}
    (h : a.state? id = some s) : s.id = id := by
  simpa using List.find?_some h

namespace State

/-- The action that handles events of the type, if it is an action that does. -/
def handler? (s : State) (t : EventType) : Option String :=
  match s.reaction? t with
  | some (.act name) => some name
  | _ => none

/-- What the state runs for events that it is given one after the other. -/
def handlings (s : State) (events : List Event) : List Invocation :=
  events.flatMap fun e => s.invocations .handler (s.handler? e.type) e

/-- What the state leaves in the mailbox. -/
def deferred (s : State) (events : List Event) : List Event :=
  events.filter fun e => s.defers e.type

section Handlings

variable {s : State} {t : EventType} {e : Event} {events more : List Event} {name : String}

theorem mem_deferred : e ∈ s.deferred events ↔ e ∈ events ∧ s.defers e.type = true :=
  List.mem_filter

@[simp] theorem deferred_append :
    s.deferred (events ++ more) = s.deferred events ++ s.deferred more :=
  List.filter_append ..

@[simp] theorem deferred_deferred : s.deferred (s.deferred events) = s.deferred events := by
  simp [deferred]

theorem handler?_eq_some : s.handler? t = some name ↔ s.reaction? t = some (.act name) := by
  unfold handler?
  split
  · rename_i hr
    simp [hr]
  · rename_i hother
    simpa using hother name

theorem handlings_cons :
    s.handlings (e :: events)
      = s.invocations .handler (s.handler? e.type) e ++ s.handlings events := rfl

/-- What is handled is not passed over. -/
theorem not_passesOver (h : s.handler? t = some name) : s.passesOver t = false := by
  simp [passesOver, ignores, defers, handler?_eq_some.mp h]

/-- What is handled is not left. -/
theorem deferred_of_handler? (h : s.handler? e.type = some name) :
    s.deferred (e :: events) = s.deferred events := by
  simp [deferred, defers, handler?_eq_some.mp h]

/-- An event that is handled is run for. -/
theorem handlings_of_handler? (h : s.handler? e.type = some name) :
    s.handlings (e :: events) = ⟨name, .handler, s.id, e⟩ :: s.handlings events := by
  simp [handlings_cons, h, invocations]

/-- Nothing is run for an event that is passed over. -/
theorem handlings_of_passesOver (h : s.passesOver e.type = true) :
    s.handlings (e :: events) = s.handlings events := by
  have hnone : s.handler? e.type = none := by
    cases hhandler : s.handler? e.type with
    | none => rfl
    | some name =>
      rw [not_passesOver hhandler] at h
      contradiction
  simp [handlings_cons, hnone, invocations]

end Handlings

end State

/-! ## The states of the mailbox -/

namespace World

/-- Between turns, with its run the only one that is pending, the machine has yet to start. -/
structure Opening (ids : List MachineId) (place : Place) (id : MachineId) (b : Blueprint σ)
    (payload : Option Value) (mailbox : List Event) (w : World σ) : Prop where
  between : Between ids w
  pending : w.pending = [place]
  machine : ∃ m, w.machineAt? place = some m ∧ m.id = id ∧ m.cell.blueprint = b ∧
    m.cell.stack = .empty ∧ m.mailbox = mailbox ∧ m.lifecycle = .created ∧
    m.startPayload = payload

/-- Between turns, with its run the only one that is pending, the machine is in the state. -/
structure Poised (ids : List MachineId) (place : Place) (id : MachineId) (b : Blueprint σ)
    (s : State) (mailbox : List Event) (w : World σ) : Prop where
  between : Between ids w
  pending : w.pending = [place]
  machine : ∃ m, w.machineAt? place = some m ∧ m.id = id ∧ m.cell.blueprint = b ∧
    m.cell.stack = ⟨[s.id]⟩ ∧ m.mailbox = mailbox ∧ m.lifecycle = .active ∧
    m.state = some s.id

/-- Nothing is pending, and the machine has come to rest in the state. -/
structure Rested (ids : List MachineId) (place : Place) (s : State) (mailbox : List Event)
    (w : World σ) : Prop where
  between : Between ids w
  pending : w.pending = []
  machine : ∃ m, w.machineAt? place = some m ∧ m.mailbox = mailbox ∧
    m.cell.stack = ⟨[s.id]⟩ ∧ m.state = some s.id

section Turns

variable [ChoiceSource τ] {sys : System σ} {b : Blueprint σ} {w : World σ} {place : Place}
  {ids : List MachineId} {id : MachineId} {s s' : State} {mailbox left : List Event}

/-- After a turn the machine is in the state that its dispatch has come to. -/
theorem exists_turn (source : τ) (hserial : sys.config.serial = true) (hbetween : Between ids w)
    (hpending : w.pending = [place]) {m m₁ : Machine σ} (hm : w.machineAt? place = some m)
    (hroom : sys.Allows (w.steps + 1)) {progress : Progress} {log : List Invocation}
    (hbegins : ∀ v : World σ, v.failure = none → v.beginDispatch sys place m
      = (v.setMachine place m₁).carry sys (.machine place m₁.id) progress)
    (hid : m₁.id = m.id) (hb : m₁.cell.blueprint = b) (hlifecycle : m₁.lifecycle = .active)
    (h : Engine.Reaches ⟨b.automaton, .stack⟩ Engine.obliging () progress log ()
      (.finish ⟨[s'.id]⟩ .running))
    (hquiet : ∀ x ∈ log, b.Quiet x) :
    ∃ t : Session σ τ, Session.Advances sys m.id 1 log ⟨w, source⟩ t ∧
      t.world.Poised ids place m.id b s' m₁.mailbox := by
  have hplace : w.pending[0]? = some place := by simp [hpending]
  obtain ⟨memory, entries, source', hentries, hleads⟩ :=
    leads_of_turn source hserial hbetween hpending hm hroom hbegins hb h hquiet
  let m₂ : Machine σ := { m₁ with cell := ⟨b, memory, ⟨[s'.id]⟩⟩, state := some s'.id }
  have hid₂ : m₂.id = m.id := hid
  refine ⟨⟨w.turned 0 place m₂ entries true, source'⟩, ⟨hleads, ?_, ?_⟩, ?_, ?_, m₂, ?_⟩
  · exact steps_turned hplace hbetween.idle
  · have hjournal : (w.turned 0 place m₂ entries true).journal = entries ++ w.journal :=
      journal_turned hplace hbetween.idle
    rw [calls_of_journal hjournal, hentries, hid]
  · have hturned : Between ids (w.turned 0 place m₂ entries true) :=
      hbetween.turned hplace hm hid₂
    exact hturned
  · rw [turned_eq hplace hbetween.idle, hpending]
    rfl
  · exact ⟨machineAt?_turned_self hplace hbetween.idle hm, hid, rfl, rfl, rfl, hlifecycle, rfl⟩

/-- The first turn of a machine enters its start state. -/
theorem Opening.starts (source : τ) (hserial : sys.config.serial = true)
    {payload : Option Value} (h : w.Opening ids place id b payload mailbox)
    (hs : b.automaton.state? b.automaton.start = some s)
    (hquiet : ∀ x ∈ s.invocations .entry s.entry (.start payload), b.Quiet x)
    (hroom : sys.Allows (w.steps + 1)) :
    ∃ t : Session σ τ,
      Session.Advances sys id 1 (s.invocations .entry s.entry (.start payload)) ⟨w, source⟩ t ∧
      t.world.Poised ids place id b s mailbox := by
  obtain ⟨m, hm, rfl, hb, hempty, rfl, hcreated, rfl⟩ := h.machine
  let m₁ : Machine σ := { m with lifecycle := .active, startPayload := none }
  have hstart : s.id = b.automaton.start := Automaton.id_of_state? hs
  have hs' : b.automaton.state? s.id = some s := hstart ▸ hs
  have hbegins (v : World σ) (_ : v.failure = none) : v.beginDispatch sys place m
      = (v.setMachine place m₁).carry sys (.machine place m₁.id)
          (Engine.enter ⟨b.automaton, .stack⟩ ⟨[s.id]⟩ (.start m.startPayload)) := by
    simp only [beginDispatch, hcreated, hempty, Actor.engine, Actor.discipline, hb, hstart]
    rfl
  have hid : m₁.id = m.id := rfl
  have hturn := exists_turn source hserial h.between h.pending hm hroom hbegins hid hb rfl
    (Engine.reaches_enter hs') hquiet
  exact hturn

namespace Poised

/-- A turn in which the machine handles what it has selected. -/
theorem turn (source : τ) (hserial : sys.config.serial = true)
    (h : w.Poised ids place id b s mailbox) (hs : b.automaton.state? s.id = some s) {e : Event}
    (hselect : s.select mailbox = (some e, left)) {log : List Invocation}
    (hreaches : Engine.Reaches ⟨b.automaton, .stack⟩ Engine.obliging ()
      (Engine.handle ⟨b.automaton, .stack⟩ ⟨[s.id]⟩ e) log () (.finish ⟨[s'.id]⟩ .running))
    (hquiet : ∀ x ∈ log, b.Quiet x) (hroom : sys.Allows (w.steps + 1)) :
    ∃ t : Session σ τ, Session.Advances sys id 1 log ⟨w, source⟩ t ∧
      t.world.Poised ids place id b s' left := by
  obtain ⟨m, hm, rfl, rfl, hstack, hmailbox, hlifecycle, _⟩ := h.machine
  have hbegins (v : World σ) (hcalm : v.failure = none) : v.beginDispatch sys place m
      = (v.setMachine place { m with mailbox := left }).carry sys (.machine place m.id)
          (Engine.handle ⟨m.cell.blueprint.automaton, .stack⟩ ⟨[s.id]⟩ e) := by
    simp [beginDispatch, hlifecycle, hasFailed, hcalm, Engine.select, hstack, hmailbox,
      Actor.engine, Actor.discipline, Stack.top?, hs, hselect]
  exact exists_turn source hserial h.between h.pending hm hroom hbegins rfl rfl hlifecycle
    hreaches hquiet

/-- The first event that the state handles has its turn. What was passed over on the way to it
is left, as far as it is deferred. -/
theorem handle (source : τ) (hserial : sys.config.serial = true)
    (hclosed : b.automaton.Closed) (hs : b.automaton.state? s.id = some s)
    {before after : List Event} {e : Event}
    (h : w.Poised ids place id b s (before ++ e :: after))
    (hbefore : ∀ e ∈ before, s.passesOver e.type = true) {name : String}
    (hname : s.handler? e.type = some name) (hquiet : b.Quiet ⟨name, .handler, s.id, e⟩)
    (hroom : sys.Allows (w.steps + 1)) :
    ∃ t : Session σ τ, Session.Advances sys id 1 [⟨name, .handler, s.id, e⟩] ⟨w, source⟩ t ∧
      t.world.Poised ids place id b s (s.deferred before ++ after) := by
  have hselect := @State.select_append s before e after hbefore (State.not_passesOver hname)
  refine h.turn source hserial hs hselect ?_ (List.forall_mem_singleton.mpr hquiet) hroom
  rw [Engine.handle_of_reaction hclosed hs (State.handler?_eq_some.mp hname) (by simp)]
  exact .answer .refl

/-- The state goes through these events and stays. It runs for those that it handles, and what
it has passed over is before whatever comes behind them. -/
theorem handles (source : τ) (hserial : sys.config.serial = true)
    (hclosed : b.automaton.Closed) (hs : b.automaton.state? s.id = some s)
    {before events behind : List Event}
    (h : w.Poised ids place id b s (before ++ events ++ behind))
    (hbefore : ∀ e ∈ before, s.passesOver e.type = true)
    (hevents : ∀ e ∈ events, s.passesOver e.type = true ∨ ∃ name, s.handler? e.type = some name)
    (hquiet : ∀ x ∈ s.handlings events, b.Quiet x)
    (hroom : sys.Allows (w.steps + (s.handlings events).length)) :
    ∃ (passed : List Event) (t : Session σ τ),
      Session.Advances sys id (s.handlings events).length (s.handlings events) ⟨w, source⟩ t ∧
      t.world.Poised ids place id b s (passed ++ behind) ∧
      (∀ e ∈ passed, s.passesOver e.type = true) ∧
      s.deferred passed = s.deferred (before ++ events) := by
  induction events generalizing before w source with
  | nil => exact ⟨before, ⟨w, source⟩, .refl _, by simpa using h, hbefore, by simp⟩
  | cons e events ih =>
    obtain ⟨he, hlater⟩ := List.forall_mem_cons.mp hevents
    rcases he with hpassed | ⟨name, hname⟩
    · -- Nothing happens: the event is passed with those before it.
      rw [State.handlings_of_passesOver hpassed] at hquiet hroom ⊢
      have hmore : ∀ e' ∈ before ++ [e], s.passesOver e'.type = true :=
        List.forall_mem_append.mpr ⟨hbefore, List.forall_mem_singleton.mpr hpassed⟩
      rw [List.append_cons] at h ⊢
      exact ih source h hmore hlater hquiet hroom
    · rw [State.handlings_of_handler? hname] at hquiet hroom ⊢
      obtain ⟨hx, hquiet⟩ := List.forall_mem_cons.mp hquiet
      rw [List.append_assoc, List.cons_append] at h
      obtain ⟨⟨w₁, source₁⟩, hturn, hw₁⟩ :=
        h.handle source hserial hclosed hs hbefore hname hx (hroom.mono (by simp))
      rw [← List.append_assoc] at hw₁
      have hleft : ∀ e' ∈ s.deferred before, s.passesOver e'.type = true :=
        fun e' he' => hbefore e' (State.mem_deferred.mp he').1
      have hsteps : w₁.steps = w.steps + 1 := hturn.steps
      obtain ⟨passed, t, hrest, ht, hpassed, hdeferred⟩ :=
        ih source₁ hw₁ hleft hlater hquiet (hroom.mono (by simp [hsteps]; omega))
      refine ⟨passed, t, ?_, ht, hpassed, ?_⟩
      · have hboth := hturn.trans hrest
        simpa [Nat.add_comm] using hboth
      · simp [hdeferred, State.deferred_of_handler? hname]

/-- The state is left for another, whose mail is what was put off. -/
theorem goes (source : τ) (hserial : sys.config.serial = true) (hclosed : b.automaton.Closed)
    (hs : b.automaton.state? s.id = some s) (hs' : b.automaton.state? s'.id = some s')
    {passed : List Event} {flush : Event} (h : w.Poised ids place id b s (passed ++ [flush]))
    (hpassed : ∀ e ∈ passed, s.passesOver e.type = true) {action : Option String}
    (hflush : s.reaction? flush.type = some (.goto s'.id action))
    (hquiet : ∀ x ∈ s.invocations .exit s.exit flush ++ s.invocations .override action flush
      ++ s'.invocations .entry s'.entry flush, b.Quiet x)
    (hroom : sys.Allows (w.steps + 1)) :
    ∃ t : Session σ τ,
      Session.Advances sys id 1 (s.invocations .exit s.exit flush
        ++ s.invocations .override action flush ++ s'.invocations .entry s'.entry flush)
        ⟨w, source⟩ t ∧
      t.world.Poised ids place id b s' (s.deferred passed) := by
  have hwanted : s.passesOver flush.type = false := by
    simp [State.passesOver, State.ignores, State.defers, hflush]
  have hselect : s.select (passed ++ [flush]) = (some flush, s.deferred passed) := by
    rw [State.select_append hpassed hwanted, List.append_nil, State.deferred]
  refine h.turn source hserial hs hselect ?_ hquiet hroom
  rw [Engine.handle_of_reaction hclosed hs hflush (by simp)]
  exact Engine.reaches_goto hs hs'

/-- With nothing left that it wants, the machine comes to rest. -/
theorem rests (source : τ) (h : w.Poised ids place id b s mailbox)
    (hs : b.automaton.state? s.id = some s)
    (hpassed : ∀ e ∈ mailbox, s.passesOver e.type = true) (hdefault : s.handlesDefault = false)
    (hroom : sys.Allows (w.steps + 1)) :
    ∃ t : Session σ τ, Session.Advances sys id 1 [] ⟨w, source⟩ t ∧
      t.world.Rested ids place s (s.deferred mailbox) := by
  obtain ⟨m, hm, rfl, rfl, hstack, rfl, hlifecycle, hstate⟩ := h.machine
  have hplace : w.pending[0]? = some place := by simp [h.pending]
  let m' : Machine σ := { m with mailbox := s.deferred m.mailbox, active := false }
  have hid : m'.id = m.id := rfl
  have hselect : s.select m.mailbox = (none, s.deferred m.mailbox) := by
    have hnone : s.handles .default = false := hdefault
    rw [State.select_of_passed hpassed, hnone, ← State.filter_defers hpassed]
    rfl
  have hlast : (w.beginTurn 0).next sys = .returned (w.turned 0 place m' [] false) (.ok ()) := by
    have hcalm : w.failure = none := h.between.calm.1
    rw [next_beginTurn h.between h.pending hm, turned_eq hplace h.between.idle, h.pending]
    simp [beginDispatch, hlifecycle, hasFailed, hcalm, Engine.select, hstack, Actor.engine,
      Actor.discipline, Stack.top?, hs, hselect, retire, endRun, begun, setMachine, m',
      h.between.idle]
  refine ⟨⟨w.turned 0 place m' [] false, source⟩, ⟨?_, ?_, ?_⟩, ?_, ?_, m',
    machineAt?_turned_self hplace h.between.idle hm, rfl, hstack, hstate⟩
  · exact leads_of_returned h.between h.pending hroom (.refl _) hlast
  · exact steps_turned hplace h.between.idle
  · exact calls_of_journal (journal_turned hplace h.between.idle)
  · have hturned : Between ids (w.turned 0 place m' [] false) := h.between.turned hplace hm hid
    exact hturned
  · rw [turned_eq hplace h.between.idle, h.pending]
    rfl

/-- A state that handles all that is in the mailbox empties it, and the machine rests. -/
theorem empties (source : τ) (hserial : sys.config.serial = true)
    (hclosed : b.automaton.Closed) (hs : b.automaton.state? s.id = some s)
    (h : w.Poised ids place id b s mailbox)
    (hmailbox : ∀ e ∈ mailbox, ∃ name, s.handler? e.type = some name)
    (hdefault : s.handlesDefault = false) (hquiet : ∀ x ∈ s.handlings mailbox, b.Quiet x)
    (hroom : sys.Allows (w.steps + ((s.handlings mailbox).length + 1))) :
    ∃ t : Session σ τ,
      Session.Advances sys id ((s.handlings mailbox).length + 1) (s.handlings mailbox)
        ⟨w, source⟩ t ∧
      t.world.Rested ids place s [] := by
  have hall : w.Poised ids place id b s ([] ++ mailbox ++ []) := by simpa using h
  obtain ⟨passed, ⟨w₁, source₁⟩, hhandles, hw₁, hpassed, hleft⟩ :=
    hall.handles source hserial hclosed hs (by simp) (fun e he => .inr (hmailbox e he)) hquiet
      (hroom.mono (by omega))
  rw [List.append_nil] at hw₁
  have hsteps : w₁.steps = w.steps + (s.handlings mailbox).length := hhandles.steps
  have hroom₁ : sys.Allows (w₁.steps + 1) := hroom.mono (by omega)
  obtain ⟨t, hrests, ht⟩ := hw₁.rests source₁ hs hpassed hdefault hroom₁
  have hnothing : s.deferred passed = [] := by
    rw [hleft, List.nil_append]
    refine List.filter_eq_nil_iff.mpr fun e he => ?_
    obtain ⟨name, hname⟩ := hmailbox e he
    simp [State.defers, State.handler?_eq_some.mp hname]
  rw [hnothing] at ht
  have hboth := hhandles.trans hrests
  rw [List.append_nil] at hboth
  exact ⟨t, hboth, ht⟩

end Poised

/-- A run comes to its end where turns have led to rest. -/
theorem Rested.run (hserial : sys.config.serial = true) {turns : Nat} {log : List Invocation}
    {start t : Session σ τ} (h : t.world.Rested ids place s mailbox)
    (hadvances : Session.Advances sys id turns log start t) :
    ∃ least, ∀ budget ≥ least, start.run sys budget
      = (.ok (.ok turns), { t with world := t.world.markBound sys.config }) := by
  obtain ⟨n, hcut⟩ := hadvances.leads
  have hend : t.world.nextUntilQuiescent sys
      = .returned (t.world.markBound sys.config) (.ok ()) := by
    simp [nextUntilQuiescent, h.between.idle, hasFailed, h.between.calm.1, h.pending]
  refine ⟨n + 1, fun budget hbudget => ?_⟩
  obtain ⟨more, rfl⟩ := Nat.exists_eq_add_of_le hbudget
  have hdrive : Session.drive (World.nextUntilQuiescent sys) (n + 1 + more) start
      = (.returned (.ok ()), { t with world := t.world.markBound sys.config }) := by
    rw [Nat.add_assoc, Session.drive_add n (1 + more) hcut, Nat.add_comm 1]
    simp only [Session.drive, hend]
  have hcalm : (t.world.markBound sys.config).failure = none := by
    rw [markBound_failure, h.between.calm.1]
  rw [Session.run_eq _ hserial, hdrive]
  simp only [Session.settled, Session.outcome_of_calm hcalm, markBound_steps, hadvances.steps,
    Nat.add_sub_cancel_left]

end Turns

end World

/-! ## Sending in order -/

namespace Session

/-- Sends the events one after the other, until one of them is refused. -/
def sendAll (s : Session σ τ) (target : MachineId) :
    List Event → Except RuntimeError Unit × Session σ τ
  | [] => (.ok (), s)
  | e :: events =>
    match s.send target e with
    | (.ok (), s) => s.sendAll target events
    | (.error f, s) => (.error f, s)

/-- A machine whose run has not begun takes in what it is sent. -/
theorem sendAll_eq {s : Session σ τ} {place : Place} {m : Machine σ} {events : List Event}
    (hm : s.world.machineAt? place = some m)
    (hlocated : (s.world.locate? m.id).map Prod.snd = some place) (hactive : m.active = true)
    (hcreated : m.lifecycle = .created) (hwaiting : m.waiting = none)
    (hsendable : ∀ e ∈ events, e.isSendable = true) :
    s.sendAll m.id events = (.ok (), { s with
      world := s.world.setMachine place { m with mailbox := m.mailbox ++ events } }) := by
  induction events generalizing s m with
  | nil => simp [sendAll, World.setMachine_self hm]
  | cons e events ih =>
    obtain ⟨he, hsendable⟩ := List.forall_mem_cons.mp hsendable
    let m₁ : Machine σ := { m with mailbox := m.mailbox ++ [e] }
    let s₁ : Session σ τ := { s with world := s.world.setMachine place m₁ }
    have henqueue : m.enqueue e = (m₁, false) := by
      simp [Machine.enqueue, hcreated, hwaiting, hactive, m₁]
    have hsend : s.send m.id e = (.ok (), s₁) := by
      simp [send, World.deliver, Event.checkSendable_of_isSendable he,
        World.locate?_of_snd hlocated hm, henqueue, s₁]
    have hm₁ : s₁.world.machineAt? place = some m₁ := World.machineAt?_setMachine_self hm
    have hid₁ : m₁.id = m.id := rfl
    have hlocated₁ : (s₁.world.locate? m₁.id).map Prod.snd = some place :=
      (World.locate?_setMachine hm hid₁ m.id).trans hlocated
    have hrest := ih hm₁ hlocated₁ hactive hcreated hwaiting hsendable
    simp only [sendAll, hsend]
    simpa [s₁, m₁] using hrest

/-- A machine that is created where nothing is pending has the first turn. Until then it takes
in what it is sent. -/
theorem exists_sent {sys : System σ} {s : Session σ τ} {type : String} (payload : Option Value)
    {b : Blueprint σ} {registry : Registry σ} {events : List Event} (hidle : s.world.frames = [])
    (hcalm : s.world.Calm) (halone : s.world.pending = [])
    (hfetch : s.world.registry.fetch sys.catalog .machine type = .ok (b, registry))
    (hsendable : ∀ e ∈ events, e.isSendable = true) :
    ∃ (id : MachineId) (made sent : Session σ τ) (ids : List MachineId) (place : Place),
      s.create sys type payload = (.ok id, made) ∧ made.sendAll id events = (.ok (), sent) ∧
      sent.world.Opening ids place id b payload events ∧
      (sent.world.locate? id).map Prod.snd = some place ∧
      sent.world.steps = s.world.steps ∧ sent.world.calls = s.world.calls := by
  let place := s.world.machines.length
  let m : Machine σ := s.world.newMachine sys.catalog type payload b
  let made : Session σ τ := { s with
    world := { s.world with
      registry
      lastId := s.world.lastId + 1
      machines := s.world.machines ++ [m]
      active := s.world.active + 1
      pending := [place] } }
  have hcreate : s.create sys type payload = (.ok m.id, made) := by
    simp [create, World.create, hfetch, World.schedule, halone, made, m, place, World.newMachine]
  have hm : made.world.machineAt? place = some m := by
    simp [World.machineAt?, made, place]
  have hlocated : (made.world.locate? m.id).map Prod.snd = some place := by
    simp [World.locate?, made, place, List.zipIdx_append]
  let m' : Machine σ := { m with mailbox := events }
  have hsent : made.sendAll m.id events
      = (.ok (), { made with world := made.world.setMachine place m' }) :=
    sendAll_eq hm hlocated rfl rfl rfl hsendable
  have hid : m'.id = m.id := rfl
  refine ⟨m.id, made, _, made.world.machines.map Machine.id, place, hcreate, hsent,
    ⟨?_, rfl, m', World.machineAt?_setMachine_self hm, rfl, rfl, rfl, rfl, rfl, rfl⟩, ?_, rfl, rfl⟩
  · exact ⟨World.map_id_setMachine hm hid, hidle, hcalm⟩
  · exact (World.locate?_setMachine hm hid m.id).trans hlocated

end Session

/-! ## Machines that sort -/

/-- A machine that starts in `first` and goes to `last` with the events of one type. What
`first` defers, `last` handles by actions. -/
structure Blueprint.Sorts (b : Blueprint σ) (first last : State) (flush : EventType)
    (action : Option String) : Prop where
  start : b.automaton.state? b.automaton.start = some first
  goes : first.reaction? flush = some (.goto last.id action)
  target : b.automaton.state? last.id = some last
  catches : ∀ t, first.defers t = true → ∃ name, last.handler? t = some name
  default : last.handlesDefault = false

/-- What such a machine runs: for what `first` handles, for the change of the state, and for
what `first` defers, after it has started. -/
def State.sorted (first last : State) (action : Option String) (payload : Option Value)
    (events : List Event) (flush : Event) : List Invocation :=
  first.invocations .entry first.entry (.start payload) ++ first.handlings events
    ++ (first.invocations .exit first.exit flush ++ first.invocations .override action flush
      ++ last.invocations .entry last.entry flush)
    ++ last.handlings (first.deferred events)

/-- The turns that it takes for that: the first, one for each event that is handled, the one
of the change, and the last, which finds nothing. -/
def State.turns (first last : State) (events : List Event) : Nat :=
  1 + (first.handlings events).length + 1 + ((last.handlings (first.deferred events)).length + 1)

section Sorted

variable {first last : State} {action : Option String} {payload : Option Value}
  {events : List Event} {flush : Event}

/-- What `first` mentions may be sent. -/
theorem Blueprint.Sorts.isSendable {b : Blueprint σ} (h : b.Sorts first last flush.type action)
    (hclosed : b.automaton.Closed) {e : Event} {r : Reaction}
    (hr : first.reaction? e.type = some r) : e.isSendable = true :=
  hclosed.usable_of_reaction? h.start hr

theorem Blueprint.Sorts.isSendable_of_mem {b : Blueprint σ}
    (h : b.Sorts first last flush.type action) (hclosed : b.automaton.Closed) {e : Event}
    (he : first.ignores e.type = true ∨ first.defers e.type = true ∨
      ∃ name, first.handler? e.type = some name) : e.isSendable = true := by
  rcases he with hignores | hdefers | ⟨name, hname⟩
  · exact h.isSendable hclosed (beq_iff_eq.mp hignores)
  · exact h.isSendable hclosed (beq_iff_eq.mp hdefers)
  · exact h.isSendable hclosed (State.handler?_eq_some.mp hname)

theorem State.event_of_mem_invocations {s : State} {site : Site} {e : Event} {x : Invocation}
    (h : x ∈ s.invocations site action e) : x.event = e := by
  obtain ⟨name, _, rfl⟩ := Option.map_eq_some_iff.mp (Option.mem_toList.mp h)
  rfl

theorem State.of_mem_handlings {s : State} {x : Invocation} (h : x ∈ s.handlings events) :
    x.event ∈ events ∧ ∃ name, s.handler? x.event.type = some name := by
  obtain ⟨e, he, hx⟩ := List.mem_flatMap.mp h
  obtain ⟨name, hname, rfl⟩ := Option.map_eq_some_iff.mp (Option.mem_toList.mp hx)
  exact ⟨he, name, hname⟩

/-- Nothing is run for an event that `first` ignores. -/
theorem Blueprint.Sorts.not_ignores {b : Blueprint σ} (h : b.Sorts first last flush.type action)
    (hclosed : b.automaton.Closed) {x : Invocation}
    (hx : x ∈ first.sorted last action payload events flush) :
    first.ignores x.event.type = false := by
  have hflush : first.ignores flush.type = false := by simp [State.ignores, h.goes]
  simp only [State.sorted, List.mem_append] at hx
  rcases hx with ((hentry | hhandled) | (hexit | hover) | harrive) | hdeferred
  · rw [State.event_of_mem_invocations hentry]
    cases hr : first.reaction? EventType.start with
    | none => simp [State.ignores, Event.start, Event.type, hr]
    | some r =>
      have husable : EventType.start.isUsable = true := hclosed.usable_of_reaction? h.start hr
      contradiction
  · obtain ⟨_, name, hname⟩ := State.of_mem_handlings hhandled
    simp [State.ignores, State.handler?_eq_some.mp hname]
  · rwa [State.event_of_mem_invocations hexit]
  · rwa [State.event_of_mem_invocations hover]
  · rwa [State.event_of_mem_invocations harrive]
  · obtain ⟨hmem, _⟩ := State.of_mem_handlings hdeferred
    have hdefers := (List.mem_filter.mp hmem).2
    cases hignores : first.ignores x.event.type with
    | false => rfl
    | true => simp [State.not_defers_of_ignores hignores] at hdefers

end Sorted

/-- Where the bound still has room it has not been reached. -/
theorem World.AtRest.bounded_of_allows {sys : System σ} {w : World σ}
    (hserial : sys.config.serial = true) (h : AtRest sys w) (hroom : sys.Allows (w.steps + 1)) :
    w.bounded = false := by
  obtain ⟨⟨log, hrun⟩, _⟩ := h
  cases hmarked : w.bounded with
  | false => rfl
  | true =>
    obtain ⟨bound, hbound, hreached⟩ := hrun.honest hserial hmarked
    have hle : bound ≤ w.steps := hreached
    have hlt : w.steps < bound := hroom bound hbound
    omega

/-- A machine that sorts does so from its first turn on, until it has come to rest. -/
theorem World.Opening.sorts [ChoiceSource τ] (source : τ) {sys : System σ}
    (hserial : sys.config.serial = true) {b : Blueprint σ} (hclosed : b.automaton.Closed)
    {first last : State} {flush : Event} {action : Option String}
    (hsorts : b.Sorts first last flush.type action) {w : World σ} {ids : List MachineId}
    {place : Place} {id : MachineId} {payload : Option Value} {events : List Event}
    (h : w.Opening ids place id b payload (events ++ [flush]))
    (hevents : ∀ e ∈ events, first.passesOver e.type = true ∨
      ∃ name, first.handler? e.type = some name)
    (hquiet : ∀ x ∈ first.sorted last action payload events flush, b.Quiet x)
    (hroom : sys.Allows (w.steps + first.turns last events)) :
    ∃ t : Session σ τ,
      Session.Advances sys id (first.turns last events)
        (first.sorted last action payload events flush) ⟨w, source⟩ t ∧
      t.world.Rested ids place last [] := by
  have hfirst : b.automaton.state? first.id = some first :=
    Automaton.id_of_state? hsorts.start ▸ hsorts.start
  obtain ⟨hbefore, hlater⟩ := List.forall_mem_append.mp hquiet
  obtain ⟨hstaying, hchange⟩ := List.forall_mem_append.mp hbefore
  obtain ⟨hentry, hhandled⟩ := List.forall_mem_append.mp hstaying
  unfold State.turns at hroom
  obtain ⟨⟨w₁, source₁⟩, hstarts, hw₁⟩ :=
    h.starts source hserial hsorts.start hentry (hroom.mono (by omega))
  have hsteps₁ : w₁.steps = w.steps + 1 := hstarts.steps
  have hroom₁ : sys.Allows (w₁.steps + (first.handlings events).length) := hroom.mono (by omega)
  have hmail : w₁.Poised ids place id b first ([] ++ events ++ [flush]) := by simpa using hw₁
  obtain ⟨passed, ⟨w₂, source₂⟩, hhandles, hw₂, hpassed, hleft⟩ :=
    hmail.handles source₁ hserial hclosed hfirst (by simp) hevents hhandled hroom₁
  have hsteps₂ : w₂.steps = w₁.steps + (first.handlings events).length := hhandles.steps
  have hroom₂ : sys.Allows (w₂.steps + 1) := hroom.mono (by omega)
  obtain ⟨⟨w₃, source₃⟩, hgoes, hw₃⟩ :=
    hw₂.goes source₂ hserial hclosed hfirst hsorts.target hpassed hsorts.goes hchange hroom₂
  have hsteps₃ : w₃.steps = w₂.steps + 1 := hgoes.steps
  have hroom₃ : sys.Allows (w₃.steps + ((last.handlings (first.deferred events)).length + 1)) :=
    hroom.mono (by omega)
  have hcaught : ∀ e ∈ first.deferred events, ∃ name, last.handler? e.type = some name :=
    fun e he => hsorts.catches e.type (State.mem_deferred.mp he).2
  rw [hleft, List.nil_append] at hw₃
  obtain ⟨t, hempties, ht⟩ :=
    hw₃.empties source₃ hserial hclosed hsorts.target hcaught hsorts.default hlater hroom₃
  exact ⟨t, ((hstarts.trans hhandles).trans hgoes).trans hempties, ht⟩

/-! ## A sorter

It collects letters, and puts off numbers until it is told to flush. -/

namespace Sorter

/-- Remembers the event. -/
def record : Action (List Event) := fun x => Body.toProgram do
  let seen ← Body.memory
  Body.remember (seen ++ [x.event])

def description : Description (List Event) :=
  let collecting :=
    ((((({ name := "Collecting" } : StateSpec).asStart.onEvent "Letter" "record").deferring
      "Number").ignoring "Noise").onGoto "Flush" "Draining")
  let draining := ({ name := "Draining" } : StateSpec).onEvent "Number" "record"
  ((({} : Description (List Event)).state collecting).state draining).action "record" record

def system : System (List Event) where
  catalog := fun _ => { fresh := [], describe := fun _ => description }
  config := .bugFinding 0

def collecting : State where
  id := ⟨"Collecting"⟩
  entry := none
  exit := none
  reactions :=
    [(⟨"Flush"⟩, .goto ⟨"Draining"⟩ none), (⟨"Letter"⟩, .act "record"), (⟨"Noise"⟩, .ignore),
      (⟨"Number"⟩, .defer)]
  hot := false
  cold := false

def draining : State where
  id := ⟨"Draining"⟩
  entry := none
  exit := none
  reactions := [(⟨"Number"⟩, .act "record")]
  hot := false
  cold := false

def blueprint : Blueprint (List Event) where
  automaton :=
    { name := "Sorter"
      kind := .machine
      states := [collecting, draining]
      start := ⟨"Collecting"⟩
      declaration := description.declaration }
  actions := description.actions

theorem built : Blueprint.build "Sorter" .machine description = .ok blueprint := rfl

def fresh : Session (List Event) CyclicChoice := { source := { numbers := [] } }

/-- The event of a type that carries a number. -/
def item (type : String) (n : Nat) : Event := .message ⟨type⟩ (some (.integer n))

def flush : Event := .message ⟨"Flush"⟩ none

/-- Numbers before and between letters. -/
def mail : List Event :=
  [item "Number" 1, item "Letter" 2, item "Noise" 3, item "Number" 4, item "Letter" 5]

/-- The turn of the sorter in which it remembers an event. -/
def remembers (state : String) (e : Event) : Invocation := ⟨"record", .handler, ⟨state⟩, e⟩

theorem sorts : blueprint.Sorts collecting draining flush.type none where
  start := rfl
  goes := rfl
  target := rfl
  catches := by
    intro t ht
    have hr : collecting.reaction? t = some .defer := by simpa [State.defers] using ht
    have hmem := State.mem_of_reaction? hr
    obtain rfl : t = ⟨"Number"⟩ := by simpa [collecting] using hmem
    exact ⟨"record", rfl⟩
  default := rfl

/-- What it runs for its mail. -/
def log : List Invocation :=
  [remembers "Collecting" (item "Letter" 2), remembers "Collecting" (item "Letter" 5),
    remembers "Draining" (item "Number" 1), remembers "Draining" (item "Number" 4)]

theorem sorts_mail : ∀ e ∈ mail, collecting.ignores e.type = true ∨
    collecting.defers e.type = true ∨ ∃ name, collecting.handler? e.type = some name := by
  intro e he
  simp only [mail, List.mem_cons, List.not_mem_nil, or_false] at he
  rcases he with rfl | rfl | rfl | rfl | rfl
  · exact .inr (.inl rfl)
  · exact .inr (.inr ⟨_, rfl⟩)
  · exact .inl rfl
  · exact .inr (.inl rfl)
  · exact .inr (.inr ⟨_, rfl⟩)

/-- To remember asks for nothing. -/
theorem quiet_log : ∀ x ∈ log, blueprint.Quiet x := by
  have hquiet (state : String) (e : Event) : blueprint.Quiet (remembers state e) :=
    ⟨record, rfl, .load fun _ => .store .done⟩
  intro x hx
  simp only [log, List.mem_cons, List.not_mem_nil, or_false] at hx
  rcases hx with rfl | rfl | rfl | rfl <;> exact hquiet ..

end Sorter

/-! ## Results -/

namespace Session

open World

variable [ChoiceSource τ] {sys : System σ} {b : Blueprint σ} {registry : Registry σ}
  {type : String} {first last : State} {flush : Event} {action : Option String}
  {events : List Event}

/-- A machine is made, while no other run is pending, and is sent events that its start state
handles by actions, defers or ignores, and then the one that moves it on. Whatever the choice
source answers, running until nothing is left comes to its end, if the step bound has room for
the turns. The actions that have been invoked by then are those for what the start state
handles, in the order of sending, those of the change, and those of the other state for what
the start state has deferred, again in the order of sending. None is invoked for what is
ignored. The mailbox is empty, and the machine is in the other state. -/
theorem run_sorts (hserial : sys.config.serial = true) {s : Session σ τ}
    (hrest : AtRest sys s.world) (hcalm : s.world.failure = none)
    (halone : s.world.pending = [])
    (hfetch : s.world.registry.fetch sys.catalog .machine type = .ok (b, registry))
    (hsorts : b.Sorts first last flush.type action) (payload : Option Value)
    (hevents : ∀ e ∈ events, first.ignores e.type = true ∨ first.defers e.type = true ∨
      ∃ name, first.handler? e.type = some name)
    (hquiet : ∀ x ∈ first.sorted last action payload events flush, b.Quiet x)
    (hroom : sys.Allows (s.world.steps + first.turns last events)) :
    ∃ (id : MachineId) (made sent t : Session σ τ) (least : Nat) (m : Machine σ),
      s.create sys type payload = (.ok id, made) ∧
      made.sendAll id (events ++ [flush]) = (.ok (), sent) ∧
      (∀ budget ≥ least, sent.run sys budget = (.ok (.ok (first.turns last events)), t)) ∧
      t.world.calls = s.world.calls
        ++ (first.sorted last action payload events flush).map (Prod.mk (.machine id)) ∧
      (∀ x ∈ first.sorted last action payload events flush,
        first.ignores x.event.type = false) ∧
      t.world.machine? id = some m ∧ m.mailbox = [] ∧ m.cell.stack = ⟨[last.id]⟩ ∧
      m.state = some last.id := by
  have hbounded : s.world.bounded = false :=
    hrest.bounded_of_allows hserial (hroom.mono (by unfold State.turns; omega))
  obtain ⟨⟨log, hrun⟩, hidle⟩ := hrest
  have hclosed : b.automaton.Closed := ((hrun.sound hserial).registry.fetch hfetch).1.closed
  have hpassed : ∀ e ∈ events, first.passesOver e.type = true ∨
      ∃ name, first.handler? e.type = some name := by
    simpa only [State.passesOver, Bool.or_eq_true, or_assoc] using hevents
  have hsendable : ∀ e ∈ events ++ [flush], e.isSendable = true :=
    List.forall_mem_append.mpr ⟨fun e he => hsorts.isSendable_of_mem hclosed (hevents e he),
      List.forall_mem_singleton.mpr (hsorts.isSendable hclosed hsorts.goes)⟩
  obtain ⟨id, made, sent, ids, place, hcreate, hsent, hopening, hlocated, hsteps, hcalls⟩ :=
    exists_sent payload hidle ⟨hcalm, hbounded⟩ halone hfetch hsendable
  obtain ⟨t, hadvances, ht⟩ :=
    hopening.sorts sent.source hserial hclosed hsorts hpassed hquiet (hsteps ▸ hroom)
  obtain ⟨least, hleast⟩ := ht.run hserial hadvances
  obtain ⟨m, hm, hmailbox, hstack, hstate⟩ := ht.machine
  refine ⟨id, made, sent, _, least, m, hcreate, hsent, hleast, ?_,
    fun x => hsorts.not_ignores hclosed, ?_, hmailbox, hstack, hstate⟩
  · have hsame : (t.world.markBound sys.config).calls = t.world.calls := by
      rw [calls, markBound_journal, calls]
    rw [hsame, hadvances.calls, hcalls]
  · have hfound : (t.world.locate? id).map Prod.snd = some place := by
      rw [locate?_snd, ht.between.ids, ← hopening.between.ids, ← locate?_snd]
      exact hlocated
    have hsame : (t.world.markBound sys.config).locate? id = t.world.locate? id := by
      rw [locate?, markBound_machines, locate?]
    rw [machine?, hsame, locate?_of_snd hfound hm]
    rfl

/-- The letters come first, then the numbers. -/
theorem run_sorts_sorter :
    AtRest Sorter.system Sorter.fresh.world ∧
      Sorter.blueprint.Sorts Sorter.collecting Sorter.draining Sorter.flush.type none ∧
      ∃ (id : MachineId) (made sent t : Session (List Event) CyclicChoice) (least : Nat)
        (m : Machine (List Event)),
        Sorter.fresh.create Sorter.system "Sorter" none = (.ok id, made) ∧
        made.sendAll id (Sorter.mail ++ [Sorter.flush]) = (.ok (), sent) ∧
        (∀ budget ≥ least, sent.run Sorter.system budget = (.ok (.ok 7), t)) ∧
        t.world.calls = Sorter.log.map (Prod.mk (.machine id)) ∧
        t.world.machine? id = some m ∧ m.mailbox = [] ∧ m.state = some ⟨"Draining"⟩ := by
  have hrest : AtRest Sorter.system Sorter.fresh.world := ⟨⟨[], .empty⟩, rfl⟩
  have hroom : Sorter.system.Allows (Sorter.fresh.world.steps
      + Sorter.collecting.turns Sorter.draining Sorter.mail) := by
    intro bound hbound
    cases hbound
    decide
  obtain ⟨id, made, sent, t, least, m, hcreate, hsent, hrun, hcalls, _, hm, hmailbox, _, hstate⟩ :=
    run_sorts rfl hrest rfl rfl (b := Sorter.blueprint) rfl Sorter.sorts none Sorter.sorts_mail
      Sorter.quiet_log hroom
  exact ⟨hrest, Sorter.sorts, id, made, sent, t, least, m, hcreate, hsent, hrun, hcalls, hm,
    hmailbox, hstate⟩

end Session

end PushdownActors
