-- SUMMARY: Two worlds in which a secluded machine has its run go on side by side, for whatever else is different between them.
import PushdownActors.Proofs.Seclusion

/-!
# Lockstep

The run of a secluded machine sees its own machine, the monitors if it is sociable, and
whether the system has failed. Two worlds that agree in these make the same moves. What
else a relation between two worlds says about them has to be kept by the few changes that
such a run makes; `Lockstep` lists them, and `Lockstep.next` is the one place where all
kinds of small steps are gone through. The moves with which a run ends are left to the
relation.
-/

namespace PushdownActors

/-- Who has written the entry. -/
def JournalEntry.owner : JournalEntry → Owner
  | invoked owner _ | remarked owner _ => owner

/-- Two moves go on to related worlds, in which something is in progress, or end as they
should. -/
inductive Move.Along (x : Seclusion σ) (R : World σ → World σ → Prop) (E : Move σ → Move σ → Prop) :
    Move σ → Move σ → Prop
  | step {w v : World σ} (h : R w v) (hbusy : w.frames ≠ []) : Along x R E (.step w) (.step v)
  | ask {q : Question} {next next' : q.Answer → World σ} (hsociable : x.sociable)
      (h : ∀ answer, R (next answer) (next' answer)) : Along x R E (.ask q next) (.ask q next')
  | idle : Along x R E .idle .idle
  | ends {move move' : Move σ} (h : E move move') : Along x R E move move'

namespace World

/-- Related worlds agree in what a secluded machine can see, and the relation is kept by
what its run changes. `E` says how the moves are related with which the run ends. -/
structure Lockstep (sys sys' : System σ) (x : Seclusion σ) (R : World σ → World σ → Prop)
    (E : Move σ → Move σ → Prop) : Prop where
  panics : sys'.config.propagatePanics = sys.config.propagatePanics
  within {w v : World σ} (h : R w v) : w.Within x ∧ v.Within x
  frames {w v : World σ} (h : R w v) : v.frames = w.frames
  machine {w v : World σ} (h : R w v) : v.machineAt? x.place = w.machineAt? x.place
  monitors {w v : World σ} (h : R w v) (hsociable : x.sociable) : v.monitors = w.monitors
  failed {w v : World σ} (h : R w v) : v.hasFailed = w.hasFailed
  reframe {w v : World σ} {frames : List (Frame σ)} (h : R w v) (hframes : Secluded x frames) :
    R { w with frames } { v with frames }
  exchange {w v : World σ} {m' : Machine σ} (h : R w v) (hm' : m'.Within x) :
    R (w.setMachine x.place m') (v.setMachine x.place m')
  write {w v : World σ} {entry : JournalEntry} (h : R w v)
    (howner : entry.owner = .machine x.self ∨ x.sociable) : R (w.write entry) (v.write entry)
  judge {w v : World σ} (h : R w v) (hsociable : x.sociable) (monitors : List (Monitor σ)) :
    R { w with monitors } { v with monitors }
  conclude {w v : World σ} {m : Machine σ} (h : R w v) (hidle : w.frames = [])
    (hm : w.machineAt? x.place = some m) (result : Except Failure Status) :
    Move.Along x R E (w.concludeMachine sys x.place m result)
      (v.concludeMachine sys' x.place m result)
  rest {w v : World σ} {m : Machine σ} (h : R w v) (hidle : w.frames = [])
    (hm : w.machineAt? x.place = some m) (mailbox : List Event) :
    E (w.setMachine x.place { m with mailbox, active := false }).retire.endRun
      (v.setMachine x.place { m with mailbox, active := false }).retire.endRun
  abort {w v : World σ} {m : Machine σ} (h : R w v) (hidle : w.frames = [])
    (hm : w.machineAt? x.place = some m) (f : Failure) :
    E (w.abort x.place m f).retire.endRun (v.abort x.place m f).retire.endRun
  panic {w v : World σ} (h : R w v) (message : Option String) :
    E (.panicked { w with frames := [] } message) (.panicked { v with frames := [] } message)
  await {w v : World σ} {p : Paused} {c : Context} {types : List EventType}
    {next : Except Failure Event → Program σ Verdict} {m : Machine σ} (h : R w v)
    (hsociable : x.sociable) (hnext : ∀ answer, (next answer).Within x)
    (hframes : w.frames = [.acting (.machine x.place x.self) p c (.receiving types next)])
    (hm : w.machineAt? x.place = some m) :
    Move.Along x R E (w.await sys [] (.machine x.place x.self) p c types next x.place m)
      (v.await sys' [] (.machine x.place x.self) p c types next x.place m)

namespace Lockstep

variable {sys sys' : System σ} {x : Seclusion σ} {R : World σ → World σ → Prop}
  {E : Move σ → Move σ → Prop} {w v : World σ} {m : Machine σ} {p p' : Paused} {c c' : Context}
  {type : String} {answering : Except Failure Unit → Program σ Verdict}

/-! ## Single changes -/

theorem machineAt? (h : Lockstep sys sys' x R E) (hR : R w v)
    (hm : w.machineAt? x.place = some m) : v.machineAt? x.place = some m :=
  (h.machine hR).trans hm

theorem monitor? (h : Lockstep sys sys' x R E) (hR : R w v) (hsociable : x.sociable)
    (type : String) : v.monitor? type = w.monitor? type := by
  rw [World.monitor?, World.monitor?, h.monitors hR hsociable]

theorem setMonitor (h : Lockstep sys sys' x R E) (hR : R w v) (hsociable : x.sociable)
    (m : Monitor σ) : R (w.setMonitor m) (v.setMonitor m) := by
  rw [World.setMonitor, World.setMonitor, h.monitors hR hsociable]
  exact h.judge hR hsociable _

theorem removeMonitor (h : Lockstep sys sys' x R E) (hR : R w v) (hsociable : x.sociable)
    (type : String) : R (w.removeMonitor type) (v.removeMonitor type) := by
  rw [World.removeMonitor, World.removeMonitor, h.monitors hR hsociable]
  exact h.judge hR hsociable _

/-- The action of the machine goes on. -/
theorem goOn (h : Lockstep sys sys' x R E) (hR : R w v) {program : Program σ Verdict}
    (hprogram : program.Within x) :
    Move.Along x R E (w.goOn [] (.machine x.place x.self) p c program)
      (v.goOn [] (.machine x.place x.self) p c program) :=
  .step (h.reframe hR (.acting hprogram)) (List.cons_ne_nil _ _)

/-- The action of a monitor goes on. -/
theorem goOn_monitor (h : Lockstep sys sys' x R E) (hR : R w v) (hsociable : x.sociable)
    (hnext : ∀ answer, (answering answer).Within x) (program : Program σ Verdict) :
    Move.Along x R E
      (w.goOn [.acting (.machine x.place x.self) p c (.notifying answering)] (.monitor type) p' c'
        program)
      (v.goOn [.acting (.machine x.place x.self) p c (.notifying answering)] (.monitor type) p' c'
        program) :=
  .step (h.reframe hR (.judging hsociable hnext)) (List.cons_ne_nil _ _)

/-- An action is invoked, and its frame is put on top. -/
theorem enter (h : Lockstep sys sys' x R E) (hR : R w v) {entry : JournalEntry} {f : Frame σ}
    (howner : entry.owner = .machine x.self ∨ x.sociable)
    (hframes : Secluded x (f :: w.frames)) :
    Move.Along x R E (.step { w.write entry with frames := f :: (w.write entry).frames })
      (.step { v.write entry with frames := f :: (v.write entry).frames }) := by
  have hsame : (v.write entry).frames = w.frames := (h.frames hR :)
  rw [hsame]
  exact .step (h.reframe (h.write hR howner) hframes) (List.cons_ne_nil _ _)

/-! ## Dispatches of monitors -/

theorem giveBack (h : Lockstep sys sys' x R E) (hR : R w v)
    (hnext : ∀ answer, (answering answer).Within x)
    (hframes : w.frames = [.acting (.machine x.place x.self) p c (.notifying answering)])
    (result : Except Failure Unit) :
    Move.Along x R E (w.giveBack result) (v.giveBack result) := by
  simp only [World.giveBack, h.frames hR, hframes]
  exact .step (h.reframe hR (.acting (hnext result))) (List.cons_ne_nil _ _)

theorem concludeMonitor (h : Lockstep sys sys' x R E) (hR : R w v) (hsociable : x.sociable)
    (hnext : ∀ answer, (answering answer).Within x)
    (hframes : w.frames = [.acting (.machine x.place x.self) p c (.notifying answering)])
    (m : Monitor σ) (result : Except Failure Status) :
    Move.Along x R E (w.concludeMonitor m result) (v.concludeMonitor m result) := by
  unfold World.concludeMonitor
  cases result with
  | ok status => exact h.giveBack (h.setMonitor hR hsociable _) hnext hframes _
  | error f =>
    dsimp only
    split
    · exact h.giveBack hR hnext hframes _
    · exact h.giveBack (h.removeMonitor hR hsociable _) hnext hframes _

/-- The dispatch of a monitor is carried on, above the action that has notified it. -/
theorem carry_monitor (h : Lockstep sys sys' x R E) (hR : R w v) (hsociable : x.sociable)
    (hnext : ∀ answer, (answering answer).Within x)
    (hframes : w.frames = [.acting (.machine x.place x.self) p c (.notifying answering)])
    (progress : Progress) :
    Move.Along x R E (w.carry sys (.monitor type) progress)
      (v.carry sys' (.monitor type) progress) := by
  cases hm : w.monitor? type with
  | none =>
    simp only [World.carry, World.cell?, h.monitor? hR hsociable, hm, Option.map_none]
    exact .idle
  | some m =>
    let m' : Monitor σ := { m with cell := { m.cell with stack := progress.stack } }
    have hset : R (w.setMonitor m') (v.setMonitor m') := h.setMonitor hR hsociable m'
    have hvm : v.monitor? type = some m := (h.monitor? hR hsociable type).trans hm
    have htype : m.type = type := type_of_monitor? hm
    have hconclude (result : Except Failure Status) :
        Move.Along x R E ((w.setMonitor m').conclude sys (.monitor type) result)
          ((v.setMonitor m').conclude sys' (.monitor type) result) := by
      simp only [World.conclude, monitor?_setMonitor_self hm m' htype,
        monitor?_setMonitor_self hvm m' htype]
      exact h.concludeMonitor hset hsociable hnext hframes m' result
    unfold World.carry
    simp only [cell?_monitor hm, cell?_monitor hvm, setCell_monitor hm, setCell_monitor hvm]
    cases progress.outcome with
    | finished status => exact hconclude (.ok status)
    | failed f => exact hconclude (.error f)
    | paused p =>
      dsimp only
      split
      · refine h.enter hset (.inr hsociable) ?_
        change Secluded x (_ :: w.frames)
        rw [hframes]
        exact .judging hsociable hnext
      · exact hconclude _

/-- A monitor is notified, or the notification is refused. -/
theorem notify (h : Lockstep sys sys' x R E) (hR : R w v) (hsociable : x.sociable)
    (hnext : ∀ answer, (answering answer).Within x)
    (hframes : w.frames = [.acting (.machine x.place x.self) p c (.notifying answering)])
    (type : String) (e : Event) :
    Move.Along x R E (w.notify sys type e) (v.notify sys' type e) := by
  unfold World.notify
  split
  · exact h.giveBack hR hnext hframes _
  · simp only [World.registered?, h.monitor? hR hsociable]
    split
    · exact h.giveBack hR hnext hframes _
    · exact h.carry_monitor hR hsociable hnext hframes _

/-! ## Dispatches of the machine -/

/-- The dispatch of the machine is carried on. -/
theorem carry (h : Lockstep sys sys' x R E) (hR : R w v) (hidle : w.frames = [])
    (progress : Progress) :
    Move.Along x R E (w.carry sys (.machine x.place x.self) progress)
      (v.carry sys' (.machine x.place x.self) progress) := by
  obtain ⟨m, hm, hwithin⟩ := (h.within hR).1.machine
  have hvm := h.machineAt? hR hm
  let m' : Machine σ := { m with cell := { m.cell with stack := progress.stack } }
  have hset : R (w.setMachine x.place m') (v.setMachine x.place m') :=
    h.exchange hR (hwithin.congr rfl rfl rfl rfl)
  have hm' : (w.setMachine x.place m').machineAt? x.place = some m' :=
    machineAt?_setMachine_self hm
  have hvm' : (v.setMachine x.place m').machineAt? x.place = some m' :=
    machineAt?_setMachine_self hvm
  have hconclude (result : Except Failure Status) :
      Move.Along x R E ((w.setMachine x.place m').conclude sys (.machine x.place x.self) result)
        ((v.setMachine x.place m').conclude sys' (.machine x.place x.self) result) := by
    simp only [World.conclude, hm', hvm']
    exact h.conclude hset hidle hm' result
  unfold World.carry
  simp only [cell?_machine hm, cell?_machine hvm, setCell_machine hm, setCell_machine hvm]
  cases progress.outcome with
  | finished status => exact hconclude (.ok status)
  | failed f => exact hconclude (.error f)
  | paused p =>
    dsimp only
    split
    · rename_i action haction
      refine h.enter hset (.inl rfl) ?_
      change Secluded x (_ :: w.frames)
      rw [hidle]
      exact .acting (hwithin.actions _ _ haction _)
    · exact hconclude _

/-- The machine begins its next dispatch. -/
theorem beginDispatch (h : Lockstep sys sys' x R E) (hR : R w v) (hidle : w.frames = [])
    (hm : w.machineAt? x.place = some m) :
    Move.Along x R E (w.beginDispatch sys x.place m) (v.beginDispatch sys' x.place m) := by
  have hwithin : m.Within x := (h.within hR).1.of_machineAt? hm
  have hactor : Actor.machine x.place m.id = .machine x.place x.self :=
    congrArg (Actor.machine x.place) hwithin.id
  simp only [World.beginDispatch, hactor]
  split
  · exact .ends (h.rest hR hidle hm m.mailbox)
  · have hstarted : Machine.Within x { m with lifecycle := .active, startPayload := none } :=
      hwithin.congr rfl rfl rfl rfl
    exact h.carry (h.exchange hR hstarted) hidle _
  · rw [h.failed hR]
    split
    · exact .ends (h.rest hR hidle hm m.mailbox)
    · split
      · exact .ends (h.abort hR hidle hm _)
      · exact .ends (h.rest hR hidle hm _)
      · rename_i e left _
        have hleft : Machine.Within x { m with mailbox := left } := hwithin.congr rfl rfl rfl rfl
        exact h.carry (h.exchange hR hleft) hidle _

/-! ## Requests -/

/-- A request of an action of the machine is answered. -/
theorem serve (h : Lockstep sys sys' x R E) (hR : R w v) {r : Request}
    {next : r.Reply → Program σ Verdict} (hr : r.Within x)
    (hnext : ∀ answer, r.Expects x answer → (next answer).Within x) :
    Move.Along x R E (w.serve sys [] (.machine x.place x.self) p c r next)
      (v.serve sys' [] (.machine x.place x.self) p c r next) := by
  obtain ⟨m, hm, hwithin⟩ := (h.within hR).1.machine
  have hvm := h.machineAt? hR hm
  cases r with
  | raise e =>
    simp only [World.serve]
    split
    · exact h.goOn hR (hnext _ trivial)
    · exact h.goOn hR (hnext _ trivial)
  | goto _ | push _ | pop | assert _ _ => exact h.goOn hR (hnext _ trivial)
  | id => exact h.goOn hR (hnext _ rfl)
  | send target e =>
    simp only [World.serve]
    cases hsendable : e.checkSendable with
    | error violation =>
      simp only [World.deliver, hsendable]
      exact h.goOn hR (hnext _ trivial)
    | ok _ =>
      simp only [(h.within hR).1.deliver_eq hm hr hsendable,
        (h.within hR).2.deliver_eq hvm hr hsendable]
      exact h.goOn (h.exchange hR (hwithin.enqueue e)) (hnext _ trivial)
  | create type payload => exact hr.elim
  | notify type e =>
    have hwaits : Secluded x [.acting (.machine x.place x.self) p c (.notifying next)] :=
      .acting ⟨hr, fun answer => hnext answer trivial⟩
    exact h.notify (h.reframe hR hwaits) hr (fun answer => hnext answer trivial) rfl type e
  | choose q => exact .ask hr fun answer => h.reframe hR (.acting (hnext answer trivial))
  | receive types =>
    simp only [World.serve, hm, hvm]
    split
    · rename_i e left _
      have hleft : Machine.Within x { m with mailbox := left } := hwithin.congr rfl rfl rfl rfl
      exact h.goOn (h.exchange hR hleft) (hnext _ trivial)
    · have hwaiting : Machine.Within x { m with waiting := some types } :=
        hwithin.congr rfl rfl rfl rfl
      have hblocks : Secluded x [.acting (.machine x.place x.self) p c (.receiving types next)] :=
        .acting ⟨hr, fun answer => hnext answer trivial⟩
      exact .step (h.reframe (h.exchange hR hwaiting) hblocks) (List.cons_ne_nil _ _)
  | remark r =>
    exact h.goOn (h.write hR (.inl rfl)) (hnext _ trivial)

/-- A request of an action of a monitor is answered. -/
theorem serve_monitor (h : Lockstep sys sys' x R E) (hR : R w v) (hsociable : x.sociable)
    (hnext : ∀ answer, (answering answer).Within x) (r : Request)
    (next : r.Reply → Program σ Verdict) :
    Move.Along x R E
      (w.serve sys [.acting (.machine x.place x.self) p c (.notifying answering)] (.monitor type)
        p' c' r next)
      (v.serve sys' [.acting (.machine x.place x.self) p c (.notifying answering)] (.monitor type)
        p' c' r next) := by
  cases r with
  | raise e =>
    simp only [World.serve]
    split <;> exact h.goOn_monitor hR hsociable hnext _
  | goto _ | push _ | pop | assert _ _ | id | send _ _ | create _ _ | notify _ _ | receive _ =>
    exact h.goOn_monitor hR hsociable hnext _
  | choose q => exact .ask hsociable fun answer => h.reframe hR (.judging hsociable hnext)
  | remark r => exact h.goOn_monitor (h.write hR (.inr hsociable)) hsociable hnext _

/-! ## Steps of actions -/

/-- An action of the machine goes on by one step. -/
theorem execute (h : Lockstep sys sys' x R E) (hR : R w v) (hm : w.machineAt? x.place = some m)
    {program : Program σ Verdict} (hprogram : program.Within x) :
    Move.Along x R E (w.execute sys [] (.machine x.place x.self) p c m.cell program)
      (v.execute sys' [] (.machine x.place x.self) p c m.cell program) := by
  have hwithin : m.Within x := (h.within hR).1.of_machineAt? hm
  cases program with
  | done verdict =>
    simp only [World.execute, h.panics]
    split
    · exact .ends (h.panic hR _)
    · exact h.carry (h.reframe hR .idle) rfl _
  | load next => exact h.goOn hR (hprogram _ hwithin.memory)
  | store memory next =>
    have hstored : Machine.Within x { m with cell := { m.cell with memory } } :=
      ⟨hwithin.id, hwithin.active, hwithin.actions, hprogram.1⟩
    simp only [World.execute, setCell_machine hm, setCell_machine (h.machineAt? hR hm)]
    exact h.goOn (h.exchange hR hstored) hprogram.2
  | request r next => exact h.serve hR hprogram.1 hprogram.2

/-- An action of a monitor goes on by one step. -/
theorem execute_monitor (h : Lockstep sys sys' x R E) (hR : R w v) (hsociable : x.sociable)
    (hnext : ∀ answer, (answering answer).Within x) {m : Monitor σ}
    (hm : w.monitor? type = some m) (program : Program σ Verdict) :
    Move.Along x R E
      (w.execute sys [.acting (.machine x.place x.self) p c (.notifying answering)] (.monitor type)
        p' c' m.cell program)
      (v.execute sys' [.acting (.machine x.place x.self) p c (.notifying answering)]
        (.monitor type) p' c' m.cell program) := by
  cases program with
  | done verdict =>
    simp only [World.execute, h.panics]
    split
    · exact .ends (h.panic hR _)
    · have hwaits : Secluded x [.acting (.machine x.place x.self) p c (.notifying answering)] :=
        .acting ⟨hsociable, hnext⟩
      exact h.carry_monitor (h.reframe hR hwaits) hsociable hnext rfl _
  | load next => exact h.goOn_monitor hR hsociable hnext _
  | store memory next =>
    have hvm : v.monitor? type = some m := (h.monitor? hR hsociable type).trans hm
    simp only [World.execute, setCell_monitor hm, setCell_monitor hvm]
    exact h.goOn_monitor (h.setMonitor hR hsociable _) hsociable hnext _
  | request r next => exact h.serve_monitor hR hsociable hnext r next

/-! ## Small steps -/

/-- Two related worlds make the same small step. -/
theorem next (h : Lockstep sys sys' x R E) (hR : R w v) :
    Move.Along x R E (w.next sys) (v.next sys') := by
  obtain ⟨m, hm, -⟩ := (h.within hR).1.machine
  have hvm := h.machineAt? hR hm
  have hsame := h.frames hR
  have hsecluded := (h.within hR).1.frames
  generalize hframes : w.frames = frames at hsame hsecluded
  cases hsecluded with
  | idle =>
    simp only [World.next, hframes, hsame]
    exact .idle
  | ready =>
    simp only [World.next, hframes, hsame, hm, hvm]
    exact h.beginDispatch (h.reframe hR .idle) rfl hm
  | @acting p c stage hstage =>
    cases stage with
    | running program =>
      simp only [World.next, hframes, hsame, cell?_machine hm, cell?_machine hvm]
      exact h.execute hR hm hstage
    | receiving types next =>
      simp only [World.next, hframes, hsame, hm, hvm]
      exact h.await hR hstage.1 hstage.2 hframes hm
    | notifying next =>
      simp only [World.next, hframes, hsame]
      exact .idle
  | @judging type p p' c c' program next hsociable hnext =>
    cases hmonitor : w.monitor? type with
    | none =>
      simp only [World.next, hframes, hsame, World.cell?, h.monitor? hR hsociable, hmonitor,
        Option.map_none]
      exact .idle
    | some m =>
      have hvmonitor : v.monitor? type = some m := (h.monitor? hR hsociable type).trans hmonitor
      simp only [World.next, hframes, hsame, cell?_monitor hmonitor, cell?_monitor hvmonitor]
      exact h.execute_monitor hR hsociable hnext hmonitor program

end Lockstep

end World

end PushdownActors
