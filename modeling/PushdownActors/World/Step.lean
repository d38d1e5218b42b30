-- SUMMARY: The small steps of a running system: dispatches, action programs, blocking receives, scheduling.
import PushdownActors.World

/-!
# Steps of a running system

`World.next` makes one small step: it lets the innermost run in progress go on
by one request of its action, or by the end of its action and the dispatch that
follows. A step never answers a nondeterministic question. It hands the question
out, with what follows for each answer, and whoever drives the world has it
answered by a choice source.

In serial mode a run ends after one dispatch and waits for its next turn, and a
receive that has nothing to take lets pending runs go first, above its own frame.
In production mode a run goes on until its machine has nothing to do, and a
receive parks the run until its event arrives or the system fails.
-/

namespace PushdownActors

/-- What a step leads to. -/
inductive Move (σ : Type) where
  | step (w : World σ)
  /-- The world after the answer to a question. -/
  | ask (q : Question) (next : q.Answer → World σ)
  /-- The outermost run in progress is over, with the result of its dispatch if
  that was for a monitor. -/
  | returned (w : World σ) (result : Except Failure Unit)
  /-- A panic ended every run in progress. -/
  | panicked (w : World σ) (message : Option String)
  /-- The innermost run waits for an event that only other runs can send. -/
  | parked
  /-- There is nothing in progress. -/
  | idle

/-- Why a receive gives up when the system fails. -/
def interruptedByFailure : Failure :=
  .assertion "receive interrupted by an earlier failure"

/-- Why a receive gives up at the step bound. -/
def interruptedByBound : Failure :=
  .assertion "receive interrupted by the step bound"

/-- Why a receive gives up when no run is left that could send its event. -/
def deadlocked (types : List EventType) : Failure where
  kind := .deadlock
  message := "receive of [" ++ ", ".intercalate (types.map EventType.name)
    ++ "] can never complete: no other machine can run"

namespace Actor

/-- Machines stack their states, monitors have one. -/
def discipline : Actor → Discipline
  | machine .. => .stack
  | monitor _ => .single

/-- The engine that interprets the type of a cell. -/
def engine (actor : Actor) (cell : Cell σ) : Engine :=
  ⟨cell.blueprint.automaton, actor.discipline⟩

end Actor

namespace World

/-! ## The end of a dispatch -/

/-- A run that only gave up its turn waits for the next one. -/
def requeue (w : World σ) (place : Place) : World σ :=
  { w with pending := w.pending ++ [place] }

/-- A run is over for good. -/
def retire (w : World σ) : World σ :=
  { w with active := w.active - 1 }

/-- The frame of a run is gone: what is beneath it goes on, if there is anything. -/
def endRun (w : World σ) : Move σ :=
  if w.frames.isEmpty then .returned w (.ok ()) else .step w

/-- The dispatch of a machine has failed. Past the step bound the failure may be
only that of a receive that was cut short, and is not recorded. -/
def abort (w : World σ) (place : Place) (m : Machine σ) (f : Failure) : World σ :=
  let w := w.setMachine place { m with active := false }
  if w.bounded then w else w.fail (f.inMachine m.id.text)

/-- Publishes the result of a machine's dispatch. -/
def concludeMachine (sys : System σ) (w : World σ) (place : Place) (m : Machine σ) :
    Except Failure Status → Move σ
  | .ok .running =>
    let w := w.setMachine place { m with state := m.cell.stack.top? }
    if sys.config.serial then (w.requeue place).endRun
    else .step { w with frames := .ready place :: w.frames }
  | .ok .halted => (w.setMachine place m.halt).retire.endRun
  | .error f => (w.abort place m f).retire.endRun

/-- Gives the result of a monitor's dispatch to the action that waits for it, or
to the outside. -/
def giveBack (w : World σ) (result : Except Failure Unit) : Move σ :=
  match w.frames with
  | .acting actor paused context (.notifying next) :: rest =>
    let frame := .acting actor paused (context.note result) (.running (next result))
    .step { w with frames := frame :: rest }
  | _ => .returned w result

/-- Ends the dispatch of a monitor. A monitor whose start state has been entered
is registered from then on; one that failed to start is forgotten. -/
def concludeMonitor (w : World σ) (m : Monitor σ) : Except Failure Status → Move σ
  | .ok _ => (w.setMonitor { m with registered := true }).giveBack (.ok ())
  | .error f =>
    let w := if m.registered then w else w.removeMonitor m.type
    w.giveBack (.error (f.inMachine m.type))

def conclude (sys : System σ) (w : World σ) (actor : Actor) (result : Except Failure Status) :
    Move σ :=
  match actor with
  | .machine place _ =>
    match w.machineAt? place with
    | some m => w.concludeMachine sys place m result
    | none => .idle
  | .monitor type =>
    match w.monitor? type with
    | some m => w.concludeMonitor m result
    | none => .idle

/-! ## Carrying a dispatch on -/

/-- Takes over how far a dispatch has come: starts the action that it waits for,
or ends it. -/
def carry (sys : System σ) (w : World σ) (actor : Actor) (progress : Progress) : Move σ :=
  match w.cell? actor with
  | none => .idle
  | some cell =>
    let w := w.setCell actor { cell with stack := progress.stack }
    match progress.outcome with
    | .finished status => w.conclude sys actor (.ok status)
    | .failed f => w.conclude sys actor (.error f)
    | .paused p =>
      match cell.blueprint.action? p.invocation.action with
      | some action =>
        let w := w.write (.invoked actor.owner p.invocation)
        .step { w with frames := .acting actor p {} (.running (action p.invocation)) :: w.frames }
      | none =>
        let error : BuildError :=
          .unresolvedAction cell.blueprint.automaton.name p.invocation.state p.invocation.action
        w.conclude sys actor (.error (error.toFailure.inState progress.stack.top?))

/-- Delivers an event to the monitor of a type, if one is registered. -/
def notify (sys : System σ) (w : World σ) (type : String) (e : Event) : Move σ :=
  match e.checkSendable with
  | .error violation => w.giveBack (.error violation.toFailure)
  | .ok () =>
    match w.registered? type with
    | none => w.giveBack (.ok ())
    | some m =>
      let actor := Actor.monitor type
      w.carry sys actor ((actor.engine m.cell).handle m.cell.stack e)

/-- Makes the monitor of a type, unless there is one, and enters its start state. -/
def register (sys : System σ) (w : World σ) (type : String) : Move σ :=
  match w.registered? type with
  | some _ => .returned w (.ok ())
  | none =>
    match w.registry.fetch sys.catalog .monitor type with
    | .error e => .returned w (.error e.toFailure)
    | .ok (blueprint, registry) =>
      let cell : Cell σ := { blueprint, memory := (sys.catalog type).fresh }
      let m : Monitor σ := { type, cell }
      let w := w.removeMonitor type
      let w := { w with registry, monitors := w.monitors ++ [m] }
      let actor := Actor.monitor type
      w.carry sys actor ((actor.engine cell).start .empty (.start none))

/-- Begins the next dispatch of a machine's run: its start, or the next event of
its mailbox. The run ends if there is none, or if the system has failed. -/
def beginDispatch (sys : System σ) (w : World σ) (place : Place) (m : Machine σ) : Move σ :=
  let actor := Actor.machine place m.id
  match m.lifecycle with
  | .halted => (w.setMachine place { m with active := false }).retire.endRun
  | .created =>
    let w := w.setMachine place { m with lifecycle := .active, startPayload := none }
    w.carry sys actor ((actor.engine m.cell).start m.cell.stack (.start m.startPayload))
  | .active =>
    if w.hasFailed then (w.setMachine place { m with active := false }).retire.endRun
    else
      match (actor.engine m.cell).select m.cell.stack m.mailbox with
      | .error f => (w.abort place m (f.inState m.cell.stack.top?)).retire.endRun
      | .ok (none, left) =>
        (w.setMachine place { m with mailbox := left, active := false }).retire.endRun
      | .ok (some e, left) =>
        let w := w.setMachine place { m with mailbox := left }
        w.carry sys actor ((actor.engine m.cell).handle m.cell.stack e)

/-! ## Scheduling -/

/-- Takes the pending run at `index` out of the queue and puts it in progress. -/
def beginRun (w : World σ) (index : Nat) : World σ :=
  match w.pending[index]? with
  | some place => { w with pending := w.pending.eraseIdx index, frames := .ready place :: w.frames }
  | none => w

/-- A scheduling step: the pending run at `index` begins its turn. -/
def beginTurn (w : World σ) (index : Nat) : World σ :=
  { w.beginRun index with steps := w.steps + 1 }

/-- Serial mode: begins the pending run that is chosen, the last one if the
choice is out of range. With a single run there is nothing to choose. -/
def schedulePending (w : World σ) : Move σ :=
  match w.pending with
  | [] => .idle
  | [_] => .step (w.beginTurn 0)
  | places =>
    .ask (.integer (UInt64.ofNat places.length)) fun n =>
      w.beginTurn (min n.toNat (places.length - 1))

/-! ## Requests of actions -/

/-- The action on top goes on with its program. -/
def goOn (w : World σ) (rest : List (Frame σ)) (actor : Actor) (p : Paused) (c : Context)
    (program : Program σ Verdict) : Move σ :=
  .step { w with frames := .acting actor p c (.running program) :: rest }

/-- The action on top gets its answer; a failure in it is kept. -/
def reply (w : World σ) (rest : List (Frame σ)) (actor : Actor) (p : Paused) (c : Context)
    (answer : Except Failure α) (next : Except Failure α → Program σ Verdict) : Move σ :=
  w.goOn rest actor p (c.note answer) (next answer)

/-- The refusal of a request that monitors cannot make. -/
def refuse (operation : String) : Except Failure α :=
  .error (Violation.machineOnly operation).toFailure

/-- Answers a request of the action on top. -/
def serve (sys : System σ) (w : World σ) (rest : List (Frame σ)) (actor : Actor) (p : Paused)
    (c : Context) : (r : Request) → (r.Reply → Program σ Verdict) → Move σ
  | .raise e, next =>
    match e.checkSendable with
    | .error violation => w.reply rest actor p c (.error violation.toFailure) next
    | .ok () =>
      let (answer, c) := c.demand p.invocation.site (.raise e)
      w.goOn rest actor p c (next answer)
  | .goto state, next =>
    let (answer, c) := c.demand p.invocation.site (.goto state)
    w.goOn rest actor p c (next answer)
  | .push state, next =>
    let (answer, c) := c.demand p.invocation.site (.push state)
    w.goOn rest actor p c (next answer)
  | .pop, next =>
    let (answer, c) := c.demand p.invocation.site .pop
    w.goOn rest actor p c (next answer)
  | .id, next =>
    match actor with
    | .machine _ id => w.reply rest actor p c (.ok id) next
    | .monitor _ => w.reply rest actor p c (refuse "id") next
  | .send target e, next =>
    match actor with
    | .machine .. =>
      match w.deliver target e with
      | .ok w => w.reply rest actor p c (.ok ()) next
      | .error f => w.reply rest actor p c (.error f) next
    | .monitor _ => w.reply rest actor p c (refuse "send") next
  | .create type payload, next =>
    match actor with
    | .machine .. =>
      match w.create sys.catalog type payload with
      | .ok (id, w) => w.reply rest actor p c (.ok id) next
      | .error f => w.reply rest actor p c (.error f) next
    | .monitor _ => w.reply rest actor p c (refuse "create_machine") next
  | .notify type e, next =>
    match actor with
    | .machine .. =>
      notify sys { w with frames := .acting actor p c (.notifying next) :: rest } type e
    | .monitor _ => w.reply rest actor p c (refuse "monitor") next
  | .choose q, next =>
    .ask q fun answer =>
      { w with frames := .acting actor p c (.running (next answer)) :: rest }
  | .assert holds message, next =>
    w.reply rest actor p c (if holds then .ok () else .error (.assertion message)) next
  | .receive types, next =>
    match actor with
    | .machine place _ =>
      match w.machineAt? place with
      | none => .idle
      | some m =>
        match removeFirst types m.mailbox with
        | some (e, left) =>
          (w.setMachine place { m with mailbox := left }).reply rest actor p c (.ok e) next
        | none =>
          let w := w.setMachine place { m with waiting := some types }
          .step { w with frames := .acting actor p c (.receiving types next) :: rest }
    | .monitor _ => w.reply rest actor p c (refuse "receive") next
  | .remark remark, next =>
    (w.write (.remarked actor.owner remark)).goOn rest actor p c (next ())

/-- A blocked receive gives up with a failure. -/
def giveUp (w : World σ) (rest : List (Frame σ)) (actor : Actor) (p : Paused) (c : Context)
    (next : Except Failure Event → Program σ Verdict) (place : Place) (m : Machine σ)
    (f : Failure) : Move σ :=
  (w.setMachine place { m with waiting := none }).reply rest actor p c (.error f) next

/-- Goes on with a receive that is blocked: its event has arrived, or it has to
give up, or other runs go first. -/
def await (sys : System σ) (w : World σ) (rest : List (Frame σ)) (actor : Actor) (p : Paused)
    (c : Context) (types : List EventType) (next : Except Failure Event → Program σ Verdict)
    (place : Place) (m : Machine σ) : Move σ :=
  match m.received with
  | some e => (w.setMachine place { m with received := none }).reply rest actor p c (.ok e) next
  | none =>
    if w.hasFailed then w.giveUp rest actor p c next place m interruptedByFailure
    else if !sys.config.serial then .parked
    else
      let w := w.markBound sys.config
      if w.bounded then w.giveUp rest actor p c next place m interruptedByBound
      else if w.pending.isEmpty then w.giveUp rest actor p c next place m (deadlocked types)
      else w.schedulePending

/-- Lets the action on top go on by one step of its program. -/
def execute (sys : System σ) (w : World σ) (rest : List (Frame σ)) (actor : Actor) (p : Paused)
    (c : Context) (cell : Cell σ) : Program σ Verdict → Move σ
  | .done verdict =>
    match verdict, sys.config.propagatePanics with
    | .panicked message, true => .panicked { w with frames := [] } message
    | _, _ =>
      carry sys { w with frames := rest } actor
        ((actor.engine cell).answer cell.stack p (c.answer verdict))
  | .load next => w.goOn rest actor p c (next cell.memory)
  | .store memory next => (w.setCell actor { cell with memory }).goOn rest actor p c next
  | .request r next => w.serve sys rest actor p c r next

/-! ## Steps -/

/-- One step of the innermost run in progress. -/
def next (sys : System σ) (w : World σ) : Move σ :=
  match w.frames with
  | [] => .idle
  | .ready place :: rest =>
    match w.machineAt? place with
    | some m => beginDispatch sys { w with frames := rest } place m
    | none => .idle
  | .acting actor p c (.running program) :: rest =>
    match w.cell? actor with
    | some cell => w.execute sys rest actor p c cell program
    | none => .idle
  | .acting (.machine place id) p c (.receiving types next) :: rest =>
    match w.machineAt? place with
    | some m => w.await sys rest (.machine place id) p c types next place m
    | none => .idle
  | .acting (.monitor _) _ _ (.receiving ..) :: _ => .idle
  | .acting _ _ _ (.notifying _) :: _ => .idle

/-- One step of a serial system that runs until nothing is pending, a failure
occurs, or the step bound is reached. -/
def nextUntilQuiescent (sys : System σ) (w : World σ) : Move σ :=
  match w.frames with
  | [] =>
    if w.hasFailed then .returned w (.ok ())
    else
      let w := w.markBound sys.config
      if w.bounded || w.pending.isEmpty then .returned w (.ok ())
      else w.schedulePending
  | _ :: _ =>
    match w.next sys with
    | .returned w _ => .step w
    | move => move

end World

end PushdownActors
