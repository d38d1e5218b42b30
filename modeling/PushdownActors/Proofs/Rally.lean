-- SUMMARY: The ping-pong system is correct under every schedule: what is in flight, what its monitor gets, and how it ends.
import PushdownActors.CommandLine
import PushdownActors.Proofs.Course

/-!
# Rallies

The two players of the ping-pong system leave the scheduler little to decide, and what it
decides makes no difference. The server may start before the client does, or after it has
been sent its first ping, or even after it has been told to halt. A player that has nothing
to do may be scheduled once more or not. But there is one ball only: a ping that waits for
the server, a pong that waits for the client, or in the end the halt for the server.

Between turns the worlds of a game are therefore told by a phase, which says where the ball
is and how many rounds remain, and by books that matter to nobody. A turn leads from phase
to phase; that is shown by executing it. Every turn brings the end nearer, so that each
schedule leads to the last phase, and there is none in which anything has failed.
-/

namespace PushdownActors

open World Session

theorem Value.toUInt32?_toNat (n : UInt32) : toUInt32? (.integer n.toNat) = some n := by
  have hn : (n.toNat : Int) ≤ 4294967295 := by
    have := n.toNat_lt
    omega
  simp [toUInt32?, toNat?, hn]

namespace PingPong

/-! ## Players -/

def serverId : MachineId := ⟨serverType, 1⟩

def clientId : MachineId := ⟨clientType, 2⟩

def serverBlueprint : Blueprint Memory where
  automaton :=
    { name := serverType
      kind := .machine
      states :=
        [{ id := ⟨"Serving"⟩, entry := none, exit := none, reactions := [(ping, .act "reply")],
           hot := false, cold := false }]
      start := ⟨"Serving"⟩
      declaration := serverDescription.declaration }
  actions := serverDescription.actions

def clientBlueprint : Blueprint Memory where
  automaton :=
    { name := clientType
      kind := .machine
      states :=
        [{ id := ⟨"Init"⟩, entry := some "setup", exit := none, reactions := [], hot := false,
           cold := false },
         { id := ⟨"Playing"⟩, entry := some "serve", exit := none,
           reactions := [(pong, .goto ⟨"Playing"⟩ (some "count_pong"))], hot := false,
           cold := false }]
      start := ⟨"Init"⟩
      declaration := clientDescription.declaration }
  actions := clientDescription.actions

def monitorBlueprint : Blueprint Memory where
  automaton :=
    { name := monitorType
      kind := .monitor
      states :=
        [{ id := ⟨"Answered"⟩, entry := none, exit := none,
           reactions := [(ping, .goto ⟨"Waiting"⟩ none)], hot := false, cold := true },
         { id := ⟨"Waiting"⟩, entry := none, exit := none,
           reactions := [(pong, .goto ⟨"Answered"⟩ none)], hot := true, cold := false }]
      start := ⟨"Answered"⟩
      declaration := monitorDescription.declaration }
  actions := []

/-- How far a machine has come that has not halted. -/
inductive Stage where
  | created
  /-- A run of it is pending. -/
  | awake
  | asleep
  deriving DecidableEq

namespace Stage

def started : Stage → Bool
  | created => false
  | awake | asleep => true

/-- The run of the server that is pending. -/
def pending : Stage → List Place
  | created | awake => [0]
  | asleep => []

/-- The run of the server that is scheduled when it is sent something. -/
def woken : Stage → List Place
  | created | awake => []
  | asleep => [0]

def ofStarted (started : Bool) : Stage := if started then awake else created

def ofAwake (awake : Bool) : Stage := if awake then .awake else .asleep

end Stage

def server (stage : Stage) (mailbox : List Event) (served : UInt32) : Machine Memory :=
  let cell : Cell Memory := { blueprint := serverBlueprint, memory := .server { served } }
  match stage with
  | .created => { id := serverId, cell, mailbox }
  | .awake | .asleep =>
    { id := serverId
      cell := { cell with stack := ⟨[⟨"Serving"⟩]⟩ }
      mailbox
      active := stage = .awake
      lifecycle := .active
      state := some ⟨"Serving"⟩ }

/-- The client before its start. -/
def newClient (rounds : UInt32) : Machine Memory where
  id := clientId
  cell := { blueprint := clientBlueprint, memory := .client {} }
  startPayload := some (Task.toPayload ⟨serverId, rounds⟩)

/-- The client once it plays. -/
def client (remaining pongs : UInt32) (mailbox : List Event) (awake : Bool)
    (state : Option StateId) : Machine Memory where
  id := clientId
  cell :=
    { blueprint := clientBlueprint
      memory := .client { server := some serverId, remaining, pongs }
      stack := ⟨[⟨"Playing"⟩]⟩ }
  mailbox
  active := awake
  lifecycle := .active
  state

def monitor (hot : Bool) : Monitor Memory where
  type := monitorType
  cell :=
    { blueprint := monitorBlueprint
      memory := .monitor
      stack := ⟨[⟨if hot then "Waiting" else "Answered"⟩]⟩ }
  registered := true

/-! ## Phases -/

/-- The ping as the server gets it. -/
def request : Event := .message ping (some clientId.toPayload)

/-- The pong as the client gets it. -/
def answer : Event := .message pong none

/-- Where the ball is, and how many pings remain to be sent. -/
inductive Phase where
  /-- The client has not started. -/
  | opening (rounds : UInt32) (server : Stage)
  /-- A ping waits for the server, which may have to start first. The client has its turn
  once more if it is awake. -/
  | pinged (remaining : UInt32) (started awake : Bool)
  /-- A pong waits for the client. The server has its turn once more if it is awake. -/
  | ponged (remaining : UInt32) (awake : Bool)
  /-- The client has halted, and a halt waits for the server. -/
  | closing (started : Bool)
  /-- Both have halted. -/
  | closed

/-- What a world keeps besides its phase. -/
structure Books where
  pending : List Place
  active : Nat
  steps : Nat
  bounded : Bool
  journal : List JournalEntry
  served : UInt32
  pongs : UInt32

/-- The world with these players. -/
def table (server client : Machine Memory) (hot : Bool) (k : Books)
    (frames : List (Frame Memory)) : World Memory where
  registry :=
    { entries :=
        [(monitorType, monitorBlueprint), (serverType, serverBlueprint),
          (clientType, clientBlueprint)] }
  machines := [server, client]
  monitors := [monitor hot]
  lastId := 2
  pending := k.pending
  active := k.active
  steps := k.steps
  bounded := k.bounded
  frames
  journal := k.journal

/-- One round less. -/
theorem toNat_sub_one {n : UInt32} (h : n ≠ 0) : n.toNat = (n - 1).toNat + 1 := by
  have hpos : 0 < n.toNat := by
    rcases Nat.eq_zero_or_pos n.toNat with hzero | hpos
    · exact absurd (UInt32.toNat_inj.mp hzero) h
    · exact hpos
  have hle : (1 : UInt32) ≤ n := UInt32.le_iff_toNat_le.mpr hpos
  rw [UInt32.toNat_sub_of_le _ _ hle]
  exact (Nat.succ_pred_eq_of_pos hpos).symm

/-- The first `n` exchanges, as the monitor is told. -/
def exchanges (n : Nat) : List Event :=
  (List.replicate n [Event.message ping none, .message pong none]).flatten

namespace Phase

def server : Phase → UInt32 → Machine Memory
  | opening _ stage, served => PingPong.server stage [] served
  | pinged _ started _, served => PingPong.server (.ofStarted started) [request] served
  | ponged _ awake, served => PingPong.server (.ofAwake awake) [] served
  | closing started, served => PingPong.server (.ofStarted started) [.halt] served
  | closed, served => (PingPong.server .awake [] served).halt

def client : Phase → UInt32 → Machine Memory
  | opening rounds _, _ => newClient rounds
  | pinged remaining _ awake, pongs => PingPong.client remaining pongs [] awake (some ⟨"Playing"⟩)
  | ponged remaining _, pongs => PingPong.client remaining pongs [answer] true (some ⟨"Playing"⟩)
  | closing _, pongs | closed, pongs => (PingPong.client 0 pongs [] true none).halt

def hot : Phase → Bool
  | pinged .. => true
  | opening .. | ponged .. | closing _ | closed => false

/-- The world in the phase, with what is in progress. -/
def world (ph : Phase) (k : Books) (frames : List (Frame Memory)) : World Memory :=
  table (ph.server k.served) (ph.client k.pongs) ph.hot k frames

/-- The runs that are pending, in some order. -/
def pending : Phase → List Place
  | opening _ stage => stage.pending ++ [1]
  | pinged _ _ awake => if awake then [0, 1] else [0]
  | ponged _ awake => if awake then [0, 1] else [1]
  | closing _ => [0]
  | closed => []

/-- What the monitor is told until the game is over. -/
def coming : Phase → List Event
  | opening rounds _ => exchanges rounds.toNat
  | pinged remaining _ _ => .message pong none :: exchanges remaining.toNat
  | ponged remaining _ => exchanges remaining.toNat
  | closing _ | closed => []

/-- No more turns than that are left. -/
def rank : Phase → Nat
  | opening rounds stage =>
    4 * rounds.toNat + 3 + (if stage = .created then 2 else if stage = .awake then 1 else 0)
  | pinged remaining started awake =>
    4 * remaining.toNat + 4 + (if started then 0 else 1) + (if awake then 1 else 0)
  | ponged remaining awake => 4 * remaining.toNat + 2 + (if awake then 1 else 0)
  | closing started => if started then 1 else 2
  | closed => 0

theorem eq_closed_of_pending {ph : Phase} (h : ph.pending = []) : ph = closed := by
  cases ph with
  | opening _ stage =>
    simp [pending] at h
  | pinged _ _ awake | ponged _ awake =>
    cases awake with
    | false | true => contradiction
  | closing _ => contradiction
  | closed => rfl

/-! ## Turns -/

/-- What the turn of a player makes of a phase, with the runs that it leaves pending and with
what the monitor is told. -/
inductive Turn : Phase → Place → Phase → List Place → List Event → Prop
  | start {rounds : UInt32} : Turn (opening rounds .created) 0 (opening rounds .awake) [0] []
  | wait {rounds : UInt32} : Turn (opening rounds .awake) 0 (opening rounds .asleep) [] []
  | firstPing {rounds : UInt32} {stage : Stage} (h : rounds ≠ 0) :
      Turn (opening rounds stage) 1 (pinged (rounds - 1) stage.started true)
        (stage.woken ++ [1]) [.message ping none]
  | noPing {stage : Stage} :
      Turn (opening 0 stage) 1 (closing stage.started) stage.woken []
  | lateStart {remaining : UInt32} {awake : Bool} :
      Turn (pinged remaining false awake) 0 (pinged remaining true awake) [0] []
  | pong {remaining : UInt32} {awake : Bool} :
      Turn (pinged remaining true awake) 0 (ponged remaining true)
        ((if awake then [] else [1]) ++ [0]) [.message pong none]
  | clientRests {remaining : UInt32} {started : Bool} :
      Turn (pinged remaining started true) 1 (pinged remaining started false) [] []
  | serverRests {remaining : UInt32} :
      Turn (ponged remaining true) 0 (ponged remaining false) [] []
  | nextPing {remaining : UInt32} {awake : Bool} (h : remaining ≠ 0) :
      Turn (ponged remaining awake) 1 (pinged (remaining - 1) true true)
        ((Stage.ofAwake awake).woken ++ [1]) [.message ping none]
  | lastPong {awake : Bool} :
      Turn (ponged 0 awake) 1 (closing true) (Stage.ofAwake awake).woken []
  | lastStart : Turn (closing false) 0 (closing true) [0] []
  | halt : Turn (closing true) 0 closed [] []

/-- Whoever is pending has a turn. -/
theorem exists_turn {ph : Phase} {place : Place} (h : place ∈ ph.pending) :
    ∃ ph' more told, Turn ph place ph' more told := by
  cases ph with
  | opening rounds stage =>
    rcases List.mem_append.mp h with hserver | hclient
    · cases stage with
      | created =>
        obtain rfl := List.mem_singleton.mp hserver
        exact ⟨_, _, _, .start⟩
      | awake =>
        obtain rfl := List.mem_singleton.mp hserver
        exact ⟨_, _, _, .wait⟩
      | asleep => contradiction
    · obtain rfl := List.mem_singleton.mp hclient
      by_cases hrounds : rounds = 0
      · subst hrounds
        exact ⟨_, _, _, .noPing⟩
      · exact ⟨_, _, _, .firstPing hrounds⟩
  | pinged remaining started awake =>
    have hplace : place = 0 ∨ place = 1 ∧ awake = true := by
      cases awake <;> simp_all [pending]
    rcases hplace with rfl | ⟨rfl, rfl⟩
    · cases started with
      | false => exact ⟨_, _, _, .lateStart⟩
      | true => exact ⟨_, _, _, .pong⟩
    · exact ⟨_, _, _, .clientRests⟩
  | ponged remaining awake =>
    have hplace : place = 1 ∨ place = 0 ∧ awake = true := by
      cases awake <;> simp_all [pending, or_comm]
    rcases hplace with rfl | ⟨rfl, rfl⟩
    · by_cases hremaining : remaining = 0
      · subst hremaining
        exact ⟨_, _, _, .lastPong⟩
      · exact ⟨_, _, _, .nextPing hremaining⟩
    · exact ⟨_, _, _, .serverRests⟩
  | closing started =>
    obtain rfl := List.mem_singleton.mp h
    cases started with
    | false => exact ⟨_, _, _, .lastStart⟩
    | true => exact ⟨_, _, _, .halt⟩
  | closed => contradiction

namespace Turn

variable {ph ph' : Phase} {place : Place} {more : List Place} {told : List Event}

/-- The runs that a turn leaves pending are those of the phase that it leads to. -/
theorem pending_perm (h : Turn ph place ph' more told) :
    (ph.pending.erase place ++ more).Perm ph'.pending := by
  apply List.isPerm_iff.mp
  cases h with
  | start | wait | lastStart | halt | serverRests | clientRests => rfl
  | @firstPing _ stage | @noPing stage =>
    cases stage with
    | created | awake | asleep => rfl
  | @lateStart _ awake | @pong _ awake | @nextPing _ awake | @lastPong awake =>
    cases awake with
    | false | true => rfl

/-- What is told in a turn is what is to be told next. -/
theorem coming_eq (h : Turn ph place ph' more told) : ph.coming = told ++ ph'.coming := by
  cases h with
  | firstPing h | nextPing h =>
    simp only [coming, toNat_sub_one h]
    rfl
  | _ => rfl

/-- Every turn brings the end nearer. -/
theorem rank_lt (h : Turn ph place ph' more told) : ph'.rank < ph.rank := by
  cases h with
  | start | wait | lateStart | clientRests | serverRests | lastStart | halt =>
    simp [rank]
  | @firstPing rounds stage h =>
    have := toNat_sub_one h
    cases stage <;> simp only [rank, Stage.started] <;> simp <;> omega
  | @noPing stage => cases stage <;> simp [rank, Stage.started]
  | @pong _ awake => cases awake <;> simp [rank]
  | @nextPing remaining awake h =>
    have := toNat_sub_one h
    cases awake <;> simp only [rank] <;> simp <;> omega
  | @lastPong awake => cases awake <;> simp [rank]

end Turn

end Phase

/-! ## What the players do

A turn of known length makes its way by evaluation, whatever the books are. Only in two places
does a program depend on a number that is not known: where the client reads its task, and
where it looks whether a round remains. There a turn is taken apart. -/

section Players

/-- The system in serial mode. -/
def serialSystem (config : Config) : System Memory := ⟨catalog, { config with mode := .bugFinding }⟩

/-- From a world with the books `k`, so many small steps lead to a world that is known but for
its books. Those have some more runs pending; what else they keep does not matter. -/
def Plays (config : Config) (k : Books) (n : Nat) (w : World Memory) (told : List Event)
    (more : List Place) (v : Books → World Memory) : Prop :=
  ∃ k' : Books, w.after (serialSystem config) monitorType n = some (told, v k') ∧
    k'.pending = k.pending ++ more ∧ k'.bounded = k.bounded

theorem Plays.trans {config : Config} {k : Books} {n n' : Nat} {w : World Memory}
    {told told' : List Event} {more more' : List Place} {v v' : Books → World Memory}
    (h : Plays config k n w told more v) (h' : ∀ k', Plays config k' n' (v k') told' more' v') :
    Plays config k (n + n') w (told ++ told') (more ++ more') v' := by
  obtain ⟨k', hafter, hpending, hbounded⟩ := h
  obtain ⟨k'', hafter', hpending', hbounded'⟩ := h' k'
  refine ⟨k'', after_add hafter hafter', ?_, hbounded'.trans hbounded⟩
  rw [hpending', hpending, List.append_assoc]

variable {config : Config} {stage : Stage} {remaining : UInt32} {state : Option StateId}
  {e : Event} {k : Books}

/-- The payload of the client is its task. -/
theorem Task.ofPayload?_toPayload (rounds : UInt32) :
    Task.ofPayload? (Task.toPayload ⟨serverId, rounds⟩) = some ⟨serverId, rounds⟩ := by
  have hfields : (Task.toPayload ⟨serverId, rounds⟩).record? ["server", "rounds"]
      = some [some serverId.toPayload, some (.integer rounds.toNat)] := rfl
  simp only [Task.ofPayload?, hfields, Value.required, Value.toUInt32?_toNat]
  rfl

/-- The entry of the start state, for the task. -/
def setupPause (rounds : UInt32) : Paused :=
  ⟨⟨"setup", .entry, ⟨"Init"⟩, .start (some (Task.toPayload ⟨serverId, rounds⟩))⟩, .apply⟩

theorem begin_eq (rounds : UInt32) :
    begin (setupPause rounds).invocation = (do
      let c := (← Body.memory).client?
      Body.remember (.client { c with server := some serverId, remaining := rounds })
      Body.goto ⟨"Playing"⟩) := by
  have htask : Task.ofPayload? ((setupPause rounds).invocation.event.payload.getD .null)
      = some ⟨serverId, rounds⟩ := Task.ofPayload?_toPayload rounds
  simp only [begin, payloadAs, htask]
  rfl

/-- The client in its start state, with the rest of its action. -/
def starting (stage : Stage) (rounds : UInt32) (k : Books) (program : Program Memory Verdict) :
    World Memory :=
  table (PingPong.server stage [] k.served)
    { newClient rounds with
      cell := { (newClient rounds).cell with stack := ⟨[⟨"Init"⟩]⟩ }
      lifecycle := .active
      startPayload := none }
    false k [.acting (.machine 1 clientId) (setupPause rounds) {} (.running program)]

/-- The entry of the state in which the client plays. -/
def servePause (e : Event) : Paused := ⟨⟨"serve", .entry, ⟨"Playing"⟩, e⟩, .apply⟩

/-- The client as it enters that state, with the rest of its action. -/
def entering (stage : Stage) (remaining : UInt32) (state : Option StateId) (e : Event) (k : Books)
    (program : Program Memory Verdict) : World Memory :=
  table (PingPong.server stage [] k.served) (PingPong.client remaining k.pongs [] true state)
    false k [.acting (.machine 1 clientId) (servePause e) {} (.running program)]

/-- The client as it is about to serve. -/
def serving (stage : Stage) (remaining : UInt32) (state : Option StateId) (e : Event) (k : Books) :
    World Memory :=
  entering stage remaining state e k (serve (servePause e).invocation).toProgram

/-- What the client does about a game that it remembers. -/
def nextRound (c : Client) : Body Memory Unit :=
  match c.server with
  | none => Body.throw (.ofMessage "client started without a server")
  | some server =>
    if c.remaining = 0 then do
      Body.send server .halt
      Body.halt
    else do
      Body.remember (.client { c with remaining := c.remaining - 1 })
      Body.notify monitorType (.message ping none)
      Body.send server (.message ping (some (← Body.id).toPayload))

theorem nextRound_of_ne_zero {pongs : UInt32} (h : remaining ≠ 0) :
    nextRound { server := some serverId, remaining, pongs } = (do
      Body.remember (.client { server := some serverId, remaining := remaining - 1, pongs })
      Body.notify monitorType (.message ping none)
      Body.send serverId (.message ping (some (← Body.id).toPayload))) := by
  simp only [nextRound, h, if_false]

theorem plays_load :
    Plays config k 1 (serving stage remaining state e k) [] [] fun k' =>
      entering stage remaining state e k'
        (nextRound { server := some serverId, remaining, pongs := k'.pongs }).toProgram :=
  ⟨k, rfl, (List.append_nil _).symm, rfl⟩

/-- The client sends a ping, which wakes the server if need be. -/
theorem plays_serve (h : remaining ≠ 0) :
    Plays config k 6 (serving stage remaining state e k) [.message ping none] (stage.woken ++ [1])
      fun k' => (Phase.pinged (remaining - 1) stage.started true).world k' [] := by
  have hround (k : Books) : Plays config k 5
      (entering stage remaining state e k
        (nextRound { server := some serverId, remaining, pongs := k.pongs }).toProgram)
      [.message ping none] (stage.woken ++ [1])
      fun k' => (Phase.pinged (remaining - 1) stage.started true).world k' [] := by
    rw [nextRound_of_ne_zero h]
    cases stage with
    | created | awake => exact ⟨{ k with pending := k.pending ++ [1] }, rfl, rfl, rfl⟩
    | asleep =>
      exact ⟨{ k with pending := k.pending ++ [0] ++ [1], active := k.active + 1 }, rfl,
        List.append_assoc k.pending [0] [1], rfl⟩
  exact plays_load.trans hround

/-- Without rounds the client tells the server to halt, and halts. -/
theorem plays_serve_zero :
    Plays config k 4 (serving stage 0 state e k) [] stage.woken
      fun k' => (Phase.closing stage.started).world k' [] := by
  cases stage with
  | created | awake =>
    exact ⟨{ k with active := k.active - 1 }, rfl, (List.append_nil _).symm, rfl⟩
  | asleep =>
    exact ⟨{ k with pending := k.pending ++ [0], active := k.active + 1 - 1 }, rfl, rfl, rfl⟩

/-- The client takes in its task and begins to play. -/
theorem plays_start :
    Plays config k 5 ((Phase.opening remaining stage).world k [.ready 1]) [] []
      fun k' => serving stage remaining none (.goto ⟨"Playing"⟩) k' := by
  let x : Invocation := (setupPause remaining).invocation
  let y : Invocation := (servePause (.goto ⟨"Playing"⟩)).invocation
  have hfirst : Plays config k 1 ((Phase.opening remaining stage).world k [.ready 1]) [] []
      fun k' => starting stage remaining k' (begin x).toProgram :=
    ⟨{ k with journal := .invoked (.machine clientId) x :: k.journal }, rfl,
      (List.append_nil _).symm, rfl⟩
  have hrest (k : Books) : Plays config k 4 (starting stage remaining k (begin x).toProgram) [] []
      fun k' => serving stage remaining none (.goto ⟨"Playing"⟩) k' := by
    rw [begin_eq]
    exact ⟨{ k with journal := .invoked (.machine clientId) y :: k.journal, pongs := 0 }, rfl,
      (List.append_nil _).symm, rfl⟩
  exact hfirst.trans hrest

/-- The client counts a pong and goes on to play. -/
theorem plays_countPong {awake : Bool} :
    Plays config k 4 ((Phase.ponged remaining awake).world k [.ready 1]) [] []
      fun k' => serving (.ofAwake awake) remaining (some ⟨"Playing"⟩) answer k' :=
  let x : Invocation := ⟨"count_pong", .override, ⟨"Playing"⟩, answer⟩
  let y : Invocation := (servePause answer).invocation
  ⟨{ k with
      journal := .invoked (.machine clientId) y :: .invoked (.machine clientId) x :: k.journal
      pongs := k.pongs + 1 }, rfl, (List.append_nil _).symm, rfl⟩

/-- Every turn is a few small steps that lead from phase to phase. -/
theorem Phase.Turn.plays {ph ph' : Phase} {place : Place} {more : List Place} {told : List Event}
    (h : Turn ph place ph' more told) (config : Config) (k : Books) :
    ∃ n ≤ 11, Plays config k n (ph.world k [.ready place]) told more fun k' => ph'.world k' [] := by
  cases h with
  | start | lateStart | lastStart =>
    exact ⟨1, by decide, { k with pending := k.pending ++ [0] }, rfl, rfl, rfl⟩
  | wait | clientRests | serverRests | halt =>
    exact ⟨1, by decide, { k with active := k.active - 1 }, rfl, (List.append_nil _).symm, rfl⟩
  | firstPing h => exact ⟨11, by decide, plays_start.trans fun _ => plays_serve h⟩
  | noPing => exact ⟨9, by decide, plays_start.trans fun _ => plays_serve_zero⟩
  | @pong _ awake =>
    let x : Invocation := ⟨"reply", .handler, ⟨"Serving"⟩, request⟩
    refine ⟨6, by decide, ?_⟩
    cases awake with
    | true =>
      exact ⟨{ k with
        pending := k.pending ++ [0]
        journal := .invoked (.machine serverId) x :: k.journal
        served := k.served + 1 }, rfl, rfl, rfl⟩
    | false =>
      exact ⟨{ k with
        pending := k.pending ++ [1] ++ [0]
        active := k.active + 1
        journal := .invoked (.machine serverId) x :: k.journal
        served := k.served + 1 }, rfl, List.append_assoc k.pending [1] [0], rfl⟩
  | @nextPing _ awake h =>
    have hstarted : (Stage.ofAwake awake).started = true := by cases awake <;> rfl
    exact ⟨10, by decide, plays_countPong.trans fun _ => hstarted ▸ plays_serve h⟩
  | @lastPong awake =>
    have hstarted : (Stage.ofAwake awake).started = true := by cases awake <;> rfl
    exact ⟨8, by decide, plays_countPong.trans fun _ => hstarted ▸ plays_serve_zero⟩

end Players

/-! ## Between turns -/

/-- The pings and pongs that have been sent and not taken in. -/
def inFlight (w : World Memory) : List Event :=
  (w.machines.flatMap fun m => m.mailbox ++ m.received.toList).filter fun e =>
    e.type == ping || e.type == pong

/-- At most one ping or pong is in flight, and the monitor is hot exactly as long as a ping
waits for the server. -/
structure Fair (w : World Memory) : Prop where
  inFlight_le : (inFlight w).length ≤ 1
  hot_iff : w.isMonitorHot monitorType = true ↔
    ∃ m, w.machine? serverId = some m ∧ ∃ e ∈ m.mailbox, e.type = ping

namespace Phase

variable {ph : Phase} {k : Books}

theorem isMonitorHot_world : (ph.world k []).isMonitorHot monitorType = ph.hot := by
  cases ph <;> rfl

theorem machine?_server : (ph.world k []).machine? serverId = some (ph.server k.served) := by
  cases ph with
  | opening _ stage => cases stage <;> rfl
  | pinged _ started _ => cases started <;> rfl
  | ponged _ awake => cases awake <;> rfl
  | closing started => cases started <;> rfl
  | closed => rfl

theorem mailbox_server {served : UInt32} :
    (ph.server served).mailbox =
      match ph with
      | pinged .. => [request]
      | closing _ => [.halt]
      | opening .. | ponged .. | closed => [] := by
  cases ph with
  | opening _ stage => cases stage <;> rfl
  | pinged _ started _ => cases started <;> rfl
  | ponged _ awake => cases awake <;> rfl
  | closing started => cases started <;> rfl
  | closed => rfl

theorem fair : Fair (ph.world k []) where
  inFlight_le := by
    cases ph with
    | opening _ stage => cases stage <;> exact Nat.zero_le 1
    | pinged _ started _ => cases started <;> exact Nat.le_refl 1
    | ponged _ awake => cases awake <;> exact Nat.le_refl 1
    | closing started => cases started <;> exact Nat.zero_le 1
    | closed => exact Nat.zero_le 1
  hot_iff := by
    rw [isMonitorHot_world, machine?_server]
    simp only [Option.some.injEq, exists_eq_left', mailbox_server]
    cases ph with
    | pinged => exact ⟨fun _ => ⟨request, List.mem_singleton_self _, rfl⟩, fun _ => rfl⟩
    | closing =>
      constructor
      · exact nofun
      · rintro ⟨e, he, htype⟩
        obtain rfl := List.mem_singleton.mp he
        contradiction
    | opening | ponged | closed => exact ⟨nofun, nofun⟩

theorem healthy : (ph.world k []).Healthy Fair := ⟨rfl, fun _ => fair⟩

/-! ## Whole games -/

variable {config : Config}

theorem markBound_world (ph : Phase) (k : Books) (config : Config) :
    ∃ bounded, (ph.world k []).markBound config = ph.world { k with bounded } [] ∧
      (config.testing.stepBound = none → bounded = k.bounded) := by
  unfold markBound
  split
  · rename_i bound hbound
    refine ⟨k.bounded || decide (bound ≤ k.steps), rfl, ?_⟩
    rw [hbound]
    exact nofun
  · exact ⟨k.bounded, rfl, fun _ => rfl⟩

theorem beginTurn_world {index : Nat} {place : Place} (h : k.pending[index]? = some place) :
    (ph.world k []).beginTurn index
      = ph.world { k with pending := k.pending.eraseIdx index, steps := k.steps + 1 }
        [.ready place] := by
  have hplace : (ph.world k []).pending[index]? = some place := h
  simp only [beginTurn, beginRun, hplace]
  rfl

theorem nextUntilQuiescent_world {k' : Books}
    (hmark : (ph.world k []).markBound (serialSystem config).config = ph.world k' []) :
    (ph.world k []).nextUntilQuiescent (serialSystem config)
      = if k'.bounded || k'.pending.isEmpty then .returned (ph.world k' []) (.ok ())
        else (ph.world k' []).schedulePending := by
  have hfailed : (ph.world k []).hasFailed = false := rfl
  have hidle : (ph.world k []).frames = [] := rfl
  simp only [nextUntilQuiescent, hidle, hfailed, hmark]
  rfl

/-- Whichever of the pending runs has its turn, a few small steps lead to a later phase. -/
theorem exists_after_beginTurn (config : Config) (hpending : k.pending.Perm ph.pending)
    {index : Nat} (hindex : index < k.pending.length) :
    ∃ (ph' : Phase) (k' : Books) (told : List Event) (n : Nat), n ≤ 11 ∧
      ph'.rank < ph.rank ∧ k'.pending.Perm ph'.pending ∧ k'.bounded = k.bounded ∧
      ph.coming = told ++ ph'.coming ∧
      ((ph.world k []).beginTurn index).after (serialSystem config) monitorType n
        = some (told, ph'.world k' []) := by
  let place : Place := k.pending[index]
  have hplace : k.pending[index]? = some place := List.getElem?_eq_getElem hindex
  have hsplit : (place :: k.pending.eraseIdx index).Perm ph.pending :=
    (List.getElem_cons_eraseIdx_perm hindex).trans hpending
  have hothers : (k.pending.eraseIdx index).Perm (ph.pending.erase place) := by
    simpa using hsplit.erase place
  obtain ⟨ph', more, told, hturn⟩ := exists_turn (hsplit.subset List.mem_cons_self)
  obtain ⟨n, hn, k', hafter, hmore, hbounded⟩ := hturn.plays config
    { k with pending := k.pending.eraseIdx index, steps := k.steps + 1 }
  have hperm : k'.pending.Perm ph'.pending := by
    rw [hmore]
    exact (hothers.append_right more).trans hturn.pending_perm
  refine ⟨ph', k', told, n, hn, hturn.rank_lt, hperm, hbounded, hturn.coming_eq, ?_⟩
  rw [beginTurn_world hplace]
  exact hafter

/-- From every phase on, whatever is scheduled, the game comes to its end, unless the step
bound is reached before. A turn takes at most twelve moves, the one that begins it included. -/
theorem exists_course [ChoiceSource τ] (config : Config) (hpending : k.pending.Perm ph.pending)
    {budget : Nat} (hbudget : 12 * ph.rank < budget) (source : τ) :
    ∃ told t, Course (serialSystem config) monitorType Fair budget ⟨ph.world k [], source⟩ told t ∧
      ∃ ph' k', t.world = ph'.world k' [] ∧
        (config.testing.stepBound = none → k.bounded = false →
          ph' = closed ∧ k'.pending = [] ∧ told = ph.coming) := by
  induction hrank : ph.rank using Nat.strongRecOn generalizing ph k budget source with
  | ind rank ih =>
    subst hrank
    obtain ⟨budget, rfl⟩ : ∃ n, budget = n + 1 := Nat.exists_eq_add_one.mpr (by omega)
    obtain ⟨bounded, hmark, hbound⟩ := markBound_world ph k (serialSystem config).config
    have hmove := nextUntilQuiescent_world hmark
    by_cases hstop : (bounded || k.pending.isEmpty) = true
    · rw [if_pos hstop] at hmove
      refine ⟨[], _, .returned healthy healthy rfl rfl hmove, ph, _, rfl, ?_⟩
      intro hnone hgoes
      have hempty : k.pending = [] := by simpa [hbound hnone, hgoes] using hstop
      have hclosed : ph = closed := by
        rw [hempty] at hpending
        exact eq_closed_of_pending hpending.nil_eq.symm
      subst hclosed
      exact ⟨rfl, hempty, rfl⟩
    · rw [if_neg hstop] at hmove
      have hne : k.pending ≠ [] := by
        intro hempty
        simp [hempty] at hstop
      apply Course.schedule healthy rfl hmove hne
      intro index hindex source
      obtain ⟨ph', k', told, n, hn, hless, hpending', hbounded, hcoming, hafter⟩ :=
        exists_after_beginTurn config (k := { k with bounded }) hpending hindex
      have hleft : 12 * ph'.rank < budget - n := by omega
      obtain ⟨told', t, hcourse, ph'', k'', ht, hlast⟩ :=
        ih ph'.rank hless hpending' hleft source rfl
      have hgame := hcourse.turn rfl rfl hafter
      rw [Nat.sub_add_cancel (by omega)] at hgame
      refine ⟨told ++ told', t, hgame, ph'', k'', ht, ?_⟩
      intro hnone hgoes
      obtain ⟨hclosed, hempty, rfl⟩ := hlast hnone (hbounded.trans ((hbound hnone).trans hgoes))
      exact ⟨hclosed, hempty, hcoming.symm⟩

end Phase

/-! ## Runs and explorations -/

/-- The books of a game that has not begun. -/
def newBooks : Books where
  pending := [0, 1]
  active := 2
  steps := 0
  bounded := false
  journal := []
  served := 0
  pongs := 0

/-- The world of a game that has not begun. -/
def opened (rounds : UInt32) : World Memory :=
  (Phase.opening rounds .created).world newBooks []

section Runs

variable [ChoiceSource τ] {config : Config}

/-- A number of moves within which every game ends. -/
def enough (rounds : UInt32) : Nat := 48 * rounds.toNat + 61

theorem enough_le_ample (rounds : UInt32) : enough rounds ≤ Session.ample := by
  have hrounds : rounds.toNat < 2 ^ 32 := rounds.toNat_lt
  unfold enough Session.ample
  omega

theorem serialSystem_eq (hserial : config.serial = true) :
    (⟨catalog, config⟩ : System Memory) = serialSystem config := by
  have hmode : config.mode = .bugFinding := by simpa [Config.serial] using hserial
  simp [serialSystem, ← hmode]

theorem execute_setup (sys : System Memory) (hsys : sys.catalog = catalog) (budget : Nat)
    (source : τ) (rounds : UInt32) :
    Session.execute sys budget { source } (setup rounds)
      = (.ok (.ok clientId), ⟨opened rounds, source⟩) := by
  obtain ⟨_, config⟩ := sys
  subst hsys
  rfl

/-- A game that has been set up is played to its end, within healthy worlds only. -/
theorem exists_course_opened (config : Config) (source : τ) (rounds : UInt32) {budget : Nat}
    (hbudget : enough rounds ≤ budget) :
    ∃ told t, Course (serialSystem config) monitorType Fair budget ⟨opened rounds, source⟩ told t ∧
      ∃ (ph : Phase) (k : Books), t.world = ph.world k [] ∧
        (config.testing.stepBound = none →
          ph = .closed ∧ k.pending = [] ∧ told = exchanges rounds.toNat) := by
  have hrank : (Phase.opening rounds .created).rank = 4 * rounds.toNat + 5 := rfl
  have hmoves : 12 * (Phase.opening rounds .created).rank < budget := by
    unfold enough at hbudget
    omega
  obtain ⟨told, t, hcourse, ph, k, ht, hend⟩ := Phase.exists_course config (k := newBooks)
    (.refl _) hmoves source
  exact ⟨told, t, hcourse, ph, k, ht, fun hnone => hend hnone rfl⟩

/-- The setup of an exploration. -/
def exploredSetup (rounds : UInt32) : Setup Memory :=
  (setup rounds).bind fun client => .done (client.map fun _ => ())

/-- A run of an exploration does not fail, be there a step bound or not. -/
theorem iterate_ok (config : Config) (source : τ) (rounds : UInt32) :
    ∃ steps bounded t, Exploration.iterate (serialSystem config) Session.ample source
      (exploredSetup rounds) = (.ok (.ok (steps, bounded)), t) := by
  obtain ⟨told, t, hcourse, _⟩ :=
    exists_course_opened config source rounds (enough_le_ample rounds)
  have hsetup : Session.execute (serialSystem config) Session.ample { source }
      (exploredSetup rounds) = (.ok (.ok ()), ⟨opened rounds, source⟩) := rfl
  refine ⟨t.world.steps, t.world.bounded, t, ?_⟩
  simp only [Exploration.iterate, hsetup, hcourse.run_eq rfl]
  rfl

/-- An exploration that has found no bug yet finds none. -/
theorem explore_bug (config : Config) (rounds : UInt32) (remaining iteration : Nat)
    {report : Exploration.Report} (hreport : report.bug = none) (w : World Memory) :
    ∃ report', (Exploration.explore (serialSystem config) Session.ample (exploredSetup rounds)
      remaining iteration report w).1 = .ok report' ∧ report'.bug = none := by
  induction remaining generalizing iteration report w with
  | zero => exact ⟨report, rfl, hreport⟩
  | succ remaining ih =>
    obtain ⟨steps, bounded, t, hiterate⟩ := iterate_ok config
      (Exploration.recorder (Exploration.seed (serialSystem config).config iteration)) rounds
    simp only [Exploration.explore, hiterate]
    refine ih _ ?_ _
    exact hreport

end Runs

/-! ## Results -/

/-- Under every choice source, and for every number of rounds, the serial system that has been
set up runs to its end, if there is no step bound. Nothing fails on the way. Between turns at
most one ping or pong is in flight, and the monitor is hot exactly while a ping waits for the
server. The monitor gets so many pings, each followed by a pong, and nothing else. In the end
nothing is left to do, both players have halted and the monitor is in its cold state. So an
exploration never finds a bug, whatever its configuration, and the command that reports it
complains of nothing. -/
theorem correct_under_every_schedule (rounds : UInt32) :
    (∀ {τ : Type} [ChoiceSource τ] (source : τ) (config : Config), config.serial = true →
      config.testing.stepBound = none → ∀ budget, enough rounds ≤ budget →
        let sys : System Memory := ⟨catalog, config⟩
        ∃ (begun ended : Session Memory τ) (steps : Nat),
          Session.execute sys budget { source } (setup rounds) = (.ok (.ok clientId), begun) ∧
          begun.run sys budget = (.ok (.ok steps), ended) ∧
          (∀ w ∈ begun.worlds (nextUntilQuiescent sys) budget,
            w.failure = none ∧ (w.frames = [] → Fair w)) ∧
          (begun.worlds (nextUntilQuiescent sys) budget).filterMap (·.notice? monitorType)
            = exchanges rounds.toNat ∧
          ended.world.frames = [] ∧ ended.world.pending = [] ∧
          (∀ id ∈ [serverId, clientId],
            (ended.world.machine? id).map Machine.lifecycle = some .halted) ∧
          ended.world.monitorState? monitorType = some ⟨"Answered"⟩ ∧
          ended.world.isMonitorCold monitorType = true) ∧
    ∀ config : Config,
      (∃ report, (Exploration.run ⟨catalog, config⟩ Session.ample (exploredSetup rounds)).1
        = .ok report ∧ report.bug = none) ∧
      (CommandLine.runExploration config rounds).complaint = none := by
  constructor
  · intro τ _ source config hserial hbound budget hbudget sys
    have hsys : sys = serialSystem config := serialSystem_eq hserial
    obtain ⟨told, t, hcourse, ph, k, ht, hend⟩ :=
      exists_course_opened config source rounds hbudget
    obtain ⟨rfl, hpending, rfl⟩ := hend hbound
    rw [hsys]
    refine ⟨⟨opened rounds, source⟩, t, _, execute_setup _ rfl budget source rounds,
      hcourse.run_eq rfl, ?_, hcourse.filterMap_notice?, hcourse.healthy_last.2, ?_⟩
    · intro w hw
      have hhealthy := hcourse.healthy_of_mem w hw
      exact ⟨hhealthy.failure, hhealthy.between⟩
    · rw [ht]
      refine ⟨hpending, ?_, rfl, rfl⟩
      intro id hid
      rcases List.mem_cons.mp hid with rfl | hid
      · rfl
      · obtain rfl := List.mem_singleton.mp hid
        rfl
  · intro config
    obtain ⟨report, hrun, hbug⟩ : ∃ report,
        (Exploration.run ⟨catalog, config⟩ Session.ample (exploredSetup rounds)).1
          = .ok report ∧ report.bug = none :=
      explore_bug config.forExploration rounds _ 0 rfl _
    refine ⟨⟨report, hrun, hbug⟩, ?_⟩
    have hcommand : (Exploration.run ⟨catalog, config⟩ Session.ample
        ((setup rounds).bind fun client => .done (client.map fun _ => ()))).1 = .ok report := hrun
    simp only [CommandLine.runExploration, hcommand, hbug]
    rfl

/-- Without a step bound. -/
def unbounded : Config := { Config.bugFinding 0 with testing := { maxSteps := 0 } }

theorem correct_under_every_schedule_two :
    unbounded.serial = true ∧ unbounded.testing.stepBound = none ∧ enough 2 ≤ 200 ∧
      ∃ (begun ended : Session Memory CyclicChoice) (steps : Nat),
        Session.execute ⟨catalog, unbounded⟩ 200 { source := { numbers := [1, 0] } } (setup 2)
          = (.ok (.ok clientId), begun) ∧
        begun.run ⟨catalog, unbounded⟩ 200 = (.ok (.ok steps), ended) ∧
        (begun.worlds (nextUntilQuiescent ⟨catalog, unbounded⟩) 200).filterMap
            (·.notice? monitorType)
          = [.message ping none, .message pong none, .message ping none, .message pong none] := by
  have henough : enough 2 ≤ 200 := by decide
  obtain ⟨begun, ended, steps, hbegun, hrun, _, htold, _⟩ :=
    (correct_under_every_schedule 2).1 ({ numbers := [1, 0] } : CyclicChoice) unbounded rfl rfl 200
      henough
  exact ⟨rfl, rfl, henough, begun, ended, steps, hbegun, hrun, htold⟩

end PingPong

end PushdownActors
