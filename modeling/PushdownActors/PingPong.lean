-- SUMMARY: The ping-pong system: a client that plays rounds against a server, and a monitor of their exchange.
import PushdownActors.Exploration

/-!
# Ping-pong

The client sends a ping and waits for the pong, as many rounds as it was told,
then halts the server and itself. The server answers every ping. The monitor is
hot while a ping waits for its pong.
-/

namespace PushdownActors.PingPong

/-! ## Memory -/

/-- What the client remembers. -/
structure Client where
  server : Option MachineId := none
  /-- Rounds still to be played. -/
  remaining : UInt32 := 0
  pongs : UInt32 := 0
  deriving DecidableEq, Inhabited

/-- What the server remembers. -/
structure Server where
  /-- Pings answered. -/
  served : UInt32 := 0
  deriving DecidableEq, Inhabited

/-- What a machine or monitor of the system remembers. -/
inductive Memory where
  | client (c : Client)
  | server (s : Server)
  | monitor
  deriving DecidableEq, Inhabited

namespace Memory

def client? : Memory → Client
  | client c => c
  | _ => {}

def server? : Memory → Server
  | server s => s
  | _ => {}

end Memory

/-! ## Events and payloads -/

def clientType : String := "Client"
def serverType : String := "Server"
def monitorType : String := "PongLiveness"

def ping : EventType := ⟨"Ping"⟩
def pong : EventType := ⟨"Pong"⟩

/-- What the client is created with. -/
structure Task where
  server : MachineId
  rounds : UInt32

namespace Task

def toPayload (t : Task) : Value :=
  .ofFields [("server", t.server.toPayload), ("rounds", .integer t.rounds.toNat)]

def ofPayload? (v : Value) : Option Task :=
  match v.record? ["server", "rounds"] with
  | some [server, rounds] => do
    return { server := ← Value.required MachineId.ofPayload? server
             rounds := ← Value.required Value.toUInt32? rounds }
  | _ => none

end Task

/-- Reads the payload of the event at hand; no payload counts as null. -/
def payloadAs (read : Value → Option α) (i : Invocation) : Body Memory α :=
  match read (i.event.payload.getD .null) with
  | some a => pure a
  | none => Body.throw .undecodable

/-! ## Actions -/

/-- The server answers the machine whose identity came with the ping. -/
def reply (i : Invocation) : Body Memory Unit := do
  let client ← payloadAs MachineId.ofPayload? i
  let s := (← Body.memory).server?
  Body.remember (.server { s with served := s.served + 1 })
  Body.notify monitorType (.message pong none)
  Body.send client (.message pong none)

/-- The client takes in its task. -/
def begin (i : Invocation) : Body Memory Unit := do
  let task ← payloadAs Task.ofPayload? i
  let c := (← Body.memory).client?
  Body.remember (.client { c with server := some task.server, remaining := task.rounds })
  Body.goto ⟨"Playing"⟩

/-- The client plays the next round, or ends the game when there is none left. -/
def serve (_ : Invocation) : Body Memory Unit := do
  let c := (← Body.memory).client?
  match c.server with
  | none => Body.throw (.ofMessage "client started without a server")
  | some server =>
    if c.remaining = 0 then
      Body.send server .halt
      Body.halt
    else
      Body.remember (.client { c with remaining := c.remaining - 1 })
      Body.notify monitorType (.message ping none)
      Body.send server (.message ping (some (← Body.id).toPayload))

/-- The client counts the pongs that it gets. -/
def countPong (_ : Invocation) : Body Memory Unit := do
  let c := (← Body.memory).client?
  Body.remember (.client { c with pongs := c.pongs + 1 })

/-! ## Types -/

def serverDescription : Description Memory :=
  let d : Description Memory := {}
  (d.state (({ name := "Serving" } : StateSpec).asStart.onEvent ping.name "reply")).action
    "reply" fun i => (reply i).toProgram

def clientDescription : Description Memory :=
  let d : Description Memory := {}
  let d := d.state (({ name := "Init" } : StateSpec).asStart.withEntry "setup")
  let d := d.state
    (({ name := "Playing" } : StateSpec).withEntry "serve" |>.onGotoWith pong.name "Playing"
      "count_pong")
  let d := d.action "setup" fun i => (begin i).toProgram
  let d := d.action "serve" fun i => (serve i).toProgram
  d.action "count_pong" fun i => (countPong i).toProgram

def monitorDescription : Description Memory :=
  let d : Description Memory := {}
  let d := d.state
    (({ name := "Answered" } : StateSpec).asStart.asCold.onGoto ping.name "Waiting")
  d.state (({ name := "Waiting" } : StateSpec).asHot.onGoto pong.name "Answered")

def catalog : Catalog Memory := fun type =>
  if type = serverType then { fresh := .server {}, describe := fun _ => serverDescription }
  else if type = clientType then { fresh := .client {}, describe := fun _ => clientDescription }
  else if type = monitorType then { fresh := .monitor, describe := fun _ => monitorDescription }
  else { fresh := .monitor, describe := fun _ => {} }

/-- Registers the monitor and creates one server and one client, whose identity is
the answer. -/
def setup (rounds : UInt32) : Entry Memory (Except RuntimeError MachineId) :=
  .perform (.register monitorType) fun
    | .error e => .done (.error e)
    | .ok () => .perform (.create serverType none) fun
      | .error e => .done (.error e)
      | .ok server =>
        .perform (.create clientType (some (Task.toPayload ⟨server, rounds⟩))) .done

end PushdownActors.PingPong
