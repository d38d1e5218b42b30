-- SUMMARY: The identity of a machine, its written forms and order, and the stages of its life.
import PushdownActors.Event

/-!
# Machine identity

A machine is known by the name of its type and a number that is unique within
one runtime. The identity outlives the machine: it stays a valid address for
sends after the machine has halted.
-/

namespace PushdownActors

structure MachineId where
  typeName : String
  value : UInt64
  deriving DecidableEq, Inhabited

namespace MachineId

def text (id : MachineId) : String :=
  id.typeName ++ "(" ++ toString id.value.toNat ++ ")"

/-- The identity as a value, so that events can carry it. -/
def toPayload (id : MachineId) : Value :=
  .object [("type", .string id.typeName), ("value", .integer id.value.toNat)]

/-- Reads an identity back from a value. -/
def ofPayload? (v : Value) : Option MachineId :=
  match v.record? ["type", "value"] with
  | some [typeName, value] => do
    return { typeName := ← Value.required Value.toString? typeName
             value := ← Value.required Value.toUInt64? value }
  | _ => none

/-- Identities are ordered by type name, then by number. -/
def le (a b : MachineId) : Bool :=
  a.typeName < b.typeName || (a.typeName == b.typeName && a.value ≤ b.value)

end MachineId

/-- How far a machine has come. -/
inductive Lifecycle where
  /-- Made, but its start state has not been entered. -/
  | created
  /-- Started, and reached by sends. -/
  | active
  /-- Ended; sends to it are dropped. -/
  | halted
  deriving DecidableEq, Repr, Inhabited

namespace Lifecycle

def text : Lifecycle → String
  | created => "created"
  | active => "active"
  | halted => "halted"

def ofText? : String → Option Lifecycle
  | "created" => some created
  | "active" => some active
  | "halted" => some halted
  | _ => none

def ofValue? (v : Value) : Option Lifecycle :=
  v.plainCase?.bind ofText?

end Lifecycle

end PushdownActors
