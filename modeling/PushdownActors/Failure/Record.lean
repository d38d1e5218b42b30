-- SUMMARY: Failures as structured values, written and read.
import PushdownActors.Failure

/-!
# Failures as values

A failure is written as an object that leaves out the machine and the state
when there is none. A kind is its name, or, for a failed action, an object that
maps the name to an object with the error's type.
-/

namespace PushdownActors

namespace FailureKind

def toValue : FailureKind → Value
  | registry => .string "registry"
  | protocol => .string "protocol"
  | assertion => .string "assertion"
  | action typeName => .object [("action", .object [("type_name", .string typeName)])]
  | deadlock => .string "deadlock"

def ofValue? (v : Value) : Option FailureKind :=
  match v.case? with
  | some ("action", some detail) =>
    ((detail.field? "type_name").bind Value.toString?).map action
  | _ =>
    match v.plainCase? with
    | some "registry" => some registry
    | some "protocol" => some protocol
    | some "assertion" => some assertion
    | some "deadlock" => some deadlock
    | _ => none

end FailureKind

namespace Failure

def toValue (f : Failure) : Value :=
  .ofFields
    ([("kind", f.kind.toValue), ("message", .string f.message)]
      ++ (f.machine.map fun m => ("machine", Value.string m)).toList
      ++ (f.state.map fun s => ("state", Value.string s)).toList)

def ofValue? (v : Value) : Option Failure :=
  match v.record? ["kind", "message", "machine", "state"] with
  | some [kind, message, machine, state] => do
    return { kind := ← Value.required FailureKind.ofValue? kind
             message := ← Value.required Value.toString? message
             machine := ← Value.optional Value.toString? machine
             state := ← Value.optional Value.toString? state }
  | _ => none

end Failure

end PushdownActors
