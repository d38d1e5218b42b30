-- SUMMARY: Values with holes that are filled in when they are needed.
import PushdownActors.Event

/-!
# Templates

A template is a value in which an object with a single field, named with a
leading `$`, may stand for something known only later. Filling a template
replaces these and leaves everything else as it is.
-/

namespace PushdownActors.Template

mutual

/-- Fills a template: `resolve` gives what a hole stands for, by its name and
its argument, and leaves alone what is not a hole. -/
def fill (resolve : String → Value → Option Value) : Value → Value
  | .object [(name, argument)] =>
    match resolve name argument with
    | some v => v
    | none => .object [(name, fill resolve argument)]
  | .object fields => .object (fillFields resolve fields)
  | .array items => .array (fillItems resolve items)
  | v => v

def fillItems (resolve : String → Value → Option Value) : List Value → List Value
  | [] => []
  | v :: rest => fill resolve v :: fillItems resolve rest

def fillFields (resolve : String → Value → Option Value) :
    List (String × Value) → List (String × Value)
  | [] => []
  | (name, v) :: rest => (name, fill resolve v) :: fillFields resolve rest

end

/-- Follows a path of field names and indices into a value. -/
def follow : List Value → Value → Option Value
  | [], v => some v
  | .string name :: path, v => (v.field? name).bind (follow path)
  | .integer index :: path, v =>
    if 0 ≤ index then (v.item? index.toNat).bind (follow path) else none
  | _ :: _, _ => none

/-- What a path into a payload leads to, or null. -/
def ofPayload (payload : Option Value) (path : Value) : Value :=
  match path with
  | .array path => ((payload.bind (follow path))).getD .null
  | _ => .null

end PushdownActors.Template

namespace PushdownActors

/-- Reads an event: the name of its type, or an object that names a type and may
add a payload, or a state to move to, or the payload of a start. -/
def Event.ofValue? : Value → Option Event
  | .string type => some (.message ⟨type⟩ none)
  | v =>
    match v.field? "goto", v.field? "start", v.field? "kind" with
    | some target, _, _ => target.toString?.map fun s => .goto ⟨s⟩
    | none, some .null, _ => some (.start none)
    | none, some payload, _ => some (.start (some payload))
    | none, none, some type => type.toString?.map fun s => .message ⟨s⟩ (v.field? "payload")
    | none, none, none => none

end PushdownActors
