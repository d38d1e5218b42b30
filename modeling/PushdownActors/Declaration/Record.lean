-- SUMMARY: Declarations as structured values, written and read.
import PushdownActors.Declaration

/-!
# Declarations as values

A declaration is written as nested records. What is empty or absent is left
out, except that the states of a declaration or group and the three marks of a
state are always written. Reading takes both forms of a record, fills in what
is left out, and skips fields that it does not know.
-/

namespace PushdownActors

/-! ## Writing -/

/-- A field that is left out when there is nothing to write. -/
def Value.listField (name : String) : List Value → List (String × Value)
  | [] => []
  | items => [(name, .array items)]

/-- A field that is left out when it is absent. -/
def Value.optionalField (name : String) : Option Value → List (String × Value)
  | none => []
  | some v => [(name, v)]

namespace GotoRule

def toValue (r : GotoRule) : Value :=
  .ofFields ([("on", .string r.on.name), ("to", .string r.target.name)]
    ++ Value.optionalField "with" (r.action.map .string))

end GotoRule

namespace PushRule

def toValue (r : PushRule) : Value :=
  .ofFields [("on", .string r.on.name), ("to", .string r.target.name)]

end PushRule

namespace ActionRule

def toValue (r : ActionRule) : Value :=
  .ofFields [("on", .string r.on.name), ("do", .string r.action)]

end ActionRule

namespace StateSpec

def toValue (s : StateSpec) : Value :=
  .ofFields
    ([("name", .string s.name), ("start", .bool s.start)]
      ++ Value.optionalField "entry" (s.entry.map .string)
      ++ Value.optionalField "exit" (s.exit.map .string)
      ++ Value.listField "goto" (s.gotos.map GotoRule.toValue)
      ++ Value.listField "push" (s.pushes.map PushRule.toValue)
      ++ Value.listField "actions" (s.actions.map ActionRule.toValue)
      ++ Value.listField "ignore" (s.ignored.map fun e => .string e.name)
      ++ Value.listField "defer" (s.deferred.map fun e => .string e.name)
      ++ [("hot", .bool s.hot), ("cold", .bool s.cold)])

end StateSpec

mutual

def GroupSpec.toValue : GroupSpec → Value
  | ⟨name, states, groups⟩ =>
    .ofFields
      ([("name", .string name), ("states", .array (states.map StateSpec.toValue))]
        ++ Value.listField "groups" (GroupSpec.toValues groups))

def GroupSpec.toValues : List GroupSpec → List Value
  | [] => []
  | g :: rest => g.toValue :: GroupSpec.toValues rest

end

def Declaration.toValue (d : Declaration) : Value :=
  .ofFields
    ([("states", .array (d.states.map StateSpec.toValue))]
      ++ Value.listField "groups" (GroupSpec.toValues d.groups)
      ++ Value.optionalField "meta" d.about)

/-! ## Reading -/

def EventType.ofValue? (v : Value) : Option EventType := v.toString?.map EventType.mk

def StateId.ofValue? (v : Value) : Option StateId := v.toString?.map StateId.mk

namespace GotoRule

def ofValue? (v : Value) : Option GotoRule :=
  match v.record? ["on", "to", "with"] with
  | some [on, target, action] => do
    return { on := ← Value.required EventType.ofValue? on
             target := ← Value.required StateId.ofValue? target
             action := ← Value.optional Value.toString? action }
  | _ => none

end GotoRule

namespace PushRule

def ofValue? (v : Value) : Option PushRule :=
  match v.record? ["on", "to"] with
  | some [on, target] => do
    return { on := ← Value.required EventType.ofValue? on
             target := ← Value.required StateId.ofValue? target }
  | _ => none

end PushRule

namespace ActionRule

def ofValue? (v : Value) : Option ActionRule :=
  match v.record? ["on", "do"] with
  | some [on, action] => do
    return { on := ← Value.required EventType.ofValue? on
             action := ← Value.required Value.toString? action }
  | _ => none

end ActionRule

namespace StateSpec

def ofValue? (v : Value) : Option StateSpec :=
  match v.record?
    ["name", "start", "entry", "exit", "goto", "push", "actions", "ignore", "defer", "hot", "cold"]
    with
  | some [name, start, entry, exit, gotos, pushes, actions, ignored, deferred, hot, cold] => do
    return { name := ← Value.required Value.toString? name
             start := ← Value.defaulted false Value.toBool? start
             entry := ← Value.optional Value.toString? entry
             exit := ← Value.optional Value.toString? exit
             gotos := ← Value.defaulted [] (Value.toList? GotoRule.ofValue?) gotos
             pushes := ← Value.defaulted [] (Value.toList? PushRule.ofValue?) pushes
             actions := ← Value.defaulted [] (Value.toList? ActionRule.ofValue?) actions
             ignored := ← Value.defaulted [] (Value.toList? EventType.ofValue?) ignored
             deferred := ← Value.defaulted [] (Value.toList? EventType.ofValue?) deferred
             hot := ← Value.defaulted false Value.toBool? hot
             cold := ← Value.defaulted false Value.toBool? cold }
  | _ => none

/-- The states of a group or declaration; they may be left out. -/
def listOfField? : Option Value → Option (List StateSpec) :=
  Value.defaulted [] (Value.toList? ofValue?)

end StateSpec

mutual

/-- Reads a group: its name, then its states, then the groups inside it. -/
def GroupSpec.ofValue? : Value → Option GroupSpec
  | .object fields => do
    let name ← Value.required Value.toString? (fields.lookup "name")
    let states ← StateSpec.listOfField? (fields.lookup "states")
    let groups ← GroupSpec.listOfFields? fields
    return { name, states, groups }
  | .array [name] => do
    return { name := ← name.toString? }
  | .array [name, states] => do
    return { name := ← name.toString?, states := ← StateSpec.listOfField? (some states) }
  | .array [name, states, groups] => do
    let name ← name.toString?
    let states ← StateSpec.listOfField? (some states)
    let groups ← GroupSpec.listOfValue? groups
    return { name, states, groups }
  | _ => none

/-- The groups under the first field of that name; they may be left out. -/
def GroupSpec.listOfFields? : List (String × Value) → Option (List GroupSpec)
  | [] => some []
  | (name, v) :: rest =>
    if name = "groups" then GroupSpec.listOfValue? v else GroupSpec.listOfFields? rest

def GroupSpec.listOfValue? : Value → Option (List GroupSpec)
  | .array items => GroupSpec.listOfItems? items
  | _ => none

def GroupSpec.listOfItems? : List Value → Option (List GroupSpec)
  | [] => some []
  | v :: rest => do
    let g ← GroupSpec.ofValue? v
    let gs ← GroupSpec.listOfItems? rest
    return g :: gs

end

def Declaration.ofValue? (v : Value) : Option Declaration :=
  match v.record? ["states", "groups", "meta"] with
  | some [states, groups, about] => do
    return { states := ← StateSpec.listOfField? states
             groups := ← Value.defaulted [] GroupSpec.listOfValue? groups
             about := ← Value.optional some about }
  | _ => none

end PushdownActors
