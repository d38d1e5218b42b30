-- SUMMARY: The meaning of scripted actions, and machine and monitor types described by values.
import PushdownActors.Failure.Record
import PushdownActors.Registry
import PushdownActors.Script.Instruction
import PushdownActors.Script.Template

/-!
# Scripted actions

Scripts give actions as data, so that whole systems can be written down as
values. A scripted machine or monitor remembers named variables, which are empty
at first. An instruction whose operation fails ends the action with that error,
unless it says that the error is to be dropped. What instructions store and drop
is remarked in the journal.
-/

namespace PushdownActors.Script

/-- The variables of a scripted machine or monitor, in the order of their names. -/
abbrev Variables := List (String × Value)

/-! ## Templates -/

/-- What a hole in a template stands for: a variable, or a part of the payload of
the event at hand. -/
def resolve (vars : Variables) (event : Event) (name : String) (argument : Value) :
    Option Value :=
  match name with
  | "$var" => some ((argument.toString?.bind fun name => vars.lookup name).getD .null)
  | "$payload" => some (Template.ofPayload event.payload argument)
  | _ => none

/-- A template, filled for the invocation at hand. -/
def filled (i : Invocation) (template : Value) : Body Variables Value := do
  return Template.fill (resolve (← Body.memory) i.event) template

/-- Templates for arguments, filled for the invocation at hand. -/
def filledFields (i : Invocation) (arguments : List (String × Value)) :
    Body Variables (List (String × Value)) := do
  return Template.fillFields (resolve (← Body.memory) i.event) arguments

/-! ## Operations -/

def bad (what : String) : ActionError :=
  .ofMessage ("bad instruction: " ++ what)

/-- Sets a variable. -/
def assign (target : String) (value : Value) : Body Variables Unit := do
  Body.remember (Value.insertField target value (← Body.memory))

/-- Remarks the result of an instruction and keeps it in a variable, if one is named. -/
def keep (name : String) (result : Option String) (value : Value) : Body Variables Unit := do
  Body.remark (.stored name value)
  match result with
  | some target => assign target value
  | none => pure ()

/-- Reads an event, which has to have the form of one. -/
def eventOf (name : String) (v : Value) : Body Variables Event :=
  match Event.ofValue? v with
  | some e => pure e
  | none => Body.throw (bad name)

/-- Reads the payload as a value of the named type; no payload counts as null. -/
def payloadAs (type : String) (payload : Option Value) : Option Value :=
  let v := payload.getD .null
  match type with
  | "u32" => v.toUInt32?.map fun n => .integer n.toNat
  | "i64" => v.toInt64?.map .integer
  | "bool" => v.toBool?.map .bool
  | "string" => v.toString?.map .string
  | "option_u32" =>
    match v with
    | .null => some .null
    | v => v.toUInt32?.map fun n => .integer n.toNat
  | "list_u8" =>
    (v.toList? Value.toUInt8?).map fun ns => .array (ns.map fun n => .integer n.toNat)
  | "machine_id" => (MachineId.ofPayload? v).map MachineId.toPayload
  | _ => none

/-- Reads a text as a value of the named type and prints it again. -/
def parsed (type text : String) : Except NumeralError String :=
  match type with
  | "u8" => (Numeral.uint8 text).map fun n => toString n.toNat
  | "i64" => (Numeral.int64 text).map fun n => toString n
  | "bool" => (Numeral.bool text).map fun b => if b then "true" else "false"
  | _ => (Numeral.uint32 text).map fun n => toString n.toNat

/-- A number that takes part in a sum; what is no number counts as zero. -/
def summand (v : Value) : Int :=
  v.toInt64?.getD 0

/-- The meaning of an operation; `name` and `result` are those of its instruction. -/
def Operation.body (i : Invocation) (name : String) (result : Option String) :
    Operation → Body Variables Unit
  | .raise event => do Body.raise (← eventOf name event)
  | .goto state => Body.goto ⟨state⟩
  | .push state => Body.push ⟨state⟩
  | .pop => Body.pop
  | .halt => Body.halt
  | .send target event => do
    match MachineId.ofPayload? target with
    | some machine => Body.send machine (← eventOf name event)
    | none => Body.throw (bad "to")
  | .create type payload => do keep name result (← Body.create type payload).toPayload
  | .notify type event => do Body.notify type (← eventOf name event)
  | .id => do keep name result (← Body.id).toPayload
  | .random => do keep name result (.bool (← Body.random))
  | .randomBelow bound => do
    let n ← Body.randomBelow (bound.toUInt64?.getD 0)
    keep name result (.integer n.toNat)
  | .receive types => do
    let e ← Body.receive (types.map EventType.mk)
    keep name result
      (.ofFields [("kind", .string e.type.name), ("payload", e.payload.getD .null)])
  | .assert holds message => Body.assert (holds == .bool true) message
  | .payloadAs type =>
    match Script.payloadAs type i.event.payload with
    | some v => keep name result v
    | none => Body.throw .undecodable
  | .parse type text =>
    match parsed type text with
    | .ok printed => keep name result (.string printed)
    | .error e => Body.throw (.ofNumeral e)
  | .error message => Body.throw (.ofMessage message)
  | .fail failure =>
    match Failure.ofValue? failure with
    | some f => Body.throw (.failure f)
    | none => Body.throw (bad name)
  | .panic message => Body.panic message
  | .set target value => assign target value
  | .add target amount => do
    let old := summand (((← Body.memory).lookup target).getD .null)
    assign target (.integer (old + summand amount))
  | .log value => Body.remark (.stored "log" value)
  | .unknown => Body.throw (bad name)

/-! ## Instructions -/

/-- Drops the error of a part of an action, with a remark. A panic is no error. -/
def swallowing (name : String) (swallow : Bool) (b : Body Variables Unit) :
    Body Variables Unit := do
  if swallow then
    match ← Body.attempt b with
    | .ok => pure ()
    | .error e => Body.remark (.swallowed name e.toFailure)
    | .panicked message => Body.panic message
  else b

mutual

def Instruction.body (i : Invocation) : Instruction → Body Variables Unit
  | .simple name arguments result swallow =>
    swallowing name swallow do
      (Operation.ofFields name (← filledFields i arguments)).body i name result
  | .branch left right onEqual onOther swallow =>
    swallowing "if" swallow do
      if (← filled i left).agrees (← filled i right) then Instruction.bodies i onEqual
      else Instruction.bodies i onOther

def Instruction.bodies (i : Invocation) : List Instruction → Body Variables Unit
  | [] => pure ()
  | instruction :: rest => do
    instruction.body i
    Instruction.bodies i rest

end

/-- The action that a list of instructions stands for. -/
def action (instructions : List Instruction) : Action Variables := fun i =>
  (Instruction.bodies i instructions).toProgram

/-! ## Types -/

/-- The items of a field that holds a list, each read by `read`; others are skipped. -/
def itemsOf (v : Value) (name : String) (read : Value → Option α) : List α :=
  match v.field? name with
  | some (.array items) => items.filterMap read
  | _ => []

/-- The description that a value gives: states, groups, further declarations, and
actions by name. -/
def description (v : Value) : Description Variables :=
  let d : Description Variables := {}
  let d := (itemsOf v "states" StateSpec.ofValue?).foldl Description.state d
  let d := (itemsOf v "groups" GroupSpec.ofValue?).foldl Description.group d
  let d := (itemsOf v "tables" Declaration.ofValue?).foldl Description.table d
  match v.field? "actions" with
  | some (.object actions) =>
    actions.foldl (fun d (name, body) => d.action name (action (Instruction.listOfValue body))) d
  | _ => d

/-- The types that an object describes by name. A type that it does not name has
no states. -/
def catalog (types : List (String × Value)) : Catalog Variables := fun name =>
  let d := description ((types.lookup name).getD .null)
  { fresh := [], describe := fun _ => d }

end PushdownActors.Script
