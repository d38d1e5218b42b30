-- SUMMARY: The instructions of scripted actions, and their reading from values.
import PushdownActors.Event

/-!
# Instructions

A scripted action is a list of instructions. Each names an operation and its
arguments, which are templates that are filled for the invocation at hand. It may
name a variable for its result, and it may say that its error is to be dropped.
-/

namespace PushdownActors.Script

/-- What an instruction does. -/
inductive Operation where
  | raise (event : Value)
  | goto (state : String)
  | push (state : String)
  | pop
  | halt
  | send (target event : Value)
  | create (type : String) (payload : Option Value)
  | notify (type : String) (event : Value)
  | id
  | random
  | randomBelow (bound : Value)
  | receive (types : List String)
  | assert (holds : Value) (message : String)
  | payloadAs (type : String)
  | parse (type text : String)
  | error (message : String)
  | fail (failure : Value)
  | panic (message : Option String)
  | set (target : String) (value : Value)
  | add (target : String) (amount : Value)
  | log (value : Value)
  | unknown
  deriving DecidableEq, Inhabited

/-- An instruction. -/
inductive Instruction where
  /-- The operation of the given name, with templates for its arguments. -/
  | simple (name : String) (arguments : List (String × Value)) (result : Option String)
      (swallow : Bool)
  | branch (left right : Value) (onEqual onOther : List Instruction) (swallow : Bool)
  deriving Inhabited

/-! ## Reading -/

/-- A field that holds text; without it the text is empty. -/
def textField (fields : List (String × Value)) (name : String) : String :=
  ((fields.lookup name).bind Value.toString?).getD ""

/-- A field that holds any value; without it the value is null. -/
def valueField (fields : List (String × Value)) (name : String) : Value :=
  (fields.lookup name).getD .null

/-- The texts in a field that holds a list. -/
def textsField (fields : List (String × Value)) (name : String) : List String :=
  match fields.lookup name with
  | some (.array items) => items.filterMap Value.toString?
  | _ => []

/-- The operation of the given name, with its arguments. -/
def Operation.ofFields (name : String) (fields : List (String × Value)) : Operation :=
  match name with
  | "raise" => .raise (valueField fields "event")
  | "goto" => .goto (textField fields "state")
  | "push" => .push (textField fields "state")
  | "pop" => .pop
  | "halt" => .halt
  | "send" => .send (valueField fields "to") (valueField fields "event")
  | "create" => .create (textField fields "type") (fields.lookup "payload")
  | "monitor" => .notify (textField fields "type") (valueField fields "event")
  | "id" => .id
  | "random" => .random
  | "random_int" => .randomBelow (valueField fields "max")
  | "receive" => .receive (textsField fields "types")
  | "assert" => .assert (valueField fields "value") (textField fields "message")
  | "payload_as" => .payloadAs (((fields.lookup "type").bind Value.toString?).getD "u32")
  | "parse" => .parse (((fields.lookup "type").bind Value.toString?).getD "u32")
      (textField fields "text")
  | "error" => .error (textField fields "message")
  | "fail" => .fail (valueField fields "failure")
  | "panic" =>
    if textField fields "style" = "other" then .panic none
    else .panic (some (textField fields "message"))
  | "set" => .set (textField fields "var") (valueField fields "value")
  | "add" => .add (textField fields "var") ((fields.lookup "by").getD (.integer 1))
  | "log" => .log (valueField fields "value")
  | _ => .unknown

mutual

def Instruction.ofValue : Value → Instruction
  | .object fields =>
    let name := textField fields "do"
    let swallow := fields.lookup "swallow" == some (.bool true)
    if name = "if" then
      .branch (valueField fields "value") (valueField fields "eq")
        (Instruction.branchOfFields "then" fields) (Instruction.branchOfFields "else" fields)
        swallow
    else
      .simple name fields ((fields.lookup "as").bind Value.toString?) swallow
  | _ => .simple "" [] none false

/-- The instructions in the first field of the given name. -/
def Instruction.branchOfFields (name : String) : List (String × Value) → List Instruction
  | [] => []
  | (n, v) :: rest =>
    if n = name then Instruction.listOfValue v else Instruction.branchOfFields name rest

def Instruction.listOfValue : Value → List Instruction
  | .array items => Instruction.listOfItems items
  | _ => []

def Instruction.listOfItems : List Value → List Instruction
  | [] => []
  | v :: rest => Instruction.ofValue v :: Instruction.listOfItems rest

end

end PushdownActors.Script
