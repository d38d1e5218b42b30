-- SUMMARY: Values as indented JSON text.
import PushdownActors.Value

/-!
# Printing values

A value is printed as JSON, each item and each field on a line of its own,
indented by two spaces for every level. In strings, quotes, backslashes and
control characters are escaped, and nothing else.
-/

namespace PushdownActors.Value

/-! ## Scalars -/

def hexDigit (n : Nat) : Char :=
  if n < 10 then Char.ofNat ('0'.toNat + n) else Char.ofNat ('a'.toNat + n - 10)

/-- A character inside a string. -/
def escaped (c : Char) : List Char :=
  if c = '"' then ['\\', '"']
  else if c = '\\' then ['\\', '\\']
  else if c = '\n' then ['\\', 'n']
  else if c = '\r' then ['\\', 'r']
  else if c = '\t' then ['\\', 't']
  else if c.toNat = 8 then ['\\', 'b']
  else if c.toNat = 12 then ['\\', 'f']
  else if c.toNat < 32 then
    ['\\', 'u', '0', '0', hexDigit (c.toNat / 16), hexDigit (c.toNat % 16)]
  else [c]

def quoted (s : String) : String :=
  .ofList ('"' :: s.toList.flatMap escaped ++ ['"'])

/-- A number with `scale` digits behind the point, but at least one. -/
def decimalText (negative : Bool) (coefficient scale : Nat) : String :=
  let digits := (toString coefficient).toList
  let digits := List.replicate (scale + 1 - digits.length) '0' ++ digits
  let whole := digits.length - scale
  let fraction := if scale = 0 then ['0'] else digits.drop whole
  .ofList ((if negative then ['-'] else []) ++ digits.take whole ++ '.' :: fraction)

/-! ## Structure -/

/-- A new line at the given level. -/
def newline (level : Nat) : String :=
  .ofList ('\n' :: List.replicate (2 * level) ' ')

/-- Entries between brackets, on lines of their own unless there are none. -/
def enclosed (opening closing : String) (level : Nat) (entries : List String) : String :=
  if entries.isEmpty then opening ++ closing
  else
    opening ++ newline (level + 1) ++ ("," ++ newline (level + 1)).intercalate entries
      ++ newline level ++ closing

mutual

def print (level : Nat) : Value → String
  | .null => "null"
  | .bool b => if b then "true" else "false"
  | .integer n => toString n
  | .decimal negative coefficient scale => decimalText negative coefficient scale
  | .string s => quoted s
  | .array items => enclosed "[" "]" level (printItems (level + 1) items)
  | .object fields => enclosed "\x7b" "\x7d" level (printFields (level + 1) fields)

def printItems (level : Nat) : List Value → List String
  | [] => []
  | v :: rest => print level v :: printItems level rest

def printFields (level : Nat) : List (String × Value) → List String
  | [] => []
  | (name, v) :: rest => (quoted name ++ ": " ++ print level v) :: printFields level rest

end

end PushdownActors.Value
