-- SUMMARY: Values from JSON text.
import PushdownActors.Text.Radix
import PushdownActors.Value

/-!
# Reading values

A value is read from JSON text with nothing but blanks around it. A number
without a fraction and an exponent is an integer if a 64-bit word holds it;
every other number is a decimal. Of two fields of one name the later counts.
-/

namespace PushdownActors.Value

/-! ## Strings -/

/-- What a backslash with one character behind it stands for. -/
def escape? : Char → Option Char
  | '"' => some '"'
  | '\\' => some '\\'
  | '/' => some '/'
  | 'b' => some (Char.ofNat 8)
  | 'f' => some (Char.ofNat 12)
  | 'n' => some '\n'
  | 'r' => some '\r'
  | 't' => some '\t'
  | _ => none

/-- The first half of a pair that stands for one character. -/
def isHighHalf (n : Nat) : Bool := 0xD800 ≤ n && n < 0xDC00

/-- The character that the two halves of a pair stand for. -/
def paired? (high low : Nat) : Option Char :=
  if 0xDC00 ≤ low ∧ low < 0xE000 then
    some (Char.ofNat (0x10000 + (high - 0xD800) * 0x400 + (low - 0xDC00)))
  else none

/-- The character with a number that is no half of a pair. -/
def single? (n : Nat) : Option Char :=
  if n.isValidChar then some (Char.ofNat n) else none

/-- The text up to the closing quote, and what follows it. -/
def readText? : List Char → Option (List Char × List Char)
  | [] => none
  | '"' :: rest => some ([], rest)
  | '\\' :: 'u' :: a :: b :: c :: d :: rest => do
    let n ← Radix.number? 16 [a, b, c, d]
    if isHighHalf n then
      match rest with
      | '\\' :: 'u' :: a :: b :: c :: d :: rest => do
        let char ← (Radix.number? 16 [a, b, c, d]).bind (paired? n)
        let (text, rest) ← readText? rest
        return (char :: text, rest)
      | _ => none
    else
      let char ← single? n
      let (text, rest) ← readText? rest
      return (char :: text, rest)
  | '\\' :: c :: rest => do
    let char ← escape? c
    let (text, rest) ← readText? rest
    return (char :: text, rest)
  | c :: rest =>
    if c.toNat < 32 then none
    else (readText? rest).map fun (text, rest) => (c :: text, rest)

/-! ## Numbers -/

/-- The digits at the beginning of a text, and what follows them. -/
def spanDigits (cs : List Char) : List Char × List Char :=
  (cs.takeWhile Char.isDigit, cs.dropWhile Char.isDigit)

/-- The digits behind a point; without a point there are none. -/
def fraction? : List Char → Option (Option (List Char) × List Char)
  | '.' :: rest =>
    match spanDigits rest with
    | ([], _) => none
    | (digits, rest) => some (some digits, rest)
  | rest => some (none, rest)

/-- The power of ten that a number is multiplied by. It has at most three digits. -/
def exponent? (cs : List Char) : Option (Option Int × List Char) :=
  let magnitude? (cs : List Char) : Option (Nat × List Char) :=
    let (digits, rest) := spanDigits cs
    if 3 < digits.length then none
    else (Radix.number? 10 digits).map fun n => (n, rest)
  match cs with
  | c :: rest =>
    if c == 'e' || c == 'E' then
      match rest with
      | '-' :: rest => (magnitude? rest).map fun (n, rest) => (some (-n), rest)
      | '+' :: rest => (magnitude? rest).map fun (n, rest) => (some n, rest)
      | rest => (magnitude? rest).map fun (n, rest) => (some n, rest)
    else some (none, c :: rest)
  | [] => some (none, [])

/-- The number `digits.fraction * 10 ^ exponent`, or its opposite. -/
def ofDigits? (negative : Bool) (digits : List Char) (fraction : Option (List Char))
    (exponent : Option Int) : Option Value := do
  if fraction.isNone && exponent.isNone then
    return ofWhole negative (← Radix.number? 10 digits)
  else
    let places := fraction.getD []
    let n ← Radix.number? 10 (digits ++ places)
    let scale : Int := places.length - exponent.getD 0
    return ofDecimal negative (n * Nat.pow 10 (-scale).toNat) scale.toNat

/-- A number; it has no needless zero at its beginning. -/
def readNumber? (cs : List Char) : Option (Value × List Char) :=
  let unsigned? (negative : Bool) (cs : List Char) : Option (Value × List Char) := do
    let (digits, rest) := spanDigits cs
    guard (!(digits.head? == some '0' && 1 < digits.length))
    let (fraction, rest) ← fraction? rest
    let (exponent, rest) ← exponent? rest
    return (← ofDigits? negative digits fraction exponent, rest)
  match cs with
  | '-' :: rest => do
    guard ((spanDigits rest).1 != [])
    unsigned? true rest
  | cs => do
    guard ((spanDigits cs).1 != [])
    unsigned? false cs

/-! ## Structure -/

def skipBlanks (cs : List Char) : List Char :=
  cs.dropWhile fun c => c == ' ' || c == '\t' || c == '\n' || c == '\r'

mutual

/-- A value and what follows it; `depth` bounds the steps taken. -/
def readValue? : (depth : Nat) → List Char → Option (Value × List Char)
  | 0, _ => none
  | depth + 1, cs =>
    match skipBlanks cs with
    | 'n' :: 'u' :: 'l' :: 'l' :: rest => some (.null, rest)
    | 't' :: 'r' :: 'u' :: 'e' :: rest => some (.bool true, rest)
    | 'f' :: 'a' :: 'l' :: 's' :: 'e' :: rest => some (.bool false, rest)
    | '"' :: rest => (readText? rest).map fun (text, rest) => (.string (.ofList text), rest)
    | '[' :: rest =>
      match skipBlanks rest with
      | ']' :: rest => some (.array [], rest)
      | rest => (readItems? depth rest).map fun (items, rest) => (.array items, rest)
    | '{' :: rest =>
      match skipBlanks rest with
      | '}' :: rest => some (.object [], rest)
      | rest => (readFields? depth rest).map fun (fields, rest) => (ofFields fields, rest)
    | cs => readNumber? cs

/-- The items of an array up to its closing bracket. -/
def readItems? : (depth : Nat) → List Char → Option (List Value × List Char)
  | 0, _ => none
  | depth + 1, cs => do
    let (item, rest) ← readValue? depth cs
    match skipBlanks rest with
    | ',' :: rest => do
      let (items, rest) ← readItems? depth rest
      return (item :: items, rest)
    | ']' :: rest => return ([item], rest)
    | _ => none

/-- The fields of an object up to its closing bracket. -/
def readFields? : (depth : Nat) → List Char → Option (List (String × Value) × List Char)
  | 0, _ => none
  | depth + 1, cs =>
    match skipBlanks cs with
    | '"' :: rest => do
      let (name, rest) ← readText? rest
      match skipBlanks rest with
      | ':' :: rest => do
        let (value, rest) ← readValue? depth rest
        match skipBlanks rest with
        | ',' :: rest => do
          let (fields, rest) ← readFields? depth rest
          return ((.ofList name, value) :: fields, rest)
        | '}' :: rest => return ([(.ofList name, value)], rest)
        | _ => none
      | _ => none
    | _ => none

end

/-- Reads a text that holds one value. -/
def read? (text : String) : Option Value :=
  let cs := text.toList
  match readValue? (2 * cs.length + 1) cs with
  | some (v, rest) => if (skipBlanks rest).isEmpty then some v else none
  | none => none

end PushdownActors.Value
