-- SUMMARY: Structured data carried by events, with the reading of scalars and records from it.

/-!
# Values

The data that events carry, that definitions are written in and that reports
are made of: scalars, arrays, and objects with named fields.

An integer and a number written with a fraction are different values, so `1`
and `1.0` differ. The fields of an object are kept in the order of their
names, which makes equality of values structural. Values agree if they are
equal but for the sign of zeros: `0.0` agrees with `-0.0`.

Reading is strict. A scalar is only read from its own kind of value, and a
record is read either from an object, which names its fields, or from an array,
which lists them in declaration order and may leave off trailing ones.
-/

namespace PushdownActors

/-- A structured value. -/
inductive Value where
  | null
  | bool (b : Bool)
  | integer (n : Int)
  /-- The number `coefficient / 10 ^ scale`, or its opposite, written with a fraction. -/
  | decimal (negative : Bool) (coefficient scale : Nat)
  | string (s : String)
  | array (items : List Value)
  /-- Fields in the order of their names, each name once. -/
  | object (fields : List (String × Value))
  deriving Inhabited

namespace Value

/-! ## Equality -/

mutual

/-- Equality of values is decided by structure. -/
def decEq : (a b : Value) → Decidable (a = b)
  | .null, .null => isTrue rfl
  | .bool a, .bool b =>
    if h : a = b then isTrue (h ▸ rfl) else isFalse (by simp [h])
  | .integer a, .integer b =>
    if h : a = b then isTrue (h ▸ rfl) else isFalse (by simp [h])
  | .decimal m a s, .decimal n b t =>
    if h : m = n ∧ a = b ∧ s = t then isTrue (by rw [h.1, h.2.1, h.2.2])
    else isFalse (by simpa using h)
  | .string a, .string b =>
    if h : a = b then isTrue (h ▸ rfl) else isFalse (by simp [h])
  | .array a, .array b =>
    match decEqItems a b with
    | isTrue h => isTrue (h ▸ rfl)
    | isFalse h => isFalse (by simp [h])
  | .object a, .object b =>
    match decEqFields a b with
    | isTrue h => isTrue (h ▸ rfl)
    | isFalse h => isFalse (by simp [h])
  | .null, .bool _ | .null, .integer _ | .null, .decimal .. | .null, .string _
  | .null, .array _ | .null, .object _ => isFalse nofun
  | .bool _, .null | .bool _, .integer _ | .bool _, .decimal .. | .bool _, .string _
  | .bool _, .array _ | .bool _, .object _ => isFalse nofun
  | .integer _, .null | .integer _, .bool _ | .integer _, .decimal .. | .integer _, .string _
  | .integer _, .array _ | .integer _, .object _ => isFalse nofun
  | .decimal .., .null | .decimal .., .bool _ | .decimal .., .integer _ | .decimal .., .string _
  | .decimal .., .array _ | .decimal .., .object _ => isFalse nofun
  | .string _, .null | .string _, .bool _ | .string _, .integer _ | .string _, .decimal ..
  | .string _, .array _ | .string _, .object _ => isFalse nofun
  | .array _, .null | .array _, .bool _ | .array _, .integer _ | .array _, .decimal ..
  | .array _, .string _ | .array _, .object _ => isFalse nofun
  | .object _, .null | .object _, .bool _ | .object _, .integer _ | .object _, .decimal ..
  | .object _, .string _ | .object _, .array _ => isFalse nofun

def decEqItems : (a b : List Value) → Decidable (a = b)
  | [], [] => isTrue rfl
  | [], _ :: _ | _ :: _, [] => isFalse nofun
  | x :: xs, y :: ys =>
    match decEq x y, decEqItems xs ys with
    | isTrue h, isTrue t => isTrue (by rw [h, t])
    | isFalse h, _ => isFalse (by simp [h])
    | _, isFalse t => isFalse (by simp [t])

def decEqFields : (a b : List (String × Value)) → Decidable (a = b)
  | [], [] => isTrue rfl
  | [], _ :: _ | _ :: _, [] => isFalse nofun
  | (k, x) :: xs, (l, y) :: ys =>
    if hk : k = l then
      match decEq x y, decEqFields xs ys with
      | isTrue h, isTrue t => isTrue (by rw [hk, h, t])
      | isFalse h, _ => isFalse (by simp [h])
      | _, isFalse t => isFalse (by simp [t])
    else isFalse (by simp [hk])

end

instance : DecidableEq Value := decEq

mutual

/-- Values that are equal but for the sign of zeros. -/
def agrees : Value → Value → Bool
  | .decimal m a s, .decimal n b t => a == b && s == t && (m == n || a == 0)
  | .array a, .array b => agreesItems a b
  | .object a, .object b => agreesFields a b
  | a, b => a == b

def agreesItems : List Value → List Value → Bool
  | [], [] => true
  | x :: xs, y :: ys => agrees x y && agreesItems xs ys
  | _, _ => false

def agreesFields : List (String × Value) → List (String × Value) → Bool
  | [], [] => true
  | (k, x) :: xs, (l, y) :: ys => k == l && agrees x y && agreesFields xs ys
  | _, _ => false

end

/-! ## Numbers -/

/-- The number `coefficient / 10 ^ scale`, or its opposite, with no more digits
behind the point than it needs. -/
def ofDecimal (negative : Bool) : (coefficient scale : Nat) → Value
  | coefficient, 0 => .decimal negative coefficient 0
  | coefficient, scale + 1 =>
    if coefficient % 10 = 0 then ofDecimal negative (coefficient / 10) scale
    else .decimal negative coefficient (scale + 1)

/-- A whole number, or its opposite. One that fits no 64-bit word is a decimal, and
so is the negative zero. -/
def ofWhole (negative : Bool) (n : Nat) : Value :=
  if negative then
    if 0 < n ∧ n ≤ 9223372036854775808 then .integer (-n) else .decimal true n 0
  else if n ≤ 18446744073709551615 then .integer n
  else .decimal false n 0

/-! ## Looking inside -/

/-- The field `name` of an object. -/
def field? (name : String) : Value → Option Value
  | .object fields => fields.lookup name
  | _ => none

/-- The item at `index` of an array. -/
def item? (index : Nat) : Value → Option Value
  | .array items => items[index]?
  | _ => none

/-- Adds a field to an object's fields, keeping them in the order of their
names; a field that is there already takes the new value. -/
def insertField (name : String) (value : Value) : List (String × Value) → List (String × Value)
  | [] => [(name, value)]
  | (n, v) :: rest =>
    if name = n then (name, value) :: rest
    else if name < n then (name, value) :: (n, v) :: rest
    else (n, v) :: insertField name value rest

/-- The object with the given fields; of two fields of one name the later counts. -/
def ofFields (fields : List (String × Value)) : Value :=
  .object (fields.foldl (fun acc (n, v) => insertField n v acc) [])

/-- The array of strings. -/
def ofStrings (items : List String) : Value :=
  .array (items.map .string)

/-! ## Scalars -/

def toBool? : Value → Option Bool
  | .bool b => some b
  | _ => none

def toString? : Value → Option String
  | .string s => some s
  | _ => none

/-- A whole number in `0 … limit`. -/
def toNat? (limit : Nat) : Value → Option Nat
  | .integer n => if 0 ≤ n ∧ n ≤ limit then some n.toNat else none
  | _ => none

def toUInt8? (v : Value) : Option UInt8 :=
  (v.toNat? 255).map UInt8.ofNat

def toUInt32? (v : Value) : Option UInt32 :=
  (v.toNat? 4294967295).map UInt32.ofNat

def toUInt64? (v : Value) : Option UInt64 :=
  (v.toNat? 18446744073709551615).map UInt64.ofNat

/-- A whole number that fits a signed 64-bit word. -/
def toInt64? : Value → Option Int
  | .integer n => if -9223372036854775808 ≤ n ∧ n ≤ 9223372036854775807 then some n else none
  | _ => none

/-- Every item of an array, each read by `read`. -/
def toList? (read : Value → Option α) : Value → Option (List α)
  | .array items => items.mapM read
  | _ => none

/-! ## Records -/

/-- The fields of a record in declaration order, absent ones as `none`. An
object names them and may hold others besides; an array lists them and may stop
early, but must not go on past the last. -/
def record? (names : List String) : Value → Option (List (Option Value))
  | .object fields => some (names.map fun name => fields.lookup name)
  | .array items =>
    if items.length ≤ names.length then
      some (items.map some ++ List.replicate (names.length - items.length) none)
    else none
  | _ => none

/-- A field that must be there. -/
def required (read : Value → Option α) : Option Value → Option α
  | some v => read v
  | none => none

/-- A field that takes `default` when it is absent, but must read when it is there. -/
def defaulted (default : α) (read : Value → Option α) : Option Value → Option α
  | some v => read v
  | none => some default

/-- A field that may be absent or null. -/
def optional (read : Value → Option α) : Option Value → Option (Option α)
  | some .null | none => some none
  | some v => (read v).map some

/-- The case of a choice between named alternatives: its name alone, or an
object whose one field is named for it and holds what it carries. -/
def case? : Value → Option (String × Option Value)
  | .string name => some (name, none)
  | .object [(name, v)] => some (name, some v)
  | _ => none

/-- A named alternative that carries nothing: its name, or an object that maps
the name to null. -/
def plainCase? (v : Value) : Option String :=
  match v.case? with
  | some (name, none) | some (name, some .null) => some name
  | _ => none

end Value

end PushdownActors
