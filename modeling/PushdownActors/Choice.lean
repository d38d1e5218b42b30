-- SUMMARY: Nondeterministic choices: the questions, their answers, and sources that answer them.
import PushdownActors.Value

/-!
# Choices

Every nondeterministic decision of a run is a question with a typed answer: a
truth value, or a number below a bound. A choice source answers questions one
after the other. Exchanging the source exchanges ordinary execution for
exploration, and recording the answers makes a run repeatable.
-/

namespace PushdownActors

/-- A decision that is to be made. -/
inductive Question where
  | bool
  /-- A number below the bound, or zero when the bound is zero. -/
  | integer (bound : UInt64)
  deriving DecidableEq, Repr

/-- What a question is answered with. -/
abbrev Question.Answer : Question → Type
  | bool => Bool
  | integer _ => UInt64

/-- A decision that was made. -/
inductive Choice where
  | bool (b : Bool)
  | integer (n : UInt64)
  deriving DecidableEq, Repr, Inhabited

namespace Choice

/-- The decision made by an answer. -/
def ofAnswer : (q : Question) → q.Answer → Choice
  | .bool, b => bool b
  | .integer _, n => integer n

def toValue : Choice → Value
  | bool b => .object [("bool", .bool b)]
  | integer n => .object [("integer", .integer n.toNat)]

def ofValue? (v : Value) : Option Choice :=
  match v.case? with
  | some ("bool", some b) => b.toBool?.map bool
  | some ("integer", some n) => n.toUInt64?.map integer
  | _ => none

end Choice

/-- A source of answers. -/
class ChoiceSource (τ : Type) where
  /-- Answers a question; what is left of the source answers the next one. -/
  ask : τ → (q : Question) → q.Answer × τ

end PushdownActors
