-- SUMMARY: Natural numbers as digits in a base of at most sixteen.

/-!
# Digits in a base

The digits behind nine are letters, in either case. A number has at least one
digit and nothing but digits.
-/

namespace PushdownActors.Radix

/-- The value of a digit. -/
def digit? (base : Nat) (c : Char) : Option Nat :=
  let value? : Option Nat :=
    if '0' ≤ c ∧ c ≤ '9' then some (c.toNat - '0'.toNat)
    else if 'a' ≤ c ∧ c ≤ 'f' then some (c.toNat - 'a'.toNat + 10)
    else if 'A' ≤ c ∧ c ≤ 'F' then some (c.toNat - 'A'.toNat + 10)
    else none
  value?.filter (· < base)

/-- The number that digits behind a number read so far make up. -/
def digits? (base : Nat) : Nat → List Char → Option Nat
  | n, [] => some n
  | n, c :: rest => (digit? base c).bind fun d => digits? base (n * base + d) rest

/-- The number that is written with these digits. -/
def number? (base : Nat) : List Char → Option Nat
  | [] => none
  | cs => digits? base 0 cs

end PushdownActors.Radix
