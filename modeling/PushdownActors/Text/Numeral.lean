-- SUMMARY: Reading whole numbers and truth values from text, with the reason when the text is refused.

/-!
# Numerals

A numeral is an optional sign and one or more ASCII digits, nothing else: no
blanks, no separators. An unsigned numeral takes `+` only. The digits are read
from left to right and the first one that cannot be part of the number decides
the error: a character that is no digit, or a digit with which the number
leaves its range.
-/

namespace PushdownActors

/-- Why a text is not the numeral or truth value that is asked for. -/
inductive NumeralError where
  | empty
  | invalidDigit
  | tooLarge
  | tooSmall
  | notBool
  deriving DecidableEq, Repr

namespace NumeralError

def message : NumeralError → String
  | empty => "cannot parse integer from empty string"
  | invalidDigit => "invalid digit found in string"
  | tooLarge => "number too large to fit in target type"
  | tooSmall => "number too small to fit in target type"
  | notBool => "provided string was not `true` or `false`"

end NumeralError

namespace Numeral

/-- The value of an ASCII digit. -/
def digit? (c : Char) : Option Nat :=
  if c.isDigit then some (c.toNat - '0'.toNat) else none

/-- Reads digits behind the number `acc` that was read so far; `overflow` is the
error when the number would exceed `limit`. -/
def digits (limit : Nat) (overflow : NumeralError) : Nat → List Char → Except NumeralError Nat
  | acc, [] => .ok acc
  | acc, c :: rest =>
    match digit? c with
    | none => .error .invalidDigit
    | some d =>
      if acc * 10 + d ≤ limit then digits limit overflow (acc * 10 + d) rest
      else .error overflow

/-- Reads at least one digit. -/
def magnitude (limit : Nat) (overflow : NumeralError) : List Char → Except NumeralError Nat
  | [] => .error .invalidDigit
  | cs => digits limit overflow 0 cs

/-- Reads a number in `0 … limit`. -/
def unsigned (limit : Nat) (text : String) : Except NumeralError Nat :=
  match text.toList with
  | [] => .error .empty
  | '+' :: rest => magnitude limit .tooLarge rest
  | cs => magnitude limit .tooLarge cs

/-- Reads a number in `-limit - 1 … limit`. -/
def signed (limit : Nat) (text : String) : Except NumeralError Int :=
  match text.toList with
  | [] => .error .empty
  | '+' :: rest => (magnitude limit .tooLarge rest).map Int.ofNat
  | '-' :: rest => (magnitude (limit + 1) .tooSmall rest).map fun n => - Int.ofNat n
  | cs => (magnitude limit .tooLarge cs).map Int.ofNat

/-- Reads `true` or `false`. -/
def bool (text : String) : Except NumeralError Bool :=
  if text = "true" then .ok true
  else if text = "false" then .ok false
  else .error .notBool

def uint8 (text : String) : Except NumeralError UInt8 :=
  (unsigned 255 text).map UInt8.ofNat

def uint32 (text : String) : Except NumeralError UInt32 :=
  (unsigned 4294967295 text).map UInt32.ofNat

def uint64 (text : String) : Except NumeralError UInt64 :=
  (unsigned 18446744073709551615 text).map UInt64.ofNat

def int64 (text : String) : Except NumeralError Int :=
  signed 9223372036854775807 text

end Numeral

end PushdownActors
