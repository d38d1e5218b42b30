-- SUMMARY: Choice sources: seeded random, replay of a trace, a fixed cycle, and recording of any source.
import PushdownActors.Choice
import PushdownActors.Choice.ChaCha

/-!
# Choice sources

* `RandomChoice` answers uniformly from a seeded generator.
* `ReplayChoice` answers from a recorded trace.
* `CyclicChoice` repeats a list of numbers for ever.
* `RecordingChoice` writes down what another source answers.
-/

namespace PushdownActors

/-! ## Random choices -/

structure RandomChoice where
  generator : ChaCha

namespace RandomChoice

def ofSeed (seed : UInt64) : RandomChoice := ⟨.ofSeed seed⟩

/-- The largest low half that a product may have so that every answer below
`bound` is equally likely. -/
def zone (bound : Nat) : Nat :=
  bound * Nat.pow 2 (63 - bound.log2) - 1

/-- How many draws a single answer may take. A draw is refused with a chance of
less than one half, so running out is out of the question in practice; the last
draw is then taken as it is. -/
def attempts : Nat := 4096

/-- Draws until the product of the draw and the bound has its low half in the
zone; the answer is the high half. -/
def draw (bound : Nat) : Nat → ChaCha → Nat × ChaCha
  | 0, g =>
    let (v, g) := g.next
    (v.toNat * bound / 2 ^ 64, g)
  | n + 1, g =>
    let (v, g) := g.next
    if v.toNat * bound % 2 ^ 64 ≤ zone bound then (v.toNat * bound / 2 ^ 64, g)
    else draw bound n g

/-- A truth value takes one draw. A number takes at least one draw, unless its
bound is zero. -/
def ask (s : RandomChoice) : (q : Question) → q.Answer × RandomChoice
  | .bool =>
    let (v, g) := s.generator.next
    (v < 9223372036854775808, ⟨g⟩)
  | .integer bound =>
    if bound = 0 then (0, s)
    else
      let (n, g) := draw bound.toNat attempts s.generator
      (UInt64.ofNat n, ⟨g⟩)

instance : ChoiceSource RandomChoice := ⟨ask⟩

end RandomChoice

/-! ## Replayed choices -/

/-- What is left of a trace, and whether a question ever found no fitting entry
in it. -/
structure ReplayChoice where
  rest : List Choice
  diverged : Bool := false
  deriving Inhabited

namespace ReplayChoice

def ofTrace (trace : List Choice) : ReplayChoice := { rest := trace }

/-- Every recorded choice has been used. -/
def isExhausted (s : ReplayChoice) : Bool := s.rest.isEmpty

/-- A number fits a bound below which it lies; zero also fits the bound zero. -/
def fits (n bound : UInt64) : Bool :=
  n < bound || (bound == 0 && n == 0)

/-- Answers with the next entry. An entry that does not fit is used up all the
same; the answer is then `false` or zero, as it is past the end. -/
def ask (s : ReplayChoice) : (q : Question) → q.Answer × ReplayChoice
  | .bool =>
    match s.rest with
    | .bool b :: rest => (b, { s with rest })
    | .integer _ :: rest => (false, { rest, diverged := true })
    | [] => (false, { s with diverged := true })
  | .integer bound =>
    match s.rest with
    | .integer n :: rest =>
      if fits n bound then (n, { s with rest }) else (0, { rest, diverged := true })
    | .bool _ :: rest => (0, { rest, diverged := true })
    | [] => (0, { s with diverged := true })

instance : ChoiceSource ReplayChoice := ⟨ask⟩

end ReplayChoice

/-! ## Cyclic choices -/

/-- Gives its numbers in turn, whatever the bound; a truth value is the number's
oddness. Without numbers it gives zeros. -/
structure CyclicChoice where
  numbers : List UInt64
  position : Nat := 0
  deriving Inhabited

namespace CyclicChoice

def next (s : CyclicChoice) : UInt64 × CyclicChoice :=
  (s.numbers.getD (s.position % s.numbers.length) 0, { s with position := s.position + 1 })

def ask (s : CyclicChoice) : (q : Question) → q.Answer × CyclicChoice
  | .bool => let (n, s) := s.next; (n % 2 == 1, s)
  | .integer _ => s.next

instance : ChoiceSource CyclicChoice := ⟨ask⟩

end CyclicChoice

/-! ## Recording -/

/-- A source whose answers are written down, the latest first. -/
structure RecordingChoice (τ : Type) where
  inner : τ
  recorded : List Choice := []

namespace RecordingChoice

def ofSource (inner : τ) : RecordingChoice τ := { inner }

/-- The answers so far, in order. -/
def trace (s : RecordingChoice τ) : List Choice := s.recorded.reverse

def ask [ChoiceSource τ] (s : RecordingChoice τ) (q : Question) : q.Answer × RecordingChoice τ :=
  let (answer, inner) := ChoiceSource.ask s.inner q
  (answer, { inner, recorded := Choice.ofAnswer q answer :: s.recorded })

instance [ChoiceSource τ] : ChoiceSource (RecordingChoice τ) := ⟨ask⟩

end RecordingChoice

/-! ## A source of any kind -/

/-- One of the sources that make their own answers. -/
inductive AnyChoice where
  | random (s : RandomChoice)
  | replay (s : ReplayChoice)
  | cyclic (s : CyclicChoice)

namespace AnyChoice

def ask : AnyChoice → (q : Question) → q.Answer × AnyChoice
  | random s, q => let (answer, s) := s.ask q; (answer, random s)
  | replay s, q => let (answer, s) := s.ask q; (answer, replay s)
  | cyclic s, q => let (answer, s) := s.ask q; (answer, cyclic s)

instance : ChoiceSource AnyChoice := ⟨ask⟩

end AnyChoice

end PushdownActors
