-- SUMMARY: What choice sources answer to any list of questions: numbers within their bounds, and from a recorded trace the recorded answers again.
import PushdownActors.Proofs.Replay

/-!
# The answers of choice sources

A question says which decisions it allows: a truth value, or a number below its bound.
Random and replaying sources make no others, whatever they are asked and whatever trace
is replayed, and neither does a source that records what they answer.

A recording is undone by replaying it. As long as the questions are those that were
recorded, each of them finds its own answer, and with the last one the trace is used up.
Any other list of questions is told apart by its first question that does not fit the
entry at its place: the entry is used up all the same, so the questions and the entries
stay side by side.
-/

namespace PushdownActors

/-! ## Questions and decisions -/

namespace Question

/-- The decisions that a question allows. -/
inductive Allows : Question → Choice → Prop
  | bool (b : Bool) : Allows .bool (.bool b)
  | below {bound n : UInt64} (h : n < bound) : Allows (.integer bound) (.integer n)
  /-- With nothing below it, the bound itself is allowed. -/
  | zero : Allows (.integer 0) (.integer 0)

/-- What a question may find in a trace that does not fit it. -/
inductive Misses : Question → Option Choice → Prop
  /-- The trace has come to its end. -/
  | ended (q : Question) : Misses q none
  | number (n : UInt64) : Misses .bool (some (.integer n))
  | truth (bound : UInt64) (b : Bool) : Misses (.integer bound) (some (.bool b))
  | outOfRange {bound n : UInt64} (hge : bound ≤ n) (hpositive : 0 < n) :
      Misses (.integer bound) (some (.integer n))

theorem allows_integer_iff {bound n : UInt64} :
    (integer bound).Allows (.integer n) ↔ ReplayChoice.fits n bound = true := by
  simp only [ReplayChoice.fits, Bool.or_eq_true, decide_eq_true_eq, Bool.and_eq_true, beq_iff_eq]
  constructor
  · intro h
    cases h with
    | below h => exact .inl h
    | zero => exact .inr ⟨rfl, rfl⟩
  · rintro (h | ⟨rfl, rfl⟩)
    · exact .below h
    · exact .zero

/-- A decision either fits a question or not. -/
theorem misses_some_iff {q : Question} {c : Choice} : q.Misses (some c) ↔ ¬ q.Allows c := by
  constructor
  · intro hmisses hallows
    cases hmisses with
    | number | truth => cases hallows
    | outOfRange hge hpositive =>
      cases hallows with
      | below h => exact absurd h (UInt64.not_lt.mpr hge)
      | zero => exact absurd hpositive (by decide)
  · intro hnot
    match q, c with
    | .bool, .bool b => exact absurd (.bool b) hnot
    | .bool, .integer n => exact .number n
    | .integer bound, .bool b => exact .truth bound b
    | .integer bound, .integer n =>
      have hge : bound ≤ n := UInt64.not_lt.mp fun h => hnot (.below h)
      refine .outOfRange hge ?_
      by_contra hzero
      obtain rfl : n = 0 := UInt64.le_antisymm (UInt64.not_lt.mp hzero) (UInt64.zero_le)
      obtain rfl : bound = 0 := UInt64.le_antisymm hge (UInt64.zero_le)
      exact hnot .zero

end Question

open Question (Allows Misses)

/-! ## One question after the other -/

namespace ChoiceSource

variable [ChoiceSource τ]

/-- The decisions of a source that is asked one question after the other. -/
def decisions : τ → List Question → List Choice
  | _, [] => []
  | s, q :: qs => Choice.ofAnswer q (ask s q).1 :: decisions (ask s q).2 qs

/-- What is left of a source that was asked one question after the other. -/
def after : τ → List Question → τ
  | s, [] => s
  | s, q :: qs => after (ask s q).2 qs

/-- What an honest source decides is allowed. -/
theorem allows_decisions [HonestSource τ] (s : τ) (qs : List Question) :
    List.Forall₂ Allows qs (decisions s qs) := by
  induction qs generalizing s with
  | nil => exact .nil
  | cons q qs ih =>
    refine .cons ?_ (ih _)
    cases q with
    | bool => exact .bool _
    | integer bound => exact Question.allows_integer_iff.mpr (HonestSource.fits s bound)

end ChoiceSource

open ChoiceSource (decisions after)

/-! ## Recording -/

namespace RecordingChoice

variable [ChoiceSource τ]

theorem decisions_eq (s : RecordingChoice τ) (qs : List Question) :
    decisions s qs = decisions s.inner qs := by
  induction qs generalizing s with
  | nil => rfl
  | cons q qs ih => exact congrArg (_ :: ·) (ih _)

/-- The decisions are written down behind those that were made before. -/
theorem trace_after (s : RecordingChoice τ) (qs : List Question) :
    (after s qs).trace = s.trace ++ decisions s.inner qs := by
  induction qs generalizing s with
  | nil => exact (List.append_nil _).symm
  | cons q qs ih =>
    calc (after (ChoiceSource.ask s q).2 qs).trace
        = (ChoiceSource.ask s q).2.trace ++ decisions (ChoiceSource.ask s.inner q).2 qs := ih _
      _ = (s.trace ++ [Choice.ofAnswer q (ChoiceSource.ask s.inner q).1])
            ++ decisions (ChoiceSource.ask s.inner q).2 qs := congrArg (· ++ _) List.reverse_cons
      _ = s.trace ++ decisions s.inner (q :: qs) := List.append_cons .. |>.symm

instance [HonestSource τ] : HonestSource (RecordingChoice τ) where
  fits s := HonestSource.fits s.inner

end RecordingChoice

/-! ## Replaying -/

namespace ReplayChoice

/-- A question that is allowed the next entry is answered with it. -/
theorem ask_of_allows {q : Question} {c : Choice} (h : q.Allows c) (rest : List Choice)
    (diverged : Bool) :
    Choice.ofAnswer q (ask ⟨c :: rest, diverged⟩ q).1 = c ∧
      (ask ⟨c :: rest, diverged⟩ q).2 = ⟨rest, diverged⟩ := by
  cases h with
  | bool => exact ⟨rfl, rfl⟩
  | below h =>
    have hfits := Question.allows_integer_iff.mp (.below h)
    simp [ask, Choice.ofAnswer, hfits]
  | zero => exact ⟨rfl, rfl⟩

/-- A question that misses gets the answer that it would get past the end, and the entry
is used up. -/
theorem ask_of_misses {q : Question} {s : ReplayChoice} (h : q.Misses s.rest.head?) :
    (ask s q).2 = ⟨s.rest.tail, true⟩ := by
  obtain ⟨rest, diverged⟩ := s
  cases rest with
  | nil => cases q <;> rfl
  | cons c rest =>
    cases h with
    | number | truth => rfl
    | outOfRange hge hpositive =>
      have hfits := mt Question.allows_integer_iff.mpr
        (Question.misses_some_iff.mp (.outOfRange hge hpositive))
      simp [ask, hfits]

instance : HonestSource ReplayChoice where
  fits := by
    intro s bound
    have hzero : fits 0 bound = true := by
      by_cases h : bound = 0
      · simp [fits, h]
      · simp [fits, UInt64.pos_iff_ne_zero.mpr h]
    obtain ⟨rest, diverged⟩ := s
    match rest with
    | [] | .bool _ :: _ => exact hzero
    | .integer n :: rest =>
      by_cases hn : fits n bound = true
      · simp [ChoiceSource.ask, ask, hn]
      · simpa [ChoiceSource.ask, ask, hn] using hzero

/-- Every question uses up one entry. -/
theorem rest_ask (s : ReplayChoice) (q : Question) : (ask s q).2.rest = s.rest.tail := by
  obtain ⟨_ | ⟨c, rest⟩, diverged⟩ := s
  · exact congrArg ReplayChoice.rest (ask_of_misses (.ended q))
  · by_cases h : q.Allows c
    · exact congrArg ReplayChoice.rest (ask_of_allows h rest diverged).2
    · exact congrArg ReplayChoice.rest (ask_of_misses (Question.misses_some_iff.mpr h))

theorem diverged_ask (s : ReplayChoice) (q : Question) :
    (ask s q).2.diverged = true ↔ s.diverged = true ∨ q.Misses s.rest.head? := by
  by_cases hmisses : q.Misses s.rest.head?
  · simp [ask_of_misses hmisses, hmisses]
  · obtain ⟨_ | ⟨c, rest⟩, diverged⟩ := s
    · exact absurd (.ended q) hmisses
    · have hallows : q.Allows c := not_not.mp fun h => hmisses (Question.misses_some_iff.mpr h)
      simpa [(ask_of_allows hallows rest diverged).2] using fun h => absurd h hmisses

theorem rest_after (s : ReplayChoice) (qs : List Question) :
    (after s qs).rest = s.rest.drop qs.length := by
  induction qs generalizing s with
  | nil => rfl
  | cons q qs ih =>
    calc (after (ask s q).2 qs).rest
        = (ask s q).2.rest.drop qs.length := ih _
      _ = s.rest.tail.drop qs.length := congrArg _ (rest_ask s q)
      _ = s.rest.drop (q :: qs).length := List.drop_tail

/-- Questions and entries stay side by side, so the replay has diverged if one of the
questions misses the entry at its place. -/
theorem diverged_after (s : ReplayChoice) (qs : List Question) :
    (after s qs).diverged = true ↔
      s.diverged = true ∨ ∃ (i : Nat) (q : Question), qs[i]? = some q ∧ q.Misses s.rest[i]? := by
  induction qs generalizing s with
  | nil => simp [after]
  | cons q qs ih =>
    have hask : (after (ask s q).2 qs).diverged = true ↔
        (s.diverged = true ∨ q.Misses s.rest[0]?) ∨
          ∃ (i : Nat) (q' : Question), qs[i]? = some q' ∧ q'.Misses s.rest[i + 1]? := by
      have hlater := ih (ask s q).2
      simpa [rest_ask, diverged_ask, List.head?_eq_getElem?] using hlater
    refine hask.trans (or_assoc.trans (or_congr_right ⟨?_, ?_⟩))
    · rintro (h | ⟨i, q', hq', h⟩)
      · exact ⟨0, q, rfl, h⟩
      · exact ⟨i + 1, q', hq', h⟩
    · rintro ⟨_ | i, q', hq', h⟩
      · cases hq'
        exact .inl h
      · exact .inr ⟨i, q', hq', h⟩

/-- Questions that are allowed the entries are answered with them. -/
theorem decisions_of_allows {qs : List Question} {entries : List Choice}
    (h : List.Forall₂ Allows qs entries) (more : List Choice) (diverged : Bool) :
    decisions (⟨entries ++ more, diverged⟩ : ReplayChoice) qs = entries := by
  induction h with
  | nil => rfl
  | @cons q c qs entries hallows _ ih =>
    obtain ⟨hanswer, hleft⟩ := ask_of_allows hallows (entries ++ more) diverged
    exact congrArg₂ (· :: ·) hanswer ((congrArg (decisions · qs) hleft).trans ih)

/-- Questions that are allowed the entries at their places do not miss them. -/
theorem not_misses_of_allows {qs : List Question} {entries : List Choice}
    (h : List.Forall₂ Allows qs entries) :
    ¬ ∃ (i : Nat) (q : Question), qs[i]? = some q ∧ q.Misses entries[i]? := by
  rintro ⟨i, q, hq, hmisses⟩
  obtain ⟨hi, rfl⟩ := List.getElem?_eq_some_iff.mp hq
  have hlength : i < entries.length := h.length_eq ▸ hi
  have hallows : (qs[i]).Allows entries[i] := List.Forall₂.get h hi hlength
  rw [List.getElem?_eq_getElem hlength] at hmisses
  exact Question.misses_some_iff.mp hmisses hallows

end ReplayChoice

/-! ## Results -/

namespace ChoiceSource

/-- A source of three numbers, and questions that allow them. -/
def triple : CyclicChoice := { numbers := [1, 2, 0] }

def triad : List Question := [.bool, .integer 3, .integer 0]

theorem allows_triple : List.Forall₂ Allows triad (decisions triple triad) :=
  .cons (.bool _) (.cons (.below (by decide)) (.cons .zero .nil))

/-- Whatever they are asked, random and replaying sources and the recordings of either
decide what is allowed: numbers below their bounds, or zero if the bound is zero. The
trace of a recording lists the decisions in order. Replayed to the same questions, if
the source has decided what they allow, it makes the same decisions, does not diverge, and
is exhausted from the last question on and not before. Replayed to other questions, a
trace diverges exactly if one of them meets its end, a decision of the other kind, or a
number out of range. -/
theorem replay_undoes_recording [ChoiceSource τ] (source : τ) (qs : List Question)
    (hallows : List.Forall₂ Allows qs (decisions source qs)) (seed : UInt64)
    (entries : List Choice) (asked : List Question) :
    (List.Forall₂ Allows asked (decisions (RandomChoice.ofSeed seed) asked) ∧
      List.Forall₂ Allows asked (decisions (ReplayChoice.ofTrace entries) asked) ∧
      List.Forall₂ Allows asked
        (decisions (RecordingChoice.ofSource (RandomChoice.ofSeed seed)) asked) ∧
      List.Forall₂ Allows asked
        (decisions (RecordingChoice.ofSource (ReplayChoice.ofTrace entries)) asked)) ∧
    (let recorder := RecordingChoice.ofSource source
      let recorded := (after recorder qs).trace
      let replay := ReplayChoice.ofTrace recorded
      decisions recorder qs = decisions source qs ∧ recorded = decisions source qs ∧
        decisions replay qs = decisions source qs ∧ (after replay qs).diverged = false ∧
        ∀ k, (after replay (qs.take k)).isExhausted = true ↔ qs.length ≤ k) ∧
    ((after (ReplayChoice.ofTrace entries) asked).diverged = true ↔
      ∃ (i : Nat) (q : Question), asked[i]? = some q ∧ q.Misses entries[i]?) := by
  refine ⟨⟨allows_decisions _ _, allows_decisions _ _, allows_decisions _ _,
    allows_decisions _ _⟩, ?_, ?_⟩
  · have hrecorded : (after (RecordingChoice.ofSource source) qs).trace = decisions source qs :=
      RecordingChoice.trace_after _ _
    dsimp only
    rw [hrecorded]
    refine ⟨RecordingChoice.decisions_eq _ _, rfl, ?_, ?_, ?_⟩
    · simpa [ReplayChoice.ofTrace] using ReplayChoice.decisions_of_allows hallows [] false
    · have hfits := ReplayChoice.not_misses_of_allows hallows
      have hdiverged := ReplayChoice.diverged_after (.ofTrace (decisions source qs)) qs
      exact Bool.eq_false_iff.mpr fun h => (hdiverged.mp h).elim (nofun) hfits
    · intro k
      have hlength : qs.length = (decisions source qs).length := hallows.length_eq
      simp only [ReplayChoice.isExhausted, ReplayChoice.rest_after, ReplayChoice.ofTrace,
        List.isEmpty_iff, List.drop_eq_nil_iff, List.length_take, hlength]
      exact ⟨fun h => Nat.le_trans h (Nat.min_le_left _ _),
        fun h => Nat.le_min.mpr ⟨h, Nat.le_refl _⟩⟩
  · simpa [ReplayChoice.ofTrace] using ReplayChoice.diverged_after (.ofTrace entries) asked

/-- What the three numbers are recorded as is replayed; a number that is too great makes
the replay of another trace diverge. -/
theorem replay_undoes_recording_triple :
    List.Forall₂ Allows triad (decisions triple triad) ∧
      decisions (ReplayChoice.ofTrace [.bool true, .integer 2, .integer 0]) triad
        = decisions triple triad ∧
      (after (ReplayChoice.ofTrace [.bool true, .integer 2, .integer 0]) triad).diverged = false ∧
      (after (ReplayChoice.ofTrace [.bool true, .integer 8]) [.bool, .integer 5]).diverged = true := by
  have hreplay := replay_undoes_recording triple triad allows_triple 7 [.bool true, .integer 8]
    [.bool, .integer 5]
  obtain ⟨-, ⟨-, -, hagain, hstraight, -⟩, hdiverged⟩ := hreplay
  have hmisses : (Question.integer 5).Misses (some (.integer 8)) :=
    .outOfRange (by decide) (by decide)
  exact ⟨allows_triple, hagain, hstraight, hdiverged.mpr ⟨1, .integer 5, rfl, hmisses⟩⟩

end ChoiceSource

end PushdownActors
