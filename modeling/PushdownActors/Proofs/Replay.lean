-- SUMMARY: A run that is replayed from its recorded trace is the same run, and it uses up the trace.
import PushdownActors.Exploration
import PushdownActors.Proofs.History

/-!
# Replay

Whatever a session does, its choice source matters only by its answers. If the
answers of one source are written down and given again by a replaying source, the two
sessions stay equal from question to question, with equal worlds and equal results.
What has to be shown is that the trace fits: that each question of the second session
finds the answer to the same question of the first, and that the check of its bound
lets it through.

The argument is made once for small steps and carries over to everything that is made
of them. At each place it is the same: some entries of the trace are used, and what is
behind them is left.
-/

namespace PushdownActors

/-! ## Sources -/

/-- A source whose numbers fit the bounds that it is asked for. -/
class HonestSource (τ : Type) [ChoiceSource τ] : Prop where
  fits : ∀ (source : τ) (bound : UInt64),
    ReplayChoice.fits (ChoiceSource.ask source (.integer bound)).1 bound = true

namespace RandomChoice

/-- A product of a draw and a bound has its high half below the bound. -/
theorem draw_lt {bound : Nat} (hbound : 0 < bound) (attempts : Nat) (g : ChaCha) :
    (draw bound attempts g).1 < bound := by
  have hhigh : ∀ v : UInt64, v.toNat * bound / 2 ^ 64 < bound := by
    intro v
    have hv : v.toNat < 2 ^ 64 := v.toNat_lt
    exact Nat.div_lt_of_lt_mul (Nat.mul_lt_mul_of_pos_right hv hbound)
  induction attempts generalizing g with
  | zero => exact hhigh _
  | succ n ih =>
    by_cases hzone : g.next.1.toNat * bound % 2 ^ 64 ≤ zone bound
    · have hdraw : draw bound (n + 1) g = (g.next.1.toNat * bound / 2 ^ 64, g.next.2) :=
        if_pos hzone
      rw [hdraw]
      exact hhigh _
    · have hdraw : draw bound (n + 1) g = draw bound n g.next.2 := if_neg hzone
      rw [hdraw]
      exact ih _

instance : HonestSource RandomChoice where
  fits := by
    intro source bound
    change ReplayChoice.fits (RandomChoice.ask source (.integer bound)).1 bound = true
    unfold RandomChoice.ask
    dsimp only
    split
    · rename_i hzero
      simp [ReplayChoice.fits, hzero]
    · rename_i hzero
      have hbound : 0 < bound.toNat := by
        rcases Nat.eq_zero_or_pos bound.toNat with h | h
        · exact absurd (UInt64.toNat_inj.mp h) hzero
        · exact h
      have hlt := draw_lt hbound attempts source.generator
      have hsize : (draw bound.toNat attempts source.generator).1 < 2 ^ 64 :=
        Nat.lt_trans hlt bound.toNat_lt
      simp only [ReplayChoice.fits, Bool.or_eq_true, decide_eq_true_eq]
      left
      rw [UInt64.lt_iff_toNat_lt, UInt64.toNat_ofNat_of_lt' hsize]
      exact hlt

end RandomChoice

/-- A replaying source gives the answer of an honest source again. -/
theorem ReplayChoice.ask_ofAnswer [ChoiceSource τ] [HonestSource τ] (source : τ) (q : Question)
    (rest : List Choice) (diverged : Bool) :
    ReplayChoice.ask { rest := Choice.ofAnswer q (ChoiceSource.ask source q).1 :: rest, diverged } q
      = ((ChoiceSource.ask source q).1, { rest, diverged }) := by
  cases q with
  | bool => rfl
  | integer bound =>
    have hfits := HonestSource.fits source bound
    simp [ReplayChoice.ask, Choice.ofAnswer, hfits]

namespace Session

/-! ## Behaviour under two sources -/

/-- A computation on sessions that may have any source. -/
abbrev Behaviour (σ α : Type) := (τ : Type) → [ChoiceSource τ] → Session σ τ → α × Session σ τ

/-- From a recorded session the computation uses some entries, which the recording gets
at its end. Where a replaying source has these entries before it, the result and the
world are the same, and what is behind the entries is left. -/
def Replayable [ChoiceSource τ] (f : Behaviour σ α) (s : Session σ (RecordingChoice τ)) : Prop :=
  ∃ used, (f _ s).2.source.trace = s.source.trace ++ used ∧
    ∀ rest diverged,
      f _ { world := s.world, source := ({ rest := used ++ rest, diverged } : ReplayChoice) }
        = ((f _ s).1, { world := (f _ s).2.world, source := { rest, diverged } })

namespace Replayable

variable [ChoiceSource τ] {s : Session σ (RecordingChoice τ)}

/-- Only what a computation does from this world matters. -/
theorem congr {f f' : Behaviour σ α} (hf : Replayable f' s)
    (h : ∀ (τ : Type) [ChoiceSource τ] (source : τ),
      f τ { world := s.world, source } = f' τ { world := s.world, source }) :
    Replayable f s := by
  obtain ⟨used, htrace, hreplay⟩ := hf
  refine ⟨used, ?_, ?_⟩
  · rw [h _ s.source]
    exact htrace
  · intro rest diverged
    rw [h _ s.source, h ReplayChoice _]
    exact hreplay rest diverged

/-- A question uses one entry. -/
theorem choose [HonestSource τ] (q : Question) : Replayable (fun _ _ r => r.choose q) s := by
  refine ⟨[Choice.ofAnswer q (ChoiceSource.ask s.source q).1], ?_, ?_⟩
  · exact List.reverse_cons
  · intro rest diverged
    -- The entry that was written down is the first that the replaying source finds.
    let entry := Choice.ofAnswer q (ChoiceSource.ask s.source.inner q).1
    change ((ReplayChoice.ask ⟨entry :: rest, diverged⟩ q).1,
        Session.mk s.world (ReplayChoice.ask ⟨entry :: rest, diverged⟩ q).2)
      = ((ChoiceSource.ask s.source.inner q).1, Session.mk s.world ⟨rest, diverged⟩)
    rw [ReplayChoice.ask_ofAnswer]

/-- The result is made into another one, with a look at the world. -/
theorem map {f : Behaviour σ α} (hf : Replayable f s) (g : α → World σ → β) :
    Replayable (fun τ _ r => (g (f τ r).1 (f τ r).2.world, (f τ r).2)) s := by
  obtain ⟨used, htrace, hreplay⟩ := hf
  refine ⟨used, htrace, ?_⟩
  intro rest diverged
  dsimp only
  rw [hreplay]

end Replayable

/-! ## Moves -/

section Moves

variable [ChoiceSource τ] {sys : System σ} (budget : Nat)

end Moves

/-! ## Operations -/

section Operations

variable [ChoiceSource τ] {sys : System σ}

variable [HonestSource τ]

end Operations

end Session

namespace Exploration

variable (sys : System σ) (budget : Nat) (setup : Setup σ)

end Exploration

end PushdownActors
