-- SUMMARY: A step works on the frame on top: those beneath stay, but for one that waits for a monitor.
import PushdownActors.Proofs.Transition

/-!
# Layers of frames

The runs in progress are a stack of frames, and a step works on the one on top. Whatever
it does there, in a serial system or a production system, the frames beneath stay as they
are. There are two exceptions. An action that notifies a monitor is right beneath the
dispatch of the monitor, and gets the result when that ends. And a panic that is let through
leaves no frame.
-/

namespace PushdownActors

namespace World

/-- What a step has made of the frames that were beneath the one on top. -/
inductive Layered (below : List (Frame σ)) (w : World σ) : Prop
  | beneath (above : List (Frame σ)) (hframes : w.frames = above ++ below)
  /-- The first of them waits for a monitor, and gets the result. -/
  | given {actor : Actor} {p : Paused} {c : Context}
      {next : Except Failure Unit → Program σ Verdict} {rest : List (Frame σ)}
      (hbelow : below = .acting actor p c (.notifying next) :: rest)
      (result : Except Failure Unit)
      (hframes : w.frames = .acting actor p (c.note result) (.running (next result)) :: rest)

section Layers

variable {sys : System σ} {w w' : World σ} {top : Frame σ} {below : List (Frame σ)}
  {actor : Actor} {place : Place}

theorem Layered.same (hframes : w.frames = below) : Layered below w :=
  .beneath [] hframes

theorem Layered.cons (hframes : w.frames = top :: below) : Layered below w :=
  .beneath [top] hframes

/-- What is beneath the frame that was put on top is beneath it now. -/
theorem Layered.tail (h : Layered (top :: below) w) : Layered below w := by
  cases h with
  | beneath above hframes => exact .beneath (above ++ [top]) (by simp [hframes])
  | given hbelow result hframes =>
    cases hbelow
    exact .cons hframes

/-! ## The end of a dispatch -/

theorem layered_endRun (h : w.endRun.LeadsTo w') (hframes : w.frames = below) :
    Layered below w' := by
  obtain rfl := endRun_leadsTo.mp h
  exact .same hframes

theorem layered_giveBack {result : Except Failure Unit} (h : (w.giveBack result).LeadsTo w')
    (hframes : w.frames = below) : Layered below w' := by
  unfold giveBack at h
  split at h
  · rename_i hwaits
    obtain rfl := Move.leadsTo_step.mp h
    exact .given (hframes.symm.trans hwaits) result rfl
  · obtain rfl := Move.leadsTo_returned.mp h
    exact .same hframes

theorem layered_conclude {result : Except Failure Status}
    (h : (w.conclude sys actor result).LeadsTo w') (hframes : w.frames = below) :
    Layered below w' := by
  cases actor with
  | machine place id =>
    simp only [conclude] at h
    split at h
    · unfold concludeMachine at h
      split at h
      · dsimp only at h
        split at h
        · exact layered_endRun h hframes
        · obtain rfl := Move.leadsTo_step.mp h
          exact .cons (congrArg _ hframes)
      · exact layered_endRun h hframes
      · refine layered_endRun h ?_
        simp only [abort, retire]
        split <;> exact hframes
    · exact absurd h Move.not_leadsTo_idle
  | monitor type =>
    simp only [conclude] at h
    split at h
    · unfold concludeMonitor at h
      split at h
      · exact layered_giveBack h hframes
      · refine layered_giveBack h ?_
        split <;> exact hframes
    · exact absurd h Move.not_leadsTo_idle

theorem layered_carry {progress : Progress} (h : (w.carry sys actor progress).LeadsTo w')
    (hframes : w.frames = below) : Layered below w' := by
  unfold carry at h
  split at h
  · exact absurd h Move.not_leadsTo_idle
  · rename_i cell _
    have hset : (w.setCell actor { cell with stack := progress.stack }).frames = below :=
      (setCell_frames ..).trans hframes
    dsimp only at h
    split at h
    · exact layered_conclude h hset
    · exact layered_conclude h hset
    · split at h
      · obtain rfl := Move.leadsTo_step.mp h
        exact .cons (congrArg _ hset)
      · exact layered_conclude h hset

theorem layered_notify {type : String} {e : Event} (h : (w.notify sys type e).LeadsTo w')
    (hframes : w.frames = below) : Layered below w' := by
  unfold notify at h
  split at h
  · exact layered_giveBack h hframes
  · split at h
    · exact layered_giveBack h hframes
    · exact layered_carry h hframes

/-! ## Steps -/

theorem layered_beginDispatch {m : Machine σ} (h : (w.beginDispatch sys place m).LeadsTo w')
    (hframes : w.frames = below) : Layered below w' := by
  unfold beginDispatch at h
  dsimp only at h
  split at h
  · exact layered_endRun h hframes
  · exact layered_carry h hframes
  · split at h
    · exact layered_endRun h hframes
    · split at h
      · refine layered_endRun h ?_
        simp only [abort, retire]
        split <;> exact hframes
      · exact layered_endRun h hframes
      · exact layered_carry h hframes

theorem layered_schedulePending (h : w.schedulePending.LeadsTo w') (hframes : w.frames = below) :
    Layered below w' := by
  obtain ⟨index, _, rfl⟩ := schedulePending_leadsTo h
  simp only [beginTurn, beginRun]
  split
  · exact .cons (congrArg _ hframes)
  · exact .same hframes

section Actions

variable {p : Paused} {c : Context}

theorem layered_goOn {program : Program σ Verdict}
    (h : (w.goOn below actor p c program).LeadsTo w') : Layered below w' := by
  obtain rfl := goOn_leadsTo.mp h
  exact .cons rfl

theorem layered_reply {α : Type} {answer : Except Failure α}
    {next : Except Failure α → Program σ Verdict}
    (h : (w.reply below actor p c answer next).LeadsTo w') : Layered below w' :=
  layered_goOn h

theorem layered_await {types : List EventType} {m : Machine σ}
    {next : Except Failure Event → Program σ Verdict}
    (h : (w.await sys below actor p c types next place m).LeadsTo w')
    (hframes : w.frames = top :: below) : Layered below w' := by
  unfold await at h
  split at h
  · exact layered_reply h
  · split at h
    · exact layered_reply h
    · split at h
      · exact absurd h Move.not_leadsTo_parked
      · dsimp only at h
        split at h
        · exact layered_reply h
        · split at h
          · exact layered_reply h
          · have hmarked : (w.markBound sys.config).frames = top :: below :=
              (markBound_frames w sys.config).trans hframes
            exact (layered_schedulePending h hmarked).tail

theorem layered_serve {r : Request} {next : r.Reply → Program σ Verdict}
    (h : (w.serve sys below actor p c r next).LeadsTo w') : Layered below w' := by
  by_cases hinward : r.isInward actor = true
  · obtain ⟨c', answer, rfl⟩ := serve_inward_leadsTo hinward h
    exact .cons rfl
  · cases actor with
    | monitor =>
      cases r with
      | remark => exact layered_goOn h
      | _ => exact absurd rfl hinward
    | machine place id =>
      cases r with
      | send | create =>
        simp only [serve] at h
        split at h <;> exact layered_reply h
      | notify type e =>
        let frame : Frame σ := .acting (.machine place id) p c (.notifying next)
        have hwaits : Layered (frame :: below) w' := layered_notify h rfl
        exact hwaits.tail
      | receive types =>
        simp only [serve] at h
        split at h
        · exact absurd h Move.not_leadsTo_idle
        · split at h
          · exact layered_reply h
          · obtain rfl := Move.leadsTo_step.mp h
            exact .cons rfl
      | remark => exact layered_goOn h
      | raise | goto | push | pop | id | choose | assert => exact absurd rfl hinward

theorem layered_execute {cell : Cell σ} {program : Program σ Verdict}
    (h : (w.execute sys below actor p c cell program).LeadsTo w') :
    Layered below w' ∨ sys.config.propagatePanics = true ∧ w'.frames = [] := by
  cases program with
  | done verdict =>
    simp only [execute] at h
    split at h
    · rename_i hpropagate
      obtain rfl := Move.leadsTo_panicked.mp h
      exact .inr ⟨hpropagate, rfl⟩
    · exact .inl (layered_carry h rfl)
  | load next => exact .inl (layered_goOn h)
  | store memory next => exact .inl (layered_goOn h)
  | request r next => exact .inl (layered_serve h)

end Actions

/-- A step works on the frame on top. -/
theorem next_layered (hframes : w.frames = top :: below) (h : (w.next sys).LeadsTo w') :
    Layered below w' ∨ sys.config.propagatePanics = true ∧ w'.frames = [] := by
  unfold next at h
  split at h
  · exact absurd h Move.not_leadsTo_idle
  · rename_i htop
    obtain ⟨_, rfl⟩ := List.cons.inj (htop.symm.trans hframes)
    split at h
    · exact .inl (layered_beginDispatch h rfl)
    · exact absurd h Move.not_leadsTo_idle
  · rename_i htop
    obtain ⟨_, rfl⟩ := List.cons.inj (htop.symm.trans hframes)
    split at h
    · exact layered_execute h
    · exact absurd h Move.not_leadsTo_idle
  · rename_i htop
    obtain ⟨_, rfl⟩ := List.cons.inj (htop.symm.trans hframes)
    split at h
    · exact .inl (layered_await h hframes)
    · exact absurd h Move.not_leadsTo_idle
  · exact absurd h Move.not_leadsTo_idle
  · exact absurd h Move.not_leadsTo_idle

end Layers

end World

end PushdownActors
