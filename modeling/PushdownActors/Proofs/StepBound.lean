-- SUMMARY: What the step bound does to a run: the marks that never go back, and when a run counts as bounded.
import PushdownActors.Exploration
import PushdownActors.Proofs.History

/-!
# The step bound

Three things in a world are about its run as a whole: the first failure, the mark of the
step bound, and the steps taken. Small steps change them in few ways, and none goes back
before the world is reset.

The bound is marked when somebody looks at it and that many steps are taken. A blocked
receive looks before it lets another run go first. Running until nothing is left looks
between turns, before it looks whether anything is left. So a run that was cut short is
marked, but so is every other that takes exactly as many steps as it may: the mark only
tells that the steps were used up.
-/

namespace PushdownActors

/-! ## The tally of a run -/

/-- What a world records of its run as a whole. -/
structure Tally where
  failure : Option Failure
  bounded : Bool
  steps : Nat

namespace Tally

/-- After a look at the step bound. -/
def mark (t : Tally) (config : Config) : Tally :=
  match config.testing.stepBound with
  | some bound => { t with bounded := t.bounded || bound ≤ t.steps }
  | none => t

/-- After the run of a machine has failed. -/
def abort (t : Tally) (f : Failure) : Tally :=
  if t.bounded then t else { t with failure := t.failure <|> some f }

/-- How a small step changes the tally. Turns begin only below the bound. -/
inductive Step (config : Config) (t : Tally) : Tally → Prop
  | same : Step config t t
  | marked : Step config t (t.mark config)
  | turn (hbounded : (t.mark config).bounded = false) :
      Step config t { t.mark config with steps := (t.mark config).steps + 1 }
  | aborted (f : Failure) : Step config t (t.abort f)

/-- A mark was not made before its time. -/
def Honest (config : Config) (t : Tally) : Prop :=
  t.bounded = true → ∃ bound, config.testing.stepBound = some bound ∧ bound ≤ t.steps

variable {config : Config} {t t' : Tally} {bound : Nat}

@[simp] theorem mark_failure : (t.mark config).failure = t.failure := by
  unfold mark
  split <;> rfl

@[simp] theorem mark_steps : (t.mark config).steps = t.steps := by
  unfold mark
  split <;> rfl

theorem mark_bounded_iff : (t.mark config).bounded = true ↔
    t.bounded = true ∨
      ∃ bound, config.testing.stepBound = some bound ∧ bound ≤ t.steps := by
  unfold mark
  split
  · rename_i bound hbound
    simp [hbound]
  · rename_i hbound
    simp [hbound]

theorem Honest.mark (h : t.Honest config) : (t.mark config).Honest config := by
  intro hmarked
  rw [mark_steps]
  rcases mark_bounded_iff.mp hmarked with hbounded | hreached
  · exact h hbounded
  · exact hreached

/-- More steps do no harm. -/
theorem Honest.later (h : t.Honest config) (hbounded : t'.bounded = t.bounded)
    (hsteps : t.steps ≤ t'.steps) : t'.Honest config := by
  intro hmarked
  rw [hbounded] at hmarked
  obtain ⟨bound, hbound, hreached⟩ := h hmarked
  exact ⟨bound, hbound, Nat.le_trans hreached hsteps⟩

theorem abort_bounded (f : Failure) : (t.abort f).bounded = t.bounded := by
  unfold abort
  split <;> rfl

theorem abort_steps (f : Failure) : (t.abort f).steps = t.steps := by
  unfold abort
  split <;> rfl

namespace Step

theorem of_eq (h : t' = t) : Step config t t' := h ▸ .same

/-- The first failure stays. -/
theorem failure (h : Step config t t') {f : Failure} (hf : t.failure = some f) :
    t'.failure = some f := by
  cases h with
  | same => exact hf
  | marked | turn _ => simpa using hf
  | aborted g =>
    unfold abort
    split
    · exact hf
    · simp [hf]

/-- A mark stays. -/
theorem bounded (h : Step config t t') (hbounded : t.bounded = true) : t'.bounded = true := by
  cases h with
  | same => exact hbounded
  | marked | turn _ => exact mark_bounded_iff.mpr (.inl hbounded)
  | aborted f => rwa [abort_bounded]

theorem honest (h : Step config t t') (ht : t.Honest config) : t'.Honest config := by
  cases h with
  | same => exact ht
  | marked => exact ht.mark
  | turn _ => exact ht.mark.later rfl (Nat.le_succ _)
  | aborted f => exact ht.later (abort_bounded f) (Nat.le_of_eq (abort_steps f).symm)

/-- Turns that are taken below the bound do not go beyond it. -/
theorem steps_le (h : Step config t t') (hbound : config.testing.stepBound = some bound)
    (hsteps : t.steps ≤ bound) : t'.steps ≤ bound := by
  cases h with
  | same => exact hsteps
  | marked => rwa [mark_steps]
  | turn hbounded =>
    have hbelow : ¬ bound ≤ t.steps := by
      intro hreached
      rw [mark_bounded_iff.mpr (.inr ⟨bound, hbound, hreached⟩)] at hbounded
      contradiction
    have hnext : (t.mark config).steps + 1 ≤ bound := by
      rw [mark_steps]
      omega
    exact hnext
  | aborted f => rwa [abort_steps]

end Step

end Tally

/-! ## Small steps -/

namespace World

def tally (w : World σ) : Tally := ⟨w.failure, w.bounded, w.steps⟩

section Tally

variable {sys : System σ} {w w' : World σ} {seen : List Traffic}

@[simp] theorem markBound_tally (config : Config) :
    (w.markBound config).tally = w.tally.mark config := by
  unfold markBound Tally.mark
  cases config.testing.stepBound <;> rfl

@[simp] theorem beginTurn_tally (index : Nat) :
    (w.beginTurn index).tally = { w.tally with steps := w.tally.steps + 1 } := by
  unfold beginTurn beginRun
  split <;> rfl

theorem beginTurn_failure (index : Nat) : (w.beginTurn index).failure = w.failure :=
  congrArg Tally.failure (beginTurn_tally index)

@[simp] theorem setCell_tally (actor : Actor) (cell : Cell σ) :
    (w.setCell actor cell).tally = w.tally := by
  unfold setCell
  split <;> split <;> rfl

theorem abort_tally {place : Place} {m : Machine σ} {f : Failure} :
    (w.abort place m f).tally = w.tally.abort (f.inMachine m.id.text) := by
  unfold abort Tally.abort
  dsimp only
  split
  · rename_i hbounded
    exact (if_pos hbounded).symm
  · rename_i hbounded
    exact (if_neg hbounded).symm

/-- A failing run is over, and its failure is recorded or not. -/
theorem abort_step {config : Config} {place : Place} {m : Machine σ} {f : Failure}
    (hw : w'.tally = w.tally) : Tally.Step config w.tally (w'.abort place m f).retire.tally := by
  have htally : (w'.abort place m f).retire.tally = w'.tally.abort (f.inMachine m.id.text) :=
    abort_tally
  rw [htally, hw]
  exact .aborted _

theorem giveBack_tally {result : Except Failure Unit} (h : (w.giveBack result).LeadsTo w') :
    w'.tally = w.tally := by
  unfold giveBack at h
  split at h
  · exact Move.leadsTo_step.mp h ▸ rfl
  · exact Move.leadsTo_returned.mp h ▸ rfl

theorem concludeMonitor_tally {m : Monitor σ} {result : Except Failure Status}
    (h : (w.concludeMonitor m result).LeadsTo w') : w'.tally = w.tally := by
  unfold concludeMonitor at h
  split at h
  · have hback := giveBack_tally h
    exact hback
  · refine (giveBack_tally h).trans ?_
    split <;> rfl

theorem Delivered.tally {e : Event} (h : Delivered w e seen w') : w'.tally = w.tally := by
  cases h <;> rfl

theorem create_tally {catalog : Catalog σ} {type : String} {payload : Option Value}
    {id : MachineId} (h : w.create catalog type payload = .ok (id, w')) : w'.tally = w.tally := by
  obtain ⟨_, _, rfl⟩ := create_eq_ok h
  rfl

/-- Of the ways to carry a dispatch on only a failure is recorded. -/
theorem Carried.tally {actor : Actor} {progress : Progress} (h : Carried w actor progress w')
    (config : Config) : Tally.Step config w.tally w'.tally := by
  cases h with
  | acting hcell hpaused haction =>
    exact .of_eq (setCell_tally actor _)
  | yielded hm hresult | halted hm hresult => exact .same
  | aborted hm hresult => exact abort_step rfl
  | judged hm hresult hback =>
    have htally := concludeMonitor_tally hback
    exact .of_eq htally

/-- Every small step changes the tally in one of the ways. -/
theorem Transition.tally (h : Transition sys w seen w') :
    Tally.Step sys.config w.tally w'.tally := by
  cases h with
  | start hframes hm hcreated hcarried => exact hcarried.tally sys.config
  | dispatch hframes hm hactive hfailed hselect hcarried => exact hcarried.tally sys.config
  | rest hframes hm hactive hfailed hselect => exact .same
  | unselectable hframes hm hactive hfailed hselect => exact abort_step rfl
  | stop hframes hm hwhy => exact .same
  | answer hframes hcell hcarried => exact hcarried.tally sys.config
  | panic hpropagate => exact .same
  | goOn hframes => exact .same
  | store hframes hcell => exact .of_eq (setCell_tally _ _)
  | remark hframes => exact .same
  | send hframes hdeliver => exact .of_eq (delivered_of_deliver hdeliver).tally
  | create hframes hcreate =>
    have htally := create_tally hcreate
    exact .of_eq htally
  | notify hframes hm hcarried => exact hcarried.tally sys.config
  | take hframes hm htake => exact .same
  | block hframes hm htake => exact .same
  | resume hframes hm hreceived => exact .same
  | giveUp hframes hm hreceived hgiven =>
    refine hgiven.keeps (P := fun given => Tally.Step sys.config w.tally given.tally) .same ?_
    rw [markBound_tally]
    exact .marked
  | turn hframes hm hreceived hfailed hbounded hindex =>
    rw [beginTurn_tally, markBound_tally]
    refine .turn ?_
    rw [← markBound_tally]
    exact hbounded

/-- No operation marks the bound before its time. -/
theorem Operated.honest (ho : Operated sys w seen w') (h : w.tally.Honest sys.config) :
    w'.tally.Honest sys.config := by
  cases ho with
  | unchanged => exact h
  | create hcreate =>
    rw [create_tally hcreate]
    exact h
  | send hdeliver =>
    rw [(delivered_of_deliver hdeliver).tally]
    exact h
  | fail f | describe registry => exact h.later rfl (Nat.le_refl _)
  | register htype hcarried | notify hm hcarried => exact (hcarried.tally sys.config).honest h
  | step hindex =>
    rw [beginTurn_tally]
    exact h.later rfl (Nat.le_succ _)
  | settle hend =>
    rw [markBound_tally]
    exact h.mark
  | run hindex =>
    rw [beginTurn_tally, markBound_tally]
    exact h.mark.later rfl (Nat.le_succ _)

/-- In all runs of a serial system, whenever the bound is marked that many steps have
been taken. -/
theorem Run.honest {log : List Traffic} (hserial : sys.config.serial = true)
    (hrun : Run sys w log) : w.tally.Honest sys.config := by
  apply Run.invariant (P := fun w _ => w.tally.Honest sys.config) hserial _ _ _ _ hrun
  · exact nofun
  · intro w w' log seen h ht
    exact ht.tally.honest h
  · intro w w' log seen h _ ho
    exact ho.honest h
  · intro w log _
    exact nofun

/-- Between turns a run until nothing is left looks whether it goes on, and begins turns
only below the bound. -/
theorem nextUntilQuiescent_idle (hidle : w.frames = [])
    (h : (w.nextUntilQuiescent sys).LeadsTo w') :
    w' = w ∨ w' = w.markBound sys.config ∨
      (w.markBound sys.config).bounded = false ∧
        ∃ index, w' = (w.markBound sys.config).beginTurn index := by
  unfold World.nextUntilQuiescent at h
  simp only [hidle] at h
  split at h
  · exact .inl (Move.leadsTo_returned.mp h)
  · split at h
    · exact .inr (.inl (Move.leadsTo_returned.mp h))
    · rename_i hgoes
      obtain ⟨index, _, rfl⟩ := schedulePending_leadsTo h
      refine .inr (.inr ⟨?_, index, rfl⟩)
      simp_all

/-- Every move of a run until nothing is left changes the tally in one of the ways. -/
theorem nextUntilQuiescent_step (hserial : sys.config.serial = true)
    (h : (w.nextUntilQuiescent sys).LeadsTo w') : Tally.Step sys.config w.tally w'.tally := by
  by_cases hidle : w.frames = []
  · rcases nextUntilQuiescent_idle hidle h with rfl | rfl | ⟨hbounded, index, rfl⟩
    · exact .same
    · rw [markBound_tally]
      exact .marked
    · rw [beginTurn_tally, markBound_tally]
      refine .turn ?_
      rw [← markBound_tally]
      exact hbounded
  · exact (next_leadsTo hserial (nextUntilQuiescent_leadsTo_of_frames hidle h)).tally

/-- Between turns nothing fails. -/
theorem nextUntilQuiescent_failure_of_idle (hidle : w.frames = [])
    (h : (w.nextUntilQuiescent sys).LeadsTo w') : w'.failure = w.failure := by
  rcases nextUntilQuiescent_idle hidle h with rfl | rfl | ⟨_, index, rfl⟩
  · rfl
  · exact markBound_failure w sys.config
  · exact (beginTurn_failure index).trans (markBound_failure w sys.config)

/-- While something is in progress, a run until nothing is left makes its next step. -/
theorem nextUntilQuiescent_of_next (hframes : w.frames ≠ []) (h : w.next sys = .step w') :
    w.nextUntilQuiescent sys = .step w' := by
  unfold World.nextUntilQuiescent
  split
  · contradiction
  · simp only [h]

end Tally

end World

/-! ## Runs until nothing is left -/

namespace Session

open World

variable [ChoiceSource τ] {sys : System σ}

/-- What every move keeps holds where a drive has come to. -/
theorem drive_kept {move : World σ → Move σ} {P : World σ → Prop}
    (hmove : ∀ {w w' : World σ}, P w → (move w).LeadsTo w' → P w') (budget : Nat)
    {s : Session σ τ} (h : P s.world) : P (drive move budget s).2.world := by
  obtain ⟨w, hw, hstop⟩ := drive_spec move hmove budget s h
  rcases hdrive : drive move budget s with ⟨stop, t⟩
  rw [hdrive] at hstop
  cases hstop with
  | returned hreturned => exact hmove hw (hreturned ▸ .returned)
  | panicked hpanicked => exact hmove hw (hpanicked ▸ .panicked)
  | parked _ | idle _ | outOfBudget => exact hw

/-- A drive that was cut off can be taken up where it was. -/
theorem drive_add {move : World σ → Move σ} (n more : Nat) {s t : Session σ τ}
    (h : drive move n s = (.outOfBudget, t)) : drive move (n + more) s = drive move more t := by
  induction n generalizing s with
  | zero =>
    cases h
    rw [Nat.zero_add]
  | succ n ih =>
    rw [Nat.succ_add]
    cases hmove : move s.world with
    | step w | ask q next =>
      simp only [drive, hmove] at h ⊢
      exact ih h
    | returned _ _ | panicked _ _ | parked | idle =>
      simp only [drive, hmove] at h
      cases h

/-- Where a drive has left a property behind, it was one of the moves that did. -/
theorem drive_changed {move : World σ → Move σ} {P : World σ → Prop} {budget : Nat}
    {s : Session σ τ} (h : P s.world) (hend : ¬ P (drive move budget s).2.world) :
    ∃ n < budget, ∃ t w', drive move n s = (.outOfBudget, t) ∧ P t.world ∧
      (move t.world).LeadsTo w' ∧ ¬ P w' := by
  induction budget generalizing s with
  | zero => exact absurd h hend
  | succ budget ih =>
    -- A move that does keep the property leaves the rest of the drive to be looked at.
    have later {next : Session σ τ}
        (hstep : ∀ n, drive move (n + 1) s = drive move n next)
        (hmove : (move s.world).LeadsTo next.world) :
        ∃ n < budget + 1, ∃ t w', drive move n s = (.outOfBudget, t) ∧ P t.world ∧
          (move t.world).LeadsTo w' ∧ ¬ P w' := by
      by_cases hnext : P next.world
      · rw [hstep] at hend
        obtain ⟨n, hn, t, w', hcut, hkept, hlast, hleft⟩ := ih hnext hend
        refine ⟨n + 1, Nat.succ_lt_succ hn, t, w', ?_, hkept, hlast, hleft⟩
        rw [hstep]
        exact hcut
      · exact ⟨0, Nat.succ_pos budget, s, next.world, rfl, h, hmove, hnext⟩
    cases hmove : move s.world with
    | step w =>
      have hstep : ∀ n, drive move (n + 1) s = drive move n { s with world := w } := by
        intro n
        simp only [drive, hmove]
      exact later hstep (hmove ▸ .step)
    | ask q next =>
      have hstep : ∀ n, drive move (n + 1) s
          = drive move n
            ⟨next (ChoiceSource.ask s.source q).1, (ChoiceSource.ask s.source q).2⟩ := by
        intro n
        simp only [drive, hmove]
      exact later hstep (hmove ▸ .ask _)
    | returned w _ =>
      simp only [drive, hmove] at hend
      exact ⟨0, Nat.succ_pos budget, s, w, rfl, h, hmove ▸ .returned, hend⟩
    | panicked w _ =>
      simp only [drive, hmove] at hend
      exact ⟨0, Nat.succ_pos budget, s, w, rfl, h, hmove ▸ .panicked, hend⟩
    | parked | idle =>
      simp only [drive, hmove] at hend
      exact absurd h hend

/-- The run until nothing is left comes to this session, and goes on from there within
its budget. -/
def Within (sys : System σ) (s : Session σ τ) (budget : Nat) (t : Session σ τ) : Prop :=
  ∃ n < budget, drive (World.nextUntilQuiescent sys) n s = (.outOfBudget, t)

/-- What the next step brings about and every move keeps holds at the end. -/
theorem Within.kept {s t : Session σ τ} {budget : Nat} (h : Within sys s budget t)
    {P : World σ → Prop} {w : World σ} (hstep : t.world.nextUntilQuiescent sys = .step w)
    (hw : P w)
    (hmove : ∀ {w w' : World σ}, P w → (w.nextUntilQuiescent sys).LeadsTo w' → P w') :
    P (drive (World.nextUntilQuiescent sys) budget s).2.world := by
  obtain ⟨n, hn, hcut⟩ := h
  obtain ⟨more, rfl⟩ := Nat.exists_eq_add_of_lt hn
  rw [Nat.add_assoc, drive_add n (more + 1) hcut]
  unfold drive
  simp only [hstep]
  exact drive_kept hmove more hw

end Session

/-! ## Receives that are cut short -/

namespace World

variable {sys : System σ} {w given : World σ} {types : List EventType}

/-- Where a receive gives up because of the bound, the bound is marked. -/
theorem bounded_of_givesUp (h : GivesUp sys w types given interruptedByBound) :
    given.bounded = true := by
  generalize hreport : interruptedByBound = f at h
  cases h with
  | bounded _ hbounded => exact hbounded
  | failed _ => exact absurd (congrArg Failure.message hreport) (by decide)
  | deadlocked _ _ _ => exact absurd (congrArg Failure.kind hreport) nofun

theorem Concedes.mem_blocked {place : Place} {f : Failure} (h : Concedes sys w place types f) :
    place ∈ w.blocked := by
  obtain ⟨hframes, _, _, _⟩ := h
  rw [blocked, hframes]
  exact List.mem_cons_self

theorem Concedes.bounded (hserial : sys.config.serial = true) {place : Place}
    (h : Concedes sys w place types interruptedByBound) :
    ∃ w', w.nextUntilQuiescent sys = .step w' ∧ w'.bounded = true := by
  obtain ⟨id, p, c, next, rest, given, hframes, hgiven, m, hm, hnext⟩ := h.next_eq hserial
  have hbusy : w.frames ≠ [] := by simp [hframes]
  have hbounded : given.bounded = true := bounded_of_givesUp hgiven
  exact ⟨_, nextUntilQuiescent_of_next hbusy hnext, hbounded⟩

end World

/-! ## A hermit

A machine that does nothing at all: one turn to start it, and one to find nothing. -/

namespace Hermit

def hermit : Description Unit :=
  ({} : Description Unit).state ({ name := "Still" } : StateSpec).asStart

/-- A single run, which may take two steps. -/
def system : System Unit where
  catalog := fun _ => { fresh := (), describe := fun _ => hermit }
  config := { Config.bugFinding 0 with testing := { iterations := 1, maxSteps := 2 } }

def setup : Setup Unit :=
  .perform (.create "Hermit" none) fun reply => .done (reply.map fun _ => ())

/-- The hermit, before it has run. -/
def begun : Session Unit CyclicChoice :=
  let s : Session Unit CyclicChoice := { source := { numbers := [] } }
  (s.perform system 0 (.create "Hermit" none)).2

theorem history_begun : Session.History system begun := by
  refine .perform (.fresh _) (.create ..) 0 ?_
  exact nofun

theorem run_begun : (begun.run system 100).1 = .ok (.ok 2) := rfl

end Hermit

/-! ## Results -/

namespace Session

open World

variable [ChoiceSource τ] {sys : System σ} {s : Session σ τ} {budget steps : Nat}

theorem run_snd (hserial : sys.config.serial = true) :
    (s.run sys budget).2 = (drive (World.nextUntilQuiescent sys) budget s).2 := by
  rw [run_eq budget hserial]

/-- After a run that has come to its end the bound is marked if and only if that many
steps are taken. -/
theorem run_bounded_iff (hserial : sys.config.serial = true) (h : AtRest sys s.world)
    (hrun : (s.run sys budget).1 = .ok (.ok steps)) :
    (s.run sys budget).2.world.bounded = true ↔
      ∃ bound, sys.config.testing.stepBound = some bound ∧
        bound ≤ (s.run sys budget).2.world.steps := by
  obtain ⟨⟨log, hleft⟩, _⟩ := run_left hserial budget h
  obtain ⟨hfailure, w, result, hreturned⟩ := run_returned hserial h hrun
  obtain ⟨hw, _⟩ := nextUntilQuiescent_returned hreturned hfailure
  refine ⟨hleft.honest hserial, ?_⟩
  rintro ⟨bound, hbound, hreached⟩
  have htally : (s.run sys budget).2.world.tally = w.tally.mark sys.config := by
    rw [hw, markBound_tally]
  have hsteps : (s.run sys budget).2.world.steps = w.steps :=
    (congrArg Tally.steps htally).trans Tally.mark_steps
  rw [hsteps] at hreached
  exact (congrArg Tally.bounded htally).trans
    (Tally.mark_bounded_iff.mpr (.inr ⟨bound, hbound, hreached⟩))

/-- An entry point that comes to its end has performed operations one after the other. -/
theorem History.execute {α : Type} (h : History sys s) (entry : Entry σ α) {a : α}
    {t : Session σ τ} (hended : s.execute sys budget entry = (.ok a, t)) : History sys t := by
  induction entry generalizing s with
  | done result =>
    cases hended
    exact h
  | look next ih => exact ih s.world h hended
  | perform op next ih =>
    simp only [Session.execute] at hended
    split at hended
    · rename_i reply s' hreply
      have hnext : History sys s' := by
        have hperform := h.perform op budget (by rw [hreply]; exact nofun)
        rwa [hreply] at hperform
      exact ih reply hnext hended
    · cases hended

/-- After any history, when a run until nothing is left answers with its steps, the bound
is marked if and only if that many steps are taken since the world was new. It is
marked if a run is still pending, and if a receive was cut short by the bound on the
way. A run that begins within the bound does not go beyond it, so it is marked if and
only if it has used up its steps. -/
theorem History.bounded_iff (hserial : sys.config.serial = true) (h : History sys s)
    (hrun : (s.run sys budget).1 = .ok (.ok steps)) :
    ((s.run sys budget).2.world.bounded = true ↔
      ∃ bound, sys.config.testing.stepBound = some bound ∧
        bound ≤ (s.run sys budget).2.world.steps) ∧
      ((s.run sys budget).2.world.pending ≠ [] → (s.run sys budget).2.world.bounded = true) ∧
      (∀ t place types, Within sys s budget t →
        Concedes sys t.world place types interruptedByBound →
        (s.run sys budget).2.world.bounded = true) ∧
      ∀ bound, sys.config.testing.stepBound = some bound → s.world.steps ≤ bound →
        (s.run sys budget).2.world.steps ≤ bound := by
  have hrest := h.atRest hserial
  refine ⟨run_bounded_iff hserial hrest hrun, ?_, ?_, ?_⟩
  · intro hpending
    obtain ⟨_, hbounded | hempty⟩ := run_eq_ok hserial hrest hrun
    · exact hbounded
    · exact absurd hempty hpending
  · intro t place types hwithin hconcedes
    obtain ⟨w, hstep, hbounded⟩ := hconcedes.bounded hserial
    rw [run_snd hserial]
    apply hwithin.kept (P := fun w => w.bounded = true) hstep hbounded
    intro w w' hw hmove
    exact (nextUntilQuiescent_step hserial hmove).bounded hw
  · intro bound hbound hsteps
    rw [run_snd hserial]
    apply drive_kept (P := fun w => w.steps ≤ bound) _ budget hsteps
    intro w w' hw hmove
    exact (nextUntilQuiescent_step hserial hmove).steps_le hbound hw

theorem History.bounded_iff_hermit :
    History Hermit.system Hermit.begun ∧ (Hermit.begun.run Hermit.system 100).1 = .ok (.ok 2) ∧
      ((Hermit.begun.run Hermit.system 100).2.world.bounded = true ↔
        ∃ bound, Hermit.system.config.testing.stepBound = some bound ∧
          bound ≤ (Hermit.begun.run Hermit.system 100).2.world.steps) :=
  ⟨Hermit.history_begun, Hermit.run_begun,
    (History.bounded_iff rfl Hermit.history_begun Hermit.run_begun).1⟩

/-- A run that comes to rest by itself, in as many steps as it may take: no run is
pending, and no receive was ever cut short, and yet it is marked and counted as one
that was. -/
theorem hermit_bounded :
    (Hermit.begun.run Hermit.system 100).1 = .ok (.ok 2) ∧
      (Hermit.begun.run Hermit.system 100).2.world.bounded = true ∧
      (Hermit.begun.run Hermit.system 100).2.world.pending = [] ∧
      (∀ t place types f, Within Hermit.system Hermit.begun 100 t →
        ¬ Concedes Hermit.system t.world place types f) ∧
      (Exploration.run Hermit.system 100 Hermit.setup).1
        = .ok { iterations := 1, steps := 2, bounded := 1 } := by
  refine ⟨rfl, rfl, rfl, ?_, rfl⟩
  rintro t place types f ⟨n, _, hcut⟩ hconcedes
  have hblocked : t.world.blocked = [] := by
    have ht : t = (drive (World.nextUntilQuiescent Hermit.system) n Hermit.begun).2 := by
      rw [hcut]
    rw [ht]
    -- The run has five moves, and stays where it is after the last of them.
    match n with
    | 0 | 1 | 2 | 3 | 4 => rfl
    | _ + 5 => rfl
  have hmem := hconcedes.mem_blocked
  rw [hblocked] at hmem
  contradiction

end Session

/-- A run of an exploration is counted among the bounded ones if and only if it has taken
as many steps as the bound says. -/
theorem Exploration.iterate_bounded_iff [ChoiceSource τ] {sys : System σ} {budget steps : Nat}
    {source : τ} {setup : Setup σ} {bounded : Bool} {t : Session σ τ}
    (hserial : sys.config.serial = true)
    (hended : iterate sys budget source setup = (.ok (.ok (steps, bounded)), t)) :
    bounded = true ↔ ∃ bound, sys.config.testing.stepBound = some bound ∧
      bound ≤ t.world.steps := by
  unfold iterate at hended
  split at hended
  · cases hended
  · cases hended
  · rename_i s hsetup
    split at hended
    · cases hended
    · cases hended
    · rename_i steps' s' hrun
      cases hended
      have hrest := ((Session.History.fresh source).execute setup hsetup).atRest hserial
      have hiff := Session.run_bounded_iff hserial hrest (by rw [hrun])
      rwa [hrun] at hiff

end PushdownActors
