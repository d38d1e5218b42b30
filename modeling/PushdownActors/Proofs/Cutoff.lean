-- SUMMARY: No turn begins past the step bound, at whatever depth, and no failure is recorded once a receive was cut short.
import PushdownActors.Proofs.Aftermath
import PushdownActors.Proofs.Breakdown

/-!
# Cut off at the step bound

A turn begins in two places: between turns, when a run until nothing is left goes on, and
above a blocked receive, when it lets another run go first. Either looks at the bound
before, so the steps stay within it however deeply receives are nested in each other, and
once the bound is marked no turn begins any more. Only the operation that asks for a single
step does not look.

Receives that are cut short there fail, and so do others after a failure. What they fail
with says nothing about the program. By then either the bound is marked, and no failure is
recorded past it, or there is a failure already, and it is the one that is kept. So a
receive that was cut short is never what a run is said to have failed with, whatever the
action makes of its answer.
-/

namespace PushdownActors

/-! ## Marks and failures -/

namespace Tally.Step

variable {config : Config} {t t' : Tally}

theorem steps_of_bounded (h : Step config t t') (hbounded : t.bounded = true) :
    t'.steps = t.steps := by
  cases h with
  | same => rfl
  | marked => exact mark_steps
  | turn hgoes =>
    rw [mark_bounded_iff.mpr (.inl hbounded)] at hgoes
    contradiction
  | aborted f => exact abort_steps f

/-- A failure that is there already is not followed by another one. -/
theorem failure_of_failed (h : Step config t t') (hfailed : t.failure.isSome = true) :
    t'.failure = t.failure := by
  obtain ⟨f, hf⟩ := Option.isSome_iff_exists.mp hfailed
  rw [hf]
  exact h.failure hf

end Tally.Step

namespace World

variable {sys : System σ} {w v w' w'' : World σ} {seen : List Traffic}

/-! ## The turns that are counted -/

/-- A turn begins: a run comes on top of everything in progress. -/
def Begins (w w' : World σ) : Prop := ∃ place, w'.frames = .ready place :: w.frames

theorem not_begins_of_le (h : w'.frames.length ≤ w.frames.length) : ¬ w.Begins w' := by
  rintro ⟨place, hframes⟩
  rw [hframes, List.length_cons] at h
  omega

theorem not_begins_of_acting {actor : Actor} {p : Paused} {c : Context} {stage : Stage σ}
    {rest : List (Frame σ)} (h : w'.frames = .acting actor p c stage :: rest) : ¬ w.Begins w' := by
  rintro ⟨place, hframes⟩
  rw [h] at hframes
  cases hframes

/-- A turn that is begun after a look at the bound is one step more. -/
theorem begins_turn (config : Config) {index : Nat} (hindex : index < w.pending.length) :
    w.Begins ((w.markBound config).beginTurn index) ∧
      ((w.markBound config).beginTurn index).steps = w.steps + 1 := by
  have hpending : (w.markBound config).pending[index]? = some w.pending[index] := by
    rw [markBound_pending, List.getElem?_eq_getElem hindex]
  constructor
  · refine ⟨w.pending[index], ?_⟩
    simp only [beginTurn, beginRun, hpending, markBound_frames]
  · have htally := beginTurn_tally (w := w.markBound config) index
    rw [markBound_tally] at htally
    exact (congrArg Tally.steps htally).trans (congrArg (· + 1) Tally.mark_steps)

theorem markBound_steps (config : Config) : (w.markBound config).steps = w.steps :=
  (congrArg Tally.steps (markBound_tally config)).trans Tally.mark_steps

theorem abort_frames (place : Place) (m : Machine σ) (f : Failure) :
    (w.abort place m f).frames = w.frames := by
  unfold abort
  dsimp only
  split <;> rfl

/-- Carrying a dispatch on begins no turn, and no step is counted for it. -/
theorem Carried.begins_nothing {actor : Actor} {progress : Progress}
    (h : Carried v actor progress w') (hle : v.frames.length ≤ w.frames.length) :
    ¬ w.Begins w' ∧ w'.steps = v.steps := by
  cases h with
  | acting hcell hpaused haction =>
    exact ⟨not_begins_of_acting rfl, congrArg Tally.steps (setCell_tally actor _)⟩
  | yielded hm hresult | halted hm hresult => exact ⟨not_begins_of_le hle, rfl⟩
  | @aborted place id m progress f hm hresult =>
    constructor
    · apply not_begins_of_le
      have hframes := abort_frames (w := v) place
        { m with cell := { m.cell with stack := progress.stack } } f
      exact Nat.le_trans (Nat.le_of_eq (congrArg List.length hframes)) hle
    · exact (congrArg Tally.steps abort_tally).trans (Tally.abort_steps _)
  | judged hm hresult hback =>
    refine ⟨?_, congrArg Tally.steps (concludeMonitor_tally hback)⟩
    obtain ⟨judged, answer, heq, hframes, _⟩ := SameRuns.concludeMonitor_eq (v.setMonitor _) _ _
    rw [heq] at hback
    unfold giveBack at hback
    split at hback
    · exact Move.leadsTo_step.mp hback ▸ not_begins_of_acting rfl
    · obtain rfl := Move.leadsTo_returned.mp hback
      have hlength := congrArg List.length hframes
      exact not_begins_of_le (Nat.le_trans (Nat.le_of_eq hlength) hle)

/-- A small step begins a turn and counts it, or does neither. -/
theorem Transition.begins (h : Transition sys w seen w') :
    (w.Begins w' ∧ w'.steps = w.steps + 1) ∨ (¬ w.Begins w' ∧ w'.steps = w.steps) := by
  cases h with
  | turn hframes hm hreceived hfailed hbounded hindex =>
    exact .inl (begins_turn sys.config hindex)
  | start hframes hm hcreated hcarried | dispatch hframes hm hactive hfailed hselect hcarried
  | answer hframes hcell hcarried =>
    refine .inr (hcarried.begins_nothing ?_)
    rw [hframes]
    exact Nat.le_succ _
  | notify hframes hm hcarried =>
    refine .inr (hcarried.begins_nothing ?_)
    rw [hframes]
    exact Nat.le_refl _
  | rest hframes hm hactive hfailed hselect | stop hframes hm hwhy =>
    refine .inr ⟨not_begins_of_le ?_, rfl⟩
    rw [hframes]
    exact Nat.le_succ _
  | @unselectable place rest m f hframes hm hactive hfailed hselect =>
    refine .inr ⟨not_begins_of_le ?_, ?_⟩
    · have hkept := abort_frames (w := { w with frames := rest }) place m
        (f.inState m.cell.stack.top?)
      rw [hframes]
      exact Nat.le_trans (Nat.le_of_eq (congrArg List.length hkept)) (Nat.le_succ _)
    · exact (congrArg Tally.steps abort_tally).trans (Tally.abort_steps _)
  | panic hpropagate => exact .inr ⟨not_begins_of_le (Nat.zero_le _), rfl⟩
  | goOn hframes | remark hframes | take hframes hm htake | block hframes hm htake
  | resume hframes hm hreceived => exact .inr ⟨not_begins_of_acting rfl, rfl⟩
  | store hframes hcell =>
    exact .inr ⟨not_begins_of_acting rfl, congrArg Tally.steps (setCell_tally _ _)⟩
  | send hframes hdeliver =>
    have htally := (delivered_of_deliver hdeliver).tally
    exact .inr ⟨not_begins_of_acting rfl, congrArg Tally.steps htally⟩
  | create hframes hcreate =>
    exact .inr ⟨not_begins_of_acting rfl, congrArg Tally.steps (create_tally hcreate)⟩
  | giveUp hframes hm hreceived hgiven =>
    refine .inr ⟨not_begins_of_acting rfl, ?_⟩
    exact hgiven.keeps (P := fun given => given.steps = w.steps) rfl (markBound_steps sys.config)

/-- Every move of a run until nothing is left begins a turn and counts it, or does
neither. -/
theorem nextUntilQuiescent_begins (hserial : sys.config.serial = true)
    (h : (w.nextUntilQuiescent sys).LeadsTo w') :
    (w.Begins w' ∧ w'.steps = w.steps + 1) ∨ (¬ w.Begins w' ∧ w'.steps = w.steps) := by
  by_cases hidle : w.frames = []
  · unfold World.nextUntilQuiescent at h
    simp only [hidle] at h
    split at h
    · obtain rfl := Move.leadsTo_returned.mp h
      exact .inr ⟨not_begins_of_le (Nat.le_refl _), rfl⟩
    · split at h
      · obtain rfl := Move.leadsTo_returned.mp h
        have hlength := congrArg List.length (markBound_frames w sys.config)
        exact .inr ⟨not_begins_of_le (Nat.le_of_eq hlength), markBound_steps sys.config⟩
      · obtain ⟨index, hindex, rfl⟩ := schedulePending_leadsTo h
        exact .inl (begins_turn sys.config (by simpa using hindex))
  · exact (next_leadsTo hserial (nextUntilQuiescent_leadsTo_of_frames hidle h)).begins

/-! ## Past the bound -/

/-- A mark stays, whatever is done. -/
theorem Operated.bounded (ho : Operated sys w seen w') (hbounded : w.bounded = true) :
    w'.bounded = true := by
  have hmarked : (w.markBound sys.config).bounded = true :=
    markBound_bounded_of_bounded sys.config hbounded
  cases ho with
  | unchanged | describe registry | fail f => exact hbounded
  | create hcreate => exact (congrArg Tally.bounded (create_tally hcreate)).trans hbounded
  | send hdeliver =>
    exact (congrArg Tally.bounded (delivered_of_deliver hdeliver).tally).trans hbounded
  | register htype hcarried | notify hm hcarried =>
    exact (hcarried.tally sys.config).bounded hbounded
  | step hindex => exact (congrArg Tally.bounded (beginTurn_tally _)).trans hbounded
  | settle hend => exact hmarked
  | run hindex => exact (congrArg Tally.bounded (beginTurn_tally _)).trans hmarked

theorem Ensues.bounded (hserial : sys.config.serial = true) (h : Ensues sys w w')
    (hbounded : w.bounded = true) : w'.bounded = true := by
  apply h.invariant (P := fun w => w.bounded = true) hserial _ _ hbounded
  · intro w w' seen hbounded ht
    exact ht.tally.bounded hbounded
  · intro w w' seen hbounded _ ho
    exact ho.bounded hbounded

/-- Past the bound no small step begins a turn. -/
theorem next_of_bounded (hserial : sys.config.serial = true) (h : (w.next sys).LeadsTo w')
    (hbounded : w.bounded = true) : ¬ w.Begins w' ∧ w'.steps = w.steps := by
  have ht := next_leadsTo hserial h
  have hsteps : w'.steps = w.steps := ht.tally.steps_of_bounded hbounded
  rcases ht.begins with ⟨_, hcounted⟩ | hnothing
  · have hmore : w.steps + 1 = w.steps := hcounted.symm.trans hsteps
    omega
  · exact hnothing

/-! ## Receives that are cut short -/

/-- The innermost run is blocked in a receive that is cut short now: by the bound, or by a
failure that is there already. -/
def CutsOff (sys : System σ) (w : World σ) : Prop :=
  ∃ place types f, Concedes sys w place types f ∧
    (f = interruptedByBound ∨ f = interruptedByFailure)

/-- What a run of a machine fails with from now on is not recorded. -/
def Sealed (w : World σ) : Prop := w.bounded = true ∨ w.hasFailed = true

/-- A receive is cut short because of a failure only if there is one. -/
theorem failed_of_givesUp {given : World σ} {types : List EventType}
    (h : GivesUp sys w types given interruptedByFailure) :
    w.hasFailed = true := by
  generalize hreport : interruptedByFailure = f at h
  cases h with
  | failed hfailed => exact hfailed
  | bounded _ _ => exact absurd (congrArg Failure.message hreport) (by decide)
  | deadlocked _ _ _ => exact absurd (congrArg Failure.kind hreport) nofun

/-- A receive that is cut short records nothing, and nothing is recorded after it. -/
theorem CutsOff.next_eq (hserial : sys.config.serial = true) (h : CutsOff sys w) :
    ∃ w', w.nextUntilQuiescent sys = .step w' ∧ w.next sys = .step w' ∧ w'.Sealed ∧
      w'.failure = w.failure := by
  obtain ⟨place, types, f, hconcedes, hwhy⟩ := h
  obtain ⟨id, p, c, next, rest, given, hframes, hgiven, m, hm, hnext⟩ := hconcedes.next_eq hserial
  have hbusy : w.frames ≠ [] := by simp [hframes]
  have hfailure : given.failure = w.failure :=
    hgiven.keeps (P := fun given => given.failure = w.failure) rfl
      (markBound_failure w sys.config)
  refine ⟨_, nextUntilQuiescent_of_next hbusy hnext, hnext, ?_, hfailure⟩
  rcases hwhy with rfl | rfl
  · have hbounded : given.bounded = true := bounded_of_givesUp hgiven
    exact .inl hbounded
  · have hfailed : given.hasFailed = true := by
      rw [hasFailed, hfailure]
      exact failed_of_givesUp hgiven
    exact .inr hfailed

theorem Sealed.step {config : Config} (h : w.Sealed)
    (ht : Tally.Step config w.tally w'.tally) : w'.Sealed ∧ w'.failure = w.failure := by
  rcases h with hbounded | hfailed
  · exact ⟨.inl (ht.bounded hbounded), ht.failure_of_bounded hbounded⟩
  · have hsame : w'.failure = w.failure := ht.failure_of_failed hfailed
    refine ⟨.inr ?_, hsame⟩
    rwa [hasFailed, hsame]

theorem Sealed.ensues (hserial : sys.config.serial = true) (h : w.Sealed)
    (hensues : Ensues sys w w') : w'.Sealed := by
  rcases h with hbounded | hfailed
  · exact .inl (hensues.bounded hserial hbounded)
  · obtain ⟨f, hf⟩ := Option.isSome_iff_exists.mp hfailed
    right
    rw [hasFailed, hensues.failure hserial hf]
    rfl

/-- From the cut of a receive on, no run of a machine is recorded as failed. -/
theorem CutsOff.records_nothing (hserial : sys.config.serial = true) (h : CutsOff sys w)
    (hnext : (w.next sys).LeadsTo v) (hensues : Ensues sys v w')
    (hlater : (w'.next sys).LeadsTo w'') : v.failure = w.failure ∧ w''.failure = w'.failure := by
  obtain ⟨v', _, heq, hsealed, hfailure⟩ := h.next_eq hserial
  rw [heq, Move.leadsTo_step] at hnext
  subst hnext
  have hstep := (next_leadsTo hserial hlater).tally
  exact ⟨hfailure, ((hsealed.ensues hserial hensues).step hstep).2⟩

/-! ## Monitors that are notified from outside

They do not receive, and nothing else runs, so no receive is cut short meanwhile. -/

/-- Only monitors are in progress. -/
def Judging (w : World σ) : Prop :=
  ∀ f ∈ w.frames, ∃ type p c stage, f = .acting (.monitor type) p c stage

theorem Judging.of_idle (h : w.frames = []) : w.Judging := by
  intro f hf
  rw [h] at hf
  contradiction

theorem Judging.not_ready {place : Place} {rest : List (Frame σ)} (h : w.Judging)
    (hframes : w.frames = .ready place :: rest) : False := by
  obtain ⟨type, p, c, stage, heq⟩ := h (.ready place) (hframes ▸ List.mem_cons_self)
  contradiction

theorem Judging.not_machine {place : Place} {id : MachineId} {p : Paused} {c : Context}
    {stage : Stage σ} {rest : List (Frame σ)} (h : w.Judging)
    (hframes : w.frames = .acting (.machine place id) p c stage :: rest) : False := by
  obtain ⟨type, p', c', stage', heq⟩ := h (.acting (.machine place id) p c stage)
    (hframes ▸ List.mem_cons_self)
  cases heq

/-- The innermost action goes on. -/
theorem Judging.replaceFrame {actor : Actor} {p p' : Paused} {c c' : Context}
    {stage stage' : Stage σ} {rest : List (Frame σ)} (h : w.Judging)
    (hframes : w.frames = .acting actor p c stage :: rest)
    (hframes' : w'.frames = .acting actor p' c' stage' :: rest) : w'.Judging := by
  rw [Judging, hframes] at h
  obtain ⟨⟨type, _, _, _, hmonitor⟩, hrest⟩ := List.forall_mem_cons.mp h
  cases hmonitor
  rw [Judging, hframes']
  exact List.forall_mem_cons.mpr ⟨⟨type, p', c', stage', rfl⟩, hrest⟩

theorem Judging.popFrame {f : Frame σ} {rest : List (Frame σ)} (h : w.Judging)
    (hframes : w.frames = f :: rest) : Judging { w with frames := rest } := by
  intro f' hf'
  exact h f' (hframes ▸ List.mem_cons_of_mem f hf')

theorem Carried.judging {type : String} {progress : Progress}
    (h : Carried w (.monitor type) progress w') (hw : w.Judging) : w'.Judging := by
  cases h with
  | @acting _ cell _ p action hcell hpaused haction =>
    have hframes := setCell_frames w (.monitor type) { cell with stack := progress.stack }
    intro f hf
    rcases List.mem_cons.mp hf with rfl | hf
    · exact ⟨type, p, _, _, rfl⟩
    · exact hw f (hframes ▸ hf)
  | judged hm hresult hback =>
    obtain ⟨judged, answer, heq, hframes, _⟩ := SameRuns.concludeMonitor_eq (w.setMonitor _) _ _
    have hjudged : judged.Judging := by
      rw [Judging, hframes]
      exact hw
    rw [heq] at hback
    unfold giveBack at hback
    split at hback
    · rename_i hnotifying
      exact Move.leadsTo_step.mp hback ▸ hjudged.replaceFrame hnotifying rfl
    · exact Move.leadsTo_returned.mp hback ▸ hjudged

theorem Transition.judging (h : Transition sys w seen w') (hw : w.Judging) : w'.Judging := by
  cases h with
  | start hframes | dispatch hframes | rest hframes | unselectable hframes | stop hframes =>
    exact (hw.not_ready hframes).elim
  | send hframes | create hframes | notify hframes | take hframes | block hframes
  | resume hframes | giveUp hframes | turn hframes => exact (hw.not_machine hframes).elim
  | panic hpropagate => exact Judging.of_idle rfl
  | goOn hframes | store hframes | remark hframes => exact hw.replaceFrame hframes rfl
  | @answer actor p c verdict rest cell w' hframes hcell hcarried =>
    obtain ⟨type, _, _, _, hmonitor⟩ := hw (.acting actor p c (.running (.done verdict)))
      (hframes ▸ List.mem_cons_self)
    cases hmonitor
    exact hcarried.judging (hw.popFrame hframes)

/-- An operation that registers or notifies a monitor begins with nothing but this monitor
in progress. -/
theorem judging_of_notify (hserial : sys.config.serial = true) (hidle : w.frames = [])
    {type : String} {e : Event} (h : (w.notify sys type e).LeadsTo w') : w'.Judging := by
  rcases notify_leadsTo hserial h with ⟨result, hback⟩ | ⟨_, m, _, hcarried⟩
  · obtain rfl : w' = w := by simpa [giveBack, hidle] using hback
    exact .of_idle hidle
  · exact hcarried.judging (.of_idle hidle)

theorem judging_of_register (hserial : sys.config.serial = true) (hidle : w.frames = [])
    {type : String} (h : (w.register sys type).LeadsTo w') : w'.Judging := by
  unfold World.register at h
  split at h
  · exact Move.leadsTo_returned.mp h ▸ .of_idle hidle
  · split at h
    · exact Move.leadsTo_returned.mp h ▸ .of_idle hidle
    · exact (carry_leadsTo hserial h).judging (.of_idle hidle)

theorem Judging.not_cutsOff (h : w.Judging) : ¬ CutsOff sys w := by
  rintro ⟨place, types, f, hconcedes, _⟩
  obtain ⟨hframes, _, _, _⟩ := hconcedes
  exact h.not_machine hframes

end World

/-! ## A receive that the bound cuts short

In the run that ends with a wrong answer, the giver still waits when the two steps are
taken. -/

namespace WrongAnswer

/-- The receive of the giver is cut short. -/
def waiting : Session Unit CyclicChoice :=
  (Session.drive (World.nextUntilQuiescent system) 8 begun).2

theorem within_waiting : Session.Within system begun 100 waiting := ⟨8, by decide, rfl⟩

theorem cutsOff_waiting : World.CutsOff system waiting.world :=
  ⟨1, [Exchange.y], interruptedByBound, .giveUp rfl rfl rfl (.bounded rfl rfl), .inl rfl⟩

end WrongAnswer

/-! ## Results -/

namespace Session

open World

variable [ChoiceSource τ] {sys : System σ} {s : Session σ τ} {budget : Nat}

/-- What every step of a run until nothing is left keeps holds wherever it comes. -/
theorem Within.of_kept {s t : Session σ τ} (h : Within sys s budget t) {P : World σ → Prop}
    (hs : P s.world)
    (hmove : ∀ {w w' : World σ}, P w → (w.nextUntilQuiescent sys).LeadsTo w' → P w') :
    P t.world := by
  obtain ⟨n, _, hcut⟩ := h
  have hkept := drive_kept hmove n hs
  rwa [hcut] at hkept

theorem run_kept (hserial : sys.config.serial = true) {P : World σ → Prop} (hs : P s.world)
    (hmove : ∀ {w w' : World σ}, P w → (w.nextUntilQuiescent sys).LeadsTo w' → P w') :
    P (s.run sys budget).2.world := by
  rw [run_snd hserial]
  exact drive_kept hmove budget hs

/-- Past the bound a run until nothing is left takes no step. -/
theorem run_steps_of_bounded (hserial : sys.config.serial = true)
    (hbounded : s.world.bounded = true) :
    (s.run sys budget).2.world.steps = s.world.steps := by
  refine And.right (run_kept (P := fun w => w.bounded = true ∧ w.steps = s.world.steps) hserial
    ⟨hbounded, rfl⟩ ?_)
  intro w w' ⟨hbounded, hsteps⟩ hmove
  have htally := nextUntilQuiescent_step hserial hmove
  exact ⟨htally.bounded hbounded, (htally.steps_of_bounded hbounded).trans hsteps⟩

/-- A receive that is cut short on the way leaves the failure that a run ends with as it
was then. -/
theorem Within.failure_of_cutsOff {s t : Session σ τ} (hserial : sys.config.serial = true)
    (h : Within sys s budget t) (hcut : CutsOff sys t.world) :
    (s.run sys budget).2.world.failure = t.world.failure := by
  obtain ⟨w, hstep, _, hsealed, hfailure⟩ := hcut.next_eq hserial
  rw [run_snd hserial]
  have hkept := h.kept (P := fun w => w.Sealed ∧ w.failure = t.world.failure) hstep
    ⟨hsealed, hfailure⟩ (by
      intro w w' ⟨hsealed, hfailure⟩ hmove
      obtain ⟨hsealed', hsame⟩ := hsealed.step (nextUntilQuiescent_step hserial hmove)
      exact ⟨hsealed', hsame.trans hfailure⟩)
  exact hkept.2

/-- While monitors are registered or notified from outside, no receive is cut short. -/
theorem not_cutsOff_of_judging (hserial : sys.config.serial = true) {w : World σ} (h : w.Judging)
    {source : τ} {n : Nat} {t : Session σ τ}
    (hdrive : drive (World.next sys) n ⟨w, source⟩ = (.outOfBudget, t)) :
    ¬ CutsOff sys t.world := by
  have hkept : (drive (World.next sys) n ⟨w, source⟩).2.world.Judging :=
    drive_kept (fun hw hmove => (next_leadsTo hserial hmove).judging hw) n h
  rw [hdrive] at hkept
  exact hkept.not_cutsOff

/-- A run until nothing is left that begins within the bound stays within it, also on its
way. Every turn that begins is counted, above whatever is in progress. Once the bound is
marked, and until a reset, no run until nothing is left takes a step, and no small step
begins a turn. A receive that is cut short, by the bound or by a failure, is never recorded:
the failure that the run ends with was there before, and until a reset no run of a machine
records another. Nor do monitors that are notified from outside. -/
theorem stays_within_bound (hserial : sys.config.serial = true) :
    (∀ bound, sys.config.testing.stepBound = some bound → s.world.steps ≤ bound →
      (s.run sys budget).2.world.steps ≤ bound ∧
        ∀ t, Within sys s budget t → t.world.steps ≤ bound) ∧
    (∀ w w' : World σ, (w.nextUntilQuiescent sys).LeadsTo w' →
      (w.Begins w' ∧ w'.steps = w.steps + 1) ∨ (¬ w.Begins w' ∧ w'.steps = w.steps)) ∧
    (s.world.bounded = true → ∀ w : World σ, Ensues sys s.world w →
      w.bounded = true ∧
        (∀ source : τ, (run ⟨w, source⟩ sys budget).2.world.steps = w.steps) ∧
        ∀ w', (w.next sys).LeadsTo w' → ¬ w.Begins w' ∧ w'.steps = w.steps) ∧
    (∀ t, Within sys s budget t → CutsOff sys t.world →
      (s.run sys budget).2.world.failure = t.world.failure) ∧
    (∀ w v w' w'' : World σ, CutsOff sys w → (w.next sys).LeadsTo v → Ensues sys v w' →
      (w'.next sys).LeadsTo w'' → v.failure = w.failure ∧ w''.failure = w'.failure) ∧
    (∀ type (w : World σ), s.world.frames = [] →
      ((s.world.register sys type).LeadsTo w ∨ ∃ e, (s.world.notify sys type e).LeadsTo w) →
      ∀ (source : τ) n t, drive (World.next sys) n ⟨w, source⟩ = (.outOfBudget, t) →
        ¬ CutsOff sys t.world) := by
  refine ⟨?_, ?_, ?_, ?_, ?_, ?_⟩
  · intro bound hbound hsteps
    have hmove {w w' : World σ} (hw : w.steps ≤ bound)
        (hmove : (w.nextUntilQuiescent sys).LeadsTo w') : w'.steps ≤ bound :=
      (nextUntilQuiescent_step hserial hmove).steps_le hbound hw
    refine ⟨run_kept (P := fun w => w.steps ≤ bound) hserial hsteps hmove, ?_⟩
    intro t hwithin
    exact hwithin.of_kept (P := fun w => w.steps ≤ bound) hsteps hmove
  · intro w w' hmove
    exact nextUntilQuiescent_begins hserial hmove
  · intro hbounded w hensues
    have hbounded' := hensues.bounded hserial hbounded
    refine ⟨hbounded', fun source => run_steps_of_bounded hserial hbounded', ?_⟩
    intro w' hnext
    exact next_of_bounded hserial hnext hbounded'
  · intro t hwithin hcut
    exact hwithin.failure_of_cutsOff hserial hcut
  · intro w v w' w'' hcut hnext hensues hlater
    exact hcut.records_nothing hserial hnext hensues hlater
  · intro type w hidle hbegun source n t hdrive
    apply not_cutsOff_of_judging hserial _ hdrive
    rcases hbegun with hregister | ⟨e, hnotify⟩
    · exact judging_of_register hserial hidle hregister
    · exact judging_of_notify hserial hidle hnotify

theorem stays_within_bound_wrongAnswer :
    (WrongAnswer.begun.run WrongAnswer.system 100).2.world.steps ≤ 2 ∧
      Within WrongAnswer.system WrongAnswer.begun 100 WrongAnswer.waiting ∧
      CutsOff WrongAnswer.system WrongAnswer.waiting.world ∧
      (WrongAnswer.begun.run WrongAnswer.system 100).2.world.failure = none := by
  have hstays := @stays_within_bound _ _ _ WrongAnswer.system WrongAnswer.begun 100 rfl
  have hfailure := hstays.2.2.2.1 _ WrongAnswer.within_waiting WrongAnswer.cutsOff_waiting
  exact ⟨(hstays.1 2 rfl (Nat.zero_le 2)).1, WrongAnswer.within_waiting,
    WrongAnswer.cutsOff_waiting, hfailure⟩

end Session

end PushdownActors
