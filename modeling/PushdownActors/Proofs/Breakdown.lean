-- SUMMARY: What becomes of a run that fails: recorded below the step bound, and forgotten past it, whatever the failure.
import PushdownActors.Proofs.Deadlock
import PushdownActors.Proofs.StepBound

/-!
# Breakdowns

The run of a machine breaks down when one of its dispatches fails: by a failure of an
action, a violation, a panic that is caught, or because no state can be found. Past the
step bound receives are cut short, and a run that ends for this reason is not to count
as a failure.

What decides is not the failure, but the mark of the bound. A breakdown before the mark
is recorded, makes the run until nothing is left answer with a failure, and is found by
an exploration; nothing else records a failure in such a run. A breakdown past the mark
leaves no trace, also if it has nothing to do with a receive.
-/

namespace PushdownActors

namespace World

/-! ## Runs that break down -/

/-- The next step ends the run of the machine with a failure. -/
inductive BreaksDown (sys : System σ) (w : World σ) : MachineId → Failure → Prop
  /-- Its start fails before an action runs. -/
  | start {place : Place} {rest : List (Frame σ)} {m : Machine σ} {f : Failure}
      (hframes : w.frames = .ready place :: rest) (hm : w.machineAt? place = some m)
      (hcreated : m.lifecycle = .created)
      (hresult : (((Actor.machine place m.id).engine m.cell).start m.cell.stack
        (.start m.startPayload)).result? m.cell.blueprint = some (.error f)) :
      BreaksDown sys w m.id f
  /-- The dispatch of an event fails before an action runs. -/
  | dispatch {place : Place} {rest : List (Frame σ)} {m : Machine σ} {e : Event}
      {left : List Event} {f : Failure}
      (hframes : w.frames = .ready place :: rest) (hm : w.machineAt? place = some m)
      (hactive : m.lifecycle = .active) (hfailed : w.hasFailed = false)
      (hselect : ((Actor.machine place m.id).engine m.cell).select m.cell.stack m.mailbox
        = .ok (some e, left))
      (hresult : (((Actor.machine place m.id).engine m.cell).handle m.cell.stack e).result?
        m.cell.blueprint = some (.error f)) :
      BreaksDown sys w m.id f
  /-- It has no current state to look for an event with. -/
  | unselectable {place : Place} {rest : List (Frame σ)} {m : Machine σ} {f : Failure}
      (hframes : w.frames = .ready place :: rest) (hm : w.machineAt? place = some m)
      (hactive : m.lifecycle = .active) (hfailed : w.hasFailed = false)
      (hselect : ((Actor.machine place m.id).engine m.cell).select m.cell.stack m.mailbox
        = .error f) :
      BreaksDown sys w m.id (f.inState m.cell.stack.top?)
  /-- An action has ended, and its dispatch fails then, with the failure of the action or
  with one of its own. A panic that comes through is not a failure. -/
  | answer {place : Place} {id : MachineId} {p : Paused} {c : Context} {verdict : Verdict}
      {rest : List (Frame σ)} {m : Machine σ} {f : Failure}
      (hframes : w.frames = .acting (.machine place id) p c (.running (.done verdict)) :: rest)
      (hm : w.machineAt? place = some m)
      (hcaught : sys.config.propagatePanics = false ∨ ∀ message, verdict ≠ .panicked message)
      (hresult : (((Actor.machine place id).engine m.cell).answer m.cell.stack p
        (c.answer verdict)).result? m.cell.blueprint = some (.error f)) :
      BreaksDown sys w m.id f

section Breakdown

variable {sys : System σ} {w : World σ} {id : MachineId} {f : Failure}

/-- The move ends the run of the machine, and with it the failure is recorded or not. -/
def Collapses (w : World σ) (id : MachineId) (f : Failure) (move : Move σ) : Prop :=
  ∃ w' : World σ, move = w'.endRun ∧ w'.tally = w.tally.abort (f.inMachine id.text)

theorem carry_collapses (sys : System σ) {place : Place} (other : MachineId) {m : Machine σ}
    {progress : Progress} (hm : w.machineAt? place = some m)
    (hresult : progress.result? m.cell.blueprint = some (.error f)) :
    w.Collapses m.id f (w.carry sys (.machine place other) progress) := by
  have hcell : w.cell? (.machine place other) = some m.cell := cell?_machine hm other
  rw [carry_eq_conclude hcell hresult, setCell_machine hm]
  simp only [conclude, machineAt?_setMachine_self hm, concludeMachine]
  exact ⟨_, rfl, abort_tally⟩

/-- The next step of a run that breaks down is its end. -/
theorem BreaksDown.collapses (h : BreaksDown sys w id f) : w.Collapses id f (w.next sys) := by
  cases h with
  | @start place rest m f hframes hm hcreated hresult =>
    let begun : World σ := { w with frames := rest }.setMachine place
      { m with lifecycle := .active, startPayload := none }
    have hnext : w.next sys = carry sys begun (.machine place m.id)
        (((Actor.machine place m.id).engine m.cell).start m.cell.stack
          (.start m.startPayload)) := by
      simp only [World.next, hframes, hm, beginDispatch, hcreated, begun]
    have hm' : begun.machineAt? place
        = some { m with lifecycle := .active, startPayload := none } :=
      machineAt?_setMachine_self hm
    have hcollapses := carry_collapses sys m.id hm' hresult
    rw [hnext]
    exact hcollapses
  | @dispatch place rest m e left f hframes hm hactive hfailed hselect hresult =>
    let begun : World σ := { w with frames := rest }.setMachine place { m with mailbox := left }
    have hnext : w.next sys = carry sys begun (.machine place m.id)
        (((Actor.machine place m.id).engine m.cell).handle m.cell.stack e) := by
      have hfailed : hasFailed { w with frames := rest } = false := hfailed
      simp only [World.next, hframes, hm, beginDispatch, hactive, hfailed, hselect,
        Bool.false_eq_true, if_false, begun]
    have hm' : begun.machineAt? place = some { m with mailbox := left } :=
      machineAt?_setMachine_self hm
    have hcollapses := carry_collapses sys m.id hm' hresult
    rw [hnext]
    exact hcollapses
  | @unselectable place rest m f hframes hm hactive hfailed hselect =>
    have hnext : w.next sys
        = ({ w with frames := rest }.abort place m
            (f.inState m.cell.stack.top?)).retire.endRun := by
      have hfailed : hasFailed { w with frames := rest } = false := hfailed
      simp only [World.next, hframes, hm, beginDispatch, hactive, hfailed, hselect,
        Bool.false_eq_true, if_false]
    exact ⟨_, hnext, abort_tally⟩
  | @answer place other p c verdict rest m f hframes hm hcaught hresult =>
    have hcell : w.cell? (.machine place other) = some m.cell := cell?_machine hm other
    have hnext : w.next sys = carry sys { w with frames := rest } (.machine place other)
        (((Actor.machine place other).engine m.cell).answer m.cell.stack p
          (c.answer verdict)) := by
      simp only [World.next, hframes, hcell, execute]
      split
      · rename_i message hpropagate
        rcases hcaught with hfalse | hno
        · rw [hfalse] at hpropagate
          contradiction
        · exact absurd rfl (hno message)
      · rfl
    have hm' : machineAt? { w with frames := rest } place = some m := hm
    rw [hnext]
    exact carry_collapses sys other hm' hresult

theorem BreaksDown.frames_ne_nil (h : BreaksDown sys w id f) : w.frames ≠ [] := by
  cases h <;> simp_all

/-- A run until nothing is left goes on after a breakdown. -/
theorem BreaksDown.nextUntilQuiescent_eq (h : BreaksDown sys w id f) :
    ∃ w', w.nextUntilQuiescent sys = .step w' ∧
      w'.tally = w.tally.abort (f.inMachine id.text) := by
  obtain ⟨w', hnext, htally⟩ := h.collapses
  refine ⟨w', ?_, htally⟩
  unfold World.nextUntilQuiescent
  split
  · exact absurd ‹_› h.frames_ne_nil
  · rw [hnext]
    unfold endRun
    by_cases hempty : w'.frames.isEmpty = true
    · rw [if_pos hempty]
    · rw [if_neg hempty]

/-- Of the ways to carry a dispatch on only the failed run of a machine records a
failure. -/
theorem Carried.failed {w' : World σ} {actor : Actor} {progress : Progress}
    (h : Carried w actor progress w') (hfailure : w'.failure ≠ w.failure) :
    ∃ place other m f, actor = .machine place other ∧ w.machineAt? place = some m ∧
      progress.result? m.cell.blueprint = some (.error f) := by
  cases h with
  | acting hcell hpaused haction =>
    exact absurd (congrArg Tally.failure (setCell_tally actor _)) hfailure
  | yielded hm hresult | halted hm hresult => exact absurd rfl hfailure
  | @aborted place other m _ f hm hresult => exact ⟨place, other, m, f, rfl, hm, hresult⟩
  | judged hm hresult hback =>
    exact absurd (congrArg Tally.failure (concludeMonitor_tally hback)) hfailure

/-- A panic that comes through ends all runs, and records nothing. -/
theorem next_of_panicked {actor : Actor} {p : Paused} {c : Context} {message : Option String}
    {rest : List (Frame σ)} {cell : Cell σ} (hpropagate : sys.config.propagatePanics = true)
    (hframes : w.frames = .acting actor p c (.running (.done (.panicked message))) :: rest)
    (hcell : w.cell? actor = some cell) :
    w.next sys = .panicked { w with frames := [] } message := by
  simp only [World.next, hframes, hcell, execute, hpropagate]

/-- Nothing else records a failure: a small step that does is one with which a run
breaks down. -/
theorem breaksDown_of_next {w' : World σ} (hserial : sys.config.serial = true)
    (h : (w.next sys).LeadsTo w') (hfailure : w'.failure ≠ w.failure) :
    ∃ id f, BreaksDown sys w id f := by
  have hchanged : w'.tally ≠ w.tally := fun htally => hfailure (congrArg Tally.failure htally)
  obtain ⟨seen, ht⟩ : ∃ seen, Transition sys w seen w' := ⟨_, next_leadsTo hserial h⟩
  cases ht with
  | start hframes hm hcreated hcarried =>
    obtain ⟨_, _, _, f, hactor, hm', hresult⟩ := hcarried.failed hfailure
    cases hactor
    cases (machineAt?_setMachine_self hm).symm.trans hm'
    exact ⟨_, f, .start hframes hm hcreated hresult⟩
  | dispatch hframes hm hactive hfailed hselect hcarried =>
    obtain ⟨_, _, _, f, hactor, hm', hresult⟩ := hcarried.failed hfailure
    cases hactor
    cases (machineAt?_setMachine_self hm).symm.trans hm'
    exact ⟨_, f, .dispatch hframes hm hactive hfailed hselect hresult⟩
  | unselectable hframes hm hactive hfailed hselect =>
    exact ⟨_, _, .unselectable hframes hm hactive hfailed hselect⟩
  | @answer actor p c verdict rest cell _ hframes hcell hcarried =>
    obtain ⟨place, other, m, f, rfl, hm, hresult⟩ := hcarried.failed hfailure
    have hm : w.machineAt? place = some m := hm
    have hcell' : w.cell? (.machine place other) = some m.cell := cell?_machine hm other
    cases hcell.symm.trans hcell'
    by_cases hcaught : sys.config.propagatePanics = false ∨ ∀ message, verdict ≠ .panicked message
    · exact ⟨_, f, .answer hframes hm hcaught hresult⟩
    · obtain ⟨hpropagate, hpanicked⟩ := not_or.mp hcaught
      obtain ⟨message, hverdict⟩ := not_forall.mp hpanicked
      obtain rfl : verdict = .panicked message := not_not.mp hverdict
      rw [next_of_panicked (eq_true_of_ne_false hpropagate) hframes hcell,
        Move.leadsTo_panicked] at h
      exact absurd (congrArg tally h) hchanged
  | send hframes hdeliver => exact absurd (delivered_of_deliver hdeliver).tally hchanged
  | create hframes hcreate =>
    have htally := create_tally hcreate
    exact absurd htally hchanged
  | notify hframes hm hcarried =>
    obtain ⟨_, _, _, _, hactor, _⟩ := hcarried.failed hfailure
    cases hactor
  | store hframes hcell => exact absurd (setCell_tally _ _) hchanged
  | giveUp hframes hm hreceived hgiven =>
    have hgivenSame := hgiven.keeps (P := fun given => given.failure = w.failure) rfl
      (markBound_failure w sys.config)
    exact absurd hgivenSame hfailure
  | turn hframes hm hreceived hfailed hbounded hindex =>
    exact absurd ((beginTurn_failure _).trans (markBound_failure w sys.config)) hfailure
  | rest | stop | panic | goOn | remark | take | block | resume => exact absurd rfl hfailure

end Breakdown

end World

namespace Tally

variable {config : Config} {t t' : Tally} {f : Failure}

/-- Below the bound a failure is recorded, behind one that is there already. -/
theorem abort_failure (hbounded : t.bounded = false) :
    (t.abort f).failure = some (t.failure.getD f) := by
  unfold abort
  rw [if_neg (Bool.eq_false_iff.mp hbounded)]
  cases t.failure <;> rfl

theorem abort_of_bounded (hbounded : t.bounded = true) : t.abort f = t :=
  if_pos hbounded

/-- Past the bound no step records a failure. -/
theorem Step.failure_of_bounded (h : Step config t t') (hbounded : t.bounded = true) :
    t'.failure = t.failure := by
  cases h with
  | same => rfl
  | marked | turn _ => exact mark_failure
  | aborted f => rw [abort_of_bounded hbounded]

end Tally

/-! ## A breakdown within the bound

In the exchange, which may take as many steps as it likes, the giver breaks down. -/

namespace Exchange

/-- The action of the giver has ended with its receive. -/
def stuck : Session Unit CyclicChoice :=
  (Session.drive (World.nextUntilQuiescent system) 8 begun).2

/-- What the giver fails with. -/
def report : Failure := { deadlocked [y] with state := some "Giving" }

theorem within_stuck : Session.Within system begun 100 stuck := ⟨8, by decide, rfl⟩

theorem breaksDown_stuck : World.BreaksDown system stuck.world ⟨"Giver", 2⟩ report := by
  have hbreaks := @World.BreaksDown.answer Unit system stuck.world 1 ⟨"Giver", 2⟩ _ _ _ _ _
    report rfl rfl (.inl rfl) rfl
  exact hbreaks

end Exchange

/-! ## A breakdown past the bound

A machine gets an answer and finds that it is wrong. The one that has sent it was cut
short by the bound just before. -/

namespace WrongAnswer

/-- Makes the giver, waits for what it sends, and finds it wrong. -/
def asker : Description Unit :=
  let asking := ({ name := "Asking" } : StateSpec).asStart.withEntry "go"
  (({} : Description Unit).state asking).action "go" fun _ => Body.toProgram do
    let _ ← Body.create "Giver" none
    let _ ← Body.receive [Exchange.x]
    Body.assert false "the answer is wrong"

/-- A single run, which may take two steps. -/
def system : System Unit where
  catalog := fun type =>
    { fresh := (), describe := fun _ => if type = "Asker" then asker else Exchange.giver }
  config := { Config.bugFinding 0 with testing := { iterations := 1, maxSteps := 2 } }

def setup : Setup Unit :=
  .perform (.create "Asker" none) fun reply => .done (reply.map fun _ => ())

/-- The asker, before it has run. -/
def begun : Session Unit CyclicChoice :=
  let s : Session Unit CyclicChoice := { source := { numbers := [] } }
  (s.perform system 0 (.create "Asker" none)).2

/-- The action of the asker has ended: it has got its answer, and it is wrong. -/
def answered : Session Unit CyclicChoice :=
  (Session.drive (World.nextUntilQuiescent system) 12 begun).2

/-- What the asker fails with. -/
def wrong : Failure :=
  { Failure.assertion "the answer is wrong" with state := some "Asking" }

theorem within_answered : Session.Within system begun 100 answered := ⟨12, by decide, rfl⟩

theorem breaksDown_answered : World.BreaksDown system answered.world ⟨"Asker", 1⟩ wrong := by
  have hbreaks := @World.BreaksDown.answer Unit system answered.world 0 ⟨"Asker", 1⟩ _ _ _ _ _
    wrong rfl rfl (.inl rfl) rfl
  exact hbreaks

end WrongAnswer

/-! ## Results -/

namespace Session

open World

variable [ChoiceSource τ] {sys : System σ} {s t : Session σ τ} {budget : Nat} {id : MachineId}
  {f : Failure}

/-- An answer of a run until nothing is left is the outcome of the world that it leaves. -/
theorem run_answer (hserial : sys.config.serial = true) {answer : Except RuntimeError Nat}
    (hrun : (s.run sys budget).1 = .ok answer) :
    answer = outcome s.world.steps (s.run sys budget).2.world := by
  rw [run_eq budget hserial] at hrun ⊢
  rcases hdrive : drive (World.nextUntilQuiescent sys) budget s with ⟨stop, left⟩
  rw [hdrive] at hrun
  cases stop with
  | returned _ | parked | idle => exact (Except.ok.inj hrun).symm
  | panicked _ | outOfBudget => cases hrun

theorem outcome_of_failure {before : Nat} {w : World σ} (h : w.failure = some f) :
    outcome before w = .error (.failure f) := by
  unfold outcome
  rw [h]

/-- Before the bound is marked a breakdown is recorded. -/
theorem Within.failure_of_breakdown (hserial : sys.config.serial = true) (h : Within sys s budget t)
    (hbreaks : BreaksDown sys t.world id f) (hbounded : t.world.bounded = false) :
    (s.run sys budget).2.world.failure = some (t.world.failure.getD (f.inMachine id.text)) := by
  obtain ⟨w, hstep, htally⟩ := hbreaks.nextUntilQuiescent_eq
  have hfailure : w.failure = some (t.world.failure.getD (f.inMachine id.text)) :=
    (congrArg Tally.failure htally).trans (Tally.abort_failure hbounded)
  rw [run_snd hserial]
  apply h.kept (P := fun w => w.failure = _) hstep hfailure
  intro w w' hw hmove
  exact (nextUntilQuiescent_step hserial hmove).failure hw

/-- Past the bound a breakdown, and whatever comes after it, leaves the first failure as
it is. -/
theorem Within.failure_of_bounded (hserial : sys.config.serial = true) (h : Within sys s budget t)
    (hbreaks : BreaksDown sys t.world id f) (hbounded : t.world.bounded = true) :
    (s.run sys budget).2.world.failure = t.world.failure := by
  obtain ⟨w, hstep, htally⟩ := hbreaks.nextUntilQuiescent_eq
  rw [Tally.abort_of_bounded hbounded] at htally
  have hmark : w.bounded = true := (congrArg Tally.bounded htally).trans hbounded
  have hfailure : w.failure = t.world.failure := congrArg Tally.failure htally
  have hleft : (drive (World.nextUntilQuiescent sys) budget s).2.world.bounded = true ∧
      (drive (World.nextUntilQuiescent sys) budget s).2.world.failure = t.world.failure := by
    apply h.kept (P := fun w => w.bounded = true ∧ w.failure = t.world.failure) hstep
      ⟨hmark, hfailure⟩
    rintro w w' ⟨hw, hsame⟩ hmove
    have hnext := nextUntilQuiescent_step hserial hmove
    exact ⟨hnext.bounded hw, (hnext.failure_of_bounded hw).trans hsame⟩
  rw [run_snd hserial]
  exact hleft.2

/-- A run until nothing is left leaves a failure behind if and only if a run of a machine
breaks down on the way before the bound is marked, and the failure is that of the first
one that does. -/
theorem run_failure_iff (hserial : sys.config.serial = true) (hnone : s.world.failure = none)
    {g : Failure} :
    (s.run sys budget).2.world.failure = some g ↔
      ∃ t id f, Within sys s budget t ∧ BreaksDown sys t.world id f ∧
        t.world.failure = none ∧ t.world.bounded = false ∧ g = f.inMachine id.text := by
  constructor
  · intro hfailed
    have hend : ¬ (drive (World.nextUntilQuiescent sys) budget s).2.world.failure = none := by
      rw [← run_snd hserial, hfailed]
      exact nofun
    obtain ⟨n, hn, t, w', hcut, ht, hmove, hw'⟩ :=
      drive_changed (P := fun w => w.failure = none) hnone hend
    have hwithin : Within sys s budget t := ⟨n, hn, hcut⟩
    have hchanged : w'.failure ≠ t.world.failure := by
      rw [ht]
      exact hw'
    have hbusy : t.world.frames ≠ [] := fun hidle =>
      hchanged (nextUntilQuiescent_failure_of_idle hidle hmove)
    obtain ⟨id, f, hbreaks⟩ :=
      breaksDown_of_next hserial (nextUntilQuiescent_leadsTo_of_frames hbusy hmove) hchanged
    obtain ⟨w, hstep, htally⟩ := hbreaks.nextUntilQuiescent_eq
    rw [hstep, Move.leadsTo_step] at hmove
    subst hmove
    have hbounded : t.world.bounded = false := by
      refine Bool.eq_false_iff.mpr fun hmarked => hchanged ?_
      rw [Tally.abort_of_bounded hmarked] at htally
      exact congrArg Tally.failure htally
    have hrecorded := hwithin.failure_of_breakdown hserial hbreaks hbounded
    rw [hfailed, ht] at hrecorded
    exact ⟨t, id, f, hwithin, hbreaks, ht, hbounded, Option.some.inj hrecorded⟩
  · rintro ⟨t, id, f, hwithin, hbreaks, ht, hbounded, rfl⟩
    rw [hwithin.failure_of_breakdown hserial hbreaks hbounded, ht]
    rfl

/-- Whenever the run of a machine breaks down during a run until nothing is left, what
becomes of it depends on the step bound alone. Before the bound is marked, the failure
is recorded, and the answer, if there is one, is a failure: this one, attributed to the
machine, unless there was one before. Past it, nothing is recorded any more, so if
nothing has failed before, the answer is that all went well. -/
theorem Within.breakdown (hserial : sys.config.serial = true) (h : Within sys s budget t)
    (hbreaks : BreaksDown sys t.world id f) :
    (t.world.bounded = false →
      (s.run sys budget).2.world.failure = some (t.world.failure.getD (f.inMachine id.text)) ∧
      ∀ answer, (s.run sys budget).1 = .ok answer →
        answer = .error (.failure (t.world.failure.getD (f.inMachine id.text)))) ∧
    (t.world.bounded = true →
      (s.run sys budget).2.world.failure = t.world.failure ∧
      (t.world.failure = none → ∀ answer, (s.run sys budget).1 = .ok answer →
        ∃ steps, answer = .ok steps)) := by
  constructor
  · intro hbounded
    have hfailure := h.failure_of_breakdown hserial hbreaks hbounded
    refine ⟨hfailure, ?_⟩
    intro answer hrun
    rw [run_answer hserial hrun]
    exact outcome_of_failure hfailure
  · intro hbounded
    have hfailure := h.failure_of_bounded hserial hbreaks hbounded
    refine ⟨hfailure, ?_⟩
    intro hnone answer hrun
    rw [run_answer hserial hrun, outcome, hfailure, hnone]
    exact ⟨_, rfl⟩

theorem Within.breakdown_exchange :
    (Within Exchange.system Exchange.begun 100 Exchange.stuck ∧
      BreaksDown Exchange.system Exchange.stuck.world ⟨"Giver", 2⟩ Exchange.report ∧
      Exchange.stuck.world.bounded = false ∧
      (Exchange.begun.run Exchange.system 100).2.world.failure
        = some (Exchange.report.inMachine "Giver(2)")) ∧
    Within WrongAnswer.system WrongAnswer.begun 100 WrongAnswer.answered ∧
      BreaksDown WrongAnswer.system WrongAnswer.answered.world ⟨"Asker", 1⟩ WrongAnswer.wrong ∧
      WrongAnswer.answered.world.bounded = true ∧
      (WrongAnswer.begun.run WrongAnswer.system 100).2.world.failure = none := by
  have hrecorded := Within.breakdown rfl Exchange.within_stuck Exchange.breaksDown_stuck
  have hforgotten :=
    Within.breakdown rfl WrongAnswer.within_answered WrongAnswer.breaksDown_answered
  exact ⟨⟨Exchange.within_stuck, Exchange.breaksDown_stuck, rfl, (hrecorded.1 rfl).1⟩,
    WrongAnswer.within_answered, WrongAnswer.breaksDown_answered, rfl, (hforgotten.2 rfl).1⟩

/-- A failed assertion that is forgotten: the run of the asker ends with it, its receive
was never cut short, and yet all went well. -/
theorem wrong_forgotten :
    BreaksDown WrongAnswer.system WrongAnswer.answered.world ⟨"Asker", 1⟩ WrongAnswer.wrong ∧
      WrongAnswer.wrong.message ≠ interruptedByBound.message ∧
      WrongAnswer.wrong.message ≠ interruptedByFailure.message ∧
      (WrongAnswer.begun.run WrongAnswer.system 100).1 = .ok (.ok 2) ∧
      (WrongAnswer.begun.run WrongAnswer.system 100).2.world.failure = none ∧
      (Exploration.run WrongAnswer.system 100 WrongAnswer.setup).1
        = .ok { iterations := 1, steps := 2, bounded := 1, bug := none } :=
  ⟨WrongAnswer.breaksDown_answered, by decide, by decide, rfl, rfl, rfl⟩

end Session

namespace Exploration

open World

/-- A breakdown before the bound is marked is the bug that an exploration reports, if the
run comes to its end, and nothing has failed before. -/
theorem explore_breakdown {sys : System σ} {budget remaining iteration : Nat} {setup : Setup σ}
    {report : Report} {w : World σ} {s t : Session σ (RecordingChoice RandomChoice)}
    {id : MachineId} {f : Failure} (hserial : sys.config.serial = true)
    (hsetup : Session.execute sys budget { source := recorder (seed sys.config iteration) } setup
      = (.ok (.ok ()), s))
    (h : Session.Within sys s budget t) (hbreaks : BreaksDown sys t.world id f)
    (hbounded : t.world.bounded = false) {answer : Except RuntimeError Nat}
    (hrun : (s.run sys budget).1 = .ok answer) :
    ∃ bug, (explore sys budget setup (remaining + 1) iteration report w).1
        = .ok { report with iterations := iteration + 1, bug := some bug } ∧
      bug.iteration = iteration ∧
      bug.failure = t.world.failure.getD (f.inMachine id.text) := by
  have hfailure := h.failure_of_breakdown hserial hbreaks hbounded
  rw [Session.run_answer hserial hrun, Session.outcome_of_failure hfailure] at hrun
  rcases hleft : s.run sys budget with ⟨reply, left⟩
  rw [hleft] at hrun
  subst hrun
  unfold explore iterate
  simp only [hsetup, hleft]
  exact ⟨_, rfl, rfl, rfl⟩

end Exploration

end PushdownActors
