-- SUMMARY: An exploration reports the first seed whose run fails, as if that run had been made alone, and adds up the runs before it.
import PushdownActors.Proofs.Aftermath
import PushdownActors.Proofs.Breakdown
import PushdownActors.Proofs.Replay

/-!
# The first failing seed

The runs of an exploration have nothing in common but the system and the setup. Each of
them begins in a fresh world with a source of its own, so what comes of it is told by its
seed alone. An exploration goes through the seeds from the one of its configuration on,
which may wrap around. It adds up the runs that do not fail and stops at the first that
does, and what it reports of that one is what the run gives by itself.

A run fails if its setup answers with an error, and also if the setup keeps quiet about a
failure: what is recorded stays until a reset, and is found when the run has ended.
-/

namespace PushdownActors

/-! ## Recorded failures -/

namespace Session

open World

variable [ChoiceSource τ] {sys : System σ} {s t : Session σ τ} {budget : Nat} {f : Failure}

section Operations

variable (hserial : sys.config.serial = true) (hf : s.world.failure = some f)
include hserial hf

/-- An operation keeps the failure if its first move does. -/
theorem finish_failure {first : Move σ}
    (hfirst : ∀ {w}, first.LeadsTo w → w.failure = some f) :
    (s.finish sys budget first).2.world.failure = some f := by
  have hdrive {s : Session σ τ} (hs : s.world.failure = some f) :
      (drive (World.next sys) budget s).2.world.failure = some f :=
    drive_kept (P := fun w => w.failure = some f)
      (fun hw hmove => (next_leadsTo hserial hmove).tally.failure hw) budget hs
  cases first with
  | step w => exact hdrive (hfirst .step)
  | ask q next => exact hdrive (hfirst (.ask _))
  | returned w result => exact hfirst .returned
  | panicked w message => exact hfirst .panicked
  | parked | idle => exact hf

/-- No operation but a reset takes back a failure. -/
theorem perform_failure (hidle : s.world.frames = []) {op : Operation} (hop : op ≠ .reset) :
    (s.perform sys budget op).2.world.failure = some f := by
  have hkept {seen : List Traffic} {w : World σ} (h : Intervention sys s.world seen w) :
      w.failure = some f := (h.operated hserial hidle).failure hf
  have hdispatch {stop : Stop} {s : Session σ τ} (hs : s.world.failure = some f) :
      (ofDispatch (stop, s)).2.world.failure = some f := by
    cases stop with
    | returned result => cases result <;> simp [ofDispatch, report, World.fail, hs]
    | _ => exact hs
  cases op with
  | create type payload =>
    cases hcreate : s.world.create sys.catalog type payload with
    | ok created => simpa [perform, create, hcreate] using hkept (.create hcreate)
    | error g => simpa [perform, create, hcreate, report] using hkept (.fail g)
  | send target e =>
    cases hdeliver : s.world.deliver target e with
    | ok w => simpa [perform, send, hdeliver] using hkept (.send hdeliver)
    | error g => simpa [perform, send, hdeliver, report] using hkept (.fail g)
  | register type =>
    exact hdispatch (finish_failure hserial hf fun hmove => hkept (.register hmove))
  | notify type e =>
    exact hdispatch (finish_failure hserial hf fun hmove => hkept (.notify hmove))
  | assert holds message =>
    cases holds with
    | true => exact hf
    | false => exact hkept (.fail (.assertion message))
  | fail g => exact hkept (.fail g)
  | choose q => exact hf
  | describe type =>
    cases hfetch : s.world.registry.fetch sys.catalog .machine type with
    | ok fetched => simpa [perform, describe, hfetch] using hf
    | error e => simpa [perform, describe, hfetch] using hf
  | step =>
    have hturn : (s.finish sys budget s.world.schedulePending).2.world.failure = some f :=
      finish_failure hserial hf fun hmove => hkept (.step hmove)
    simpa [perform, step_eq budget hserial] using hturn
  | run =>
    have hdrive : (drive (World.nextUntilQuiescent sys) budget s).2.world.failure = some f :=
      drive_kept (P := fun w => w.failure = some f)
        (fun hw hmove => (nextUntilQuiescent_step hserial hmove).failure hw) budget hf
    simpa [perform, run_eq budget hserial] using hdrive
  | reset => exact absurd rfl hop

end Operations

/-- An entry point comes from one session to another by operations that are allowed, with
what is left of it. -/
inductive Executes (sys : System σ) (budget : Nat) (allowed : Operation → Prop) :
    Session σ τ → Entry σ α → Session σ τ → Entry σ α → Prop
  | refl {s : Session σ τ} {entry : Entry σ α} : Executes sys budget allowed s entry s entry
  | look {s t : Session σ τ} {next : World σ → Entry σ α} {left : Entry σ α}
      (h : Executes sys budget allowed s (next s.world) t left) :
      Executes sys budget allowed s (.look next) t left
  | perform {s s' t : Session σ τ} {op : Operation} {next : op.Reply → Entry σ α}
      {reply : op.Reply} {left : Entry σ α} (hallowed : allowed op)
      (hreply : s.perform sys budget op = (.ok reply, s'))
      (h : Executes sys budget allowed s' (next reply) t left) :
      Executes sys budget allowed s (.perform op next) t left

namespace Executes

variable {allowed : Operation → Prop} {entry left : Entry σ α}

/-- What is left of an entry point comes to the same end. -/
theorem execute (h : Executes sys budget allowed s entry t left) :
    s.execute sys budget entry = t.execute sys budget left := by
  induction h with
  | refl => rfl
  | look _ ih => exact ih
  | perform _ hreply _ ih =>
    simp only [Session.execute, hreply]
    exact ih

theorem history (h : Executes sys budget allowed s entry t left) (hs : History sys s) :
    History sys t := by
  induction h with
  | refl => exact hs
  | look _ ih => exact ih hs
  | @perform s s' _ op _ _ _ _ hreply _ ih =>
    have hnext := hs.perform op budget (by simp [hreply])
    rw [hreply] at hnext
    exact ih hnext

/-- A failure that is recorded stays until there is a reset. -/
theorem failure (hserial : sys.config.serial = true)
    (h : Executes sys budget (· ≠ .reset) s entry t left) (hs : History sys s)
    (hf : s.world.failure = some f) : t.world.failure = some f := by
  induction h with
  | refl => exact hf
  | look _ ih => exact ih hs hf
  | @perform s s' _ op _ _ _ hop hreply _ ih =>
    have hkept : (s.perform sys budget op).2.world.failure = some f :=
      perform_failure hserial hf (hs.atRest hserial).2 hop
    have hnext := hs.perform op budget (by simp [hreply])
    rw [hreply] at hkept hnext
    exact ih hnext hkept

end Executes

end Session

/-! ## Single runs -/

/-- The system as exploration lets it run. -/
def System.explored (sys : System σ) : System σ :=
  { sys with config := sys.config.forExploration }

namespace Exploration

/-- What comes of a single run. -/
inductive Result where
  /-- It has ended well after so many steps, and whether the step bound was reached. -/
  | passed (steps : Nat) (bounded : Bool)
  /-- It has failed, and these were its choices. -/
  | failed (failure : Failure) (trace : List Choice)
  | interrupted (why : Interruption)
  deriving DecidableEq, Inhabited

namespace Result

/-- What a run adds to the steps of a report. -/
def steps : Result → Nat
  | passed steps _ => steps
  | failed .. | interrupted _ => 0

/-- What a run adds to the number of bounded runs of a report. -/
def cutShort : Result → Nat
  | passed _ bounded => bounded.toNat
  | failed .. | interrupted _ => 0

def isPassed : Result → Bool
  | passed .. => true
  | failed .. | interrupted _ => false

end Result

section Single

variable (sys : System σ) (budget : Nat) (setup : Setup σ)

/-- A single run in a fresh world, with its own source: the setup, and then everything
until nothing is left. It fails with the error of the setup, or else with the failure
that is recorded when it has ended. -/
def single (seed : UInt64) : Result :=
  match Session.execute sys budget { source := recorder seed } setup with
  | (.error why, _) => .interrupted why
  | (.ok (.error e), s) => .failed e.toFailure s.source.trace
  | (.ok (.ok ()), s) =>
    match s.run sys budget with
    | (.error why, _) => .interrupted why
    | (.ok _, t) =>
      match t.world.failure with
      | some f => .failed f t.source.trace
      | none => .passed (t.world.steps - s.world.steps) t.world.bounded

/-- The steps taken, the failure and the trace of an iteration are those of the single
run with its seed. -/
theorem single_eq_of_iterate (hserial : sys.config.serial = true) (seed : UInt64) :
    single sys budget setup seed =
      match iterate sys budget (recorder seed) setup with
      | (.error why, _) => .interrupted why
      | (.ok (.error e), s) => .failed e.toFailure s.source.trace
      | (.ok (.ok (steps, bounded)), _) => .passed steps bounded := by
  unfold single iterate
  rcases Session.execute sys budget { source := recorder seed } setup with ⟨_ | _ | _, s⟩
  · rfl
  · rfl
  · rcases hrun : s.run sys budget with ⟨why | answer, t⟩
    · simp [hrun]
    · have hanswer : answer = Session.outcome s.world.steps (s.run sys budget).2.world :=
        Session.run_answer hserial (by rw [hrun])
      rw [hrun] at hanswer
      cases hfailure : t.world.failure <;>
        simp [hrun, hanswer, Session.outcome, hfailure, RuntimeError.toFailure]

end Single

/-! ## Runs one after another -/

/-- What comes of the run with the seed of an iteration. -/
def outcome (sys : System σ) (budget : Nat) (setup : Setup σ) (i : Nat) : Result :=
  single sys budget setup (seed sys.config i)

section Seeds

variable {sys : System σ} {budget : Nat} {setup : Setup σ} {i : Nat}
  (hserial : sys.config.serial = true)
include hserial

/-- A run that passes is added to the report, and the next seed has its turn. -/
theorem explore_passed {steps : Nat} {bounded : Bool} (remaining : Nat) (report : Report)
    (w : World σ)
    (hpassed : outcome sys budget setup i = .passed steps bounded) :
    ∃ w', explore sys budget setup (remaining + 1) i report w
      = explore sys budget setup remaining (i + 1)
          { iterations := i + 1, steps := report.steps + steps,
            bounded := report.bounded + bounded.toNat, bug := report.bug } w' := by
  rw [outcome, single_eq_of_iterate sys budget setup hserial] at hpassed
  rcases hiterate : iterate sys budget (recorder (seed sys.config i)) setup
    with ⟨_ | _ | ⟨steps', bounded'⟩, s⟩ <;> rw [hiterate] at hpassed <;> cases hpassed
  refine ⟨s.world, ?_⟩
  simp only [explore, hiterate]
  cases bounded <;> rfl

/-- A run that fails is the last one. -/
theorem explore_failed {f : Failure} {entries : List Choice} (remaining : Nat) (report : Report)
    (w : World σ)
    (hfailed : outcome sys budget setup i = .failed f entries) :
    (explore sys budget setup (remaining + 1) i report w).1
      = .ok { report with
          iterations := i + 1
          bug := some
            { iteration := i, seed := seed sys.config i, failure := f, trace := entries } } := by
  rw [outcome, single_eq_of_iterate sys budget setup hserial] at hfailed
  rcases hiterate : iterate sys budget (recorder (seed sys.config i)) setup
    with ⟨_ | _ | _, s⟩ <;> rw [hiterate] at hfailed <;> cases hfailed
  simp only [explore, hiterate]

end Seeds

/-- The sum of the first numbers. -/
def total (f : Nat → Nat) : Nat → Nat
  | 0 => 0
  | n + 1 => total f n + f n

/-- The report of the first runs, all of which have passed. -/
def passing (outcome : Nat → Result) (n : Nat) : Report where
  iterations := n
  steps := total (fun i => (outcome i).steps) n
  bounded := total (fun i => (outcome i).cutShort) n

theorem passing_succ (outcome : Nat → Result) {n steps : Nat} {bounded : Bool}
    (h : outcome n = .passed steps bounded) :
    passing outcome (n + 1)
      = { iterations := n + 1, steps := (passing outcome n).steps + steps,
          bounded := (passing outcome n).bounded + bounded.toNat } := by
  simp [passing, total, h, Result.steps, Result.cutShort]

/-- While the runs pass, exploration comes from seed to seed. -/
theorem explore_passing {sys : System σ} {budget : Nat} {setup : Setup σ}
    (hserial : sys.config.serial = true) {n : Nat}
    (hpassed : ∀ i < n, (outcome sys budget setup i).isPassed = true) (remaining : Nat) :
    ∃ w, explore sys budget setup (remaining + n) 0 {} .empty
      = explore sys budget setup remaining n (passing (outcome sys budget setup) n) w := by
  induction n generalizing remaining with
  | zero => exact ⟨.empty, rfl⟩
  | succ n ih =>
    obtain ⟨w, hreached⟩ := ih (fun i hi => hpassed i (by omega)) (remaining + 1)
    have hlast := hpassed n (by omega)
    cases houtcome : outcome sys budget setup n with
    | passed steps bounded =>
      obtain ⟨w', hnext⟩ := explore_passed hserial remaining
        (passing (outcome sys budget setup) n) w houtcome
      refine ⟨w', ?_⟩
      calc explore sys budget setup (remaining + (n + 1)) 0 {} .empty
          = explore sys budget setup (remaining + 1 + n) 0 {} .empty := by
            simp only [Nat.add_assoc, Nat.add_comm 1 n]
        _ = explore sys budget setup (remaining + 1) n
              (passing (outcome sys budget setup) n) w := hreached
        _ = explore sys budget setup remaining (n + 1)
              (passing (outcome sys budget setup) (n + 1)) w' := by
            simp only [hnext, passing_succ _ houtcome]
            rfl
    | failed f entries => simp [houtcome, Result.isPassed] at hlast
    | interrupted why => simp [houtcome, Result.isPassed] at hlast

/-! ## Reports -/

section Failing

variable {sys : System σ} {budget : Nat} {setup : Setup σ} {seed : UInt64}
  {s t : Session σ (RecordingChoice RandomChoice)} {allowed : Operation → Prop}

end Failing

section First

variable {sys : System σ} {budget : Nat} {setup : Setup σ} {i : Nat}

/-- The run that follows those that pass is the next to be made. -/
theorem run_eq_explore
    (hpassed : ∀ j < i, (outcome sys.explored budget setup j).isPassed = true)
    (hi : i ≤ sys.config.testing.iterations.toNat) :
    ∃ w, run sys budget setup
      = explore sys.explored budget setup (sys.config.testing.iterations.toNat - i) i
          (passing (outcome sys.explored budget setup) i) w := by
  have hserial : sys.explored.config.serial = true := rfl
  obtain ⟨w, hreached⟩ := explore_passing hserial hpassed
    (sys.config.testing.iterations.toNat - i)
  refine ⟨w, ?_⟩
  calc run sys budget setup
      = explore sys.explored budget setup
          (sys.config.testing.iterations.toNat - i + i) 0 {} .empty := by
        rw [Nat.sub_add_cancel hi]
        rfl
    _ = _ := hreached

/-- The first run that fails ends the exploration. -/
theorem run_failed (hi : i < sys.config.testing.iterations.toNat)
    (hpassed : ∀ j < i, (outcome sys.explored budget setup j).isPassed = true)
    {f : Failure} {entries : List Choice}
    (hfailed : outcome sys.explored budget setup i = .failed f entries) :
    (run sys budget setup).1 = .ok
      { passing (outcome sys.explored budget setup) i with
        iterations := i + 1
        bug := some
          { iteration := i, seed := seed sys.config i, failure := f, trace := entries } } := by
  obtain ⟨w, hrun⟩ := run_eq_explore hpassed (Nat.le_of_lt hi)
  obtain ⟨remaining, hremaining⟩ :
      ∃ remaining, sys.config.testing.iterations.toNat - i = remaining + 1 :=
    ⟨sys.config.testing.iterations.toNat - i - 1, by omega⟩
  rw [hrun, hremaining]
  exact explore_failed rfl remaining _ w hfailed

end First

namespace Tossing

def setup : Setup Unit :=
  .perform (.choose .bool) fun (coin : Bool) =>
    .perform (.assert (!coin) "the coin came up heads") fun _ => .done (.ok ())

/-- The last of three runs has come around to a small seed. -/
def system : System Unit where
  catalog _ := { fresh := (), describe := fun _ => {} }
  config := { Config.bugFinding 18446744073709551615 with
    testing := { (Config.bugFinding 18446744073709551615).testing with iterations := 3 } }

end Tossing

end Exploration

end PushdownActors
