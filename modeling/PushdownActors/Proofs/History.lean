-- SUMMARY: The sessions that operations lead to, and that their worlds are those of runs.
import PushdownActors.Choice.Source
import PushdownActors.Proofs.Nesting

/-!
# Histories of a session

A session is used by one operation after the other. An operation that lets actions
run makes small steps until the run in progress is over. This module shows that the
worlds that come up on the way are exactly such as runs lead to, so what holds in all
runs holds in every session, whatever its choice source answers. Where an operation
is cut off by its budget, the session shows the world between two small steps.
-/

namespace PushdownActors

/-! ## Driving -/

/-- How the move of a world ends a drive, and the world that is left. -/
inductive Stop.Of (move : World σ → Move σ) (w : World σ) : Stop → World σ → Prop
  | returned {w' : World σ} {result : Except Failure Unit} (h : move w = .returned w' result) :
      Of move w (.returned result) w'
  | panicked {w' : World σ} {message : Option String} (h : move w = .panicked w' message) :
      Of move w (.panicked message) w'
  | parked (h : move w = .parked) : Of move w .parked w
  | idle (h : move w = .idle) : Of move w .idle w
  | outOfBudget : Of move w .outOfBudget w

namespace Session

variable [ChoiceSource τ] {sys : System σ}

/-- What every move keeps holds to the last move of a drive. -/
theorem drive_spec (move : World σ → Move σ) {P : World σ → Prop}
    (hmove : ∀ {w w' : World σ}, P w → (move w).LeadsTo w' → P w') (budget : Nat) :
    ∀ s : Session σ τ, P s.world →
      ∃ w, P w ∧ Stop.Of move w (drive move budget s).1 (drive move budget s).2.world := by
  induction budget with
  | zero =>
    intro s h
    exact ⟨s.world, h, .outOfBudget⟩
  | succ budget ih =>
    intro s h
    unfold drive
    split
    · rename_i w hstep
      exact ih _ (hmove h (hstep ▸ .step))
    · rename_i q next hask
      exact ih _ (hmove h (hask ▸ .ask _))
    · rename_i w result hreturned
      exact ⟨s.world, h, .returned hreturned⟩
    · rename_i w message hpanicked
      exact ⟨s.world, h, .panicked hpanicked⟩
    · rename_i hparked
      exact ⟨s.world, h, .parked hparked⟩
    · rename_i hidle
      exact ⟨s.world, h, .idle hidle⟩

/-! ## Operations that drive

What a turn or a run until nothing is left answers with depends only on the way in
which its small steps have ended, and on the world that they have come to. -/

/-- What a turn answers with, by the way in which its small steps have ended. -/
def stepped : Stop → Except Interruption Bool
  | .idle => .ok false
  | .returned _ | .parked => .ok true
  | .panicked message => .error (.panicked message)
  | .outOfBudget => .error .outOfBudget

/-- What turns until quiescence answer with, where the world has come to an outcome. -/
def settled (outcome : Except RuntimeError Nat) :
    Stop → Except Interruption (Except RuntimeError Nat)
  | .panicked message => .error (.panicked message)
  | .outOfBudget => .error .outOfBudget
  | .returned _ | .parked | .idle => .ok outcome

/-- The failure of a world, or else the steps taken since there were `before` of them. -/
def outcome (before : Nat) (w : World σ) : Except RuntimeError Nat :=
  match w.failure with
  | some f => .error (.failure f)
  | none => .ok (w.steps - before)

theorem failure_of_outcome {before steps : Nat} {w : World σ}
    (h : outcome before w = .ok steps) : w.failure = none := by
  unfold outcome at h
  split at h
  · contradiction
  · assumption

section Answers

variable (budget : Nat)

theorem step_eq (hserial : sys.config.serial = true) (s : Session σ τ) :
    s.step sys budget
      = (stepped (s.finish sys budget s.world.schedulePending).1,
          (s.finish sys budget s.world.schedulePending).2) := by
  simp only [step, hserial, Bool.not_true, Bool.false_eq_true, if_false]
  rcases s.finish sys budget s.world.schedulePending with ⟨_ | _, _⟩ <;> rfl

theorem run_eq (hserial : sys.config.serial = true) (s : Session σ τ) :
    s.run sys budget
      = (settled (outcome s.world.steps (drive (World.nextUntilQuiescent sys) budget s).2.world)
            (drive (World.nextUntilQuiescent sys) budget s).1,
          (drive (World.nextUntilQuiescent sys) budget s).2) := by
  simp only [run, hserial, Bool.not_true, Bool.false_eq_true, if_false]
  rcases drive (World.nextUntilQuiescent sys) budget s with ⟨stop, s'⟩
  cases stop <;> cases hfailure : s'.world.failure <;>
    simp [settled, outcome, hfailure]

end Answers

end Session

/-! ## Worlds of runs -/

namespace World

/-- The world comes up in some run. -/
def Reached (sys : System σ) (w : World σ) : Prop := ∃ log, Run sys w log

/-- The world comes up in some run when nothing is in progress. -/
def AtRest (sys : System σ) (w : World σ) : Prop := Reached sys w ∧ w.frames = []

/-- What an operation leaves: a world of some run, and one at rest unless the
operation was cut off. -/
def Left (sys : System σ) (w : World σ) (cutOff : Prop) : Prop :=
  Reached sys w ∧ (¬ cutOff → w.frames = [])

variable {sys : System σ} {w w' : World σ}

theorem Reached.next (h : Reached sys w) (hnext : (w.next sys).LeadsTo w') : Reached sys w' := by
  obtain ⟨log, hrun⟩ := h
  exact ⟨_, hrun.next hnext⟩

theorem AtRest.outside {seen : List Traffic} (h : AtRest sys w)
    (hi : Intervention sys w seen w') : Reached sys w' := by
  obtain ⟨⟨log, hrun⟩, hidle⟩ := h
  exact ⟨_, hrun.outside hidle hi⟩

theorem AtRest.reset (h : AtRest sys w) : AtRest sys w.reset := by
  obtain ⟨⟨log, hrun⟩, hidle⟩ := h
  exact ⟨⟨_, hrun.reset hidle⟩, rfl⟩

/-- A move that is not stuck ends a drive only when nothing is in progress. -/
theorem Closes.frames_of_stop {move : World σ → Move σ} {stop : Stop} (h : w.Closes (move w))
    (hstop : Stop.Of move w stop w') (hended : stop ≠ .outOfBudget) : w'.frames = [] := by
  rcases h with hsound | ⟨hidle, hmove⟩
  · cases hstop with
    | returned h =>
      rw [h] at hsound
      cases hsound with
      | returned hidle => exact hidle
    | panicked h =>
      rw [h] at hsound
      cases hsound with
      | panicked hidle => exact hidle
    | parked h =>
      rw [h] at hsound
      contradiction
    | idle h =>
      rw [h] at hsound
      contradiction
    | outOfBudget => contradiction
  · cases hstop with
    | returned h | panicked h | parked h =>
      rw [hmove] at h
      contradiction
    | idle _ => exact hidle
    | outOfBudget => contradiction

theorem Reached.stop {stop : Stop} {move : World σ → Move σ} (h : Reached sys w)
    (hmove : ∀ {w'}, (move w).LeadsTo w' → Reached sys w') (hstop : Stop.Of move w stop w') :
    Reached sys w' := by
  cases hstop with
  | returned hreturned => exact hmove (hreturned ▸ .returned)
  | panicked hpanicked => exact hmove (hpanicked ▸ .panicked)
  | parked _ | idle _ | outOfBudget => exact h

/-- When a run until nothing is left ends without a failure, and what its last look at
the step bound leaves. -/
theorem nextUntilQuiescent_returned {result : Except Failure Unit}
    (h : w.nextUntilQuiescent sys = .returned w' result) (hfailure : w'.failure = none) :
    w' = w.markBound sys.config ∧ (w'.bounded = true ∨ w'.pending = []) := by
  unfold World.nextUntilQuiescent at h
  split at h
  · split at h
    · rename_i hfailed
      cases h
      simp [hasFailed, hfailure] at hfailed
    · dsimp only at h
      split at h
      · rename_i hend
        cases h
        exact ⟨rfl, by simpa using hend⟩
      · unfold schedulePending at h
        split at h <;> cases h
  · split at h
    · contradiction
    · rename_i hreturned
      exact absurd h (hreturned w' result)

theorem Reached.nextUntilQuiescent (h : Reached sys w)
    (hmove : (w.nextUntilQuiescent sys).LeadsTo w') : Reached sys w' := by
  by_cases hidle : w.frames = []
  · exact AtRest.outside ⟨h, hidle⟩ (.run hmove)
  · exact h.next (nextUntilQuiescent_leadsTo_of_frames hidle hmove)

end World

namespace Session

open World

variable {sys : System σ}

theorem report_left {s : Session σ τ} {f : Failure} {α : Type} (h : AtRest sys s.world) :
    AtRest sys (s.report f : Except RuntimeError α × Session σ τ).2.world :=
  ⟨h.outside (.fail f), h.2⟩

/-- The answer that the dispatch of a monitor leads to may record a failure. -/
theorem ofDispatch_left {stop : Stop} {s : Session σ τ}
    (h : Left sys s.world (stop = .outOfBudget)) :
    Left sys (ofDispatch (stop, s)).2.world ((ofDispatch (stop, s)).1 = .error .outOfBudget) := by
  cases stop with
  | returned result =>
    have hrest : AtRest sys s.world := ⟨h.1, h.2 nofun⟩
    cases result with
    | ok _ => exact ⟨h.1, fun _ => hrest.2⟩
    | error f =>
      have hleft : AtRest sys (s.report f : Except RuntimeError Unit × Session σ τ).2.world :=
        report_left hrest
      exact ⟨hleft.1, fun _ => hleft.2⟩
  | panicked message => exact ⟨h.1, fun _ => h.2 nofun⟩
  | parked => exact ⟨h.1, fun _ => h.2 nofun⟩
  | idle => exact ⟨h.1, fun _ => h.2 nofun⟩
  | outOfBudget => exact ⟨h.1, fun hended => absurd rfl hended⟩

variable [ChoiceSource τ]

/-- What a drive by small steps leaves. -/
theorem drive_next_left (hserial : sys.config.serial = true) (budget : Nat) (s : Session σ τ)
    (h : Reached sys s.world) :
    Left sys (drive (World.next sys) budget s).2.world
      ((drive (World.next sys) budget s).1 = .outOfBudget) := by
  obtain ⟨w, hw, hstop⟩ := drive_spec (World.next sys) (P := Reached sys)
    (fun h hmove => h.next hmove) budget s h
  refine ⟨hw.stop (fun hmove => hw.next hmove) hstop, fun hended => ?_⟩
  obtain ⟨log, hrun⟩ := hw
  exact (hrun.next_closes hserial).frames_of_stop hstop hended

/-- What an operation leaves that begins with a move and goes on until the run in
progress is over. -/
theorem finish_left (hserial : sys.config.serial = true) (budget : Nat) {s : Session σ τ}
    {first : Move σ} (h : Reached sys s.world)
    (hfirst : ∀ {w'}, first.LeadsTo w' → Reached sys w') (hcloses : s.world.Closes first) :
    Left sys (s.finish sys budget first).2.world
      ((s.finish sys budget first).1 = .outOfBudget) := by
  -- A first move that is an end already ends the operation as well.
  have hlast {stop : Stop} {w' : World σ} (hstop : Stop.Of (fun _ => first) s.world stop w') :
      Left sys w' (stop = .outOfBudget) :=
    ⟨h.stop hfirst hstop, hcloses.frames_of_stop hstop⟩
  cases first with
  | step w => exact drive_next_left hserial budget _ (hfirst .step)
  | ask q next => exact drive_next_left hserial budget _ (hfirst (.ask _))
  | returned w result => exact hlast (.returned rfl)
  | panicked w message => exact hlast (.panicked rfl)
  | parked => exact hlast (.parked rfl)
  | idle => exact hlast (.idle rfl)

/-- What a scheduling step leaves. -/
theorem step_left (hserial : sys.config.serial = true) (budget : Nat) {s : Session σ τ}
    (h : AtRest sys s.world) :
    Left sys (s.step sys budget).2.world ((s.step sys budget).1 = .error .outOfBudget) := by
  have hfinish := finish_left hserial budget h.1 (fun hmove => h.outside (.step hmove))
    (schedulePending_closes h.2)
  rw [step_eq budget hserial]
  refine ⟨hfinish.1, fun hended => hfinish.2 fun hstop => hended ?_⟩
  rw [hstop]
  rfl

/-- What the drive until nothing is left leaves. -/
theorem drive_nextUntilQuiescent_left (hserial : sys.config.serial = true) (budget : Nat)
    {s : Session σ τ} (h : AtRest sys s.world) :
    Left sys (drive (World.nextUntilQuiescent sys) budget s).2.world
      ((drive (World.nextUntilQuiescent sys) budget s).1 = .outOfBudget) := by
  obtain ⟨w, hw, hstop⟩ := drive_spec (World.nextUntilQuiescent sys) (P := Reached sys)
    (fun h hmove => h.nextUntilQuiescent hmove) budget s h.1
  refine ⟨hw.stop (fun hmove => hw.nextUntilQuiescent hmove) hstop, fun hended => ?_⟩
  obtain ⟨log, hrun⟩ := hw
  exact Closes.frames_of_stop (.inl (hrun.nextUntilQuiescent_sound hserial)) hstop hended

theorem run_left (hserial : sys.config.serial = true) (budget : Nat) {s : Session σ τ}
    (h : AtRest sys s.world) :
    Left sys (s.run sys budget).2.world ((s.run sys budget).1 = .error .outOfBudget) := by
  have hdrive := drive_nextUntilQuiescent_left hserial budget h
  rw [run_eq budget hserial]
  refine ⟨hdrive.1, fun hended => hdrive.2 fun hstop => hended ?_⟩
  rw [hstop]
  rfl

/-- What answers with its steps is a drive that has come to its end. -/
theorem drive_of_run_ok (hserial : sys.config.serial = true) {budget steps : Nat}
    {s : Session σ τ} (h : AtRest sys s.world)
    (hrun : (s.run sys budget).1 = .ok (.ok steps)) :
    ∃ (w : World σ) (result : Except Failure Unit),
      drive (World.nextUntilQuiescent sys) budget s = (.returned result, (s.run sys budget).2) ∧
        w.nextUntilQuiescent sys = .returned (s.run sys budget).2.world result := by
  obtain ⟨w, ⟨log, hw⟩, hstop⟩ := drive_spec (World.nextUntilQuiescent sys) (P := Reached sys)
    (fun h hmove => h.nextUntilQuiescent hmove) budget s h.1
  have hsound := hw.nextUntilQuiescent_sound hserial
  rw [run_eq budget hserial] at hrun ⊢
  rcases hdrive : drive (World.nextUntilQuiescent sys) budget s with ⟨stop, left⟩
  rw [hdrive] at hrun hstop
  cases hstop with
  | outOfBudget | panicked _ => cases hrun
  | parked hparked =>
    rw [hparked] at hsound
    contradiction
  | idle hidle =>
    rw [hidle] at hsound
    contradiction
  | returned hreturned => exact ⟨w, _, rfl, hreturned⟩

/-- A run until nothing is left that answers with its steps has come to its end. -/
theorem run_returned (hserial : sys.config.serial = true) {budget steps : Nat} {s : Session σ τ}
    (h : AtRest sys s.world) (hrun : (s.run sys budget).1 = .ok (.ok steps)) :
    (s.run sys budget).2.world.failure = none ∧
      ∃ (w : World σ) (result : Except Failure Unit),
        w.nextUntilQuiescent sys = .returned (s.run sys budget).2.world result := by
  obtain ⟨w, result, hdrive, hreturned⟩ := drive_of_run_ok hserial h hrun
  refine ⟨?_, w, result, hreturned⟩
  rw [run_eq budget hserial, hdrive] at hrun
  exact failure_of_outcome (Except.ok.inj hrun)

/-- When the drive until nothing is left ends well, nothing is pending or the step
bound is reached. -/
theorem run_eq_ok (hserial : sys.config.serial = true) {budget steps : Nat} {s : Session σ τ}
    (h : AtRest sys s.world) (hrun : (s.run sys budget).1 = .ok (.ok steps)) :
    (s.run sys budget).2.world.failure = none ∧
      ((s.run sys budget).2.world.bounded = true ∨ (s.run sys budget).2.world.pending = []) := by
  obtain ⟨hfailure, w, result, hreturned⟩ := run_returned hserial h hrun
  exact ⟨hfailure, (nextUntilQuiescent_returned hreturned hfailure).2⟩

/-- Whatever operation is performed, it leaves a world of some run, and one at rest
unless it was cut off. -/
theorem perform_left (hserial : sys.config.serial = true) {s : Session σ τ}
    (h : AtRest sys s.world) (op : Operation) (budget : Nat) :
    Left sys (s.perform sys budget op).2.world
      ((s.perform sys budget op).1 = .error .outOfBudget) := by
  cases op with
  | create type payload =>
    have hleft : AtRest sys (s.create sys type payload).2.world := by
      unfold create
      split
      · rename_i id w hcreate
        refine ⟨h.outside (.create hcreate), ?_⟩
        obtain ⟨_, _, rfl⟩ := create_eq_ok hcreate
        exact h.2
      · exact report_left h
    exact ⟨hleft.1, fun _ => hleft.2⟩
  | send target e =>
    have hleft : AtRest sys (s.send target e).2.world := by
      unfold send
      split
      · rename_i w hdeliver
        exact ⟨h.outside (.send hdeliver), (delivered_of_deliver hdeliver).frames.trans h.2⟩
      · exact report_left h
    exact ⟨hleft.1, fun _ => hleft.2⟩
  | register type =>
    exact ofDispatch_left (finish_left hserial budget h.1 (fun hmove => h.outside (.register hmove))
      (register_closes hserial h.2))
  | notify type e =>
    exact ofDispatch_left (finish_left hserial budget h.1 (fun hmove => h.outside (.notify hmove))
      (notify_closes hserial h.2))
  | assert holds message =>
    have hleft : AtRest sys (s.assert holds message).2.world := by
      unfold assert
      split
      · exact h
      · exact report_left h
    exact ⟨hleft.1, fun _ => hleft.2⟩
  | fail f => exact ⟨h.outside (.fail f), fun _ => h.2⟩
  | choose q => exact ⟨h.1, fun _ => h.2⟩
  | describe type =>
    have hleft : AtRest sys (s.describe sys type).2.world := by
      unfold describe
      split
      · rename_i blueprint registry hfetch
        exact ⟨h.outside (.describe hfetch), h.2⟩
      · exact h
    exact ⟨hleft.1, fun _ => hleft.2⟩
  | step => exact step_left hserial budget h
  | run => exact run_left hserial budget h
  | reset =>
    have hleft : AtRest sys (s.reset sys).2.world := by
      unfold reset
      split
      · exact h
      · exact h.reset
    exact ⟨hleft.1, fun _ => hleft.2⟩

/-! ## Histories -/

/-- The sessions that operations lead to, one after the other. A panic that comes
through ends an operation as well; one that was cut off has not ended. -/
inductive History (sys : System σ) : Session σ τ → Prop
  | fresh (source : τ) : History sys { source }
  | perform {s : Session σ τ} (h : History sys s) (op : Operation) (budget : Nat)
      (hended : (s.perform sys budget op).1 ≠ .error .outOfBudget) :
      History sys (s.perform sys budget op).2

/-- The sessions that can be seen at any moment: between operations, and between the
small steps of an operation, which a budget cuts off there. -/
inductive Moment (sys : System σ) : Session σ τ → Prop
  | between {s : Session σ τ} (h : History sys s) : Moment sys s
  | within {s : Session σ τ} (h : History sys s) (op : Operation) (budget : Nat) :
      Moment sys (s.perform sys budget op).2

theorem History.atRest (hserial : sys.config.serial = true) {s : Session σ τ}
    (h : History sys s) : AtRest sys s.world := by
  induction h with
  | fresh source => exact ⟨⟨[], .empty⟩, rfl⟩
  | perform _ op budget hended ih =>
    have hleft := perform_left hserial ih op budget
    exact ⟨hleft.1, hleft.2 hended⟩

/-- Whenever a session is seen, its world is one of a run. -/
theorem Moment.reached (hserial : sys.config.serial = true) {s : Session σ τ}
    (h : Moment sys s) : Reached sys s.world := by
  cases h with
  | between h => exact (h.atRest hserial).1
  | within h op budget => exact (perform_left hserial (h.atRest hserial) op budget).1

end Session

/-! ## A rendezvous

Two machines that show what the results below are about: one waits for an event while
it starts, and the other sends that event during the wait, behind one that is put off. -/

namespace Rendezvous

def go : EventType := ⟨"Go"⟩

def later : EventType := ⟨"Later"⟩

/-- Waits for `Go` in its entry action, and defers `Later`. -/
def waiter : Description Unit :=
  let ready := (({ name := "Ready" } : StateSpec).asStart.withEntry "await").deferring later.name
  (({} : Description Unit).state ready).action "await" fun _ =>
    Body.toProgram (Body.receive [go] >>= fun _ => pure ())

/-- Sends both events to the machine that it is created with. -/
def giver : Description Unit :=
  let giving := ({ name := "Giving" } : StateSpec).asStart.withEntry "give"
  (({} : Description Unit).state giving).action "give" fun i => Body.toProgram do
    match MachineId.ofPayload? (i.event.payload.getD .null) with
    | some target =>
      Body.send target (.message later none)
      Body.send target (.message go none)
    | none => Body.throw .undecodable

def catalog : Catalog Unit := fun type =>
  { fresh := (), describe := fun _ => if type = "Waiter" then waiter else giver }

def system : System Unit := { catalog, config := .bugFinding 0 }

/-- The waiter alone, before it has run. -/
def waiting : Session Unit CyclicChoice :=
  let s : Session Unit CyclicChoice := { source := { numbers := [] } }
  (s.perform system 0 (.create "Waiter" none)).2

/-- One machine of each type, before any of them has run. -/
def begun : Session Unit CyclicChoice :=
  (waiting.perform system 0
    (.create "Giver" (some (MachineId.toPayload ⟨"Waiter", 1⟩)))).2

theorem history_begun : Session.History system begun := by
  refine .perform (.perform (.fresh _) (.create ..) 0 ?_) (.create ..) 0 ?_ <;> exact nofun

/-- The giver at work while the waiter is blocked beneath it. -/
def nested : Session Unit CyclicChoice := (begun.perform system 6 .run).2

end Rendezvous

/-! ## Exclusive runs -/

namespace Session

open World

variable [ChoiceSource τ] {sys : System σ}

/-- Whenever a session is seen, a machine has at most one run, in progress or pending,
and it has one exactly when it is marked. The world counts these runs. So a scheduling
step never picks a machine whose run is in progress beneath, and the counter is not
zero while there is a run to end. -/
theorem Moment.exclusive (hserial : sys.config.serial = true)
    (hcaught : sys.config.propagatePanics = false) {s : Session σ τ} (h : Moment sys s) :
    (s.world.running ++ s.world.pending).Nodup ∧
      (∀ place, place ∈ s.world.running ++ s.world.pending ↔
        ∃ m, s.world.machineAt? place = some m ∧ m.active = true) ∧
      s.world.active = s.world.pending.length + s.world.running.length ∧
      (∀ w', s.world.schedulePending.LeadsTo w' →
        ∃ place, w'.frames = .ready place :: s.world.frames ∧ place ∈ s.world.pending ∧
          place ∉ s.world.running) ∧
      (s.world.running ≠ [] → 0 < s.world.active) := by
  obtain ⟨log, hrun⟩ := h.reached hserial
  have haccounted := hrun.accounted hserial hcaught
  have hcount : s.world.active = s.world.pending.length + s.world.running.length := by
    rw [haccounted.count, runs, List.length_append, Nat.add_comm]
  refine ⟨haccounted.nodup, haccounted.mem_iff, hcount, ?_, ?_⟩
  · intro w' hturn
    obtain ⟨index, hindex, rfl⟩ := schedulePending_leadsTo hturn
    have hmem : s.world.pending[index] ∈ s.world.pending := List.getElem_mem hindex
    refine ⟨s.world.pending[index], ?_, hmem, ?_⟩
    · simp [beginTurn, beginRun, List.getElem?_eq_getElem hindex]
    · intro hrunning
      exact (List.nodup_append.mp haccounted.nodup).2.2 _ hrunning _ hmem rfl
  · intro hrunning
    rw [hcount]
    exact Nat.lt_of_lt_of_le (List.length_pos_iff.mpr hrunning) (Nat.le_add_left ..)

theorem Moment.exclusive_nested :
    Moment Rendezvous.system Rendezvous.nested ∧ Rendezvous.nested.world.running = [1, 0] ∧
      (Rendezvous.nested.world.running ++ Rendezvous.nested.world.pending).Nodup ∧
      Rendezvous.nested.world.active
        = Rendezvous.nested.world.pending.length + Rendezvous.nested.world.running.length := by
  have h : Moment Rendezvous.system Rendezvous.nested := .within Rendezvous.history_begun .run 6
  obtain ⟨hnodup, _, hcount, _⟩ := Moment.exclusive rfl rfl h
  exact ⟨h, rfl, hnodup, hcount⟩

end Session

end PushdownActors
