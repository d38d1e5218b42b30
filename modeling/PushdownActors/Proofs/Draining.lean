-- SUMMARY: A run that goes on until its machine has nothing to do comes to the same end as one turn after the other.
import PushdownActors.Proofs.Lockstep
import PushdownActors.Proofs.StepBound

/-!
# Draining

In production mode a run goes on with the next event of its machine as soon as it is done
with one. In serial mode it gives up its turn after each, and waits in the queue until it is
taken out again. For a secluded machine that is alone the two come to the same: they are in
lockstep except for the steps that are counted, and except that where the one goes on, the
other ends its turn and begins the next.
-/

namespace PushdownActors

/-! ## How runs end -/

/-- How a run of a machine has ended. -/
inductive RunExit where
  /-- It has only given up its turn. -/
  | yielded
  | idle
  | halted
  | failed
  deriving DecidableEq, Repr

/-- How the run of a machine has ended that has left the world like this. A run that has
given up its turn is pending again. -/
def World.exit (w : World σ) (place : Place) : RunExit :=
  if place ∈ w.pending then .yielded
  else if (w.machineAt? place).any (·.lifecycle = .halted) then .halted
  else if w.hasFailed then .failed
  else .idle

namespace World

theorem exit_of_mem {w : World σ} {place : Place} (h : place ∈ w.pending) :
    w.exit place = .yielded := by
  simp [exit, h]

theorem exit_ne_yielded {w : World σ} {place : Place} (h : w.pending = []) :
    w.exit place ≠ .yielded := by
  unfold exit
  rw [h]
  split
  · contradiction
  · split
    · exact nofun
    · split <;> exact nofun

end World

namespace Session

variable [ChoiceSource τ]

/-- Takes the run that has waited longest out of the queue, and goes on with it until it is
over. -/
def drain (s : Session σ τ) (sys : System σ) (budget : Nat) : Stop × Session σ τ :=
  drive (World.next sys) budget { s with world := s.world.beginRun 0 }

/-- Turns of pending runs after which the machine is to go on, so many of them, and one more
with which its run has ended. -/
inductive Settles (sys : System σ) (place : Place) : Nat → Session σ τ → Session σ τ → Prop
  | last {s t : Session σ τ} {budget : Nat} (hstep : s.step sys budget = (.ok true, t))
      (hexit : t.world.exit place ≠ .yielded) : Settles sys place 0 s t
  | yields {s t u : Session σ τ} {budget n : Nat} (hstep : s.step sys budget = (.ok true, t))
      (hexit : t.world.exit place = .yielded) (hrest : Settles sys place n t u) :
      Settles sys place (n + 1) s u

end Session

/-! ## Two paces -/

namespace World

/-- The second world is the first but for the steps counted. The secluded machine is alone
in it, and nothing has been reported since the start. -/
structure Paced (x : Seclusion σ) (failure : Option Failure) (steps : Nat) (w v : World σ) :
    Prop where
  eq : v = { w with steps }
  within : w.Within x
  alone : w.pending = []
  failure : w.failure = failure
  bounded : w.bounded = false

/-- The run of the machine is the only one, and it waits for its turn. -/
structure Waits (place : Place) (failure : Option Failure) (w : World σ) : Prop where
  idle : w.frames = []
  pending : w.pending = [place]
  failure : w.failure = failure
  bounded : w.bounded = false

/-- What a run in production mode and a turn in serial mode end with. -/
inductive Parting (x : Seclusion σ) (failure : Option Failure) (steps : Nat) :
    Move σ → Move σ → Prop
  /-- The run is over, and so is the turn. -/
  | ended {w : World σ} (hidle : w.frames = []) (halone : w.pending = []) :
      Parting x failure steps (.returned w (.ok ())) (.returned { w with steps } (.ok ()))
  /-- The run goes on, and the turn is given up. -/
  | turn {w v : World σ} (h : Paced x failure steps w v) (hidle : w.frames = []) :
      Parting x failure steps (.step { w with frames := [.ready x.place] })
        (.returned (v.requeue x.place) (.ok ()))
  | panicked {w v : World σ} {message : Option String} :
      Parting x failure steps (.panicked w message) (.panicked v message)
  /-- The run waits for others. -/
  | parked {move : Move σ} : Parting x failure steps .parked move

variable {x : Seclusion σ} {failure : Option Failure} {steps : Nat} {w v : World σ}

theorem endRun_of_idle (hidle : w.frames = []) : w.endRun = .returned w (.ok ()) := by
  simp [endRun, hidle]

/-- With nothing in progress and nothing pending a run is over, whichever way it has ended. -/
theorem parting_of_idle (heq : v = { w with steps }) (hidle : w.frames = [])
    (halone : w.pending = []) : Parting x failure steps w.endRun v.endRun := by
  have hsame : v.frames = [] := by
    rw [heq]
    exact hidle
  rw [endRun_of_idle hidle, endRun_of_idle hsame, heq]
  exact .ended hidle halone

namespace Paced

theorem reframe (h : Paced x failure steps w v) {frames : List (Frame σ)}
    (hframes : Secluded x frames) :
    Paced x failure steps { w with frames } { v with frames } where
  eq := by rw [h.eq]
  within := h.within.reframe rfl hframes
  alone := h.alone
  failure := h.failure
  bounded := h.bounded

theorem exchange (h : Paced x failure steps w v) {m : Machine σ} (hm : m.Within x) :
    Paced x failure steps (w.setMachine x.place m) (v.setMachine x.place m) where
  eq := by
    rw [h.eq]
    rfl
  within := by
    obtain ⟨m', hm', -⟩ := h.within.machine
    exact h.within.exchange hm' hm
  alone := h.alone
  failure := h.failure
  bounded := h.bounded

/-- The run of the machine is over. -/
theorem ended (h : Paced x failure steps w v) (hidle : w.frames = []) (m : Machine σ) :
    Parting x failure steps (w.setMachine x.place m).retire.endRun
      (v.setMachine x.place m).retire.endRun := by
  refine parting_of_idle ?_ hidle h.alone
  rw [h.eq]
  rfl

/-- The run of the machine has failed. -/
theorem abort (h : Paced x failure steps w v) (hidle : w.frames = []) (m : Machine σ)
    (f : Failure) :
    Parting x failure steps (w.abort x.place m f).retire.endRun
      (v.abort x.place m f).retire.endRun := by
  have hw : (w.setMachine x.place { m with active := false }).bounded = false := h.bounded
  have hv : (v.setMachine x.place { m with active := false }).bounded = false := by
    rw [h.eq]
    exact h.bounded
  simp only [World.abort, hw, hv, Bool.false_eq_true, if_false]
  refine parting_of_idle ?_ hidle h.alone
  rw [h.eq]
  rfl

/-- A turn that is given up leaves the run pending. -/
theorem waits (h : Paced x failure steps w v) (hidle : w.frames = []) :
    (v.requeue x.place).Waits x.place failure := by
  rw [h.eq]
  refine ⟨hidle, ?_, h.failure, h.bounded⟩
  simp [requeue, h.alone]

/-- The next turn of the machine begins where a run that is not given up goes on. -/
theorem beginTurn (h : Paced x failure steps w v) (hidle : w.frames = []) :
    Paced x failure (steps + 1) { w with frames := [.ready x.place] }
      ((v.requeue x.place).beginTurn 0) where
  eq := by
    rw [h.eq]
    simp [World.beginTurn, beginRun, requeue, h.alone, hidle]
  within := h.within.reframe rfl .ready
  alone := h.alone
  failure := h.failure
  bounded := h.bounded

end Paced

/-- The run that waits for its turn is begun: for good, or for a turn. -/
theorem Waits.paced (h : w.Waits x.place failure) (hwithin : w.Within x) :
    Paced x failure (w.steps + 1) (w.beginRun 0) (w.beginTurn 0) := by
  have hbegun : w.beginRun 0 = { w with pending := [], frames := [.ready x.place] } := by
    simp [beginRun, h.pending, h.idle]
  refine ⟨rfl, ?_, ?_, ?_, ?_⟩
  · rw [hbegun]
    exact hwithin.reframe rfl .ready
  · rw [hbegun]
  · rw [hbegun]
    exact h.failure
  · rw [hbegun]
    exact h.bounded

variable {sys sys' : System σ}

/-- A run in production mode and the turns in serial mode are in lockstep. -/
theorem lockstep_paced (hproduction : sys.config.serial = false)
    (hserial : sys'.config.serial = true)
    (hpanics : sys'.config.propagatePanics = sys.config.propagatePanics) :
    Lockstep sys sys' x (Paced x failure steps) (Parting x failure steps) where
  panics := hpanics
  within h := ⟨h.within, h.eq ▸ h.within.congr rfl rfl⟩
  frames h := by rw [h.eq]
  machine h := by
    rw [h.eq]
    rfl
  monitors h _ := by rw [h.eq]
  failed h := by
    rw [h.eq]
    rfl
  reframe h hframes := h.reframe hframes
  exchange h hm := h.exchange hm
  write h _ := ⟨by rw [h.eq]; rfl, h.within.congr rfl rfl, h.alone, h.failure, h.bounded⟩
  judge h _ _ := ⟨by rw [h.eq], h.within.congr rfl rfl, h.alone, h.failure, h.bounded⟩
  conclude := by
    intro w v m h hidle hm result
    cases result with
    | error f => exact .ends (h.abort hidle m f)
    | ok status =>
      cases status with
      | halted => exact .ends (h.ended hidle m.halt)
      | running =>
        have hstated : Machine.Within x { m with state := m.cell.stack.top? } :=
          (h.within.of_machineAt? hm).congr rfl rfl rfl rfl
        simp only [concludeMachine, hproduction, hserial, Bool.false_eq_true, if_false, if_true]
        have hmade := h.exchange hstated
        have hv : ((v.setMachine x.place { m with state := m.cell.stack.top? }).requeue
            x.place).frames = [] := by
          rw [h.eq]
          exact hidle
        have hw : (w.setMachine x.place { m with state := m.cell.stack.top? }).frames = [] := hidle
        rw [endRun_of_idle hv, hw]
        exact .ends (.turn hmade hw)
  rest h hidle _ _ := h.ended hidle _
  abort h hidle _ f := h.abort hidle _ f
  panic _ _ := .panicked
  await := by
    intro w v p c types next m h hsociable hnext hframes hm
    have hwithin := h.within.of_machineAt? hm
    have hfailed : v.hasFailed = w.hasFailed := by
      rw [h.eq]
      rfl
    simp only [World.await, hfailed, hproduction, Bool.not_false, if_true]
    split
    · have htaken : Machine.Within x { m with received := none } := hwithin.congr rfl rfl rfl rfl
      exact .step ((h.exchange htaken).reframe (.acting (hnext _))) (List.cons_ne_nil _ _)
    · split
      · have hgiven : Machine.Within x { m with waiting := none } := hwithin.congr rfl rfl rfl rfl
        exact .step ((h.exchange hgiven).reframe (.acting (hnext _))) (List.cons_ne_nil _ _)
      · exact .ends .parked

theorem next_of_idle (hidle : w.frames = []) : w.next sys = .idle := by
  simp only [World.next, hidle]

/-- Where there is a small step something is in progress. -/
theorem frames_ne_nil_of_next {move : Move σ} (hnext : w.next sys = move) (hmove : move ≠ .idle) :
    w.frames ≠ [] := by
  intro hidle
  rw [next_of_idle hidle] at hnext
  exact hmove hnext.symm

/-- While something is in progress, running until nothing is left makes its moves and goes
on after the last. -/
theorem nextUntilQuiescent_of_frames (hframes : w.frames ≠ []) :
    w.nextUntilQuiescent sys =
      match w.next sys with
      | .returned w _ => .step w
      | move => move := by
  unfold nextUntilQuiescent
  split
  · contradiction
  · rfl

/-- With nothing in progress and nothing pending there is nothing left to run. -/
theorem nextUntilQuiescent_of_alone (hbound : sys.config.testing.stepBound = none)
    (hidle : w.frames = []) (halone : w.pending = []) :
    w.nextUntilQuiescent sys = .returned w (.ok ()) := by
  simp only [nextUntilQuiescent, hidle, markBound, hbound, halone, List.isEmpty_nil, Bool.or_true,
    if_true, ite_self]

end World

/-! ## Moves one after the other -/

namespace Session

open World

variable [ChoiceSource τ]

/-- Moves lead from one session to the other. -/
def Leads (move : World σ → Move σ) (s t : Session σ τ) : Prop :=
  ∃ n, drive move n s = (.outOfBudget, t)

namespace Leads

variable {move : World σ → Move σ} {s t u : Session σ τ} {w : World σ}

theorem refl (s : Session σ τ) : Leads move s s := ⟨0, rfl⟩

theorem trans (h : Leads move s t) (h' : Leads move t u) : Leads move s u := by
  obtain ⟨n, hcut⟩ := h
  obtain ⟨n', hcut'⟩ := h'
  exact ⟨n + n', (drive_add n n' hcut).trans hcut'⟩

theorem step (h : Leads move s t) (hmove : move t.world = .step w) :
    Leads move s { t with world := w } := by
  refine h.trans ⟨1, ?_⟩
  simp only [drive, hmove]

theorem ask (h : Leads move s t) {q : Question} {next : q.Answer → World σ}
    (hmove : move t.world = .ask q next) :
    Leads move s
      ⟨next (ChoiceSource.ask t.source q).1, (ChoiceSource.ask t.source q).2⟩ := by
  refine h.trans ⟨1, ?_⟩
  simp only [drive, hmove]

theorem returned (h : Leads move s t) {result : Except Failure Unit}
    (hmove : move t.world = .returned w result) :
    ∃ budget, drive move budget s = (.returned result, { t with world := w }) := by
  obtain ⟨n, hcut⟩ := h
  refine ⟨n + 1, ?_⟩
  rw [drive_add n 1 hcut]
  simp only [drive, hmove]

/-- Where small steps lead in the middle of a turn, running until nothing is left leads as
well. -/
theorem untilQuiescent {sys : System σ} (h : Leads (World.next sys) s t) :
    Leads (World.nextUntilQuiescent sys) s t := by
  obtain ⟨n, hcut⟩ := h
  induction n generalizing s with
  | zero =>
    cases hcut
    exact refl t
  | succ n ih =>
    have hframes : s.world.frames ≠ [] := by
      intro hidle
      simp [drive, next_of_idle hidle] at hcut
    cases hmove : s.world.next sys with
    | step w =>
      simp only [drive, hmove] at hcut
      have hmove' : s.world.nextUntilQuiescent sys = .step w := by
        rw [nextUntilQuiescent_of_frames hframes, hmove]
      exact ((refl s).step hmove').trans (ih hcut)
    | ask q next =>
      simp only [drive, hmove] at hcut
      have hmove' : s.world.nextUntilQuiescent sys = .ask q next := by
        rw [nextUntilQuiescent_of_frames hframes, hmove]
      exact ((refl s).ask hmove').trans (ih hcut)
    | returned _ _ | panicked _ _ | parked | idle =>
      simp only [drive, hmove] at hcut
      cases hcut

end Leads

/-! ## Turns -/

variable {sys sys' : System σ} {x : Seclusion σ} {failure : Option Failure}

/-- The turn that the only pending run is given has come as far as this. -/
def Underway (sys : System σ) (p t : Session σ τ) : Prop :=
  Leads (World.next sys) { p with world := p.world.beginTurn 0 } t

section Turns

variable {p t : Session σ τ} {place : Place} {w : World σ} {result : Except Failure Unit}

theorem Underway.step_eq (h : Underway sys p t) (hserial : sys.config.serial = true)
    (hp : p.world.Waits place failure) (hmove : t.world.next sys = .returned w result) :
    ∃ budget, p.step sys budget = (.ok true, { t with world := w }) := by
  obtain ⟨budget, hdrive⟩ := h.returned hmove
  refine ⟨budget, ?_⟩
  have hturn : p.world.schedulePending = .step (p.world.beginTurn 0) := by
    simp [schedulePending, hp.pending]
  simp [Session.step, hserial, finish, hturn, hdrive]

theorem Underway.leads (h : Underway sys p t)
    (hbound : sys.config.testing.stepBound = none) (hp : p.world.Waits place none)
    (hmove : t.world.next sys = .returned w result) :
    Leads (World.nextUntilQuiescent sys) p { t with world := w } := by
  have hframes : t.world.frames ≠ [] := frames_ne_nil_of_next hmove nofun
  have hturn : p.world.nextUntilQuiescent sys = .step (p.world.beginTurn 0) := by
    simp [World.nextUntilQuiescent, hp.idle, hasFailed, hp.failure, markBound, hbound, hp.bounded,
      hp.pending, schedulePending]
  have hback : t.world.nextUntilQuiescent sys = .step w := by
    rw [nextUntilQuiescent_of_frames hframes, hmove]
  have hbegun := (Leads.refl p).step hturn
  exact (hbegun.trans (Leads.untilQuiescent h)).step hback

end Turns

/-! ## Draining and turns -/

/-- The session with the steps counted anew. -/
def withSteps (s : Session σ τ) (steps : Nat) : Session σ τ :=
  { s with world := { s.world with steps } }

/-- The run of the machine has settled after so many turns that were given up. -/
structure Settled (sys : System σ) (place : Place) (failure : Option Failure) (n : Nat)
    (p t : Session σ τ) : Prop where
  settles : Settles sys place n p t
  leads : failure = none → Leads (World.nextUntilQuiescent sys) p t
  idle : t.world.frames = []
  alone : t.world.pending = []

/-- From the middle of a turn on, the machine settles where the run that goes on has ended. -/
theorem settled_of_drive (hproduction : sys.config.serial = false)
    (hserial : sys'.config.serial = true)
    (hpanics : sys'.config.propagatePanics = sys.config.propagatePanics)
    (hbound : sys'.config.testing.stepBound = none)
    {result : Except Failure Unit} {s' : Session σ τ} (budget : Nat) :
    ∀ {steps : Nat} {w v : World σ} {source : τ} {p : Session σ τ},
      Paced x failure steps w v → p.world.Waits x.place failure → Underway sys' p ⟨v, source⟩ →
      drive (World.next sys) budget ⟨w, source⟩ = (.returned result, s') →
      ∃ n, Settled sys' x.place failure n p (s'.withSteps (steps + n)) := by
  induction budget with
  | zero =>
    intro _ _ _ _ _ _ _ _ hdrive
    cases hdrive
  | succ budget ih =>
    intro steps w v source p hpaced hp hunder hdrive
    have halong := (lockstep_paced hproduction hserial hpanics).next hpaced
    generalize hw : w.next sys = move, hv : v.next sys' = move' at halong
    cases halong with
    | step h _ =>
      simp only [drive, hw] at hdrive
      exact ih h hp (hunder.step hv) hdrive
    | ask _ h =>
      simp only [drive, hw] at hdrive
      exact ih (h _) hp (hunder.ask hv) hdrive
    | idle =>
      simp only [drive, hw] at hdrive
      cases hdrive
    | ends h =>
      cases h with
      | panicked | parked =>
        simp only [drive, hw] at hdrive
        cases hdrive
      | ended hidle halone =>
        simp only [drive, hw] at hdrive
        cases hdrive
        obtain ⟨_, hstep⟩ := hunder.step_eq hserial hp hv
        refine ⟨0, .last hstep ?_, ?_, hidle, halone⟩
        · exact exit_ne_yielded halone
        · rintro rfl
          exact hunder.leads hbound hp hv
      | @turn w₁ v₁ h hidle =>
        simp only [drive, hw] at hdrive
        -- The turn is given up, and the next one begins where the run goes on.
        let p' : Session σ τ := ⟨v₁.requeue x.place, source⟩
        have hp' : p'.world.Waits x.place failure := h.waits hidle
        obtain ⟨n, hsettled⟩ := ih (h.beginTurn hidle) hp' (.refl _) hdrive
        obtain ⟨_, hstep⟩ := hunder.step_eq hserial hp hv
        rw [Nat.add_right_comm] at hsettled
        refine ⟨n + 1, .yields hstep ?_ hsettled.settles, ?_, hsettled.idle, hsettled.alone⟩
        · exact exit_of_mem (hp'.pending ▸ List.mem_cons_self)
        · rintro rfl
          exact (hunder.leads hbound hp hv).trans (hsettled.leads rfl)

end Session

/-! ## A snail that likes to crawl

With each event that it gets it chooses whether to send itself another. -/

namespace Snail

def amble : Action (Option MachineId) := fun _ => Body.toProgram do
  match ← Body.memory with
  | some self => if ← Body.random then Body.send self crawl else pure ()
  | none => pure ()

def catalog : Catalog (Option MachineId) := fun _ =>
  { fresh := none, describe := fun _ => snail amble }

def production : System (Option MachineId) := ⟨catalog, .embedded⟩

def serial : System (Option MachineId) :=
  ⟨catalog, { Config.bugFinding 0 with testing := { maxSteps := 0 } }⟩

/-- It has been made, and will crawl three times. -/
def made : Session (Option MachineId) CyclicChoice :=
  let s : Session (Option MachineId) CyclicChoice := { source := { numbers := [1, 1, 0] } }
  (s.perform production 0 (.create "Snail" none)).2

/-- It has crawled. -/
def rested : Session (Option MachineId) CyclicChoice := (made.drain production 100).2

/-- The machine as it has been made. -/
def hatched : Machine (Option MachineId) := (made.world.machineAt? 0).get rfl

theorem amble_within {x : Seclusion (Option MachineId)} (hsociable : x.sociable)
    (hstands : x.stands x.self) (hknows : x.remembers = knows x.self) (i : Invocation) :
    (amble i).Within x := by
  intro memory hmemory
  rw [hknows] at hmemory
  cases memory with
  | none => trivial
  | some self =>
    cases hmemory self rfl
    refine ⟨hsociable, ?_⟩
    intro answer _
    cases answer with
    | false => trivial
    | true =>
      refine ⟨hstands, ?_⟩
      intro answer _
      cases answer <;> trivial

end Snail

/-! ## Results -/

namespace Session

open World

variable [ChoiceSource τ] {sys sys' : System σ}

/-- Let the run of a secluded machine be the only one, and let it come to its end in
production mode. Then in serial mode the machine has finitely many turns that it gives up,
and one more with which its run ends. But for the steps that are counted the same session is
left: with the same exit of the run, the same journal, the same failure, the same monitors,
and the same machine, down to its stack, its mailbox and what it remembers. The choice
source, whatever it is, has come to the same state, as it was asked the same questions. If
nothing had failed before, running until nothing is left gives the machine these turns. -/
theorem drain_settles {s s' : Session σ τ} {place : Place} {m : Machine σ} {remembers : σ → Prop}
    {budget : Nat} {result : Except Failure Unit}
    (hproduction : sys.config.serial = false) (hserial : sys'.config.serial = true)
    (hpanics : sys'.config.propagatePanics = sys.config.propagatePanics)
    (hbound : sys'.config.testing.stepBound = none)
    (hidle : s.world.frames = []) (hpending : s.world.pending = [place])
    (hbounded : s.world.bounded = false)
    (hm : s.world.machineAt? place = some m) (hactive : m.active = true)
    (hmemory : remembers m.cell.memory)
    (hsecluded : m.cell.blueprint.Within
      { place
        self := m.id
        stands := fun target => (s.world.locate? target).map Prod.snd = some place
        sociable := True
        remembers })
    (hdrain : s.drain sys budget = (.returned result, s')) :
    ∃ n t, t = s'.withSteps (s.world.steps + 1 + n) ∧
      t.world.exit place = s'.world.exit place ∧ Settles sys' place n s t ∧
      (s.world.failure = none →
        ∃ more, s.run sys' more = (.ok (outcome s.world.steps t.world), t)) := by
  let x : Seclusion σ :=
    { place
      self := m.id
      stands := fun target => (s.world.locate? target).map Prod.snd = some place
      sociable := True
      remembers }
  have hwithin : s.world.Within x := by
    refine ⟨?_, ⟨m, hm, rfl, hactive, hsecluded, hmemory⟩, fun target hstands => hstands⟩
    rw [hidle]
    exact .idle
  have hwaits : s.world.Waits x.place s.world.failure := ⟨hidle, hpending, rfl, hbounded⟩
  obtain ⟨n, hsettled⟩ := settled_of_drive hproduction hserial hpanics hbound budget
    (hwaits.paced hwithin) hwaits (.refl _) hdrain
  refine ⟨n, _, rfl, rfl, hsettled.settles, ?_⟩
  intro hnone
  obtain ⟨more, hrun⟩ := (hsettled.leads hnone).returned
    (nextUntilQuiescent_of_alone hbound hsettled.idle hsettled.alone)
  refine ⟨more, ?_⟩
  rw [run_eq more hserial, hrun]
  rfl

/-- The snail crawls three times, whether its run goes on or has one turn after the other. -/
theorem drain_settles_snail :
    Snail.made.drain Snail.production 100 = (.returned (.ok ()), Snail.rested) ∧
      Snail.rested.world.exit 0 = .idle ∧
      ∃ n t, t = Snail.rested.withSteps (1 + n) ∧ t.world.exit 0 = .idle ∧
        Settles Snail.serial 0 n Snail.made t ∧
        ∃ more, Snail.made.run Snail.serial more = (.ok (outcome 0 t.world), t) := by
  have hdrain : Snail.made.drain Snail.production 100 = (.returned (.ok ()), Snail.rested) := rfl
  have hexit : Snail.rested.world.exit 0 = .idle := by decide +kernel
  have hproduction : Snail.production.config.serial = false := rfl
  have hserial : Snail.serial.config.serial = true := rfl
  have hmemory : Snail.knows Snail.hatched.id Snail.hatched.cell.memory := nofun
  have hsecluded : Snail.hatched.cell.blueprint.Within
      { place := 0
        self := Snail.hatched.id
        stands := fun target => (Snail.made.world.locate? target).map Prod.snd = some 0
        sociable := True
        remembers := Snail.knows Snail.hatched.id } :=
    Snail.snail_within rfl rfl (Snail.amble_within trivial rfl rfl) rfl
  obtain ⟨n, t, hend, hsame, hsettles, hrun⟩ :=
    drain_settles (s := Snail.made) (m := Snail.hatched) hproduction hserial rfl rfl rfl rfl rfl
      rfl rfl hmemory hsecluded hdrain
  exact ⟨hdrain, hexit, n, t, hend, hsame.trans hexit, hsettles, hrun rfl⟩

end Session

end PushdownActors
