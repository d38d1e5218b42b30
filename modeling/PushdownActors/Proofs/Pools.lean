-- SUMMARY: Pools: no monitor is left in progress when a run stops, and a pool keeps to worlds that occur however many runs it puts to work.
import PushdownActors.Pool
import PushdownActors.Proofs.Monitors

/-!
# Pools

A production system is a pool of runs, one at work and the others parked until events arrive
for them. The runs are put to work one after the other on the same world. What holds of every
world that occurs holds of the worlds of a pool, provided that no run leaves a monitor in
progress when it makes way for another.
-/

namespace PushdownActors

/-! ## The end of a run

What is in progress stops when it is over, and in production mode also when a machine waits
for an event. No monitor is in progress then: one that is called does not wait, and gives way
to the action that has called it. -/

/-- If the move is the last one of what is in progress, or parks it, then only machines are in
progress from then on. -/
def Move.Vacates (w : World σ) : Move σ → Prop
  | returned w' _ | panicked w' _ => w'.Unobserved
  | parked => w.Unobserved
  | step _ | ask .. | idle => True

namespace World

section Vacates

variable {sys : System σ} {w v : World σ} {rest : List (Frame σ)} {actor : Actor} {p : Paused}
  {c : Context} {place : Place} {id : MachineId}

theorem Unobserved.setMachine (hv : v.Unobserved) (place : Place) (m : Machine σ) :
    (v.setMachine place m).Unobserved := hv

theorem Unobserved.setMonitor (hv : v.Unobserved) (m : Monitor σ) :
    (v.setMonitor m).Unobserved := hv

theorem vacates_endRun (hv : v.Unobserved) : v.endRun.Vacates w := by
  unfold endRun
  split
  · exact hv
  · trivial

theorem vacates_giveBack (hv : v.Unobserved) (result : Except Failure Unit) :
    (v.giveBack result).Vacates w := by
  unfold giveBack
  split
  · trivial
  · exact hv

theorem vacates_abort (hv : v.Unobserved) (m : Machine σ) (f : Failure) :
    (v.abort place m f).retire.endRun.Vacates w := by
  apply vacates_endRun
  unfold abort
  dsimp only
  split <;> exact hv

theorem vacates_conclude (hv : v.Unobserved) (result : Except Failure Status) :
    (v.conclude sys actor result).Vacates w := by
  unfold conclude
  split
  · split
    · unfold concludeMachine
      split
      · dsimp only
        split
        · exact vacates_endRun hv
        · trivial
      · exact vacates_endRun hv
      · exact vacates_abort hv _ _
    · trivial
  · split
    · unfold World.concludeMonitor
      split
      · exact vacates_giveBack (hv.setMonitor _) _
      · apply vacates_giveBack
        split <;> exact hv
    · trivial

theorem vacates_carry (hv : v.Unobserved) (progress : Progress) :
    (v.carry sys actor progress).Vacates w := by
  unfold carry
  split
  · trivial
  · rename_i cell _
    have hset : (v.setCell actor { cell with stack := progress.stack }).Unobserved := by
      rw [Unobserved, setCell_frames]
      exact hv
    dsimp only
    split
    · exact vacates_conclude hset _
    · exact vacates_conclude hset _
    · split
      · trivial
      · exact vacates_conclude hset _

theorem vacates_beginDispatch (hv : v.Unobserved) (m : Machine σ) :
    (v.beginDispatch sys place m).Vacates w := by
  unfold beginDispatch
  dsimp only
  split
  · exact vacates_endRun hv
  · exact vacates_carry (hv.setMachine place _) _
  · split
    · exact vacates_endRun hv
    · split
      · exact vacates_abort hv _ _
      · exact vacates_endRun hv
      · exact vacates_carry (hv.setMachine place _) _

theorem vacates_await {types : List EventType} {next : Except Failure Event → Program σ Verdict}
    (hw : w.Unobserved) (m : Machine σ) :
    (w.await sys rest actor p c types next place m).Vacates w := by
  unfold await
  split
  · trivial
  · split
    · trivial
    · split
      · exact hw
      · dsimp only
        split
        · trivial
        · split
          · trivial
          · unfold schedulePending
            split <;> trivial

/-- Only a call of a monitor could be the end of anything, and it has been called by an action
that goes on then. -/
theorem vacates_serve (hrest : ∀ f ∈ rest, f.place? ≠ none) (r : Request)
    (next : r.Reply → Program σ Verdict) :
    (w.serve sys rest actor p c r next).Vacates w := by
  cases r with
  | raise e =>
    simp only [serve]
    split <;> trivial
  | goto | push | pop | choose | assert | remark => trivial
  | id => cases actor <;> trivial
  | send | create =>
    cases actor with
    | monitor => trivial
    | machine =>
      simp only [serve]
      split <;> trivial
  | notify type e =>
    cases actor with
    | monitor => trivial
    | machine place id =>
      let waiting : World σ :=
        { w with frames := .acting (.machine place id) p c (.notifying next) :: rest }
      have hwaiting : waiting.Unobserved := .cons rfl rfl hrest
      simp only [serve, notify]
      split
      · trivial
      · split
        · trivial
        · exact vacates_carry hwaiting _
  | receive types =>
    cases actor with
    | monitor => trivial
    | machine =>
      simp only [serve]
      split
      · trivial
      · split <;> trivial

theorem vacates_execute {cell : Cell σ} (hrest : ∀ f ∈ rest, f.place? ≠ none)
    (program : Program σ Verdict) :
    (w.execute sys rest actor p c cell program).Vacates w := by
  cases program with
  | done verdict =>
    simp only [execute]
    split
    · exact .of_idle rfl
    · have hpopped : Unobserved { w with frames := rest } := hrest
      exact vacates_carry hpopped _
  | load | store => trivial
  | request r next => exact vacates_serve hrest r next

theorem Watched.vacates (h : w.Watched) : (w.next sys).Vacates w := by
  unfold World.next
  split
  · trivial
  · rename_i place rest hframes
    split
    · exact vacates_beginDispatch (h.rest hframes) _
    · trivial
  · rename_i actor p c program rest hframes
    split
    · exact vacates_execute (h.rest hframes) program
    · trivial
  · rename_i place id p c types next rest hframes
    split
    · exact vacates_await (.cons hframes rfl (h.rest hframes)) _
    · trivial
  · trivial
  · trivial

end Vacates

end World

/-- What has been in progress is over, or parked. -/
def Stop.isComplete : Stop → Bool
  | returned _ | panicked _ | parked => true
  | idle | outOfBudget => false

/-- Small steps lead from worlds that occur to others. Where they come to a stop, only machines
are in progress. -/
theorem World.Occurs.drive [ChoiceSource τ] {sys : System σ} {s : Session σ τ}
    (h : Occurs sys s.world) (budget : Nat) :
    Occurs sys (Session.drive (World.next sys) budget s).2.world ∧
      ((Session.drive (World.next sys) budget s).1.isComplete = true →
        (Session.drive (World.next sys) budget s).2.world.Unobserved) := by
  obtain ⟨w, hw, hstop⟩ := Session.drive_spec (World.next sys) (fun h hnext => h.next hnext) budget
    s h
  have hvacates : (w.next sys).Vacates w := hw.watched.vacates
  generalize (Session.drive (World.next sys) budget s).1 = stop,
    (Session.drive (World.next sys) budget s).2.world = left at hstop ⊢
  cases hstop with
  | returned hmove =>
    rw [hmove] at hvacates
    exact ⟨hw.next (hmove ▸ .returned), fun _ => hvacates⟩
  | panicked hmove =>
    rw [hmove] at hvacates
    exact ⟨hw.next (hmove ▸ .panicked), fun _ => hvacates⟩
  | parked hmove =>
    rw [hmove] at hvacates
    exact ⟨hw, fun _ => hvacates⟩
  | idle | outOfBudget => exact ⟨hw, nofun⟩

/-! ## Pools

A production system is a pool of runs. Whatever their number, the worlds that it comes to are
such as have been described. -/

namespace Pool

variable {sys : System σ} {p q : Pool σ τ}

/-- The world of the pool is one that occurs, and no monitor is in progress, be it among the
runs that are parked. -/
structure Orderly (sys : System σ) (p : Pool σ τ) : Prop where
  occurs : World.Occurs sys p.session.world
  unobserved : p.session.world.Unobserved
  parked : ∀ frames ∈ p.parked, ∀ f ∈ frames, f.place? ≠ none

theorem Orderly.of_idle {s : Session σ τ} (hoccurs : World.Occurs sys s.world)
    (hidle : s.world.frames = []) : Orderly sys { session := s } :=
  ⟨hoccurs, .of_idle hidle, List.forall_mem_nil _⟩

/-- What is left of a pool when the run at work has stopped: it is put aside if it is parked. -/
def stopped (p : Pool σ τ) : Stop × Session σ τ → Pool σ τ
  | (.parked, s) =>
    { session := { s with world := { s.world with frames := [] } }
      parked := p.parked ++ [s.world.frames] }
  | (_, s) => { p with session := s }

/-- A pool exchanges the run in progress for one that was parked, or begins one. -/
theorem Orderly.next (h : p.Orderly sys) (hnext : p.next = some q) : q.Orderly sys := by
  unfold Pool.next at hnext
  dsimp only at hnext
  split at hnext
  · rename_i index _
    cases hnext
    have hframes : ∀ f ∈ p.parked.getD index [], f.place? ≠ none := by
      intro f hf
      rw [List.getD_eq_getElem?_getD] at hf
      cases hget : p.parked[index]? with
      | none => simp [hget] at hf
      | some frames =>
        rw [hget, Option.getD_some] at hf
        exact h.parked frames (List.mem_of_getElem? hget) f hf
    refine ⟨h.occurs.exchange hframes, hframes, ?_⟩
    intro frames hparked
    exact h.parked frames (List.mem_of_mem_eraseIdx hparked)
  · split at hnext
    · contradiction
    · cases hnext
      exact ⟨h.occurs.begin h.unobserved 0, (World.aside_beginRun h.unobserved 0).unobserved,
        h.parked⟩

variable [ChoiceSource τ]

/-- The run at work goes on until it stops, and the next one finds the pool as it was. -/
theorem Orderly.stopped (h : p.Orderly sys) (budget : Nat)
    (hcomplete : (Session.drive (World.next sys) budget p.session).1.isComplete = true) :
    (p.stopped (Session.drive (World.next sys) budget p.session)).Orderly sys := by
  obtain ⟨hoccurs, hunobserved⟩ := h.occurs.drive budget
  have hleft := hunobserved hcomplete
  rcases hdrive : Session.drive (World.next sys) budget p.session with ⟨stop, s⟩
  rw [hdrive] at hoccurs hleft
  cases stop with
  | parked =>
    refine ⟨hoccurs.exchange (List.forall_mem_nil _), .of_idle rfl, ?_⟩
    intro frames hframes
    rcases List.mem_append.mp hframes with hparked | hlast
    · exact h.parked frames hparked
    · obtain rfl := List.mem_singleton.mp hlast
      exact hleft
  | returned | panicked | idle | outOfBudget => exact ⟨hoccurs, hleft, h.parked⟩

/-- Every run that the pool puts to work comes to a stop. -/
def Serves (sys : System σ) : (budget : Nat) → Pool σ τ → Prop
  | 0, _ => True
  | budget + 1, p => ∀ q, p.next = some q →
    (Session.drive (World.next sys) (budget + 1) q.session).1.isComplete = true ∧
      Serves sys budget (q.stopped (Session.drive (World.next sys) (budget + 1) q.session))

theorem settle_succ (budget : Nat) (p : Pool σ τ) :
    settle sys (budget + 1) p =
      match p.next with
      | none => p
      | some q =>
        settle sys budget (q.stopped (Session.drive (World.next sys) (budget + 1) q.session)) := by
  rw [settle]
  cases p.next with
  | none => rfl
  | some q =>
    rcases hdrive : Session.drive (World.next sys) (budget + 1) q.session with ⟨stop, s⟩
    cases stop <;> simp only [hdrive, Pool.stopped]

/-- However many runs a pool puts to work one after the other, its world is one that occurs. -/
theorem Orderly.settle {budget : Nat} (h : p.Orderly sys) (hserves : p.Serves sys budget) :
    (settle sys budget p).Orderly sys := by
  induction budget generalizing p with
  | zero => exact h
  | succ budget ih =>
    rw [settle_succ]
    cases hnext : p.next with
    | none => exact h
    | some q =>
      obtain ⟨hcomplete, hrest⟩ := hserves q hnext
      exact ih ((h.next hnext).stopped (budget + 1) hcomplete) hrest

/-- A pool that begins with nothing in progress keeps its monitors in order: one for each type,
each in one declared state. -/
theorem settle_watched {s : Session σ τ} {budget : Nat} (hoccurs : World.Occurs sys s.world)
    (hidle : s.world.frames = []) (hserves : Serves sys budget { session := s }) :
    (settle sys budget { session := s }).session.world.Watched := by
  have hsettled : (settle sys budget { session := s }).Orderly sys :=
    (Orderly.of_idle hoccurs hidle).settle hserves
  exact hsettled.occurs.watched

end Pool

end PushdownActors
