-- SUMMARY: The course of a run until nothing is left: the worlds that it passes, and the events that a monitor gets on the way.
import PushdownActors.Proofs.Draining

/-!
# Courses

A run until nothing is left answers only with how it has ended. What has been in between
can be told from the worlds that it has passed. Most of them are in the midst of a turn;
a few are between two turns, with nothing in progress. A monitor gets an event when an
action that is in progress asks for it, so what a monitor gets can be read off these worlds
as well.

The course of a run is put together from the end: a turn that makes so many small steps, and
asks no question on its way, stands before the course that begins where the turn has ended.
-/

namespace PushdownActors

/-! ## What a monitor gets -/

theorem Event.checkSendable_of_isSendable {e : Event} (h : e.isSendable = true) :
    e.checkSendable = .ok () := by
  simp_all [isSendable, EventType.isUsable, checkSendable]

namespace World

/-- The event that the next small step delivers to the monitor of the type. There has to be
a machine whose action asks for it, and a monitor that is registered. -/
def notice? (w : World σ) (type : String) : Option Event :=
  match w.frames with
  | .acting (.machine place _) _ _ (.running (.request (.notify t e) _)) :: _ =>
    if t = type ∧ e.isSendable = true ∧ (w.machineAt? place).isSome = true
        ∧ (w.registered? type).isSome = true then some e
    else none
  | _ => none

section Notice

variable {sys : System σ} {w : World σ} {type : String} {e : Event}

theorem notice?_of_idle (hidle : w.frames = []) : w.notice? type = none := by
  simp only [notice?, hidle]

/-- The small step does deliver the event: the monitor handles it, and the action waits. -/
theorem next_of_notice? (h : w.notice? type = some e) :
    ∃ actor p c next rest m,
      w.frames = .acting actor p c (.running (.request (.notify type e) next)) :: rest ∧
        w.registered? type = some m ∧
        w.next sys
          = carry sys { w with frames := .acting actor p c (.notifying next) :: rest }
            (.monitor type) (((Actor.monitor type).engine m.cell).handle m.cell.stack e) := by
  unfold notice? at h
  split at h
  · rename_i place id p c t e' next rest hframes
    split at h
    · rename_i hdelivered
      obtain ⟨rfl, hsendable, hmachine, hm⟩ := hdelivered
      obtain ⟨machine, hmachine⟩ := Option.isSome_iff_exists.mp hmachine
      obtain ⟨m, hm⟩ := Option.isSome_iff_exists.mp hm
      cases h
      refine ⟨_, p, c, next, rest, m, hframes, hm, ?_⟩
      have hfound : ({ w with frames := .acting (.machine place id) p c (.notifying next) :: rest }
          : World σ).registered? t = some m := hm
      simp only [World.next, hframes, cell?_machine hmachine, execute, serve, notify,
        Event.checkSendable_of_isSendable hsendable, hfound]
    · contradiction
  · contradiction

end Notice

/-! ## Turns -/

/-- The world after so many small steps of what is in progress, with the events that the
monitor of the type gets by them. There is none if fewer steps are left, or if one of them
asks a question. -/
def after (sys : System σ) (type : String) : Nat → World σ → Option (List Event × World σ)
  | 0, w => some ([], w)
  | n + 1, w =>
    match w.next sys with
    | .step v | .returned v _ =>
      (v.after sys type n).map fun (log, w') => ((w.notice? type).toList ++ log, w')
    | _ => none

section After

variable {sys : System σ} {type : String} {w v w' : World σ} {log more : List Event}

/-- Small steps may be counted in parts. -/
theorem after_add {n k : Nat} (h : w.after sys type n = some (log, v))
    (hmore : v.after sys type k = some (more, w')) :
    w.after sys type (n + k) = some (log ++ more, w') := by
  induction n generalizing w log with
  | zero =>
    cases h
    rw [Nat.zero_add]
    exact hmore
  | succ n ih =>
    rw [Nat.succ_add]
    cases hnext : w.next sys with
    | step u | returned u _ =>
      simp only [after, hnext] at h ⊢
      obtain ⟨⟨rest, v'⟩, hrest, heq⟩ := Option.map_eq_some_iff.mp h
      cases heq
      rw [ih hrest]
      simp
    | ask _ _ | panicked _ _ | parked | idle =>
      simp only [after, hnext] at h
      contradiction

/-- A failure would not be forgotten. -/
theorem failure_of_after (hserial : sys.config.serial = true) {n : Nat}
    (h : w.after sys type n = some (log, w')) (hend : w'.failure = none) : w.failure = none := by
  induction n generalizing w log with
  | zero =>
    cases h
    exact hend
  | succ n ih =>
    have hkept {u : World σ} (hleads : (w.next sys).LeadsTo u) (hu : u.failure = none) :
        w.failure = none := by
      cases hfailure : w.failure with
      | none => rfl
      | some f =>
        have hlatched : u.failure = some f := (next_leadsTo hserial hleads).tally.failure hfailure
        rw [hu] at hlatched
        contradiction
    cases hnext : w.next sys with
    | step u =>
      simp only [after, hnext] at h
      obtain ⟨⟨rest, v'⟩, hrest, heq⟩ := Option.map_eq_some_iff.mp h
      cases heq
      exact hkept (hnext ▸ .step) (ih hrest)
    | returned u result =>
      simp only [after, hnext] at h
      obtain ⟨⟨rest, v'⟩, hrest, heq⟩ := Option.map_eq_some_iff.mp h
      cases heq
      exact hkept (hnext ▸ .returned) (ih hrest)
    | ask _ _ | panicked _ _ | parked | idle =>
      simp only [after, hnext] at h
      contradiction

end After

/-- Nothing has failed, and between turns the property holds. -/
structure Healthy (P : World σ → Prop) (w : World σ) : Prop where
  failure : w.failure = none
  between : w.frames = [] → P w

end World

/-! ## Courses -/

namespace Session

open World

variable [ChoiceSource τ]

/-- The worlds that moves pass, from the first on. -/
def worlds (move : World σ → Move σ) : Nat → Session σ τ → List (World σ)
  | 0, s => [s.world]
  | budget + 1, s =>
    s.world ::
      match move s.world with
      | .step w => worlds move budget { s with world := w }
      | .ask q next =>
        let (answer, source) := ChoiceSource.ask s.source q
        worlds move budget { world := next answer, source }
      | .returned w _ | .panicked w _ => [w]
      | .parked | .idle => []

/-- A run until nothing is left ends well within the budget. It passes healthy worlds only,
and on its way the monitor of the type gets the events of the list. -/
inductive Course (sys : System σ) (type : String) (P : World σ → Prop) :
    Nat → Session σ τ → List Event → Session σ τ → Prop
  | returned {budget : Nat} {s : Session σ τ} {w : World σ} (hs : s.world.Healthy P)
      (hw : w.Healthy P) (hidle : s.world.frames = []) (hend : w.frames = [])
      (hmove : s.world.nextUntilQuiescent sys = .returned w (.ok ())) :
      Course sys type P (budget + 1) s [] { s with world := w }
  | step {budget : Nat} {s t : Session σ τ} {w : World σ} {log : List Event}
      (hs : s.world.Healthy P) (hmove : s.world.nextUntilQuiescent sys = .step w)
      (hrest : Course sys type P budget { s with world := w } log t) :
      Course sys type P (budget + 1) s ((s.world.notice? type).toList ++ log) t
  | ask {budget : Nat} {s t : Session σ τ} {q : Question} {next : q.Answer → World σ}
      {log : List Event} (hs : s.world.Healthy P) (hidle : s.world.frames = [])
      (hmove : s.world.nextUntilQuiescent sys = .ask q next)
      (hrest : Course sys type P budget
        ⟨next (ChoiceSource.ask s.source q).1, (ChoiceSource.ask s.source q).2⟩ log t) :
      Course sys type P (budget + 1) s log t

namespace Course

variable {sys : System σ} {type : String} {P : World σ → Prop} {budget : Nat}
  {s t : Session σ τ} {log more : List Event} {w : World σ}

theorem drive_eq (h : Course sys type P budget s log t) :
    drive (nextUntilQuiescent sys) budget s = (.returned (.ok ()), t) := by
  induction h with
  | returned _ _ _ _ hmove => simp only [drive, hmove]
  | step _ hmove _ ih =>
    simp only [drive, hmove]
    exact ih
  | ask _ _ hmove _ ih =>
    simp only [drive, hmove]
    exact ih

/-- The run ends between turns, in a healthy world. -/
theorem healthy_last (h : Course sys type P budget s log t) :
    t.world.Healthy P ∧ t.world.frames = [] := by
  induction h with
  | returned _ hw _ hend _ => exact ⟨hw, hend⟩
  | step _ _ _ ih | ask _ _ _ _ ih => exact ih

/-- The run answers with the turns that it has taken. -/
theorem run_eq (hserial : sys.config.serial = true) (h : Course sys type P budget s log t) :
    s.run sys budget = (.ok (.ok (t.world.steps - s.world.steps)), t) := by
  rw [Session.run_eq budget hserial, h.drive_eq]
  simp only [settled, outcome, h.healthy_last.1.failure]

/-- All worlds that are passed are healthy. -/
theorem healthy_of_mem (h : Course sys type P budget s log t) :
    ∀ w ∈ s.worlds (nextUntilQuiescent sys) budget, w.Healthy P := by
  induction h with
  | returned hs hw _ _ hmove =>
    simp only [worlds, hmove]
    exact List.forall_mem_cons.mpr ⟨hs, List.forall_mem_singleton.mpr hw⟩
  | step hs hmove _ ih =>
    simp only [worlds, hmove]
    exact List.forall_mem_cons.mpr ⟨hs, ih⟩
  | ask hs _ hmove _ ih =>
    simp only [worlds, hmove]
    exact List.forall_mem_cons.mpr ⟨hs, ih⟩

/-- The monitor gets the events that the worlds tell. -/
theorem filterMap_notice? (h : Course sys type P budget s log t) :
    (s.worlds (nextUntilQuiescent sys) budget).filterMap (·.notice? type) = log := by
  induction h with
  | returned _ _ hidle hend hmove =>
    simp only [worlds, hmove]
    simp [notice?_of_idle hidle, notice?_of_idle hend]
  | @step _ s _ _ _ _ hmove _ ih =>
    simp only [worlds, hmove]
    rw [List.filterMap_cons, ih]
    cases s.world.notice? type <;> rfl
  | ask _ hidle hmove _ ih =>
    simp only [worlds, hmove]
    rw [List.filterMap_cons, notice?_of_idle hidle]
    exact ih

/-- Between turns the choice source decides which run is next; all of them have to be looked
at. -/
theorem schedule {Q : List Event → Session σ τ → Prop} (hs : s.world.Healthy P)
    (hidle : s.world.frames = []) (hmove : s.world.nextUntilQuiescent sys = w.schedulePending)
    (hpending : w.pending ≠ [])
    (hturns : ∀ index < w.pending.length, ∀ source : τ, ∃ log t,
      Course sys type P budget ⟨w.beginTurn index, source⟩ log t ∧ Q log t) :
    ∃ log t, Course sys type P (budget + 1) s log t ∧ Q log t := by
  match hplaces : w.pending with
  | [] => contradiction
  | [place] =>
    have honly : w.schedulePending = .step (w.beginTurn 0) := by
      simp only [schedulePending, hplaces]
    obtain ⟨log, t, hcourse, ht⟩ := hturns 0 (by simp [hplaces]) s.source
    have hfirst := Course.step hs (hmove.trans honly) hcourse
    rw [notice?_of_idle hidle] at hfirst
    exact ⟨log, t, hfirst, ht⟩
  | first :: second :: rest =>
    let q : Question := .integer (UInt64.ofNat (rest.length + 2))
    have hasks : w.schedulePending
        = .ask q fun n => w.beginTurn (min n.toNat (rest.length + 1)) := by
      simp only [schedulePending, hplaces]
      rfl
    obtain ⟨log, t, hcourse, ht⟩ := hturns
      (min (ChoiceSource.ask s.source q).1.toNat (rest.length + 1))
      (by simp only [hplaces, List.length_cons]; omega) (ChoiceSource.ask s.source q).2
    exact ⟨log, t, .ask hs hidle (hmove.trans hasks) hcourse, ht⟩

/-- The rest of a turn stands before the course that begins at its end. -/
theorem turn (hserial : sys.config.serial = true) {n : Nat} {w' : World σ} {source : τ}
    (h : Course sys type P budget ⟨w', source⟩ more t) (hend : w'.failure = none)
    (hafter : w.after sys type n = some (log, w')) :
    Course sys type P (budget + n) ⟨w, source⟩ (log ++ more) t := by
  induction n generalizing w log with
  | zero =>
    cases hafter
    exact h
  | succ n ih =>
    have hfailure : w.failure = none := failure_of_after hserial hafter hend
    have hfirst {move : Move σ} (hnext : w.next sys = move) (hmove : move ≠ .idle) :
        w.frames ≠ [] ∧ w.Healthy P := by
      have hframes := frames_ne_nil_of_next hnext hmove
      exact ⟨hframes, hfailure, fun hidle => absurd hidle hframes⟩
    cases hnext : w.next sys with
    | step u | returned u _ =>
      obtain ⟨hframes, hhealthy⟩ := hfirst hnext nofun
      simp only [after, hnext] at hafter
      obtain ⟨⟨rest, v⟩, hrest, heq⟩ := Option.map_eq_some_iff.mp hafter
      cases heq
      have hmove : w.nextUntilQuiescent sys = .step u := by
        rw [nextUntilQuiescent_of_frames hframes, hnext]
      rw [List.append_assoc]
      exact .step hhealthy hmove (ih hrest)
    | ask _ _ | panicked _ _ | parked | idle =>
      simp only [after, hnext] at hafter
      contradiction

end Course

end Session

end PushdownActors
