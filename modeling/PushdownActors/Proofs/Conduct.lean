-- SUMMARY: What a small step leaves of the action on top, of its context and of the frames beneath, and whose stack is changed.
import PushdownActors.Proofs.Origins

/-!
# Conduct of actions and dispatches

What becomes of the frame on top in a small step, as far as failures are concerned. An action
goes on with the answer to its request: its actor has the stack that it had, and what its
context keeps then is what it has kept before, or a failure that does not say yet where it has
arisen. A dispatch that is carried on waits for an action in a frame of its own, or is over; if
it was for a monitor and has failed, the action that has notified the monitor keeps the failure.
-/

namespace PushdownActors

/-! ## What requests leave in a context -/

/-- The context keeps no other failure than before, unless it has kept none; then a bare one. -/
def Context.Later (c c' : Context) : Prop :=
  ∀ f, c'.violation = some f → c.violation = some f ∨ c.violation = none ∧ f.Bare

namespace Context

variable {c : Context} {f : Failure}

theorem Later.refl (c : Context) : c.Later c := fun _ h => .inl h

theorem later_record (c : Context) (hbare : f.Bare) : c.Later (c.record f) := by
  intro g hg
  cases hkept : c.violation with
  | none =>
    have heq : f = g := by simpa [record, hkept] using hg
    exact .inr ⟨rfl, heq ▸ hbare⟩
  | some first =>
    have heq : first = g := by simpa [record, hkept] using hg
    exact .inl (congrArg some heq)

theorem later_demand (c : Context) (site : Site) (t : Transition) :
    c.Later (c.demand site t).2 := by
  unfold demand
  split
  · exact fun _ h => .inl h
  · rename_i f hrefused
    refine later_record c ?_
    unfold permits at hrefused
    split at hrefused
    · cases hrefused
      exact Failure.bare_of_violation _
    · split at hrefused
      · cases hrefused
        exact Failure.bare_of_violation _
      · contradiction

end Context

namespace World

variable {sys : System σ} {w w' v : World σ} {actor : Actor} {stack : Stack} {place : Place}
  {rest : List (Frame σ)} {p : Paused} {c : Context}

/-! ## The action on top -/

theorem bare_of_deliver {target : MachineId} {e : Event} {f : Failure}
    (h : w.deliver target e = .error f) : f.Bare := by
  unfold deliver at h
  split at h
  · cases h
    exact Failure.bare_of_violation _
  · split at h
    · cases h
      exact Failure.bare_of_violation _
    · contradiction

theorem bare_of_create {catalog : Catalog σ} {type : String} {payload : Option Value}
    {f : Failure} (h : w.create catalog type payload = .error f) : f.Bare := by
  unfold create at h
  split at h
  · cases h
    exact ⟨rfl, rfl⟩
  · contradiction

/-- A machine that gets an event keeps its identity and its stack. -/
theorem Bears.delivered {e : Event} {seen : List Traffic} (h : w.Bears actor stack)
    (hdelivered : Delivered w e seen w') : w'.Bears actor stack := by
  cases hdelivered with
  | refused => exact h
  | handed hm | queued hm => exact h.setMachine hm rfl rfl
  | @woken place m hm =>
    have hset : (w.setMachine place
        { m with mailbox := m.mailbox ++ [e], active := true }).Bears actor stack :=
      h.setMachine hm rfl rfl
    exact hset.congr rfl rfl

theorem Bears.create {catalog : Catalog σ} {type : String} {payload : Option Value}
    {id : MachineId} (h : w.Bears actor stack)
    (hcreate : w.create catalog type payload = .ok (id, w')) : w'.Bears actor stack := by
  obtain ⟨blueprint, registry, rfl⟩ := create_eq_ok hcreate
  cases h with
  | monitor hm => exact .monitor hm
  | machine hm =>
    have hlt := (List.getElem?_eq_some_iff.mp hm).1
    exact .machine ((List.getElem?_append_left hlt).trans hm)

theorem Bears.store {cell : Cell σ} (h : w.Bears actor stack) (hcell : w.cell? actor = some cell)
    (memory : σ) : (w.setCell actor { cell with memory }).Bears actor stack := by
  have hstack : cell.stack = stack := h.stack_eq hcell
  subst hstack
  exact h.identifies.bears_setCell hcell

/-- The action on top goes on, with the same stack, and keeps nothing new that is not bare. -/
def GoesOn (rest : List (Frame σ)) (actor : Actor) (stack : Stack) (p : Paused) (c : Context)
    (w : World σ) : Prop :=
  ∃ c' stage, w.frames = .acting actor p c' stage :: rest ∧ c.Later c' ∧ w.Bears actor stack

theorem goesOn_goOn {c' : Context} {program : Program σ Verdict} (hlater : c.Later c')
    (hbears : v.Bears actor stack) (h : (v.goOn rest actor p c' program).LeadsTo w') :
    GoesOn rest actor stack p c w' := by
  obtain rfl := goOn_leadsTo.mp h
  exact ⟨c', _, rfl, hlater, hbears.congr rfl rfl⟩

theorem goesOn_ok {α : Type} {a : α} {next : Except Failure α → Program σ Verdict}
    (hbears : v.Bears actor stack) (h : (v.reply rest actor p c (.ok a) next).LeadsTo w') :
    GoesOn rest actor stack p c w' :=
  goesOn_goOn (.refl c) hbears h

theorem goesOn_refused {α : Type} {f : Failure} {next : Except Failure α → Program σ Verdict}
    (hbare : f.Bare) (hbears : v.Bears actor stack)
    (h : (v.reply rest actor p c (.error f) next).LeadsTo w') :
    GoesOn rest actor stack p c w' :=
  goesOn_goOn (c.later_record hbare) hbears h

/-- The failure of a request that concerns nobody else does not say yet where it has arisen. -/
theorem serve_inward_goesOn {r : Request} {next : r.Reply → Program σ Verdict}
    (hinward : r.isInward actor = true) (hbears : w.Bears actor stack)
    (h : (w.serve sys rest actor p c r next).LeadsTo w') : GoesOn rest actor stack p c w' := by
  cases r with
  | raise e =>
    simp only [serve] at h
    split at h
    · exact goesOn_refused ⟨rfl, rfl⟩ hbears h
    · exact goesOn_goOn (c.later_demand _ _) hbears h
  | goto | push | pop => exact goesOn_goOn (c.later_demand _ _) hbears h
  | choose q =>
    obtain ⟨answer, rfl⟩ := Move.leadsTo_ask.mp h
    exact ⟨_, _, rfl, .refl c, hbears.congr rfl rfl⟩
  | assert holds message =>
    cases holds with
    | true => exact goesOn_ok hbears h
    | false => exact goesOn_refused ⟨rfl, rfl⟩ hbears h
  | id =>
    cases actor with
    | machine => exact goesOn_ok hbears h
    | monitor => exact goesOn_refused ⟨rfl, rfl⟩ hbears h
  | send | create | notify | receive =>
    cases actor with
    | machine => contradiction
    | monitor => exact goesOn_refused ⟨rfl, rfl⟩ hbears h
  | remark => contradiction

section Machines

variable {id : MachineId} (hbears : w.Bears (.machine place id) stack)

include hbears

theorem serve_send_goesOn {target : MachineId} {e : Event}
    {next : Except Failure Unit → Program σ Verdict}
    (h : (w.serve sys rest (.machine place id) p c (.send target e) next).LeadsTo w') :
    GoesOn rest (.machine place id) stack p c w' := by
  simp only [serve] at h
  split at h
  · rename_i sent hdeliver
    exact goesOn_ok (hbears.delivered (delivered_of_deliver hdeliver)) h
  · rename_i f hdeliver
    exact goesOn_refused (bare_of_deliver hdeliver) hbears h

theorem serve_create_goesOn {type : String} {payload : Option Value}
    {next : Except Failure MachineId → Program σ Verdict}
    (h : (w.serve sys rest (.machine place id) p c (.create type payload) next).LeadsTo w') :
    GoesOn rest (.machine place id) stack p c w' := by
  simp only [serve] at h
  split at h
  · rename_i created grown hcreate
    exact goesOn_ok (hbears.create hcreate) h
  · rename_i f hcreate
    exact goesOn_refused (bare_of_create hcreate) hbears h

/-- An event cannot be sent to a monitor, or there is none. -/
theorem serve_notify_goesOn {type : String} {e : Event}
    {next : Except Failure Unit → Program σ Verdict}
    (hframes : w.frames
      = .acting (.machine place id) p c (.running (.request (.notify type e) next)) :: rest)
    (hnone : w.underway? = none)
    (h : (w.serve sys rest (.machine place id) p c (.notify type e) next).LeadsTo w') :
    GoesOn rest (.machine place id) stack p c w' := by
  simp only [serve, notify] at h
  simp only [underway?, hframes] at hnone
  split at h
  · rename_i violation hsendable
    obtain rfl := Move.leadsTo_step.mp h
    have hlater := c.later_record (Failure.bare_of_violation violation)
    exact ⟨_, _, rfl, hlater, hbears.congr rfl rfl⟩
  · rename_i hsendable
    have hunregistered : w.registered? type = none := by simpa [hsendable] using hnone
    have hsame : registered? { w with
        frames := .acting (.machine place id) p c (.notifying next) :: rest } type = none :=
      hunregistered
    simp only [hsame] at h
    obtain rfl := Move.leadsTo_step.mp h
    exact ⟨_, _, rfl, .refl c, hbears.congr rfl rfl⟩

theorem serve_receive_goesOn {types : List EventType}
    {next : Except Failure Event → Program σ Verdict}
    (h : (w.serve sys rest (.machine place id) p c (.receive types) next).LeadsTo w') :
    GoesOn rest (.machine place id) stack p c w' := by
  simp only [serve] at h
  split at h
  · exact absurd h Move.not_leadsTo_idle
  · rename_i m hm
    split at h
    · rename_i e left _
      have hset : (w.setMachine place { m with mailbox := left }).Bears
          (.machine place id) stack := hbears.setMachine hm rfl rfl
      exact goesOn_ok hset h
    · obtain rfl := Move.leadsTo_step.mp h
      have hset : (w.setMachine place { m with waiting := some types }).Bears
          (.machine place id) stack := hbears.setMachine hm rfl rfl
      exact ⟨_, _, rfl, .refl c, hset.congr rfl rfl⟩

end Machines

/-- A request is answered, unless it takes a monitor to do so. -/
theorem serve_goesOn {r : Request} {next : r.Reply → Program σ Verdict}
    (hframes : w.frames = .acting actor p c (.running (.request r next)) :: rest)
    (hnone : w.underway? = none) (hbears : w.Bears actor stack)
    (h : (w.serve sys rest actor p c r next).LeadsTo w') : GoesOn rest actor stack p c w' := by
  by_cases hinward : r.isInward actor = true
  · exact serve_inward_goesOn hinward hbears h
  · cases r with
    | remark remark =>
      have hwritten : (w.write (.remarked actor.owner remark)).Bears actor stack :=
        hbears.congr rfl rfl
      exact goesOn_goOn (.refl c) hwritten h
    | send target e =>
      cases actor with
      | machine => exact serve_send_goesOn hbears h
      | monitor => exact absurd rfl hinward
    | create type payload =>
      cases actor with
      | machine => exact serve_create_goesOn hbears h
      | monitor => exact absurd rfl hinward
    | notify type e =>
      cases actor with
      | machine => exact serve_notify_goesOn hbears hframes hnone h
      | monitor => exact absurd rfl hinward
    | receive types =>
      cases actor with
      | machine => exact serve_receive_goesOn hbears h
      | monitor => exact absurd rfl hinward
    | raise | goto | push | pop | id | choose | assert => exact absurd rfl hinward

/-- A turn begins above all that is in progress, and leaves the stacks alone. -/
def Interrupts (w w' : World σ) : Prop :=
  (∃ other, w'.frames = .ready other :: w.frames) ∧
    ∀ actor stack, w.Bears actor stack → w'.Bears actor stack

theorem interrupts_beginTurn {index : Nat} (config : Config) (hindex : index < w.pending.length) :
    Interrupts w ((w.markBound config).beginTurn index) := by
  have hpending : (w.markBound config).pending[index]? = some w.pending[index] := by
    rw [markBound_pending, List.getElem?_eq_getElem hindex]
  constructor
  · refine ⟨w.pending[index], ?_⟩
    simp only [beginTurn, beginRun, hpending, markBound_frames]
  · intro actor stack hbears
    have hmarked : (w.markBound config).Bears actor stack :=
      hbears.congr (markBound_machines w config) (markBound_monitors w config)
    simp only [beginTurn, beginRun, hpending]
    exact hmarked.congr rfl rfl

/-- A receive that is blocked is answered, or lets another run go first. -/
theorem await_goesOn {id : MachineId} {types : List EventType}
    {next : Except Failure Event → Program σ Verdict} {m : Machine σ}
    (hserial : sys.config.serial = true) (hm : w.machineAt? place = some m)
    (hbears : w.Bears (.machine place id) stack)
    (h : (w.await sys rest (.machine place id) p c types next place m).LeadsTo w') :
    GoesOn rest (.machine place id) stack p c w' ∨ Interrupts w w' := by
  have hmarked : (w.markBound sys.config).Bears (.machine place id) stack :=
    hbears.congr (markBound_machines w sys.config) (markBound_monitors w sys.config)
  have hm' : (w.markBound sys.config).machineAt? place = some m :=
    (machineAt?_congr (markBound_machines w sys.config) place).trans hm
  have hgivesUp {given : World σ} {f : Failure} (hbare : f.Bare)
      (hgiven : given.Bears (.machine place id) stack) (hm : given.machineAt? place = some m)
      (h : (given.giveUp rest (.machine place id) p c next place m f).LeadsTo w') :
      GoesOn rest (.machine place id) stack p c w' := by
    have hset : (given.setMachine place { m with waiting := none }).Bears
        (.machine place id) stack := hgiven.setMachine hm rfl rfl
    exact goesOn_refused hbare hset h
  unfold await at h
  split at h
  · have hset : (w.setMachine place { m with received := none }).Bears
        (.machine place id) stack := hbears.setMachine hm rfl rfl
    exact .inl (goesOn_ok hset h)
  · simp only [hserial, Bool.not_true, Bool.false_eq_true, if_false] at h
    split at h
    · exact .inl (hgivesUp ⟨rfl, rfl⟩ hbears hm h)
    · split at h
      · exact .inl (hgivesUp ⟨rfl, rfl⟩ hmarked hm' h)
      · split at h
        · exact .inl (hgivesUp ⟨rfl, rfl⟩ hmarked hm' h)
        · obtain ⟨index, hindex, rfl⟩ := schedulePending_leadsTo h
          exact .inr (interrupts_beginTurn sys.config (by simpa using hindex))

/-! ## Dispatches -/

/-- What becomes of the frames beneath when the dispatch of an actor is carried on. -/
inductive Continues (w : World σ) (actor : Actor) (progress : Progress) (w' : World σ) : Prop
  /-- It waits for an action, which has a frame of its own. -/
  | enters {p : Paused} {stage : Stage σ}
      (hframes : w'.frames = .acting actor p {} stage :: w.frames)
      (hbears : w'.Bears actor progress.stack)
  /-- It is over, and nobody has waited for it. -/
  | ends (hframes : w'.frames = w.frames)
  /-- It was for a monitor, and the action that has waited for it goes on. -/
  | answers {type : String} {a : Actor} {p : Paused} {c : Context}
      {next : Except Failure Unit → Program σ Verdict} {rest : List (Frame σ)}
      {program : Program σ Verdict} (hactor : actor = .monitor type)
      (hbelow : w.frames = .acting a p c (.notifying next) :: rest)
      (hframes : w'.frames = .acting a p c (.running program) :: rest)
  /-- It was for a monitor, and its failure is that of a request. -/
  | fails {type : String} {cell : Cell σ} {g : Failure} {a : Actor} {p : Paused} {c : Context}
      {next : Except Failure Unit → Program σ Verdict} {rest : List (Frame σ)}
      {program : Program σ Verdict} (hactor : actor = .monitor type)
      (hcell : w.cell? actor = some cell)
      (hresult : progress.result? cell.blueprint = some (.error g))
      (hbelow : w.frames = .acting a p c (.notifying next) :: rest)
      (hframes : w'.frames
        = .acting a p (c.record (g.inMachine type)) (.running program) :: rest)

/-- The action that has waited for a monitor goes on, if there is one. -/
theorem giveBack_frames {result : Except Failure Unit} (h : (w.giveBack result).LeadsTo w') :
    w'.frames = w.frames ∨ ∃ a p c next rest,
      w.frames = .acting a p c (.notifying next) :: rest ∧
        w'.frames = .acting a p (c.note result) (.running (next result)) :: rest := by
  unfold giveBack at h
  split at h
  · rename_i a p c next rest hframes
    obtain rfl := Move.leadsTo_step.mp h
    exact .inr ⟨a, p, c, next, rest, hframes, rfl⟩
  · obtain rfl := Move.leadsTo_returned.mp h
    exact .inl rfl

theorem Carried.continues {progress : Progress} (h : Carried w actor progress w')
    (hself : w.Identifies actor) : Continues w actor progress w' := by
  cases h with
  | @acting actor cell progress p action hcell =>
    have hstack : (w.setCell actor { cell with stack := progress.stack }).Bears actor
        progress.stack := hself.bears_setCell hcell
    exact .enters (congrArg _ (setCell_frames w actor _)) (hstack.congr rfl rfl)
  | yielded | halted => exact .ends rfl
  | aborted =>
    refine .ends ?_
    unfold abort
    dsimp only
    split <;> rfl
  | @judged type m progress result _ hm hresult hback =>
    unfold concludeMonitor at hback
    cases result with
    | ok status =>
      rcases giveBack_frames hback with hsame | ⟨a, p, c, next, rest, hbelow, hframes⟩
      · exact .ends hsame
      · exact .answers rfl hbelow hframes
    | error g =>
      have htype : m.type = type := type_of_monitor? hm
      dsimp only at hback
      have hframes : (if m.registered = true then
          w.setMonitor { m with cell := { m.cell with stack := progress.stack } }
        else (w.setMonitor { m with cell := { m.cell with stack := progress.stack } }).removeMonitor
          m.type).frames = w.frames := by
        split <;> rfl
      rcases giveBack_frames hback with hsame | ⟨a, p, c, next, rest, hbelow, hgiven⟩
      · exact .ends (hsame.trans hframes)
      · rw [htype] at hgiven
        exact .fails rfl (cell?_monitor hm) hresult (hframes.symm.trans hbelow) hgiven

end World

end PushdownActors
