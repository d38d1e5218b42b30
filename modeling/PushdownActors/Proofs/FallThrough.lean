-- SUMMARY: What an event does to the frames that it falls through: all of them are left, also for a frame that ignores or defers it.
import PushdownActors.Proofs.Bracket
import PushdownActors.Proofs.Mailbox

/-!
# Falling through

Under the stack discipline an event looks for a frame that does something with it, from
the top down. Each frame on the way is left at once: its exit action runs, and it is
removed. What the frames beneath say about the event is not known yet.

So an event may be dropped or kept waiting without a trace only on behalf of the state on
top. If a frame further down ignores the event, those above it are gone by then, and their
exit actions have seen the event. If a frame further down defers it, the event is no
longer in the mailbox, from which the state on top has picked it, and the frame is left
like any other.
-/

namespace PushdownActors

/-! ## Frames that an event passes -/

namespace Automaton

/-- The state does not mention events of the type. -/
def Silent (a : Automaton) (t : EventType) (id : StateId) : Prop :=
  ∃ s, a.state? id = some s ∧ s.reaction? t = none

def Ignores (a : Automaton) (t : EventType) (id : StateId) : Prop :=
  ∃ s, a.state? id = some s ∧ s.ignores t = true

def Defers (a : Automaton) (t : EventType) (id : StateId) : Prop :=
  ∃ s, a.state? id = some s ∧ s.defers t = true

/-- The state neither handles nor ignores events of the type. -/
def Passes (a : Automaton) (t : EventType) (id : StateId) : Prop :=
  ∃ s, a.state? id = some s ∧ s.handles t = false ∧ s.ignores t = false

section Passes

variable {a : Automaton} {t : EventType} {id : StateId}

theorem Silent.passes (h : a.Silent t id) : a.Passes t id := by
  obtain ⟨s, hs, hsilent⟩ := h
  exact ⟨s, hs, by simp [State.handles, hsilent], by simp [State.ignores, hsilent]⟩

theorem Defers.passes (h : a.Defers t id) : a.Passes t id := by
  obtain ⟨s, hs, hdefers⟩ := h
  have hreaction : s.reaction? t = some .defer := by simpa [State.defers] using hdefers
  exact ⟨s, hs, by simp [State.handles, hreaction, Reaction.handles],
    by simp [State.ignores, hreaction]⟩

end Passes

/-- The exit actions of `frames`, from the top down, as they run for an event that falls
through. -/
def exits (a : Automaton) (event : Event) (frames : List StateId) : List Invocation :=
  frames.filterMap fun id =>
    ((a.state? id).bind State.exit).map fun action => ⟨action, .exit, id, event⟩

section Exits

variable {a : Automaton} {event : Event} {id : StateId} {frames more : List StateId} {s : State}

@[simp] theorem exits_nil : a.exits event [] = [] := rfl

@[simp] theorem exits_append :
    a.exits event (frames ++ more) = a.exits event frames ++ a.exits event more :=
  List.filterMap_append

theorem exits_cons_of_none (hs : a.state? id = some s) (hexit : s.exit = none) :
    a.exits event (id :: frames) = a.exits event frames := by
  simp [exits, hs, hexit]

theorem exits_cons_of_some (hs : a.state? id = some s) {action : String}
    (hexit : s.exit = some action) :
    a.exits event (id :: frames) = ⟨action, .exit, id, event⟩ :: a.exits event frames := by
  simp [exits, hs, hexit]

end Exits

end Automaton

namespace Engine

/-! ## Leaving frames one after the other -/

section Runs

variable {en : Engine} {invoke : ι → Invocation → Except Failure Transition × ι}

@[simp] theorem run_finished {fuel : Nat} {i : ι} {stack : Stack} {status : Status} :
    en.run invoke fuel i ⟨stack, .finished status⟩ = some (stack, .ok status, i) := by
  cases fuel <;> rfl

@[simp] theorem run_failed {fuel : Nat} {i : ι} {stack : Stack} {f : Failure} :
    en.run invoke fuel i ⟨stack, .failed f⟩ = some (stack, .error f, i) := by
  cases fuel <;> rfl

/-- An exit action has to answer, and must not ask for anything. -/
theorem answer_of_ne_apply {stack : Stack} {p : Paused} (hresume : p.resume ≠ .apply)
    (reply : Except Failure Transition) :
    reply = .ok .stay ∧ en.answer stack p reply = en.proceed stack p.invocation.event p.resume ∨
      ∃ f, en.answer stack p reply = ⟨stack, .failed f⟩ := by
  unfold answer
  split
  · exact .inr ⟨_, rfl⟩
  · split
    · contradiction
    · split
      · exact .inl ⟨rfl, rfl⟩
      · exact .inr ⟨_, rfl⟩

/-- A run that has come to its end is the same with more fuel. -/
theorem run_add {fuel : Nat} {i : ι} {progress : Progress}
    {result : Stack × Except Failure Status × ι} (h : en.run invoke fuel i progress = some result)
    (more : Nat) : en.run invoke (fuel + more) i progress = some result := by
  fun_induction run en invoke fuel i progress with
  | case1 =>
    rw [run_finished]
    exact h
  | case2 =>
    rw [run_failed]
    exact h
  | case3 => contradiction
  | case4 i fuel stack p reply next hreply ih =>
    rw [Nat.succ_add, run, hreply]
    exact ih h

variable {event : Event} {log : List Invocation} {above rest : List StateId}

/-- A dispatch that leaves `frames` ends among them: the exit action of one of them
fails, or asks for a transition, and the frame stays on top. -/
inductive CutShort (en : Engine) (event : Event) (log : List Invocation) (rest : List StateId) :
    List StateId → Stack × Except Failure Status × ι × List Invocation → Prop
  | at (passed : List StateId) {later : List StateId} {id : StateId} {f : Failure} {i : ι} :
      CutShort en event log rest (passed ++ id :: later)
        (⟨id :: (later ++ rest)⟩, .error f, (i, log ++ en.automaton.exits event (passed ++ [id])))

/-- The frames that are left are those of a longer list. -/
theorem CutShort.cons {id : StateId} {done : List Invocation} {frames : List StateId}
    {result : Stack × Except Failure Status × ι × List Invocation}
    (hid : en.automaton.exits event [id] = done)
    (h : CutShort en event (log ++ done) rest frames result) :
    CutShort en event log rest (id :: frames) result := by
  cases h with
  | @«at» passed later last f i =>
    have hexits : log ++ done ++ en.automaton.exits event (passed ++ [last])
        = log ++ en.automaton.exits event (id :: passed ++ [last]) := by
      rw [← hid, List.append_assoc, ← Automaton.exits_append, List.singleton_append,
        List.cons_append]
    rw [hexits]
    exact .at (id :: passed)

/-- An event leaves a frame that neither handles nor ignores it; with a single state there
is nowhere else to look. -/
theorem fallThrough_of_passes {id : StateId} {s : State} (hs : en.automaton.state? id = some s)
    (hhandles : s.handles event.type = false) (hignores : s.ignores event.type = false) :
    en.fallThrough event (id :: rest) =
      match en.discipline with
      | .single => Progress.violate ⟨id :: rest⟩ (.monitorUnhandledEvent event.type id)
      | .stack =>
        match s.exit with
        | some action => Progress.pause ⟨id :: rest⟩ action .exit id event .fall
        | none => en.fallThrough event rest := by
  rw [fallThrough]
  simp only [hs]
  cases hreaction : s.reaction? event.type with
  | none => rfl
  | some r =>
    cases r with
    | defer => rfl
    | ignore => simp [State.ignores, hreaction] at hignores
    | goto | push | act => simp [State.handles, hreaction, Reaction.handles] at hhandles

theorem fallThrough_of_ignores {id : StateId} (h : en.automaton.Ignores event.type id) :
    en.fallThrough event (id :: rest) = Progress.finish ⟨id :: rest⟩ .running := by
  obtain ⟨s, hs, hignores⟩ := h
  have hreaction : s.reaction? event.type = some .ignore := by simpa [State.ignores] using hignores
  simp [fallThrough, hs, hreaction]

/-- All frames that neither handle nor ignore an event are left, and its dispatch goes on
beneath them, unless it ends among them. -/
theorem run_fallThrough (hdiscipline : en.discipline = .stack)
    (habove : ∀ id ∈ above, en.automaton.Passes event.type id) (fuel : Nat) (i : ι)
    (log : List Invocation) (rest : List StateId) :
    (∃ i', en.run (logged invoke) (fuel + (en.automaton.exits event above).length) (i, log)
        (en.fallThrough event (above ++ rest))
      = en.run (logged invoke) fuel (i', log ++ en.automaton.exits event above)
        (en.fallThrough event rest)) ∨
    ∃ result, CutShort en event log rest above result ∧
      en.run (logged invoke) (fuel + (en.automaton.exits event above).length) (i, log)
        (en.fallThrough event (above ++ rest)) = some result := by
  induction above generalizing i log with
  | nil =>
    left
    exact ⟨i, by simp⟩
  | cons id above ih =>
    obtain ⟨⟨s, hs, hhandles, hignores⟩, habove⟩ := List.forall_mem_cons.mp habove
    rw [List.cons_append, fallThrough_of_passes hs hhandles hignores, hdiscipline]
    cases hexit : s.exit with
    | none =>
      have hquiet : en.automaton.exits event [id] = [] := Automaton.exits_cons_of_none hs hexit
      rw [Automaton.exits_cons_of_none hs hexit]
      rcases ih habove i log with hgone | ⟨result, hcut, hrun⟩
      · left
        exact hgone
      · right
        refine ⟨result, ?_, hrun⟩
        apply CutShort.cons hquiet
        rw [List.append_nil]
        exact hcut
    | some action =>
      let x : Invocation := ⟨action, .exit, id, event⟩
      have hexits : en.automaton.exits event [id] = [x] := Automaton.exits_cons_of_some hs hexit
      rw [Automaton.exits_cons_of_some hs hexit, List.length_cons, ← Nat.add_assoc,
        List.append_cons]
      simp only [Progress.pause, run, logged]
      -- Only an action that answers, and asks for nothing, lets the dispatch go on.
      rcases answer_of_ne_apply (p := ⟨x, .fall⟩) nofun (invoke i x).1
        with ⟨_, hanswer⟩ | ⟨f, hanswer⟩
      · rw [hanswer]
        rcases ih habove (invoke i x).2 (log ++ [x]) with hgone | ⟨result, hcut, hrun⟩
        · left
          exact hgone
        · right
          exact ⟨result, hcut.cons hexits, hrun⟩
      · right
        refine ⟨_, .at [] (f := f) (i := (invoke i x).2), ?_⟩
        rw [hanswer, run_failed, List.nil_append, hexits]

/-- However a run through such frames ends, it ends among them or beneath them. -/
theorem cutShort_or_run (hdiscipline : en.discipline = .stack)
    (habove : ∀ id ∈ above, en.automaton.Passes event.type id) {fuel : Nat} {i : ι}
    {result : Stack × Except Failure Status × ι × List Invocation}
    (hrun : en.run (logged invoke) fuel (i, log) (en.fallThrough event (above ++ rest))
      = some result) :
    CutShort en event log rest above result ∨
      ∃ i', en.run (logged invoke) fuel (i', log ++ en.automaton.exits event above)
        (en.fallThrough event rest) = some result := by
  have hmore := run_add hrun (en.automaton.exits event above).length
  rcases run_fallThrough hdiscipline habove fuel i log rest
    with ⟨i', hgone⟩ | ⟨result', hcut, hend⟩
  · right
    exact ⟨i', hgone.symm.trans hmore⟩
  · left
    rw [hmore] at hend
    rw [Option.some.inj hend]
    exact hcut

end Runs

/-! ## Runs that are still under way -/

/-- How far a dispatch comes with at most `fuel` actions. If these do not suffice, it waits
for the next one. -/
def advance (en : Engine) (invoke : ι → Invocation → Except Failure Transition × ι) :
    Nat → ι → Progress → Progress × ι
  | fuel + 1, i, ⟨stack, .paused p⟩ =>
    let (reply, i) := invoke i p.invocation
    advance en invoke fuel i (en.answer stack p reply)
  | _, i, progress => (progress, i)

/-- A run is a dispatch that comes to its end. -/
theorem run_eq_advance {en : Engine} {invoke : ι → Invocation → Except Failure Transition × ι}
    (fuel : Nat) (i : ι) (progress : Progress) :
    en.run invoke fuel i progress =
      match en.advance invoke fuel i progress with
      | (⟨stack, .finished status⟩, i) => some (stack, .ok status, i)
      | (⟨stack, .failed failure⟩, i) => some (stack, .error failure, i)
      | (⟨_, .paused _⟩, _) => none := by
  induction fuel generalizing i progress with
  | zero => rcases progress with ⟨stack, p | status | failure⟩ <;> rfl
  | succ fuel ih =>
    rcases progress with ⟨stack, p | status | failure⟩
    · simp only [run, advance, ih]
    · rfl
    · rfl

end Engine

/-! ## What the search for the next event knows -/

section Select

variable {s : State} {mailbox left : List Event} {e : Event}

/-- What is selected is not deferred by the state that selects it. -/
theorem State.not_defers_of_select (h : s.select mailbox = (some e, left)) :
    s.defers e.type = false := by
  unfold select at h
  split at h
  · rename_i taken kept htake
    cases h
    exact not_defers_of_take (congrArg Prod.fst htake)
  · split at h
    · rename_i hdefault
      cases h
      show s.defers .default = false
      cases hdefers : s.defers .default with
      | false => rfl
      | true =>
        have hreaction : s.reaction? .default = some .defer := by simpa [defers] using hdefers
        simp [handlesDefault, handles, hreaction, Reaction.handles] at hdefault
    · cases h

/-- What is selected by a state that does not mention it is gone from the mailbox. -/
theorem State.ofType_of_select (h : s.select mailbox = (some e, left))
    (hsilent : s.reaction? e.type = none) :
    ofType e.type mailbox = e :: ofType e.type left := by
  unfold select at h
  split at h
  · rename_i taken kept htake
    cases h
    have hskipped : ofType e.type (s.skipped mailbox) = [] := by
      apply ofType_eq_nil
      intro dropped hdropped htype
      have hignores := ignores_of_mem_skipped hdropped
      simp [ignores, htype, hsilent] at hignores
    have hmailbox := @State.ofType_take s mailbox e.type
    rw [htake] at hmailbox
    simp only [ofType_append, hskipped, List.nil_append, Option.toList_some] at hmailbox
    rw [hmailbox, ofType_cons_self rfl]
    rfl
  · split at h
    · rename_i hdefault
      cases h
      have hnone : s.reaction? .default = none := hsilent
      simp [handlesDefault, handles, hnone] at hdefault
    · cases h

end Select

/-! ## A loft

A ladder leads from the ground to a loft, where nothing is said about events that the
ground ignores or defers. -/

namespace Loft

def ground : StateSpec :=
  ((({ name := "Ground" } : StateSpec).asStart.onPush "Climb" "Loft").ignoring "Noise").deferring
    "Later"

def loft : StateSpec := ({ name := "Loft" } : StateSpec).withExit "leave"

def declaration : Declaration := (({} : Declaration).state ground).state loft

def automaton : Automaton where
  name := "House"
  kind := .machine
  states :=
    [{ id := ⟨"Ground"⟩, entry := none, exit := none,
       reactions := [(⟨"Climb"⟩, .push ⟨"Loft"⟩), (⟨"Noise"⟩, .ignore), (⟨"Later"⟩, .defer)],
       hot := false, cold := false },
     { id := ⟨"Loft"⟩, entry := none, exit := some "leave", reactions := [],
       hot := false, cold := false }]
  start := ⟨"Ground"⟩
  declaration := declaration

def engine : Engine := ⟨automaton, .stack⟩

/-- No action asks for anything. -/
def obey (_ : Unit) (_ : Invocation) : Except Failure Transition × Unit := (.ok .stay, ())

def noise : Event := .message ⟨"Noise"⟩ none

def later : Event := .message ⟨"Later"⟩ none

theorem built : Automaton.build "House" .machine declaration = .ok engine.automaton := rfl

theorem loft_silent {t : EventType} : ∀ upper ∈ [(⟨"Loft"⟩ : StateId)],
    engine.automaton.Silent t upper := by
  intro upper hupper
  obtain rfl := List.mem_singleton.mp hupper
  exact ⟨_, rfl, rfl⟩

theorem ground_ignores : engine.automaton.Ignores noise.type ⟨"Ground"⟩ := ⟨_, rfl, rfl⟩

theorem ground_defers : engine.automaton.Defers later.type ⟨"Ground"⟩ := ⟨_, rfl, rfl⟩

/-- Up to the loft: no action runs. -/
theorem served : engine.Served obey ⟨[⟨"Loft"⟩, ⟨"Ground"⟩]⟩ () [] := by
  have hstart : engine.run (Engine.logged obey) 0 ((), [])
      (engine.start .empty (.message ⟨"$Start"⟩ none))
    = some (⟨[⟨"Ground"⟩]⟩, .ok .running, ((), [])) := rfl
  have hclimb : engine.run (Engine.logged obey) 0 ((), [])
      (engine.handle ⟨[⟨"Ground"⟩]⟩ (.message ⟨"Climb"⟩ none))
    = some (⟨[⟨"Loft"⟩, ⟨"Ground"⟩]⟩, .ok .running, ((), [])) := rfl
  exact (Engine.Served.start hstart).handle hclimb

end Loft

/-! ## Results -/

namespace Engine

section Results

variable {en : Engine} {type : String} {kind : Kind} {d : Declaration} {stack : Stack}
  {event : Event} {above below : List StateId} {id : StateId}

/-- Only an event that users may send is mentioned, so it is not an instruction to move. -/
theorem deliver_eq_fallThrough (hclosed : en.automaton.Closed) {s : State} {r : Reaction}
    (hs : en.automaton.state? id = some s) (hr : s.reaction? event.type = some r) :
    en.deliver stack event = en.fallThrough event stack.frames := by
  cases event with
  | message => rfl
  | goto target =>
    have husable : EventType.gotoState.isUsable = true := hclosed.usable_of_reaction? hs hr
    contradiction

/-- Where the topmost frame that handles or ignores an event ignores it, the event is
dropped, unless an exit action fails on the way. The frames above are gone by then, and
their exit actions, and no other action, have run with the event: it goes without a trace
exactly if the frame is on top, as the only one of a single state always is. -/
theorem deliver_ignored (hbuild : Automaton.build type kind d = .ok en.automaton)
    (hframes : stack.frames = above ++ id :: below)
    (habove : ∀ upper ∈ above, en.automaton.Passes event.type upper)
    (hignores : en.automaton.Ignores event.type id)
    (invoke : ι → Invocation → Except Failure Transition × ι) (i : ι) (log : List Invocation) :
    (∃ fuel result, en.run (logged invoke) fuel (i, log) (en.deliver stack event) = some result) ∧
      ∀ fuel stack' status i' log',
        en.run (logged invoke) fuel (i, log) (en.deliver stack event)
            = some (stack', .ok status, (i', log')) →
          status = .running ∧ stack' = ⟨id :: below⟩ ∧
            log' = log ++ en.automaton.exits event above ∧ (stack' = stack ↔ above = []) ∧
            (en.discipline = .single → above = []) := by
  have ⟨s, hs, hignored⟩ := hignores
  have hreaction : s.reaction? event.type = some .ignore := by simpa [State.ignores] using hignored
  have hdropped (fuel : Nat) (i : ι) (log : List Invocation) :
      en.run (logged invoke) fuel (i, log) (en.fallThrough event (id :: below))
        = some (⟨id :: below⟩, .ok .running, (i, log)) := by
    rw [fallThrough_of_ignores hignores]
    exact run_finished
  rw [deliver_eq_fallThrough (Automaton.closed_of_build hbuild) hs hreaction, hframes]
  obtain ⟨frames⟩ := stack
  obtain rfl : frames = above ++ id :: below := hframes
  cases hdiscipline : en.discipline with
  | stack =>
    constructor
    · rcases run_fallThrough hdiscipline habove 0 i log (id :: below)
        with ⟨i', hgone⟩ | ⟨result, _, hrun⟩
      · exact ⟨_, _, hgone.trans (hdropped ..)⟩
      · exact ⟨_, _, hrun⟩
    · intro fuel stack' status i' log' hrun
      rcases cutShort_or_run hdiscipline habove hrun with hcut | ⟨i'', hgone⟩
      · cases hcut
      · rw [hdropped] at hgone
        cases hgone
        refine ⟨rfl, rfl, rfl, ?_, nofun⟩
        simp
  | single =>
    cases above with
    | nil =>
      constructor
      · exact ⟨0, _, hdropped 0 i log⟩
      · intro fuel stack' status i' log' hrun
        cases hrun.symm.trans (hdropped fuel i log)
        simp
    | cons top above =>
      obtain ⟨s, hs, hhandles, hignores⟩ := (List.forall_mem_cons.mp habove).1
      have hrefused : en.fallThrough event (top :: above ++ id :: below)
          = Progress.violate ⟨top :: above ++ id :: below⟩
            (.monitorUnhandledEvent event.type top) := by
        rw [List.cons_append, fallThrough_of_passes hs hhandles hignores, hdiscipline]
      rw [hrefused]
      constructor
      · exact ⟨0, _, run_failed⟩
      · intro fuel stack' status i' log' hrun
        cases hrun.symm.trans run_failed

theorem deliver_ignored_loft :
    Automaton.build "House" .machine Loft.declaration = .ok Loft.engine.automaton ∧
      (∀ upper ∈ [(⟨"Loft"⟩ : StateId)], Loft.engine.automaton.Passes Loft.noise.type upper) ∧
      Loft.engine.automaton.Ignores Loft.noise.type ⟨"Ground"⟩ ∧
      (∃ fuel result, Loft.engine.run (logged Loft.obey) fuel ((), [])
        (Loft.engine.deliver ⟨[⟨"Loft"⟩, ⟨"Ground"⟩]⟩ Loft.noise) = some result) ∧
      [⟨"leave", .exit, ⟨"Loft"⟩, Loft.noise⟩]
        = [] ++ Loft.engine.automaton.exits Loft.noise [⟨"Loft"⟩] := by
  have hpasses : ∀ upper ∈ [(⟨"Loft"⟩ : StateId)],
      Loft.engine.automaton.Passes Loft.noise.type upper :=
    fun upper hupper => (Loft.loft_silent upper hupper).passes
  have hframes : (⟨[⟨"Loft"⟩, ⟨"Ground"⟩]⟩ : Stack).frames = [⟨"Loft"⟩] ++ ⟨"Ground"⟩ :: [] := rfl
  have hdropped := deliver_ignored Loft.built hframes hpasses Loft.ground_ignores Loft.obey () []
  exact ⟨Loft.built, hpasses, Loft.ground_ignores, hdropped.1, (hdropped.2 1 _ _ _ _ rfl).2.2.1⟩

/-- From the loft, an exit action runs with a noise that the ground ignores, and there is
no way back. -/
theorem loft_left_for_noise :
    Loft.engine.Served Loft.obey ⟨[⟨"Loft"⟩, ⟨"Ground"⟩]⟩ () [] ∧
      Loft.engine.automaton.Ignores Loft.noise.type ⟨"Ground"⟩ ∧
      Loft.engine.run (logged Loft.obey) 1 ((), [])
          (Loft.engine.handle ⟨[⟨"Loft"⟩, ⟨"Ground"⟩]⟩ Loft.noise)
        = some (⟨[⟨"Ground"⟩]⟩, .ok .running,
            ((), [⟨"leave", .exit, ⟨"Loft"⟩, Loft.noise⟩])) :=
  ⟨Loft.served, Loft.ground_ignores, rfl⟩

/-- An event that is picked from a mailbox although the topmost frame that mentions it
defers it: such a frame is not on top, and the event is no longer in the mailbox. Its
dispatch leaves the frames above and the frame itself, unless an exit action fails on the
way, and goes on beneath. Where no frame beneath handles or ignores it either, it is
reported as one that cannot be handled, with no frame left. -/
theorem handle_deferred (hbuild : Automaton.build type kind d = .ok en.automaton)
    (hdiscipline : en.discipline = .stack) {mailbox left : List Event}
    (hselect : en.select stack mailbox = .ok (some event, left))
    (hframes : stack.frames = above ++ id :: below)
    (hsilent : ∀ upper ∈ above, en.automaton.Silent event.type upper)
    (hdefers : en.automaton.Defers event.type id)
    (invoke : ι → Invocation → Except Failure Transition × ι) (i : ι) (log : List Invocation) :
    above ≠ [] ∧ ofType event.type mailbox = event :: ofType event.type left ∧
      (∀ fuel result,
        en.run (logged invoke) fuel (i, log) (en.handle stack event) = some result →
          CutShort en event log below (above ++ [id]) result ∨
            ∃ i', en.run (logged invoke) fuel
                (i', log ++ en.automaton.exits event (above ++ [id])) (en.fallThrough event below)
              = some result) ∧
      ((∀ lower ∈ below, en.automaton.Passes event.type lower) → event.isHalt = false →
        ∃ fuel result,
          en.run (logged invoke) fuel (i, log) (en.handle stack event) = some result ∧
            (CutShort en event log [] stack.frames result ∨
              ∃ i', result = (.empty, .error (Violation.unhandledEvent event.type).toFailure,
                (i', log ++ en.automaton.exits event stack.frames)))) := by
  obtain ⟨frames⟩ := stack
  obtain rfl : frames = above ++ id :: below := hframes
  have ⟨s, hs, hdeferred⟩ := hdefers
  have hreaction : s.reaction? event.type = some .defer := by simpa [State.defers] using hdeferred
  have hhandle : en.handle ⟨above ++ id :: below⟩ event
      = en.fallThrough event (above ++ id :: below) :=
    deliver_eq_fallThrough (Automaton.closed_of_build hbuild) hs hreaction
  have hpasses : ∀ upper ∈ above, en.automaton.Passes event.type upper :=
    fun upper hupper => (hsilent upper hupper).passes
  obtain ⟨top, state, htop, hstate, hpick⟩ := select_eq_ok hselect
  have hbeneath : above ≠ [] := by
    rintro rfl
    obtain rfl : id = top := Option.some.inj htop
    cases hs.symm.trans hstate
    rw [State.not_defers_of_select hpick] at hdeferred
    contradiction
  have hall : ∀ frame ∈ above ++ [id], en.automaton.Passes event.type frame :=
    List.forall_mem_append.mpr ⟨hpasses, List.forall_mem_singleton.mpr hdefers.passes⟩
  rw [hhandle, List.append_cons]
  refine ⟨hbeneath, ?_, fun fuel result hrun => cutShort_or_run hdiscipline hall hrun, ?_⟩
  · obtain ⟨first, upper, rfl⟩ := List.exists_cons_of_ne_nil hbeneath
    obtain rfl : first = top := Option.some.inj htop
    obtain ⟨s', hs', hnone⟩ := hsilent first List.mem_cons_self
    cases hs'.symm.trans hstate
    exact State.ofType_of_select hpick hnone
  · intro hbelow hhalt
    have hevery := List.forall_mem_append.mpr ⟨hall, hbelow⟩
    have hend : en.fallThrough event [] = Progress.violate .empty (.unhandledEvent event.type) := by
      simp [fallThrough, hhalt]
    rcases run_fallThrough hdiscipline hevery 0 i log [] with ⟨i', hgone⟩ | ⟨result, hcut, hrun⟩
    · rw [List.append_nil, hend] at hgone
      exact ⟨_, _, hgone.trans run_failed, .inr ⟨i', rfl⟩⟩
    · rw [List.append_nil] at hrun
      exact ⟨_, result, hrun, .inl hcut⟩

theorem handle_deferred_loft :
    Automaton.build "House" .machine Loft.declaration = .ok Loft.engine.automaton ∧
      Loft.engine.select ⟨[⟨"Loft"⟩, ⟨"Ground"⟩]⟩ [Loft.later] = .ok (some Loft.later, []) ∧
      (∀ upper ∈ [(⟨"Loft"⟩ : StateId)],
        Loft.engine.automaton.Silent Loft.later.type upper) ∧
      Loft.engine.automaton.Defers Loft.later.type ⟨"Ground"⟩ ∧
      [(⟨"Loft"⟩ : StateId)] ≠ [] ∧
      ofType Loft.later.type [Loft.later] = Loft.later :: ofType Loft.later.type [] := by
  have hpicked : Loft.engine.select ⟨[⟨"Loft"⟩, ⟨"Ground"⟩]⟩ [Loft.later]
      = .ok (some Loft.later, []) := rfl
  have hframes : (⟨[⟨"Loft"⟩, ⟨"Ground"⟩]⟩ : Stack).frames = [⟨"Loft"⟩] ++ ⟨"Ground"⟩ :: [] := rfl
  have hlost := handle_deferred Loft.built rfl hpicked hframes Loft.loft_silent
    Loft.ground_defers Loft.obey () []
  exact ⟨Loft.built, hpicked, Loft.loft_silent, Loft.ground_defers, hlost.1, hlost.2.1⟩

/-- In the loft, an event that the ground defers is picked, leads through both frames, and
cannot be handled. -/
theorem later_lost :
    Loft.engine.Served Loft.obey ⟨[⟨"Loft"⟩, ⟨"Ground"⟩]⟩ () [] ∧
      Loft.engine.select ⟨[⟨"Loft"⟩, ⟨"Ground"⟩]⟩ [Loft.later] = .ok (some Loft.later, []) ∧
      Loft.engine.automaton.Defers Loft.later.type ⟨"Ground"⟩ ∧
      Loft.engine.run (logged Loft.obey) 1 ((), [])
          (Loft.engine.handle ⟨[⟨"Loft"⟩, ⟨"Ground"⟩]⟩ Loft.later)
        = some (.empty, .error (Violation.unhandledEvent ⟨"Later"⟩).toFailure,
            ((), [⟨"leave", .exit, ⟨"Loft"⟩, Loft.later⟩])) :=
  ⟨Loft.served, rfl, Loft.ground_defers, rfl⟩

end Results

end Engine

end PushdownActors
