-- SUMMARY: Under the single discipline a dispatch keeps exactly one frame, a declared state, wherever it stops.
import PushdownActors.Proofs.Checked
import PushdownActors.Proofs.FallThrough

/-!
# Single states

An engine knows many ways to change the number of frames: a push adds one, a pop and an
event that falls through remove some, and halting removes them all. Under the single
discipline none of them is taken. A push replaces the state, a pop is refused because no
frame would be left, and an event that the state neither handles nor ignores is refused
before anything is done. So from its start on there is one frame, whether a dispatch waits
for an action, has ended or has failed, and no dispatch ends by halting.
-/

namespace PushdownActors

variable {a : Automaton} {en : Engine} {id target : StateId} {event : Event} {stack : Stack}

/-! ## One frame -/

namespace Stack

/-- The stack has one frame, a declared state. -/
def Lone (a : Automaton) (s : Stack) : Prop := ∃ id, s = ⟨[id]⟩ ∧ a.hasState id = true

theorem Lone.of_hasState (h : a.hasState id = true) : Lone a ⟨[id]⟩ := ⟨id, rfl, h⟩

theorem Lone.push_empty (h : a.hasState id = true) : Lone a (Stack.empty.push id) := ⟨id, rfl, h⟩

theorem Lone.replaceTop (h : stack.Lone a) (htarget : a.hasState target = true) :
    (stack.replaceTop target).Lone a := by
  obtain ⟨id, rfl, _⟩ := h
  exact ⟨target, rfl, htarget⟩

/-- The one frame is the current state. -/
theorem Lone.top (h : stack.Lone a) : ∃ id state, stack = ⟨[id]⟩ ∧ stack.top? = some id ∧
    a.state? id = some state := by
  obtain ⟨id, rfl, hid⟩ := h
  obtain ⟨state, hstate⟩ := Option.isSome_iff_exists.mp hid
  exact ⟨id, state, rfl, rfl, hstate⟩

end Stack

/-- What is left to do neither looks beneath the frame nor removes it. -/
def Resume.Lone (a : Automaton) : Resume → Prop
  | .apply => True
  | .replace target _ | .arrive target => a.hasState target = true
  | .fall | .drop => False

/-- A dispatch has one frame, a declared state, and it waits for an action or has come to a
good end, without halting. -/
inductive Progress.Steady (a : Automaton) : Progress → Prop
  | paused {stack : Stack} {p : Paused} (hstack : stack.Lone a) (hresume : p.resume.Lone a) :
      Steady a ⟨stack, .paused p⟩
  | finished {stack : Stack} (hstack : stack.Lone a) : Steady a ⟨stack, .finished .running⟩

/-- A dispatch has one frame, a declared state, and has not halted. -/
inductive Progress.Lone (a : Automaton) : Progress → Prop
  | paused {stack : Stack} {p : Paused} (hstack : stack.Lone a) (hresume : p.resume.Lone a) :
      Lone a ⟨stack, .paused p⟩
  | finished {stack : Stack} (hstack : stack.Lone a) : Lone a ⟨stack, .finished .running⟩
  | failed {stack : Stack} {f : Failure} (hstack : stack.Lone a) : Lone a ⟨stack, .failed f⟩

theorem Progress.Steady.lone {progress : Progress} (h : progress.Steady a) : progress.Lone a := by
  cases h with
  | paused hstack hresume => exact .paused hstack hresume
  | finished hstack => exact .finished hstack

namespace Progress.Lone

variable {progress : Progress}

theorem lone_stack (h : progress.Lone a) : progress.stack.Lone a := by
  cases h with
  | paused hstack _ | finished hstack | failed hstack => exact hstack

theorem not_halted (h : progress.Lone a) : progress.outcome ≠ .finished .halted := by
  cases h with
  | paused _ _ | finished _ | failed _ => exact nofun

end Progress.Lone

/-! ## What dispatches do -/

/-- A state passes an event, ignores it, or handles it by a reaction. -/
theorem Automaton.meets (t : EventType) (hid : a.hasState id = true) :
    a.Passes t id ∨ a.Ignores t id ∨
      ∃ s r, a.state? id = some s ∧ s.reaction? t = some r ∧ r.handles = true := by
  obtain ⟨s, hs⟩ := Option.isSome_iff_exists.mp hid
  cases hr : s.reaction? t with
  | none => exact .inl (Silent.passes ⟨s, hs, hr⟩)
  | some r =>
    cases r with
    | defer => exact .inl (Defers.passes ⟨s, hs, by simp [State.defers, hr]⟩)
    | ignore => exact .inr (.inl ⟨s, hs, by simp [State.ignores, hr]⟩)
    | goto | push | act => exact .inr (.inr ⟨s, _, hs, hr, rfl⟩)

namespace Engine

theorem steady_enter (hstack : stack.Lone en.automaton) :
    (en.enter stack event).Steady en.automaton := by
  obtain ⟨top, state, _, htop, hstate⟩ := hstack.top
  simp only [enter, htop, hstate]
  split
  · exact .paused hstack trivial
  · exact .finished hstack

theorem steady_arrive (hstack : stack.Lone en.automaton)
    (htarget : en.automaton.hasState target = true) :
    (en.arrive stack target event).Steady en.automaton :=
  steady_enter (hstack.replaceTop htarget)

theorem steady_replace (hstack : stack.Lone en.automaton)
    (htarget : en.automaton.hasState target = true) (action : Option String) :
    (en.replace stack target action event).Steady en.automaton := by
  obtain ⟨top, _, _, htop, _⟩ := hstack.top
  simp only [replace, htop]
  split
  · exact steady_arrive hstack htarget
  · exact .paused hstack htarget

theorem steady_leave {resume : Resume} {next : Progress} (hstack : stack.Lone en.automaton)
    (hresume : resume.Lone en.automaton) (hnext : next.Steady en.automaton) :
    (en.leave stack event resume next).Steady en.automaton := by
  obtain ⟨top, state, _, htop, hstate⟩ := hstack.top
  simp only [leave, htop, hstate]
  split
  · exact .paused hstack hresume
  · exact hnext

theorem steady_goto (en : Engine) (hstack : stack.Lone en.automaton)
    (htarget : en.automaton.hasState target = true) (action : Option String) :
    (en.goto stack target action event).Steady en.automaton :=
  steady_leave hstack htarget (steady_replace hstack htarget action)

/-- With a single state a push is a goto. -/
theorem push_single (hsingle : en.discipline = .single)
    (htarget : en.automaton.hasState target = true) :
    en.push stack target event = en.goto stack target none event := by
  obtain ⟨state, hstate⟩ := Option.isSome_iff_exists.mp htarget
  simp only [push, hstate, hsingle]

theorem lone_push (hsingle : en.discipline = .single) (hstack : stack.Lone en.automaton) :
    (en.push stack target event).Lone en.automaton := by
  by_cases htarget : en.automaton.hasState target = true
  · rw [push_single hsingle htarget]
    exact (steady_goto en hstack htarget none).lone
  · have hnone : en.automaton.state? target = none := by
      simpa [Automaton.hasState] using htarget
    simp only [push, hnone]
    exact .failed hstack

theorem lone_react (hclosed : en.automaton.Closed) (hsingle : en.discipline = .single)
    (hstack : stack.Lone en.automaton) {s : State} {t : EventType} {r : Reaction}
    (hs : en.automaton.state? id = some s) (hr : s.reaction? t = some r) :
    (en.react stack id r event).Lone en.automaton := by
  cases r with
  | goto target action =>
    exact (steady_goto en hstack (hclosed.target_of_reaction? hs hr rfl) action).lone
  | push target => exact lone_push hsingle hstack
  | act action => exact .paused hstack trivial
  | ignore | defer => exact .finished hstack

/-- An event that the state neither handles nor ignores is refused before anything is
done. -/
theorem fallThrough_single (en : Engine) (hsingle : en.discipline = .single)
    (hpasses : en.automaton.Passes event.type id) :
    en.fallThrough event [id]
      = Progress.violate ⟨[id]⟩ (.monitorUnhandledEvent event.type id) := by
  obtain ⟨s, hs, hhandles, hignores⟩ := hpasses
  rw [fallThrough_of_passes hs hhandles hignores, hsingle]

theorem fallThrough_of_handles (en : Engine) {s : State} {r : Reaction} {rest : List StateId}
    (hs : en.automaton.state? id = some s) (hr : s.reaction? event.type = some r)
    (hhandles : r.handles = true) :
    en.fallThrough event (id :: rest) = en.react ⟨id :: rest⟩ id r event := by
  rw [fallThrough]
  simp only [hs, hr]
  cases r with
  | goto | push | act => rfl
  | ignore | defer => contradiction

theorem lone_fallThrough (hclosed : en.automaton.Closed) (hsingle : en.discipline = .single)
    (hid : en.automaton.hasState id = true) : (en.fallThrough event [id]).Lone en.automaton := by
  have hstack : Stack.Lone en.automaton ⟨[id]⟩ := .of_hasState hid
  rcases Automaton.meets event.type hid with hpasses | hignores | ⟨s, r, hs, hr, hhandles⟩
  · rw [fallThrough_single en hsingle hpasses]
    exact .failed hstack
  · rw [fallThrough_of_ignores hignores]
    exact .finished hstack
  · rw [fallThrough_of_handles en hs hr hhandles]
    exact lone_react hclosed hsingle hstack hs hr

theorem lone_deliver (en : Engine) (hclosed : en.automaton.Closed)
    (hsingle : en.discipline = .single) (hstack : stack.Lone en.automaton) :
    (en.deliver stack event).Lone en.automaton := by
  obtain ⟨id, rfl, hid⟩ := hstack
  cases event with
  | message type payload => exact lone_fallThrough hclosed hsingle hid
  | goto target =>
    simp only [deliver, Stack.isEmpty, List.isEmpty_cons, Bool.false_eq_true, if_false]
    split
    · exact .failed (.of_hasState hid)
    · rename_i state hstate
      have htarget : en.automaton.hasState target = true := by simp [Automaton.hasState, hstate]
      exact (steady_goto en (.of_hasState hid) htarget none).lone

theorem lone_apply (hclosed : en.automaton.Closed) (hsingle : en.discipline = .single)
    (hstack : stack.Lone en.automaton) (t : Transition) :
    (en.apply stack event t).Lone en.automaton := by
  cases t with
  | stay => exact .finished hstack
  | raise raised => exact lone_deliver en hclosed hsingle hstack
  | goto target =>
    have hgoto : (en.deliver stack (.goto target)).Lone en.automaton :=
      lone_deliver en hclosed hsingle hstack
    exact hgoto
  | push target => exact lone_push hsingle hstack
  | pop =>
    obtain ⟨id, rfl, hid⟩ := hstack
    exact .failed (.of_hasState hid)

theorem steady_proceed (en : Engine) (hstack : stack.Lone en.automaton) {resume : Resume}
    (hresume : resume.Lone en.automaton) :
    (en.proceed stack event resume).Steady en.automaton := by
  cases resume with
  | apply => exact .finished hstack
  | replace target action => exact steady_replace hstack hresume action
  | arrive target => exact steady_arrive hstack hresume
  | fall | drop => exact hresume.elim

/-- Whatever an action answers, there is one frame afterwards. -/
theorem lone_answer (en : Engine) (hclosed : en.automaton.Closed)
    (hsingle : en.discipline = .single) (hstack : stack.Lone en.automaton) {p : Paused}
    (hresume : p.resume.Lone en.automaton)
    (reply : Except Failure Transition) : (en.answer stack p reply).Lone en.automaton := by
  unfold answer
  split
  · exact .failed hstack
  · split
    · exact lone_apply hclosed hsingle hstack _
    · split
      · exact (steady_proceed en hstack hresume).lone
      · exact .failed hstack

theorem steady_start (en : Engine) (hclosed : en.automaton.Closed) :
    (en.start .empty event).Steady en.automaton := by
  have hstart : en.start .empty event = en.enter (Stack.empty.push en.automaton.start) event := rfl
  rw [hstart]
  exact steady_enter (.push_empty hclosed.start)

/-! ## What is refused -/

/-- An event that the state neither handles nor ignores, be it delivered or raised, fails
with a violation that tells both; nothing else is done. -/
theorem handle_unhandled (en : Engine) (hsingle : en.discipline = .single)
    (hpasses : en.automaton.Passes event.type id) (hmessage : event.target = none) :
    en.handle ⟨[id]⟩ event = Progress.violate ⟨[id]⟩ (.monitorUnhandledEvent event.type id) := by
  cases event with
  | goto target => contradiction
  | message type payload => exact fallThrough_single en hsingle hpasses

/-- So does an action that raises such an event. -/
theorem answer_raise_unhandled (hsingle : en.discipline = .single) {p : Paused} {raised : Event}
    (hresume : p.resume = .apply) (hpasses : en.automaton.Passes raised.type id)
    (hmessage : raised.target = none) :
    en.answer ⟨[id]⟩ p (.ok (.raise raised))
      = Progress.violate ⟨[id]⟩ (.monitorUnhandledEvent raised.type id) := by
  unfold answer
  rw [hresume]
  exact handle_unhandled en hsingle hpasses hmessage

/-- A pop that an action asks for where it may ask for transitions fails, and nothing else
is done. Elsewhere an action may not ask for any transition. -/
theorem answer_pop {p : Paused} :
    en.answer ⟨[id]⟩ p (.ok .pop) = Progress.violate ⟨[id]⟩
      (if p.resume = .apply then .popEmptiesStack
        else p.invocation.site.forbids.getD .transitionInExit) := by
  unfold answer
  cases p.resume <;> rfl

end Engine

end PushdownActors
