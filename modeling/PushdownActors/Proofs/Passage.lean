-- SUMMARY: The passage of a dispatch from pause to pause: the moments that it reaches, and what each of its pauses is for.
import PushdownActors.Proofs.Declared
import PushdownActors.Proofs.FallThrough
import PushdownActors.Proofs.PushesAsGotos

/-!
# The passage of a dispatch

A dispatch goes from one pause to the next, as the actions answer that it waits for. The
moments that it reaches are told apart by what has run until then.

A pause is for one of three things. An entry action or a handler runs, whose answer may
be a transition. A frame is left that neither handles nor ignores an event which has been
delivered. Or the state on top is left for good, because of a departure that has been
undertaken: a goto or a pop. The event that the dispatch is for is delivered first, and
others are delivered as actions ask for it.
-/

namespace PushdownActors

/-! ## Departures -/

/-- The state on top is left for good: for a target, with an action of the transition's
own if it has one, or for the state beneath. -/
inductive Departure where
  | goto (target : StateId) (action : Option String)
  | pop
  deriving DecidableEq

/-- What is left to do once the exit action has answered. -/
def Departure.resume : Departure → Resume
  | goto target action => .replace target action
  | pop => .drop

/-- The event that is delivered right away for the transition. -/
def Transition.event? : Transition → Option Event
  | raise event => some event
  | goto target => some (.goto target)
  | stay | push _ | pop => none

/-- The departure that the transition begins with. With a single state a push is one. -/
def Transition.departure? (discipline : Discipline) : Transition → Option Departure
  | pop => some .pop
  | push target => if discipline = .single then some (.goto target none) else none
  | stay | raise _ | goto _ => none

/-- The departure that the reaction begins with. -/
def Reaction.departure? (discipline : Discipline) : Reaction → Option Departure
  | goto target action => some (.goto target action)
  | push target => if discipline = .single then some (.goto target none) else none
  | act _ | ignore | defer => none

section Exits

variable {a : Automaton} {event : Event} {id : StateId} {frames : List StateId} {x : Invocation}

theorem Automaton.of_mem_exits (h : x ∈ a.exits event frames) :
    ∃ action id, id ∈ frames ∧ x = ⟨action, .exit, id, event⟩ := by
  obtain ⟨id, hid, hfound⟩ := List.mem_filterMap.mp h
  obtain ⟨action, _, rfl⟩ := Option.map_eq_some_iff.mp hfound
  exact ⟨action, id, hid, rfl⟩

theorem Automaton.eq_of_exits (h : a.exits event [id] = [x]) :
    ∃ action, x = ⟨action, .exit, id, event⟩ := by
  have hx : x ∈ a.exits event [id] := by simp [h]
  obtain ⟨action, id', hid, rfl⟩ := of_mem_exits hx
  obtain rfl := List.mem_singleton.mp hid
  exact ⟨action, rfl⟩

end Exits

namespace Engine

/-! ## Moments of a dispatch -/

section Moments

variable (en : Engine) (invoke : ι → Invocation → Except Failure Transition × ι)

/-- The moments that a dispatch reaches, with the actions that have run until then. -/
inductive Reaches (i : ι) (progress : Progress) : List Invocation → ι → Progress → Prop
  | refl : Reaches i progress [] i progress
  | answer {calls : List Invocation} {j : ι} {stack : Stack} {p : Paused}
      (h : Reaches i progress calls j ⟨stack, .paused p⟩) :
      Reaches i progress (calls ++ [p.invocation]) (invoke j p.invocation).2
        (en.answer stack p (invoke j p.invocation).1)

/-- The dispatch comes to its end, and these actions are all that run. -/
def Concludes (i : ι) (progress : Progress) (calls : List Invocation) (stack : Stack)
    (result : Except Failure Status) : Prop :=
  ∃ fuel i', ∀ log, en.run (logged invoke) fuel (i, log) progress
    = some (stack, result, (i', log ++ calls))

variable (i : ι) (stack₀ : Stack) (c : Call)

/-- The events that a call delivers: its own, and those that actions ask for. -/
inductive Delivers : List Invocation → ι → Stack → Event → Prop
  | own {event : Event} (hc : c = .handle event) : Delivers [] i stack₀ event
  | asked {calls : List Invocation} {j : ι} {stack : Stack} {p : Paused} {t : Transition}
      {event : Event} (h : en.Reaches invoke i (en.call stack₀ c) calls j ⟨stack, .paused p⟩)
      (hresume : p.resume = .apply) (hreply : (invoke j p.invocation).1 = .ok t)
      (ht : t.event? = some event) :
      Delivers (calls ++ [p.invocation]) (invoke j p.invocation).2 stack event

/-- The departures that a call undertakes, each from the stack as it then is: because of a
delivered instruction to move, of the answer of an action, or of the reaction of a frame
that a delivered event has come to. -/
inductive Undertakes : List Invocation → Stack → Event → Departure → Prop
  | told {calls : List Invocation} {j : ι} {stack : Stack} {target : StateId}
      (h : Delivers en invoke i stack₀ c calls j stack (.goto target)) :
      Undertakes calls stack (.goto target) (.goto target none)
  | asked {calls : List Invocation} {j : ι} {stack : Stack} {p : Paused} {t : Transition}
      {d : Departure} (h : en.Reaches invoke i (en.call stack₀ c) calls j ⟨stack, .paused p⟩)
      (hresume : p.resume = .apply) (hreply : (invoke j p.invocation).1 = .ok t)
      (ht : t.departure? en.discipline = some d) :
      Undertakes (calls ++ [p.invocation]) stack p.invocation.event d
  | reacted {calls : List Invocation} {j : ι} {stack : Stack} {event : Event}
      {above below : List StateId} {id : StateId} {s : State} {r : Reaction} {d : Departure}
      (h : Delivers en invoke i stack₀ c calls j stack event) (htarget : event.target = none)
      (hframes : stack.frames = above ++ id :: below)
      (habove : ∀ upper ∈ above, en.automaton.Passes event.type upper)
      (hs : en.automaton.state? id = some s) (hr : s.reaction? event.type = some r)
      (hd : r.departure? en.discipline = some d) :
      Undertakes (calls ++ en.automaton.exits event above) ⟨id :: below⟩ event d

/-- The pauses of a departure, with the actions that it has run before: at the exit action
of the state on top, and then at the action of a goto. -/
inductive Departs (event : Event) : Stack → Departure → List Invocation → Paused → Prop
  | exit {top : StateId} {below : List StateId} {d : Departure} {x : Invocation}
      (hx : en.automaton.exits event [top] = [x]) :
      Departs event ⟨top :: below⟩ d [] ⟨x, d.resume⟩
  | override {top target : StateId} {below : List StateId} {action : String} :
      Departs event ⟨top :: below⟩ (.goto target (some action)) (en.automaton.exits event [top])
        ⟨⟨action, .override, top, event⟩, .arrive target⟩

/-- Where a call stands after the actions that have run. -/
inductive Stands : List Invocation → Progress → Prop
  | asking {calls : List Invocation} {action : String} {site : Site} {top : StateId}
      {below : List StateId} {event : Event} (hsite : site = .entry ∨ site = .handler) :
      Stands calls (.pause ⟨top :: below⟩ action site top event .apply)
  | falling {calls : List Invocation} {j : ι} {stack : Stack} {event : Event}
      {above below : List StateId} {id : StateId} {x : Invocation}
      (h : Delivers en invoke i stack₀ c calls j stack event) (htarget : event.target = none)
      (hframes : stack.frames = above ++ id :: below)
      (hpasses : ∀ frame ∈ above ++ [id], en.automaton.Passes event.type frame)
      (hx : en.automaton.exits event [id] = [x]) :
      Stands (calls ++ en.automaton.exits event above) ⟨⟨id :: below⟩, .paused ⟨x, .fall⟩⟩
  | departing {calls since : List Invocation} {stack : Stack} {event : Event} {d : Departure}
      {p : Paused} (h : Undertakes en invoke i stack₀ c calls stack event d)
      (hdeparts : Departs en event stack d since p) :
      Stands (calls ++ since) ⟨stack, .paused p⟩
  | running {calls : List Invocation} {stack : Stack} : Stands calls (.finish stack .running)
  | halted {calls : List Invocation} {j : ι} {stack : Stack} {event : Event}
      (h : Delivers en invoke i stack₀ c calls j stack event) (hhalt : event.isHalt = true)
      (hpasses : ∀ frame ∈ stack.frames, en.automaton.Passes event.type frame) :
      Stands (calls ++ en.automaton.exits event stack.frames) (.finish .empty .halted)
  | failed {calls : List Invocation} {stack : Stack} {f : Failure} :
      Stands calls ⟨stack, .failed f⟩

end Moments

section Reaches

variable {en : Engine} {invoke : ι → Invocation → Except Failure Transition × ι} {i j : ι}
  {progress : Progress} {calls : List Invocation} {stack : Stack}

theorem Reaches.trans {k : ι} {mid last : Progress} {more : List Invocation}
    (h : en.Reaches invoke i progress calls j mid) (hmore : en.Reaches invoke j mid more k last) :
    en.Reaches invoke i progress (calls ++ more) k last := by
  induction hmore with
  | refl => simpa using h
  | answer _ ih => simpa using ih.answer

/-- What is run from a moment on follows what has run until then. -/
theorem Reaches.run {last : Progress} (h : en.Reaches invoke i progress calls j last)
    (fuel : Nat) (log : List Invocation) :
    en.run (logged invoke) (fuel + calls.length) (i, log) progress
      = en.run (logged invoke) fuel (j, log ++ calls) last := by
  induction h generalizing fuel with
  | refl => simp
  | @answer calls j stack p _ ih =>
    have hbefore := ih (fuel + 1)
    simp only [Engine.run, logged, List.append_assoc] at hbefore
    simpa [Nat.add_assoc, Nat.add_comm 1] using hbefore

theorem Reaches.concludes {status : Status}
    (h : en.Reaches invoke i progress calls j (.finish stack status)) :
    en.Concludes invoke i progress calls stack (.ok status) :=
  ⟨0 + calls.length, j, fun log => (h.run 0 log).trans run_finished⟩

theorem Reaches.concludes_failed {f : Failure}
    (h : en.Reaches invoke i progress calls j ⟨stack, .failed f⟩) :
    en.Concludes invoke i progress calls stack (.error f) :=
  ⟨0 + calls.length, j, fun log => (h.run 0 log).trans run_failed⟩

/-- The end of a run is a moment of its dispatch. -/
theorem reaches_of_run {fuel : Nat} {log log' : List Invocation} {status : Status}
    (h : en.run (logged invoke) fuel (i, log) progress = some (stack, .ok status, (j, log'))) :
    ∃ calls, log' = log ++ calls ∧
      en.Reaches invoke i progress calls j (.finish stack status) := by
  let P (state : ι × List Invocation) (moment : Progress) : Prop :=
    ∃ calls, state.2 = log ++ calls ∧ en.Reaches invoke i progress calls state.1 moment
  have hanswer {state : ι × List Invocation} {stack : Stack} {p : Paused}
      (h : P state ⟨stack, .paused p⟩) :
      P (logged invoke state p.invocation).2
        (en.answer stack p (logged invoke state p.invocation).1) := by
    obtain ⟨calls, hlog, hreaches⟩ := h
    exact ⟨calls ++ [p.invocation], by simp [logged, hlog], hreaches.answer⟩
  have hbegin : P (i, log) progress := ⟨[], by simp, .refl⟩
  rcases run_invariant (P := P) hanswer hbegin h with ⟨_, ⟨⟩, hend⟩ | ⟨_, ⟨⟩, _⟩
  exact hend

end Reaches

/-! ## Where a dispatch stands

What the functions of the engine come to, one lemma each. -/

section Stands

variable {en : Engine} {invoke : ι → Invocation → Except Failure Transition × ι} {i j : ι}
  {stack₀ stack : Stack} {c : Call} {calls : List Invocation} {event : Event} {target : StateId}

theorem stands_enter : en.Stands invoke i stack₀ c calls (en.enter stack event) := by
  obtain ⟨frames⟩ := stack
  cases frames with
  | nil => exact .failed
  | cons top below =>
    simp only [enter, Stack.top?, List.head?_cons]
    split
    · exact .failed
    · split
      · exact .asking (.inl rfl)
      · exact .running

/-- The exit action of the state on top has run, if it has one. -/
theorem stands_replace {top : StateId} {below : List StateId} {action : Option String}
    (h : en.Undertakes invoke i stack₀ c calls ⟨top :: below⟩ event (.goto target action)) :
    en.Stands invoke i stack₀ c (calls ++ en.automaton.exits event [top])
      (en.replace ⟨top :: below⟩ target action event) := by
  cases action with
  | none =>
    have hnew : en.Stands invoke i stack₀ c (calls ++ en.automaton.exits event [top])
        (en.arrive ⟨top :: below⟩ target event) := stands_enter
    exact hnew
  | some action => exact .departing h .override

/-- An undertaken departure waits for the exit action, or does at once what is next. -/
theorem stands_leave {d : Departure} {next : Progress}
    (h : en.Undertakes invoke i stack₀ c calls stack event d)
    (hnext : ∀ top below, stack = ⟨top :: below⟩ →
      en.Stands invoke i stack₀ c (calls ++ en.automaton.exits event [top]) next) :
    en.Stands invoke i stack₀ c calls (en.leave stack event d.resume next) := by
  obtain ⟨frames⟩ := stack
  cases frames with
  | nil => exact .failed
  | cons top below =>
    simp only [leave, Stack.top?, List.head?_cons]
    split
    · exact .failed
    · rename_i s hs
      split
      · rename_i action hexit
        have hleft := Stands.departing h (.exit (Automaton.exits_cons_of_some hs hexit))
        rw [List.append_nil] at hleft
        exact hleft
      · rename_i hexit
        have hquiet := hnext top below rfl
        simpa [Automaton.exits_cons_of_none hs hexit] using hquiet

theorem stands_goto {action : Option String}
    (h : en.Undertakes invoke i stack₀ c calls stack event (.goto target action)) :
    en.Stands invoke i stack₀ c calls (en.goto stack target action event) := by
  apply stands_leave h
  rintro top below rfl
  exact stands_replace h

theorem stands_pop (h : en.Undertakes invoke i stack₀ c calls stack event .pop) :
    en.Stands invoke i stack₀ c calls (en.pop stack event) := by
  unfold pop
  split
  · exact .failed
  · exact stands_leave h fun _ _ _ => .running

theorem stands_push (h : en.discipline = .single →
      en.Undertakes invoke i stack₀ c calls stack event (.goto target none)) :
    en.Stands invoke i stack₀ c calls (en.push stack target event) := by
  unfold push
  split
  · exact .failed
  · cases hdiscipline : en.discipline with
    | stack => exact stands_enter
    | single => exact stands_goto (h hdiscipline)

theorem stands_react {top : StateId} {below : List StateId} {r : Reaction}
    (h : ∀ d, r.departure? en.discipline = some d →
      en.Undertakes invoke i stack₀ c calls ⟨top :: below⟩ event d) :
    en.Stands invoke i stack₀ c calls (en.react ⟨top :: below⟩ top r event) := by
  cases r with
  | goto target action => exact stands_goto (h _ rfl)
  | push target =>
    apply stands_push
    intro hsingle
    exact h _ (by simp [Reaction.departure?, hsingle])
  | act action => exact .asking (.inr rfl)
  | ignore | defer => exact .running

/-- A frame that handles or ignores an event reacts to it. -/
theorem fallThrough_of_reaction {id : StateId} {s : State} {r : Reaction} {rest : List StateId}
    (hs : en.automaton.state? id = some s) (hr : s.reaction? event.type = some r)
    (hdefer : r ≠ .defer) :
    en.fallThrough event (id :: rest) = en.react ⟨id :: rest⟩ id r event := by
  cases r with
  | defer => contradiction
  | _ =>
    simp only [fallThrough, hs, hr]
    try rfl

/-- A state that is declared passes the event on, or has a reaction to it. -/
theorem passes_or_reacts {id : StateId} {s : State} (t : EventType)
    (hs : en.automaton.state? id = some s) :
    en.automaton.Passes t id ∨ ∃ r, s.reaction? t = some r ∧ r ≠ .defer := by
  cases hr : s.reaction? t with
  | none => exact .inl (Automaton.Silent.passes ⟨s, hs, hr⟩)
  | some r =>
    by_cases hdefer : r = .defer
    · have hdefers : s.defers t = true := by simp [State.defers, hr, hdefer]
      exact .inl (Automaton.Defers.passes ⟨s, hs, hdefers⟩)
    · exact .inr ⟨r, rfl, hdefer⟩

/-- An event that has left the frames above. -/
theorem stands_fallThrough {above frames : List StateId}
    (h : en.Delivers invoke i stack₀ c calls j stack event) (htarget : event.target = none)
    (hframes : stack.frames = above ++ frames)
    (habove : ∀ upper ∈ above, en.automaton.Passes event.type upper) :
    en.Stands invoke i stack₀ c (calls ++ en.automaton.exits event above)
      (en.fallThrough event frames) := by
  induction frames generalizing above with
  | nil =>
    obtain rfl : stack.frames = above := by simpa using hframes
    unfold fallThrough
    split
    · rename_i hhalt
      exact .halted h hhalt habove
    · exact .failed
  | cons id rest ih =>
    cases hs : en.automaton.state? id with
    | none =>
      simp only [fallThrough, hs]
      exact .failed
    | some s =>
      rcases passes_or_reacts event.type hs with hpass | ⟨r, hr, hdefer⟩
      · have hpasses : ∀ frame ∈ above ++ [id], en.automaton.Passes event.type frame :=
          List.forall_mem_append.mpr ⟨habove, List.forall_mem_singleton.mpr hpass⟩
        obtain ⟨s', hs', hhandles, hignores⟩ := hpass
        simp only [fallThrough_of_passes hs' hhandles hignores]
        cases en.discipline with
        | single => exact .failed
        | stack =>
          cases hexit : s'.exit with
          | some action =>
            exact .falling h htarget hframes hpasses (Automaton.exits_cons_of_some hs' hexit)
          | none =>
            have hlater := ih (by simpa using hframes) hpasses
            simpa [Automaton.exits_cons_of_none hs' hexit] using hlater
      · simp only [fallThrough_of_reaction hs hr hdefer]
        exact stands_react fun d hd => .reacted h htarget hframes habove hs hr hd

theorem stands_deliver (h : en.Delivers invoke i stack₀ c calls j stack event) :
    en.Stands invoke i stack₀ c calls (en.deliver stack event) := by
  cases event with
  | message type payload =>
    have hfalls := stands_fallThrough h rfl (List.nil_append _).symm nofun
    simpa [deliver] using hfalls
  | goto target =>
    simp only [deliver]
    split
    · exact .failed
    · split
      · exact .failed
      · exact stands_goto (.told h)

/-- Only an entry action or a handler may ask for something. -/
theorem stands_apply {p : Paused} {t : Transition}
    (h : en.Reaches invoke i (en.call stack₀ c) calls j ⟨stack, .paused p⟩)
    (hresume : p.resume = .apply) (hreply : (invoke j p.invocation).1 = .ok t) :
    en.Stands invoke i stack₀ c (calls ++ [p.invocation])
      (en.apply stack p.invocation.event t) := by
  cases t with
  | stay => exact .running
  | raise event => exact stands_deliver (.asked h hresume hreply rfl)
  | goto target =>
    have hdeliver := stands_deliver (.asked h hresume hreply rfl)
    exact hdeliver
  | push target =>
    apply stands_push
    intro hsingle
    exact .asked h hresume hreply (by simp [Transition.departure?, hsingle])
  | pop => exact stands_pop (.asked h hresume hreply rfl)

/-- What follows an action that has answered without asking for anything. -/
theorem stands_proceed {p : Paused} (hresume : p.resume ≠ .apply)
    (h : en.Stands invoke i stack₀ c calls ⟨stack, .paused p⟩) :
    en.Stands invoke i stack₀ c (calls ++ [p.invocation])
      (en.proceed stack p.invocation.event p.resume) := by
  cases h with
  | asking => contradiction
  | @falling calls j stack event above below id x h htarget hframes hpasses hx =>
    obtain ⟨action, rfl⟩ := Automaton.eq_of_exits hx
    have hlater := stands_fallThrough h htarget (by simpa using hframes) hpasses
    simpa [proceed, hx, Stack.pop] using hlater
  | @departing calls since stack event departure p h hdeparts =>
    cases hdeparts with
    | exit hx =>
      obtain ⟨action, rfl⟩ := Automaton.eq_of_exits hx
      cases departure with
      | goto target action =>
        have hnext := stands_replace h
        simpa [proceed, Departure.resume, hx] using hnext
      | pop => exact .running
    | override =>
      simp only [proceed]
      exact stands_enter

/-- Every moment of a dispatch is accounted for. -/
theorem Reaches.stands {moment : Progress}
    (h : en.Reaches invoke i (en.call stack₀ c) calls j moment) :
    en.Stands invoke i stack₀ c calls moment := by
  induction h with
  | refl =>
    cases c with
    | handle event => exact stands_deliver (.own rfl)
    | start event =>
      simp only [call, start]
      split
      · exact stands_enter
      · exact .failed
  | @answer calls j stack p h ih =>
    by_cases hresume : p.resume = .apply
    · cases hreply : (invoke j p.invocation).1 with
      | error f => exact .failed
      | ok t =>
        have happly := stands_apply h hresume hreply
        simpa only [Engine.answer, hresume] using happly
    · have hanswer := @answer_of_ne_apply en stack p hresume (invoke j p.invocation).1
      rcases hanswer with ⟨_, hgoes⟩ | ⟨f, hfails⟩
      · rw [hgoes]
        exact stands_proceed hresume ih
      · rw [hfails]
        exact .failed

end Stands

end Engine

end PushdownActors
