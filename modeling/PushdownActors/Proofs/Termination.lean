-- SUMMARY: A dispatch comes to its end as soon as the actions stop asking for transitions.
import PushdownActors.Proofs.Passage

/-!
# The end of a dispatch

The transitions of an automaton may lead in circles, and an entry action may ask for a
transition each time that its state is entered. So a dispatch need not come to an end. But
without an answer that asks for something it cannot go on for long: it may leave every
frame, and enter one state.

The work of a dispatch that waits is what it may still run if every action answers that it
asks for nothing. It counts the frames beneath the one on top, since each of them may yet be
left. An answer that asks for nothing lowers the work. One that asks for a transition may
raise it by two: for the exit action of a state, the action of a goto and the entry action
of the target, less the action that has answered. So three for each answer of this kind, and
the work at the beginning, are a bound.
-/

namespace PushdownActors

/-! ## The work that is left -/

/-- How many actions may yet run in the state on top and for its target, with the one that
the dispatch waits for. -/
def Resume.work : Resume → Nat
  | apply | drop => 1
  | arrive _ => 2
  | replace .. | fall => 3

/-- How many actions may yet run if none of them asks for a transition. -/
def Progress.work : Progress → Nat
  | ⟨stack, .paused p⟩ => stack.pop.size + p.resume.work
  | _ => 0

namespace Engine

/-! ## What the actions ask for -/

section Asking

variable (invoke : ι → Invocation → Except Failure Transition × ι)

/-- How many transitions an answer asks for. -/
def asks : Except Failure Transition → Nat
  | .error _ | .ok .stay => 0
  | .ok _ => 1

/-- How many transitions actions ask for that run one after the other. -/
def asked : ι → List Invocation → Nat
  | _, [] => 0
  | i, x :: calls => asks (invoke i x).1 + asked (invoke i x).2 calls

/-- The events that an answer has delivered, if the dispatch waits for it to be applied. -/
def delivered (resume : Resume) : Except Failure Transition → List Event
  | .error _ => []
  | .ok t => if resume = .apply then t.event?.toList else []

variable (en : Engine)

/-- The events that actions ask for, and that are delivered because of it. -/
def deliveries : Nat → ι → Progress → List Event
  | fuel + 1, i, ⟨stack, .paused p⟩ =>
    let (reply, j) := invoke i p.invocation
    delivered p.resume reply ++ deliveries fuel j (en.answer stack p reply)
  | _, _, _ => []

/-- The event that a call begins with. -/
def Call.own : Call → List Event
  | .start _ => []
  | .handle event => [event]

end Asking

theorem asks_ok {t : Transition} (hstay : t ≠ .stay) : asks (.ok t) = 1 := by
  cases t with
  | stay => contradiction
  | _ => rfl

theorem mem_delivered {resume : Resume} {reply : Except Failure Transition} {event : Event} :
    event ∈ delivered resume reply ↔
      resume = .apply ∧ ∃ t, reply = .ok t ∧ t.event? = some event := by
  cases reply with
  | error f => simp [delivered]
  | ok t => by_cases hresume : resume = .apply <;> simp [delivered, hresume]

/-- An answer has no more delivered than it asks for. -/
theorem length_delivered (resume : Resume) (reply : Except Failure Transition) :
    (delivered resume reply).length ≤ asks reply := by
  cases reply with
  | error => exact Nat.zero_le _
  | ok t =>
    by_cases hresume : resume = .apply
    · cases t <;> simp [delivered, hresume, asks, Transition.event?]
    · simp [delivered, hresume]

/-! ## The work of the functions of the engine -/

section Work

variable {en : Engine} {stack : Stack} {event : Event} {target : StateId}

@[simp] theorem work_paused {p : Paused} :
    (Progress.mk stack (.paused p)).work = stack.pop.size + p.resume.work := rfl

@[simp] theorem work_failed {f : Failure} : (Progress.mk stack (.failed f)).work = 0 := rfl

@[simp] theorem work_finish {status : Status} : (Progress.finish stack status).work = 0 := rfl

@[simp] theorem work_fail {f : Failure} : (Progress.fail stack f).work = 0 := rfl

@[simp] theorem work_violate {v : Violation} : (Progress.violate stack v).work = 0 := rfl

@[simp] theorem work_pause {action : String} {site : Site} {state : StateId} {resume : Resume} :
    (Progress.pause stack action site state event resume).work
      = stack.pop.size + resume.work := rfl

theorem work_enter : (en.enter stack event).work ≤ stack.pop.size + 1 := by
  unfold enter
  repeat' split
  · exact Nat.zero_le _
  · exact Nat.zero_le _
  · exact Nat.le_refl _
  · exact Nat.zero_le _

theorem work_arrive : (en.arrive stack target event).work ≤ stack.pop.size + 1 :=
  work_enter

theorem work_replace {action : Option String} :
    (en.replace stack target action event).work ≤ stack.pop.size + 2 := by
  cases action with
  | none =>
    have harrive : (en.arrive stack target event).work ≤ stack.pop.size + 1 := work_arrive
    exact Nat.le_succ_of_le harrive
  | some action =>
    simp only [replace]
    split
    · exact Nat.zero_le _
    · exact Nat.le_refl _

theorem work_leave {resume : Resume} {next : Progress}
    (hnext : next.work ≤ stack.pop.size + resume.work) :
    (en.leave stack event resume next).work ≤ stack.pop.size + resume.work := by
  unfold leave
  repeat' split
  all_goals simp [hnext]

/-- A goto is for a state on top, which is not among the frames beneath. -/
theorem work_goto {action : Option String} :
    (en.goto stack target action event).work ≤ stack.size + 2 := by
  obtain ⟨frames⟩ := stack
  cases frames with
  | nil => exact Nat.zero_le _
  | cons top below => exact work_leave (Nat.le_succ_of_le work_replace)

theorem work_push : (en.push stack target event).work ≤ stack.size + 2 := by
  unfold push
  split
  · simp
  · cases en.discipline with
    | stack => exact Nat.le_succ_of_le work_enter
    | single => exact work_goto

theorem work_pop : (en.pop stack event).work ≤ stack.size + 2 := by
  unfold pop
  split
  · simp
  · have hleave : (en.leave stack event .drop (.finish stack.pop .running)).work
        ≤ stack.pop.size + 1 := work_leave (by simp)
    have hbeneath : stack.pop.size ≤ stack.size := by simp [Stack.pop, Stack.size]
    omega

theorem work_react {top : StateId} {r : Reaction} :
    (en.react stack top r event).work ≤ stack.size + 2 := by
  cases r with
  | goto target action => exact work_goto
  | push target => exact work_push
  | act action =>
    have hbeneath : stack.pop.size ≤ stack.size := by simp [Stack.pop, Stack.size]
    simp only [react, work_pause, Resume.work]
    omega
  | ignore | defer => exact Nat.zero_le _

/-- Every frame may be left, and the last one that is reached for a target. -/
theorem work_fallThrough {frames : List StateId} :
    (en.fallThrough event frames).work ≤ frames.length + 2 := by
  induction frames with
  | nil =>
    unfold fallThrough
    split <;> simp
  | cons id rest ih =>
    cases hs : en.automaton.state? id with
    | none => simp [fallThrough, hs]
    | some s =>
      rcases passes_or_reacts event.type hs with ⟨s', hs', hhandles, hignores⟩ | ⟨r, hr, hdefer⟩
      · rw [fallThrough_of_passes hs' hhandles hignores]
        cases en.discipline with
        | single => simp
        | stack =>
          cases s'.exit with
          | some action => simp [Resume.work, Stack.pop, Stack.size]
          | none => exact Nat.le_succ_of_le ih
      · rw [fallThrough_of_reaction hs hr hdefer]
        exact work_react

theorem work_deliver : (en.deliver stack event).work ≤ stack.size + 2 := by
  cases event with
  | message type payload => exact work_fallThrough
  | goto target =>
    simp only [deliver]
    repeat' split
    · simp
    · simp
    · exact work_goto

theorem work_apply {t : Transition} : (en.apply stack event t).work ≤ stack.size + 2 := by
  cases t with
  | stay => exact Nat.zero_le _
  | raise raised => exact work_deliver
  | goto target =>
    have hdeliver : (en.deliver stack (.goto target)).work ≤ stack.size + 2 := work_deliver
    exact hdeliver
  | push target => exact work_push
  | pop => exact work_pop

/-- What follows an action that asks for nothing takes less work than it did with it. -/
theorem work_proceed {resume : Resume} :
    (en.proceed stack event resume).work + 1 ≤ stack.pop.size + resume.work := by
  cases resume with
  | apply | drop => simp [proceed, Resume.work]
  | replace target action => exact Nat.succ_le_succ work_replace
  | arrive target => exact Nat.succ_le_succ work_arrive
  | fall => exact Nat.succ_le_succ work_fallThrough

/-- Three for every answer that asks for something: that is what it may add to the work, and
the action that has answered. -/
theorem work_answer {p : Paused} (reply : Except Failure Transition) :
    (en.answer stack p reply).work + 1
      ≤ (Progress.mk stack (.paused p)).work + 3 * asks reply := by
  rw [work_paused]
  by_cases hresume : p.resume = .apply
  · have hwork : p.resume.work = 1 := congrArg Resume.work hresume
    cases reply with
    | error f =>
      simp only [answer, work_fail]
      omega
    | ok t =>
      have hanswer : en.answer stack p (.ok t) = en.apply stack p.invocation.event t := by
        simp only [answer, hresume]
      rw [hanswer]
      by_cases hstay : t = .stay
      · rw [hstay, apply, work_finish]
        omega
      · have happly : (en.apply stack p.invocation.event t).work ≤ stack.size + 2 := work_apply
        have hasks : asks (.ok t) = 1 := asks_ok hstay
        have hsize : stack.size ≤ stack.pop.size + 1 := by
          simp only [Stack.size, Stack.pop, List.length_tail]
          omega
        omega
  · have hproceed : (en.proceed stack p.invocation.event p.resume).work + 1
        ≤ stack.pop.size + p.resume.work := work_proceed
    have hanswer := @answer_of_ne_apply en stack p hresume reply
    rcases hanswer with ⟨_, hgoes⟩ | ⟨f, hfails⟩
    · rw [hgoes]
      omega
    · rw [hfails, work_failed]
      omega

theorem work_call {c : Call} : (en.call stack c).work ≤ stack.size + 2 := by
  cases c with
  | start event =>
    simp only [call, start]
    split
    · exact Nat.le_succ_of_le work_enter
    · simp [Progress.work]
  | handle event => exact work_deliver

end Work

/-! ## Runs that come to their end -/

section Run

variable {en : Engine} {invoke : ι → Invocation → Except Failure Transition × ι} {i j : ι}
  {stack : Stack} {c : Call}

/-- From the moment after an answer on, the actions ask for as much less as the answer did. -/
theorem asked_le_sub {n : Nat} {p : Paused}
    (hasked : ∀ calls j moment, en.Reaches invoke i ⟨stack, .paused p⟩ calls j moment →
      asked invoke i calls ≤ n) :
    asks (invoke i p.invocation).1 ≤ n ∧
      ∀ calls j moment, en.Reaches invoke (invoke i p.invocation).2
          (en.answer stack p (invoke i p.invocation).1) calls j moment →
        asked invoke (invoke i p.invocation).2 calls ≤ n - asks (invoke i p.invocation).1 := by
  have hfirst : en.Reaches invoke i ⟨stack, .paused p⟩ [p.invocation] (invoke i p.invocation).2
      (en.answer stack p (invoke i p.invocation).1) := Reaches.refl.answer
  refine ⟨?_, ?_⟩
  · simpa [asked] using hasked _ _ _ hfirst
  · intro calls j moment h
    have hall : asked invoke i (p.invocation :: calls) ≤ n := hasked _ _ _ (hfirst.trans h)
    rw [asked] at hall
    omega

/-- An answer comes first. -/
theorem Concludes.answer {p : Paused} {calls : List Invocation} {stack' : Stack}
    {result : Except Failure Status}
    (h : en.Concludes invoke (invoke i p.invocation).2
      (en.answer stack p (invoke i p.invocation).1) calls stack' result) :
    en.Concludes invoke i ⟨stack, .paused p⟩ (p.invocation :: calls) stack' result := by
  obtain ⟨fuel, i', hrun⟩ := h
  refine ⟨fuel + 1, i', fun log => ?_⟩
  simpa [run, logged] using hrun (log ++ [p.invocation])

theorem concludes_of_asked {n : Nat} {progress : Progress}
    (hasked : ∀ calls j moment, en.Reaches invoke i progress calls j moment →
      asked invoke i calls ≤ n) :
    ∃ calls stack' result, en.Concludes invoke i progress calls stack' result ∧
      calls.length ≤ progress.work + 3 * n := by
  -- By the work that is left and what the actions may yet ask for.
  induction hbudget : progress.work + 3 * n using Nat.strongRecOn
    generalizing i n progress with
  | _ budget ih =>
    rcases progress with ⟨stack, p | status | f⟩
    · have hstep := @work_answer en stack p (invoke i p.invocation).1
      obtain ⟨hfirst, hlater⟩ := asked_le_sub hasked
      obtain ⟨calls, stack', result, hconcludes, hcalls⟩ := ih _ (by omega) hlater rfl
      refine ⟨_, stack', result, hconcludes.answer, ?_⟩
      rw [List.length_cons]
      omega
    · exact ⟨[], stack, _, Reaches.refl.concludes, Nat.zero_le _⟩
    · exact ⟨[], stack, _, Reaches.refl.concludes_failed, Nat.zero_le _⟩

theorem length_deliveries {n fuel : Nat} {progress : Progress}
    (hasked : ∀ calls j moment, en.Reaches invoke i progress calls j moment →
      asked invoke i calls ≤ n) :
    (deliveries invoke en fuel i progress).length ≤ n := by
  induction fuel generalizing i n progress with
  | zero => exact Nat.zero_le _
  | succ fuel ih =>
    rcases progress with ⟨stack, p | status | f⟩
    · obtain ⟨hfirst, hlater⟩ := asked_le_sub hasked
      have hnow := length_delivered p.resume (invoke i p.invocation).1
      have hrest := ih hlater
      rw [deliveries, List.length_append]
      omega
    · exact Nat.zero_le _
    · exact Nat.zero_le _

/-- An answer that has an event delivered does just that. -/
theorem answer_of_delivered {p : Paused} {reply : Except Failure Transition} {event : Event}
    (h : event ∈ delivered p.resume reply) : en.answer stack p reply = en.deliver stack event := by
  obtain ⟨hresume, t, rfl, hevent⟩ := mem_delivered.mp h
  cases t with
  | raise raised | goto target =>
    obtain rfl := Option.some.inj hevent
    simp only [answer, hresume, apply]
  | stay | push target | pop => contradiction

/-- What is delivered from a moment on has been delivered in the end. -/
theorem Reaches.deliveries {progress last : Progress} {calls : List Invocation}
    (h : en.Reaches invoke i progress calls j last) (fuel : Nat) :
    deliveries invoke en fuel j last <:+ deliveries invoke en (fuel + calls.length) i progress := by
  induction h generalizing fuel with
  | refl => exact List.suffix_refl _
  | @answer calls j stack p _ ih =>
    have hbefore := ih (fuel + 1)
    rw [Engine.deliveries] at hbefore
    rw [List.length_append, List.length_singleton, Nat.add_comm calls.length, ← Nat.add_assoc]
    exact (List.suffix_append _ _).trans hbefore

theorem reaches_of_deliveries {fuel : Nat} {progress : Progress} {event : Event}
    (h : event ∈ deliveries invoke en fuel i progress) :
    ∃ calls j stack p, en.Reaches invoke i progress calls j ⟨stack, .paused p⟩ ∧
      event ∈ delivered p.resume (invoke j p.invocation).1 := by
  induction fuel generalizing i progress with
  | zero => cases h
  | succ fuel ih =>
    rcases progress with ⟨stack, p | status | f⟩
    · rw [deliveries] at h
      rcases List.mem_append.mp h with hnow | hlater
      · exact ⟨[], i, stack, p, .refl, hnow⟩
      · obtain ⟨calls, j, stack', p', hreaches, hevent⟩ := ih hlater
        exact ⟨_, j, stack', p', Reaches.refl.answer.trans hreaches, hevent⟩
    · cases h
    · cases h

/-- The events that are delivered are the one of the call and those of its answers. -/
theorem delivers_iff {event : Event} :
    (∃ calls j stack', en.Delivers invoke i stack c calls j stack' event) ↔
      ∃ fuel, event ∈ c.own ++ deliveries invoke en fuel i (en.call stack c) := by
  constructor
  · rintro ⟨_, _, _, hown | @⟨calls, j, stack', p, t, _, h, hresume, hreply, hevent⟩⟩
    · exact ⟨0, List.mem_append_left _ (by simp [hown, Call.own])⟩
    · refine ⟨1 + calls.length, List.mem_append_right _ ((h.deliveries 1).subset ?_)⟩
      exact List.mem_append_left _ (mem_delivered.mpr ⟨hresume, t, hreply, hevent⟩)
  · rintro ⟨fuel, h⟩
    rcases List.mem_append.mp h with hown | hasked
    · cases c with
      | start => cases hown
      | handle own =>
        obtain rfl := List.mem_singleton.mp hown
        exact ⟨_, _, _, .own rfl⟩
    · obtain ⟨calls, j, stack', p, hreaches, hdelivered⟩ := reaches_of_deliveries hasked
      obtain ⟨hresume, t, hreply, hevent⟩ := mem_delivered.mp hdelivered
      exact ⟨_, _, _, .asked hreaches hresume hreply hevent⟩

end Run

end Engine

/-! ## A carousel

Two states lead to each other in a circle, with the same event. On entering either, the
next turn is asked for, as long as there are tickets. -/

namespace Carousel

def turn : Event := .message ⟨"Turn"⟩ none

def side (name opposite : String) : StateSpec :=
  ((({ name } : StateSpec).withEntry "pay").withExit "ring").onGoto "Turn" opposite

def declaration : Declaration :=
  (({} : Declaration).state (side "Front" "Back").asStart).state (side "Back" "Front")

def automaton : Automaton where
  name := "Carousel"
  kind := .machine
  states :=
    [{ id := ⟨"Front"⟩, entry := some "pay", exit := some "ring",
       reactions := [(turn.type, .goto ⟨"Back"⟩ none)], hot := false, cold := false },
     { id := ⟨"Back"⟩, entry := some "pay", exit := some "ring",
       reactions := [(turn.type, .goto ⟨"Front"⟩ none)], hot := false, cold := false }]
  start := ⟨"Front"⟩
  declaration := declaration

def engine : Engine := ⟨automaton, .stack⟩

theorem built : Automaton.build "Carousel" .machine declaration = .ok engine.automaton := rfl

/-- Each payment is for another turn. -/
def ride : Nat → Invocation → Except Failure Transition × Nat
  | tickets + 1, ⟨"pay", _, _, _⟩ => (.ok (.raise turn), tickets)
  | tickets, _ => (.ok .stay, tickets)

theorem asks_ride (tickets : Nat) (x : Invocation) :
    Engine.asks (ride tickets x).1 + (ride tickets x).2 ≤ tickets := by
  unfold ride
  split <;> simp [Engine.asks, Nat.add_comm]

theorem asked_ride (tickets : Nat) (calls : List Invocation) :
    Engine.asked ride tickets calls ≤ tickets := by
  induction calls generalizing tickets with
  | nil => exact Nat.zero_le _
  | cons x calls ih =>
    have hfirst := asks_ride tickets x
    have hlater := ih (ride tickets x).2
    rw [Engine.asked]
    omega

end Carousel

/-! ## Results -/

namespace Engine

section Results

variable {en : Engine} {invoke : ι → Invocation → Except Failure Transition × ι} {i : ι}
  {stack : Stack} {c : Call}

/-- A call comes to its end once the actions stop asking for transitions, whatever circles
there are in the automaton. What they ask for is counted as far as the call runs them, and an
action that fails asks for nothing. -/
theorem call_concludes {n : Nat}
    (hasked : ∀ calls j moment, en.Reaches invoke i (en.call stack c) calls j moment →
      asked invoke i calls ≤ n) :
    (∃ calls stack' result, en.Concludes invoke i (en.call stack c) calls stack' result ∧
        calls.length ≤ stack.size + 3 * n + 2) ∧
      ∀ fuel, (c.own ++ deliveries invoke en fuel i (en.call stack c)).length ≤ n + 1 := by
  constructor
  · obtain ⟨calls, stack', result, hconcludes, hcalls⟩ := concludes_of_asked hasked
    have hwork : (en.call stack c).work ≤ stack.size + 2 := work_call
    exact ⟨calls, stack', result, hconcludes, by omega⟩
  · intro fuel
    have hown : c.own.length ≤ 1 := by cases c <;> simp [Call.own]
    have hlater : (deliveries invoke en fuel i (en.call stack c)).length ≤ n :=
      length_deliveries hasked
    rw [List.length_append]
    omega

/-- Two tickets, two more turns. -/
theorem call_concludes_carousel :
    (∀ calls j moment, Carousel.engine.Reaches Carousel.ride 2
        (Carousel.engine.call ⟨[⟨"Front"⟩]⟩ (.handle Carousel.turn)) calls j moment →
      asked Carousel.ride 2 calls ≤ 2) ∧
      (∃ calls stack' result, Carousel.engine.Concludes Carousel.ride 2
          (Carousel.engine.call ⟨[⟨"Front"⟩]⟩ (.handle Carousel.turn)) calls stack' result ∧
        calls.length ≤ 9) ∧
      ∀ fuel, (Carousel.turn :: deliveries Carousel.ride Carousel.engine fuel 2
        (Carousel.engine.call ⟨[⟨"Front"⟩]⟩ (.handle Carousel.turn))).length ≤ 3 := by
  have hasked : ∀ calls j moment, Carousel.engine.Reaches Carousel.ride 2
      (Carousel.engine.call ⟨[⟨"Front"⟩]⟩ (.handle Carousel.turn)) calls j moment →
        asked Carousel.ride 2 calls ≤ 2 := fun calls _ _ _ => Carousel.asked_ride 2 calls
  exact ⟨hasked, call_concludes hasked⟩

end Results

end Engine

end PushdownActors
