-- SUMMARY: Entry and exit actions bracket the stack: read as pushes and pops, what has run gives the frames.
import PushdownActors.Dispatch
import PushdownActors.Proofs.Checked

/-!
# Brackets

Frames come onto a stack and leave it in many ways: by a start, a goto, a push, a pop,
an event that falls through, a halt, and by what entry actions and raised events lead
to. If every state has an entry and an exit action, whoever runs the actions sees all
of this. Each entry action that runs opens a bracket, each exit action closes the
innermost one that is open, and the open brackets are the frames.

A dispatch runs an exit action before it removes the frame, and an entry action after
it has put the frame there. So while it waits for an action, the frame on top may be
one that is already left; `Resume.entered` says which frames count.
-/

namespace PushdownActors

/-! ## Runs of an engine -/

namespace Engine

/-- The same actions, with a log of those that were run. -/
def logged (invoke : ι → Invocation → Except Failure Transition × ι) :
    ι × List Invocation → Invocation → Except Failure Transition × (ι × List Invocation) :=
  fun (i, log) invocation =>
    let (reply, i) := invoke i invocation
    (reply, (i, log ++ [invocation]))

/-- A start on an empty stack, and then one event after the other, each call with a
good end: the stack after the last of them, and the log. -/
inductive Served (en : Engine) (invoke : ι → Invocation → Except Failure Transition × ι) :
    Stack → ι → List Invocation → Prop
  | start {i i' : ι} {event : Event} {fuel : Nat} {stack : Stack} {status : Status}
      {log : List Invocation}
      (hrun : en.run (logged invoke) fuel (i, []) (en.start .empty event)
        = some (stack, .ok status, (i', log))) :
      Served en invoke stack i' log
  | handle {i i' : ι} {event : Event} {fuel : Nat} {stack stack' : Stack} {status : Status}
      {log log' : List Invocation} (h : Served en invoke stack i log)
      (hrun : en.run (logged invoke) fuel (i, log) (en.handle stack event)
        = some (stack', .ok status, (i', log'))) :
      Served en invoke stack' i' log'

section Run

variable {en : Engine} {invoke : ι → Invocation → Except Failure Transition × ι}

/-- What every answer of an action keeps holds when the dispatch has come to its end. -/
theorem run_invariant {P : ι → Progress → Prop}
    (hanswer : ∀ {i : ι} {stack : Stack} {p : Paused}, P i ⟨stack, .paused p⟩ →
      P (invoke i p.invocation).2 (en.answer stack p (invoke i p.invocation).1))
    {fuel : Nat} {i i' : ι} {progress : Progress} {stack : Stack} {result : Except Failure Status}
    (h : P i progress) (hrun : en.run invoke fuel i progress = some (stack, result, i')) :
    (∃ status, result = .ok status ∧ P i' ⟨stack, .finished status⟩) ∨
      ∃ f, result = .error f ∧ P i' ⟨stack, .failed f⟩ := by
  fun_induction run en invoke fuel i progress with
  | case1 _ i reached status =>
    cases hrun
    exact .inl ⟨status, rfl, h⟩
  | case2 _ i reached f =>
    cases hrun
    exact .inr ⟨f, rfl, h⟩
  | case3 => contradiction
  | case4 i fuel reached p reply next hreply ih =>
    have hnext := hanswer h
    rw [hreply] at hnext
    exact ih hnext hrun

end Run

end Engine

/-! ## Reading a log -/

/-- Reads a log from a stack on: an entry action puts its state on top, and an exit
action removes its state, which has to be on top. -/
def Stack.follow : Stack → List Invocation → Option Stack
  | s, [] => some s
  | s, x :: log =>
    match x.site with
    | .entry => (s.push x.state).follow log
    | .exit => if s.top? = some x.state then s.pop.follow log else none
    | .override | .handler => s.follow log

namespace Stack

theorem follow_append (s : Stack) (log more : List Invocation) :
    s.follow (log ++ more) = (s.follow log).bind (·.follow more) := by
  induction log generalizing s with
  | nil => rfl
  | cons x log ih =>
    simp only [List.cons_append, follow]
    split
    · exact ih _
    · split
      · exact ih _
      · rfl
    · exact ih _
    · exact ih _

/-- As far as the log is read, the frames at the bottom stay. -/
def Keeps (s : Stack) (bottom : List StateId) (log : List Invocation) : Prop :=
  ∀ part, part <+: log → ∃ s', s.follow part = some s' ∧ bottom <:+ s'.frames

theorem Keeps.nil {s : Stack} {bottom : List StateId} (h : bottom <:+ s.frames) :
    s.Keeps bottom [] := by
  intro part hpart
  obtain rfl := List.prefix_nil.mp hpart
  exact ⟨s, rfl, h⟩

theorem Keeps.cons {s s' : Stack} {bottom : List StateId} {x : Invocation}
    {log : List Invocation} (hs : bottom <:+ s.frames)
    (hstep : ∀ rest, s.follow (x :: rest) = s'.follow rest) (h : s'.Keeps bottom log) :
    s.Keeps bottom (x :: log) := by
  intro part hpart
  rcases List.prefix_cons_iff.mp hpart with rfl | ⟨rest, rfl, hrest⟩
  · exact ⟨s, rfl, hs⟩
  · rw [hstep]
    exact h rest hrest

/-- What becomes of the topmost of some frames at the bottom: it stays, or it is left
when it is on top again, with the same frames beneath. -/
theorem kept_or_left {s s' : Stack} {state : StateId} {below : List StateId}
    {log : List Invocation} (hs : state :: below <:+ s.frames) (h : s.follow log = some s') :
    s.Keeps (state :: below) log ∨
      ∃ during x after, log = during ++ x :: after ∧ x.site = .exit ∧ x.state = state ∧
        s.Keeps (state :: below) during ∧ s.follow during = some ⟨state :: below⟩ := by
  induction log generalizing s with
  | nil => exact .inl (.nil hs)
  | cons x log ih =>
    -- What is true of the rest of the log from the next stack on is true of all of it.
    have later {next : Stack} (hnext : state :: below <:+ next.frames)
        (hstep : ∀ rest, s.follow (x :: rest) = next.follow rest) :
        s.Keeps (state :: below) (x :: log) ∨
          ∃ during y after, x :: log = during ++ y :: after ∧ y.site = .exit ∧
            y.state = state ∧ s.Keeps (state :: below) during ∧
            s.follow during = some ⟨state :: below⟩ := by
      rw [hstep] at h
      rcases ih hnext h with hkept | ⟨during, y, after, rfl, hexit, hstate, hkept, hfollow⟩
      · exact .inl (hkept.cons hs hstep)
      · refine .inr ⟨x :: during, y, after, rfl, hexit, hstate, hkept.cons hs hstep, ?_⟩
        rw [hstep]
        exact hfollow
    cases hsite : x.site with
    | entry =>
      have hnext : state :: below <:+ (s.push x.state).frames := hs.trans (List.suffix_cons ..)
      apply later hnext
      intro rest
      simp [follow, hsite]
    | override | handler =>
      apply later hs
      intro rest
      simp [follow, hsite]
    | exit =>
      simp only [follow, hsite] at h
      split at h
      · rename_i htop
        have hstep : ∀ rest, s.follow (x :: rest) = s.pop.follow rest := by
          intro rest
          simp [follow, hsite, htop]
        obtain ⟨frames⟩ := s
        cases frames with
        | nil => contradiction
        | cons top rest =>
          rcases List.suffix_cons_iff.mp hs with heq | hrest
          · cases heq
            exact .inr ⟨[], x, log, rfl, hsite, (Option.some.inj htop).symm, .nil hs, rfl⟩
          · exact later hrest hstep
      · contradiction

end Stack

/-! ## What a dispatch tells -/

/-- Every state has an entry action and an exit action. -/
def Automaton.Bracketed (a : Automaton) : Prop :=
  ∀ s ∈ a.states, s.entry.isSome = true ∧ s.exit.isSome = true

theorem Automaton.Bracketed.actions {a : Automaton} (h : a.Bracketed) {id : StateId} {s : State}
    (hs : a.state? id = some s) :
    (∃ entry, s.entry = some entry) ∧ ∃ exit, s.exit = some exit := by
  obtain ⟨hentry, hexit⟩ := h s (List.mem_of_find?_eq_some hs)
  exact ⟨Option.isSome_iff_exists.mp hentry, Option.isSome_iff_exists.mp hexit⟩

/-- What is built from a declaration has the actions that are declared. -/
theorem Automaton.bracketed_of_build {type : String} {kind : Kind} {d : Declaration}
    {a : Automaton} (hbuild : build type kind d = .ok a)
    (hdeclared : ∀ id s, (id, s) ∈ d.flatten →
      s.entry.isSome = true ∧ s.exit.isSome = true) :
    a.Bracketed := by
  intro s hs
  obtain ⟨id, spec, hmem, hbuilt⟩ := mem_buildStates (build_eq_ok hbuild).1 hs
  obtain ⟨_, rfl⟩ := buildState_eq_ok hbuilt
  exact hdeclared id spec hmem

/-- The frames that are entered and not left, once the action has run that a dispatch
waits for. -/
def Resume.entered (stack : Stack) : Resume → Stack
  | .apply => stack
  | .replace .. | .arrive _ | .fall | .drop => stack.pop

/-- The log tells the frames of a dispatch that has come so far. -/
inductive Progress.Told (log : List Invocation) : Progress → Prop
  | paused {stack : Stack} {p : Paused}
      (h : Stack.empty.follow (log ++ [p.invocation]) = some (p.resume.entered stack)) :
      Told log ⟨stack, .paused p⟩
  | finished {stack : Stack} {status : Status} (h : Stack.empty.follow log = some stack) :
      Told log ⟨stack, .finished status⟩
  /-- A dispatch that has failed may have stopped anywhere. -/
  | failed {stack : Stack} {f : Failure} : Told log ⟨stack, .failed f⟩

namespace Engine

variable {en : Engine} {log : List Invocation} {stack : Stack} {event : Event}

/-- The frame on top is new, and entered now. -/
theorem told_enter (hactions : en.automaton.Bracketed)
    (h : Stack.empty.follow log = some stack.pop) : (en.enter stack event).Told log := by
  unfold enter
  split
  · exact .failed
  · rename_i top htop
    split
    · exact .failed
    · rename_i state hstate
      obtain ⟨⟨entry, hentry⟩, _⟩ := hactions.actions hstate
      have hpush : stack.pop.push top = stack := by
        obtain ⟨frames⟩ := stack
        cases frames with
        | nil => contradiction
        | cons first rest =>
          cases htop
          rfl
      rw [hentry]
      apply Progress.Told.paused
      rw [Stack.follow_append, h]
      simp [Stack.follow, hpush, Resume.entered]

/-- The frame on top is left by its exit action. -/
theorem told_leave (hactions : en.automaton.Bracketed) {resume : Resume} {next : Progress}
    (h : Stack.empty.follow log = some stack) (hresume : resume.entered stack = stack.pop) :
    (en.leave stack event resume next).Told log := by
  unfold leave
  split
  · exact .failed
  · rename_i top htop
    split
    · exact .failed
    · rename_i state hstate
      obtain ⟨_, ⟨exit, hexit⟩⟩ := hactions.actions hstate
      rw [hexit]
      apply Progress.Told.paused
      rw [Stack.follow_append, h]
      simp [Stack.follow, htop, hresume]

theorem told_arrive (hactions : en.automaton.Bracketed) {target : StateId}
    (h : Stack.empty.follow log = some stack.pop) : (en.arrive stack target event).Told log := by
  apply told_enter hactions
  rw [Stack.pop_replaceTop]
  exact h

theorem told_replace (hactions : en.automaton.Bracketed) {target : StateId}
    {action : Option String} (h : Stack.empty.follow log = some stack.pop) :
    (en.replace stack target action event).Told log := by
  unfold replace
  split
  · exact told_arrive hactions h
  · split
    · exact .failed
    · apply Progress.Told.paused
      rw [Stack.follow_append, h]
      simp [Stack.follow, Resume.entered]

theorem told_goto (hactions : en.automaton.Bracketed) {target : StateId} {action : Option String}
    (h : Stack.empty.follow log = some stack) : (en.goto stack target action event).Told log :=
  told_leave hactions h rfl

theorem told_push (hactions : en.automaton.Bracketed) {target : StateId}
    (h : Stack.empty.follow log = some stack) : (en.push stack target event).Told log := by
  unfold push
  split
  · exact .failed
  · split
    · exact told_enter hactions h
    · exact told_goto hactions h

theorem told_pop (hactions : en.automaton.Bracketed) (h : Stack.empty.follow log = some stack) :
    (en.pop stack event).Told log := by
  unfold pop
  split
  · exact .failed
  · exact told_leave hactions h rfl

theorem told_react (hactions : en.automaton.Bracketed) {state : StateId} {reaction : Reaction}
    (h : Stack.empty.follow log = some stack) :
    (en.react stack state reaction event).Told log := by
  unfold react
  split
  · exact told_goto hactions h
  · exact told_push hactions h
  · apply Progress.Told.paused
    rw [Stack.follow_append, h]
    rfl
  · exact .finished h
  · exact .finished h

/-- An event that falls through leaves one frame after the other, and waits for the
exit action of each. -/
theorem told_fallThrough (hactions : en.automaton.Bracketed) {frames : List StateId}
    (h : Stack.empty.follow log = some ⟨frames⟩) : (en.fallThrough event frames).Told log := by
  cases frames with
  | nil =>
    unfold fallThrough
    split
    · exact .finished h
    · exact .failed
  | cons top rest =>
    unfold fallThrough
    dsimp only
    split
    · exact .failed
    · rename_i state hstate
      obtain ⟨_, ⟨exit, hexit⟩⟩ := hactions.actions hstate
      have hleft : (Progress.pause ⟨top :: rest⟩ exit .exit top event .fall).Told log := by
        apply Progress.Told.paused
        rw [Stack.follow_append, h]
        simp [Stack.follow, Stack.top?, Resume.entered]
      simp only [hexit]
      split
      · exact .finished h
      -- A state that defers the event is left like one that does not mention it.
      · split
        · exact .failed
        · exact hleft
      · split
        · exact .failed
        · exact hleft
      · exact told_react hactions h

theorem told_deliver (hactions : en.automaton.Bracketed)
    (h : Stack.empty.follow log = some stack) : (en.deliver stack event).Told log := by
  unfold deliver
  split
  · split
    · exact .failed
    · split
      · exact .failed
      · exact told_goto hactions h
  · exact told_fallThrough hactions h

theorem told_apply (hactions : en.automaton.Bracketed) {t : Transition}
    (h : Stack.empty.follow log = some stack) : (en.apply stack event t).Told log := by
  cases t with
  | stay => exact .finished h
  | raise raised => exact told_deliver hactions h
  | goto target =>
    have htold : (en.deliver stack (.goto target)).Told log := told_deliver hactions h
    exact htold
  | push target => exact told_push hactions h
  | pop => exact told_pop hactions h

theorem told_proceed (hactions : en.automaton.Bracketed) {resume : Resume}
    (h : Stack.empty.follow log = some (resume.entered stack)) :
    (en.proceed stack event resume).Told log := by
  cases resume with
  | apply => exact .finished h
  | replace target action => exact told_replace hactions h
  | arrive target => exact told_arrive hactions h
  | fall => exact told_fallThrough hactions h
  | drop => exact .finished h

theorem told_start (hactions : en.automaton.Bracketed) :
    (en.start .empty event).Told [] := by
  have hstart : en.start .empty event = en.enter (Stack.empty.push en.automaton.start) event := rfl
  rw [hstart]
  exact told_enter hactions rfl

/-- The answer of an action leads to a dispatch whose frames the log tells, the action
included. -/
theorem told_answer (hactions : en.automaton.Bracketed) {p : Paused}
    (h : Progress.Told log ⟨stack, .paused p⟩) (reply : Except Failure Transition) :
    (en.answer stack p reply).Told (log ++ [p.invocation]) := by
  cases h with
  | paused h =>
    unfold answer
    split
    · exact .failed
    · split
      · rename_i hresume
        rw [hresume] at h
        exact told_apply hactions h
      · split
        · exact told_proceed hactions h
        · exact .failed

/-- A dispatch that has a good end leaves a stack that the log tells. -/
theorem follow_of_run (hactions : en.automaton.Bracketed)
    {invoke : ι → Invocation → Except Failure Transition × ι} {fuel : Nat} {i i' : ι}
    {log' : List Invocation} {progress : Progress} {status : Status} (h : progress.Told log)
    (hrun : en.run (logged invoke) fuel (i, log) progress = some (stack, .ok status, (i', log'))) :
    Stack.empty.follow log' = some stack := by
  have hanswer {state : ι × List Invocation} {stack : Stack} {p : Paused}
      (h : Progress.Told state.2 ⟨stack, .paused p⟩) :
      (en.answer stack p (logged invoke state p.invocation).1).Told
        (logged invoke state p.invocation).2.2 :=
    told_answer hactions h _
  rcases run_invariant (P := fun state progress => progress.Told state.2) hanswer h hrun
    with ⟨status', _, hend⟩ | ⟨f, hfailed, _⟩
  · cases hend with
    | finished h => exact h
  · cases hfailed

end Engine

/-! ## An excursion

A machine that goes away and comes back, for which the result below is not an empty
one. -/

namespace Excursion

def home : StateSpec :=
  ((({ name := "Home" } : StateSpec).asStart.withEntry "arrive").withExit "leave").onPush
    "Go" "Away"

def away : StateSpec :=
  ((({ name := "Away" } : StateSpec).withEntry "arrive").withExit "leave").onEvent
    "Back" "return"

def declaration : Declaration := (({} : Declaration).state home).state away

def automaton : Automaton where
  name := "Traveller"
  kind := .machine
  states :=
    [{ id := ⟨"Home"⟩, entry := some "arrive", exit := some "leave",
       reactions := [(⟨"Go"⟩, .push ⟨"Away"⟩)], hot := false, cold := false },
     { id := ⟨"Away"⟩, entry := some "arrive", exit := some "leave",
       reactions := [(⟨"Back"⟩, .act "return")], hot := false, cold := false }]
  start := ⟨"Home"⟩
  declaration := declaration

def engine : Engine := ⟨automaton, .stack⟩

/-- Only `return` asks for anything: for the state beneath. -/
def obey (_ : Unit) (x : Invocation) : Except Failure Transition × Unit :=
  (.ok (if x.action = "return" then .pop else .stay), ())

/-- There and back again. -/
def log : List Invocation :=
  [⟨"arrive", .entry, ⟨"Home"⟩, .message ⟨"$Start"⟩ none⟩,
   ⟨"arrive", .entry, ⟨"Away"⟩, .message ⟨"Go"⟩ none⟩,
   ⟨"return", .handler, ⟨"Away"⟩, .message ⟨"Back"⟩ none⟩,
   ⟨"leave", .exit, ⟨"Away"⟩, .message ⟨"Back"⟩ none⟩]

theorem automaton_bracketed : engine.automaton.Bracketed := by
  refine Automaton.bracketed_of_build
    (show Automaton.build "Traveller" .machine declaration = .ok automaton from rfl) ?_
  intro id s hs
  rcases List.mem_cons.mp hs with heq | hs
  · cases heq
    exact ⟨rfl, rfl⟩
  · cases List.mem_singleton.mp hs
    exact ⟨rfl, rfl⟩

theorem served : engine.Served obey ⟨[⟨"Home"⟩]⟩ () log := by
  have hstart : engine.run (Engine.logged obey) 1 ((), [])
      (engine.start .empty (.message ⟨"$Start"⟩ none))
    = some (⟨[⟨"Home"⟩]⟩, .ok .running, ((), log.take 1)) := rfl
  have hgo : engine.run (Engine.logged obey) 1 ((), log.take 1)
      (engine.handle ⟨[⟨"Home"⟩]⟩ (.message ⟨"Go"⟩ none))
    = some (⟨[⟨"Away"⟩, ⟨"Home"⟩]⟩, .ok .running, ((), log.take 2)) := rfl
  have hback : engine.run (Engine.logged obey) 2 ((), log.take 2)
      (engine.handle ⟨[⟨"Away"⟩, ⟨"Home"⟩]⟩ (.message ⟨"Back"⟩ none))
    = some (⟨[⟨"Home"⟩]⟩, .ok .running, ((), log)) := rfl
  exact ((Engine.Served.start hstart).handle hgo).handle hback

end Excursion

/-! ## Results -/

namespace Engine

variable {en : Engine} {log : List Invocation} {stack : Stack}

theorem Served.follow (hactions : en.automaton.Bracketed)
    {invoke : ι → Invocation → Except Failure Transition × ι} {i : ι}
    (h : Served en invoke stack i log) : Stack.empty.follow log = some stack := by
  induction h with
  | start hrun => exact follow_of_run hactions (told_start hactions) hrun
  | handle _ hrun ih => exact follow_of_run hactions (told_deliver hactions ih) hrun

/-- Where every state has an entry and an exit action, and all calls have had a good
end, the log of the actions can be read as pushes and pops from the empty stack on, and
gives the frames of the engine. Every frame that was entered is on the stack since then,
or it was left once, when it was on top again. As long as it was there, the frames
beneath it were the same. -/
theorem Served.bracketed (hactions : en.automaton.Bracketed)
    {invoke : ι → Invocation → Except Failure Transition × ι} {i : ι}
    (h : Served en invoke stack i log) :
    Stack.empty.follow log = some stack ∧
      ∀ before x later, log = before ++ x :: later → x.site = .entry →
        ∃ below, Stack.empty.follow before = some below ∧
          ((below.push x.state).Keeps (x.state :: below.frames) later ∨
            ∃ during y after, later = during ++ y :: after ∧ y.site = .exit ∧
              y.state = x.state ∧
              (below.push x.state).Keeps (x.state :: below.frames) during ∧
              (below.push x.state).follow during = some (below.push x.state)) := by
  have hfollow := h.follow hactions
  refine ⟨hfollow, ?_⟩
  rintro before x later rfl hsite
  rw [Stack.follow_append] at hfollow
  obtain ⟨below, hbefore, hlater⟩ := Option.bind_eq_some_iff.mp hfollow
  have hentered : (below.push x.state).follow later = some stack := by
    simpa [Stack.follow, hsite] using hlater
  exact ⟨below, hbefore, Stack.kept_or_left List.suffix_rfl hentered⟩

theorem Served.bracketed_excursion :
    Excursion.engine.automaton.Bracketed ∧
      Excursion.engine.Served Excursion.obey ⟨[⟨"Home"⟩]⟩ () Excursion.log ∧
      Stack.empty.follow Excursion.log = some ⟨[⟨"Home"⟩]⟩ :=
  ⟨Excursion.automaton_bracketed, Excursion.served,
    (Served.bracketed Excursion.automaton_bracketed Excursion.served).1⟩

end Engine

end PushdownActors
