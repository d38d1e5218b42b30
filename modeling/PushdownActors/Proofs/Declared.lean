-- SUMMARY: A checked automaton never leaves its declaration: which frames, actions and violations a dispatch can have.
import PushdownActors.Dispatch
import PushdownActors.Proofs.Checked

/-!
# Declared states

An engine looks states up by name, and has a violation for a name that it does not find.
For an automaton that has been checked this can come from outside only: all states that
the declaration leads to are declared, and what an action or an event asks for is checked
before anything is done on its behalf. So the frames are declared states at every moment
of every dispatch, also of one that fails half-way, and every action that a dispatch waits
for is an action of a declared state.
-/

namespace PushdownActors

/-! ## What is asked for -/

/-- The state that a transition leads to by its name. -/
def Transition.target? : Transition → Option StateId
  | stay | pop => none
  | raise event => event.target
  | goto state | push state => some state

/-- What a dispatch was told last, by its event or by the answer of an action: a failure,
or a transition that may name a state. -/
abbrev Prompt := Except Failure (Option StateId)

/-- What the answer of an action tells. -/
def Prompt.ofReply (reply : Except Failure Transition) : Prompt :=
  reply.map Transition.target?

/-! ## Violations -/

/-- The violation is about the stack or its states, and not about what actions do. -/
def Violation.isStructural : Violation → Bool
  | emptyStack | alreadyStarted | unknownState _ => true
  | unhandledEvent _ | monitorUnhandledEvent .. | doubleTransition | transitionInExit
  | transitionInOverride | popEmptiesStack | unknownTarget _ | invalidEvent | reservedEvent _
  | machineOnly _ => false

/-- The message of a structural violation tells it from all others. -/
theorem Violation.eq_of_message_eq {v v' : Violation} (hv' : v'.isStructural = true)
    (h : v.message = v'.message) : v = v' := by
  have hletters := congrArg String.toList h
  cases v' with
  | emptyStack | alreadyStarted =>
    cases v with
    | emptyStack | alreadyStarted =>
      first
      | rfl
      | unfold message at hletters
        simp at hletters
    | _ =>
      unfold message at hletters
      simp at hletters
  | unknownState id =>
    cases v with
    | unknownState id' =>
      unfold message at hletters
      have hname : id'.name = id.name := String.toList_inj.mp (by simpa using hletters)
      obtain ⟨name⟩ := id
      obtain ⟨name'⟩ := id'
      rw [show name' = name from hname]
    | _ =>
      unfold message at hletters
      simp at hletters
  | _ => contradiction

/-! ## Declared frames -/

namespace Stack

/-- All frames are declared states. -/
def Declared (a : Automaton) (s : Stack) : Prop :=
  ∀ id ∈ s.frames, a.hasState id = true

section Declared

variable {a : Automaton} {s : Stack} {id : StateId}

theorem Declared.empty : Stack.empty.Declared a := by
  intro id hid
  contradiction

theorem Declared.pop (h : s.Declared a) : s.pop.Declared a :=
  fun id hid => h id (List.mem_of_mem_tail hid)

theorem Declared.push (h : s.Declared a) (hid : a.hasState id = true) : (s.push id).Declared a :=
  List.forall_mem_cons.mpr ⟨hid, h⟩

theorem Declared.replaceTop (h : s.Declared a) (hid : a.hasState id = true) :
    (s.replaceTop id).Declared a :=
  h.pop.push hid

/-- The state on top is declared. -/
theorem Declared.state? (h : s.Declared a) (htop : s.top? = some id) :
    ∃ state, a.state? id = some state :=
  Option.isSome_iff_exists.mp (h id (List.mem_of_head? htop))

theorem exists_top (hne : s.frames ≠ []) : ∃ id, s.top? = some id :=
  Option.isSome_iff_exists.mp (List.isSome_head?.mpr hne)

theorem frames_ne_nil (htop : s.top? = some id) : s.frames ≠ [] := by
  intro hempty
  rw [top?, hempty] at htop
  contradiction

end Declared

end Stack

/-! ## Actions of states -/

/-- The state runs the action, at the site. -/
def State.Runs (s : State) (x : Invocation) : Prop :=
  match x.site with
  | .entry => s.entry = some x.action
  | .exit => s.exit = some x.action
  | .override => ∃ t target, (t, Reaction.goto target (some x.action)) ∈ s.reactions
  | .handler => ∃ t, (t, Reaction.act x.action) ∈ s.reactions

theorem State.Runs.mem_actions {s : State} {x : Invocation} (h : s.Runs x) :
    x.action ∈ s.actions := by
  unfold Runs at h
  unfold actions
  split at h
  · simp [h]
  · simp [h]
  · obtain ⟨t, target, hmem⟩ := h
    apply List.mem_append_right
    exact List.mem_filterMap.mpr ⟨_, hmem, rfl⟩
  · obtain ⟨t, hmem⟩ := h
    apply List.mem_append_right
    exact List.mem_filterMap.mpr ⟨_, hmem, rfl⟩

/-! ## Dispatches in order -/

/-- What is left to do after an action can be done: a target is declared, the action of a
goto belongs to the state that is left, and there is a state to return to. -/
def Resume.Fits (a : Automaton) (stack : Stack) : Resume → Prop
  | .apply | .fall => True
  | .replace target action =>
    a.hasState target = true ∧ ∀ name, action = some name →
      ∃ top s t, stack.top? = some top ∧ a.state? top = some s ∧
        (t, Reaction.goto target (some name)) ∈ s.reactions
  | .arrive target => a.hasState target = true
  | .drop => 1 < stack.size

theorem Resume.fits_replace {a : Automaton} {stack : Stack} {target : StateId}
    (htarget : a.hasState target = true) : (Resume.replace target none).Fits a stack := by
  refine ⟨htarget, ?_⟩
  intro name hname
  contradiction

/-- A dispatch may wait for the action: the state on top runs it, and the dispatch can go
on after it. -/
structure Stack.Waits (a : Automaton) (stack : Stack) (p : Paused) : Prop where
  declared : stack.Declared a
  top : stack.top? = some p.invocation.state
  runs : ∃ s, a.state? p.invocation.state = some s ∧ s.Runs p.invocation
  resume : p.resume.Fits a stack

/-- A dispatch that was told the prompt has come as far as it may. Its failure is the one
that it was told, or a structural violation for a state that it was told and that is not
declared, or a violation that is not structural. -/
inductive Progress.Orderly (a : Automaton) (prompt : Prompt) : Progress → Prop
  | paused {stack : Stack} {p : Paused} (h : stack.Waits a p) :
      Orderly a prompt ⟨stack, .paused p⟩
  | finished {stack : Stack} {status : Status} (hstack : stack.Declared a)
      (hrunning : status = .running → stack.frames ≠ []) :
      Orderly a prompt ⟨stack, .finished status⟩
  | told {stack : Stack} {f : Failure} (hstack : stack.Declared a) (hprompt : prompt = .error f) :
      Orderly a prompt (.fail stack f)
  | unknown {stack : Stack} {id : StateId} (hstack : stack.Declared a)
      (hprompt : prompt = .ok (some id)) (hundeclared : a.hasState id = false) :
      Orderly a prompt (.violate stack (.unknownState id))
  | broken {stack : Stack} {v : Violation} (hstack : stack.Declared a)
      (hv : v.isStructural = false) : Orderly a prompt (.violate stack v)

section Orderly

variable {a : Automaton} {prompt : Prompt} {progress : Progress}

theorem Progress.Orderly.declared (h : progress.Orderly a prompt) : progress.stack.Declared a := by
  cases h with
  | paused h => exact h.declared
  | finished hstack _ | told hstack _ | unknown hstack _ _ | broken hstack _ => exact hstack

theorem Progress.Orderly.waits (h : progress.Orderly a prompt) {p : Paused}
    (hpaused : progress.outcome = .paused p) : progress.stack.Waits a p := by
  cases h with
  | paused hwaits =>
    cases hpaused
    exact hwaits
  | finished _ _ | told _ _ | unknown _ _ _ | broken _ _ => contradiction

theorem Progress.Orderly.frames_ne_nil (h : progress.Orderly a prompt)
    (hrunning : progress.outcome = .finished .running) : progress.stack.frames ≠ [] := by
  cases h with
  | finished _ hne =>
    cases hrunning
    exact hne rfl
  | paused _ | told _ _ | unknown _ _ _ | broken _ _ => contradiction

end Orderly

namespace Engine

section Orderly

variable {en : Engine} {prompt : Prompt} {stack : Stack} {event : Event} {target : StateId}
  {action : Option String}

theorem orderly_enter (hstack : stack.Declared en.automaton) (hne : stack.frames ≠ []) :
    (en.enter stack event).Orderly en.automaton prompt := by
  obtain ⟨top, htop⟩ := Stack.exists_top hne
  obtain ⟨state, hstate⟩ := hstack.state? htop
  simp only [enter, htop, hstate]
  cases hentry : state.entry with
  | none => exact .finished hstack fun _ => hne
  | some name => exact .paused ⟨hstack, htop, ⟨state, hstate, hentry⟩, trivial⟩

theorem orderly_arrive (hstack : stack.Declared en.automaton)
    (htarget : en.automaton.hasState target = true) :
    (en.arrive stack target event).Orderly en.automaton prompt :=
  orderly_enter (hstack.replaceTop htarget) (List.cons_ne_nil _ _)

theorem orderly_replace (hstack : stack.Declared en.automaton)
    (hfits : (Resume.replace target action).Fits en.automaton stack) :
    (en.replace stack target action event).Orderly en.automaton prompt := by
  obtain ⟨htarget, haction⟩ := hfits
  unfold replace
  split
  · exact orderly_arrive hstack htarget
  · rename_i name
    obtain ⟨top, s, t, htop, hs, hmem⟩ := haction name rfl
    simp only [htop]
    exact .paused ⟨hstack, htop, ⟨s, hs, t, target, hmem⟩, htarget⟩

/-- Leaving a state waits for its exit action, if there is one. -/
theorem orderly_leave {resume : Resume} {next : Progress} (hstack : stack.Declared en.automaton)
    (hne : stack.frames ≠ []) (hresume : resume.Fits en.automaton stack)
    (hnext : next.Orderly en.automaton prompt) :
    (en.leave stack event resume next).Orderly en.automaton prompt := by
  obtain ⟨top, htop⟩ := Stack.exists_top hne
  obtain ⟨state, hstate⟩ := hstack.state? htop
  simp only [leave, htop, hstate]
  cases hexit : state.exit with
  | none => exact hnext
  | some name => exact .paused ⟨hstack, htop, ⟨state, hstate, hexit⟩, hresume⟩

theorem orderly_goto (hstack : stack.Declared en.automaton) (hne : stack.frames ≠ [])
    (hfits : (Resume.replace target action).Fits en.automaton stack) :
    (en.goto stack target action event).Orderly en.automaton prompt :=
  orderly_leave hstack hne hfits (orderly_replace hstack hfits)

/-- A state that is not declared is only pushed if somebody has asked for it. -/
theorem orderly_push (hstack : stack.Declared en.automaton) (hne : stack.frames ≠ [])
    (hprompt : en.automaton.hasState target = false → prompt = .ok (some target)) :
    (en.push stack target event).Orderly en.automaton prompt := by
  unfold push
  split
  · rename_i hnone
    have hundeclared : en.automaton.hasState target = false := by simp [Automaton.hasState, hnone]
    exact .unknown hstack (hprompt hundeclared) hundeclared
  · rename_i state hstate
    have htarget : en.automaton.hasState target = true := by simp [Automaton.hasState, hstate]
    split
    · exact orderly_enter (hstack.push htarget) (List.cons_ne_nil _ _)
    · exact orderly_goto hstack hne (Resume.fits_replace htarget)

theorem pop_frames_ne_nil (hsize : 1 < stack.size) : stack.pop.frames ≠ [] := by
  obtain ⟨frames⟩ := stack
  match frames with
  | [] => exact absurd hsize (Nat.not_lt_zero 1)
  | [_] => exact absurd hsize (Nat.lt_irrefl 1)
  | _ :: second :: rest => exact List.cons_ne_nil second rest

theorem orderly_pop (hstack : stack.Declared en.automaton) :
    (en.pop stack event).Orderly en.automaton prompt := by
  unfold pop
  split
  · exact .broken hstack rfl
  · rename_i hsize
    have hsize : 1 < stack.size := Nat.lt_of_not_le hsize
    have hne : stack.frames ≠ [] := List.ne_nil_of_length_pos (Nat.lt_of_succ_lt hsize)
    have hfits : Resume.drop.Fits en.automaton stack := hsize
    exact orderly_leave hstack hne hfits (.finished hstack.pop fun _ => pop_frames_ne_nil hsize)

/-- What a declared state does with an event leads to declared states only. -/
theorem orderly_react (hclosed : en.automaton.Closed) (hstack : stack.Declared en.automaton)
    {top : StateId} {s : State} {t : EventType} {r : Reaction} (htop : stack.top? = some top)
    (hs : en.automaton.state? top = some s) (hr : s.reaction? t = some r) :
    (en.react stack top r event).Orderly en.automaton prompt := by
  have hne : stack.frames ≠ [] := Stack.frames_ne_nil htop
  have hmem : (t, r) ∈ s.reactions := State.mem_of_reaction? hr
  unfold react
  split
  · rename_i target action
    have htarget : en.automaton.hasState target = true := hclosed.target_of_reaction? hs hr rfl
    apply orderly_goto hstack hne
    refine ⟨htarget, ?_⟩
    rintro name rfl
    exact ⟨top, s, t, htop, hs, hmem⟩
  · rename_i target
    have htarget : en.automaton.hasState target = true := hclosed.target_of_reaction? hs hr rfl
    apply orderly_push hstack hne
    intro hundeclared
    rw [htarget] at hundeclared
    contradiction
  · exact .paused ⟨hstack, htop, ⟨s, hs, t, hmem⟩, trivial⟩
  · exact .finished hstack fun _ => hne
  · exact .finished hstack fun _ => hne

/-- An event that falls through meets declared states only. -/
theorem orderly_fallThrough (hclosed : en.automaton.Closed) {frames : List StateId}
    (hframes : Stack.Declared en.automaton ⟨frames⟩) :
    (en.fallThrough event frames).Orderly en.automaton prompt := by
  induction frames with
  | nil =>
    unfold fallThrough
    split
    · exact .finished .empty nofun
    · exact .broken .empty rfl
  | cons top rest ih =>
    have hrest : Stack.Declared en.automaton ⟨rest⟩ := hframes.pop
    have htop : Stack.top? ⟨top :: rest⟩ = some top := rfl
    obtain ⟨s, hs⟩ := hframes.state? htop
    have hleft {name : String} (hexit : s.exit = some name) :
        Progress.Orderly en.automaton prompt
          (.pause ⟨top :: rest⟩ name .exit top event .fall) :=
      .paused ⟨hframes, rfl, ⟨s, hs, hexit⟩, trivial⟩
    unfold fallThrough
    simp only [hs]
    split
    · exact .finished hframes fun _ => List.cons_ne_nil _ _
    · split
      · exact .broken hframes rfl
      · split
        · rename_i hexit
          exact hleft hexit
        · exact ih hrest
    · split
      · exact .broken hframes rfl
      · split
        · rename_i hexit
          exact hleft hexit
        · exact ih hrest
    · rename_i r _ _ hr
      exact orderly_react hclosed hframes htop hs hr

/-- An instruction to move needs a frame, and leads to a state that is declared or that
the event has asked for. -/
theorem orderly_deliver (hclosed : en.automaton.Closed) (hstack : stack.Declared en.automaton)
    (hprompt : prompt = .ok event.target) (hne : event.target ≠ none → stack.frames ≠ []) :
    (en.deliver stack event).Orderly en.automaton prompt := by
  cases event with
  | message type payload => exact orderly_fallThrough hclosed hstack
  | goto target =>
    have hne : stack.frames ≠ [] := hne nofun
    have hempty : stack.isEmpty = false := by simpa [Stack.isEmpty] using hne
    simp only [deliver, hempty, Bool.false_eq_true, if_false]
    cases hstate : en.automaton.state? target with
    | none => exact .unknown hstack hprompt (by simp [Automaton.hasState, hstate])
    | some state =>
      have htarget : en.automaton.hasState target = true := by simp [Automaton.hasState, hstate]
      exact orderly_goto hstack hne (Resume.fits_replace htarget)

theorem orderly_apply (hclosed : en.automaton.Closed) (hstack : stack.Declared en.automaton)
    (hne : stack.frames ≠ []) {t : Transition} (hprompt : prompt = .ok t.target?) :
    (en.apply stack event t).Orderly en.automaton prompt := by
  cases t with
  | stay => exact .finished hstack fun _ => hne
  | raise raised => exact orderly_deliver hclosed hstack hprompt fun _ => hne
  | goto target =>
    have hgoto : (en.deliver stack (.goto target)).Orderly en.automaton prompt :=
      orderly_deliver hclosed hstack hprompt fun _ => hne
    exact hgoto
  | push target => exact orderly_push hstack hne fun _ => hprompt
  | pop => exact orderly_pop hstack

theorem orderly_proceed (hclosed : en.automaton.Closed) (hstack : stack.Declared en.automaton)
    (hne : stack.frames ≠ []) {resume : Resume} (hfits : resume.Fits en.automaton stack) :
    (en.proceed stack event resume).Orderly en.automaton prompt := by
  cases resume with
  | apply => exact .finished hstack fun _ => hne
  | replace target action => exact orderly_replace hstack hfits
  | arrive target => exact orderly_arrive hstack hfits
  | fall => exact orderly_fallThrough hclosed hstack.pop
  | drop => exact .finished hstack.pop fun _ => pop_frames_ne_nil hfits

/-- Whatever an action answers, its dispatch goes on in order. -/
theorem orderly_answer (hclosed : en.automaton.Closed) {p : Paused}
    (h : stack.Waits en.automaton p) (reply : Except Failure Transition) :
    (en.answer stack p reply).Orderly en.automaton (.ofReply reply) := by
  have hne : stack.frames ≠ [] := Stack.frames_ne_nil h.top
  unfold answer
  split
  · exact .told h.declared rfl
  · split
    · exact orderly_apply hclosed h.declared hne rfl
    · split
      · exact orderly_proceed hclosed h.declared hne h.resume
      · refine .broken h.declared ?_
        cases p.invocation.site <;> rfl

theorem orderly_start (hclosed : en.automaton.Closed) :
    (en.start .empty event).Orderly en.automaton prompt := by
  have hstart : en.start .empty event = en.enter (Stack.empty.push en.automaton.start) event := rfl
  rw [hstart]
  exact orderly_enter (Stack.Declared.empty.push hclosed.start) (List.cons_ne_nil _ _)

end Orderly

end Engine

/-! ## What can go wrong -/

section Failures

variable {a : Automaton} {prompt : Prompt} {progress : Progress} {f : Failure}

/-- A dispatch that fails was told its failure, or it fails by a violation of its own.
Only if it was told a state that is not declared, this is a structural one. -/
theorem Progress.Orderly.failure (h : progress.Orderly a prompt)
    (hf : progress.outcome = .failed f) :
    (∃ g, prompt = .error g ∧ f = g.inState progress.stack.top?) ∨
      ∃ v : Violation, f.message = v.message ∧ (v.isStructural = true →
        ∃ id, v = .unknownState id ∧ prompt = .ok (some id) ∧ a.hasState id = false) := by
  cases h with
  | paused _ | finished _ _ => contradiction
  | told hstack hprompt =>
    cases hf
    exact .inl ⟨_, hprompt, rfl⟩
  | @unknown stack id hstack hprompt hundeclared =>
    cases hf
    exact .inr ⟨.unknownState id, rfl, fun _ => ⟨id, rfl, hprompt, hundeclared⟩⟩
  | @broken stack v hstack hv =>
    cases hf
    refine .inr ⟨v, rfl, ?_⟩
    intro hstructural
    rw [hv] at hstructural
    contradiction

/-- A failure with the message of a structural violation was told, or it is about a state
that was asked for and is not declared. -/
theorem Progress.Orderly.of_structural (h : progress.Orderly a prompt)
    (hf : progress.outcome = .failed f) {v : Violation} (hv : v.isStructural = true)
    (hmessage : f.message = v.message) :
    (∃ g, prompt = .error g ∧ f = g.inState progress.stack.top?) ∨
      ∃ id, v = .unknownState id ∧ prompt = .ok (some id) ∧ a.hasState id = false := by
  rcases h.failure hf with htold | ⟨v', hv', hstructural⟩
  · exact .inl htold
  · obtain rfl : v' = v := Violation.eq_of_message_eq hv (hv'.symm.trans hmessage)
    exact .inr (hstructural hv)

/-- A dispatch keeps to the declaration: its frames are declared states, it waits for
actions of declared states only, and a state is unknown to it only if it was asked for. A
failure that an action has told is passed on, whatever it says. -/
structure Progress.Confined (a : Automaton) (prompt : Prompt) (progress : Progress) : Prop where
  frames : progress.stack.Declared a
  action {p : Paused} (hpaused : progress.outcome = .paused p) :
    ∃ s, a.state? p.invocation.state = some s ∧ s.Runs p.invocation
  unknown {f : Failure} {id : StateId} (hf : progress.outcome = .failed f)
    (hmessage : f.message = (Violation.unknownState id).message) :
    (∃ g, prompt = .error g ∧ f = g.inState progress.stack.top?) ∨
      prompt = .ok (some id) ∧ a.hasState id = false

theorem Progress.Orderly.confined (h : progress.Orderly a prompt) : progress.Confined a prompt where
  frames := h.declared
  action := fun hpaused => (h.waits hpaused).runs
  unknown := by
    intro f id hf hmessage
    rcases h.of_structural hf rfl hmessage with htold | ⟨id', hid, hprompt, hundeclared⟩
    · exact .inl htold
    · cases hid
      exact .inr ⟨hprompt, hundeclared⟩

end Failures

/-! ## Engines in use -/

/-- The moments of an engine that is used in any way. A call comes when the one before has
ended, well or not, and the actions that it runs answer anything. -/
inductive Engine.Used (en : Engine) : Prompt → Progress → Prop
  | fresh : Used en (.ok none) (.finish .empty .halted)
  | start {prompt : Prompt} {stack : Stack} {outcome : Outcome}
      (h : Used en prompt ⟨stack, outcome⟩) (hended : ∀ p, outcome ≠ .paused p) (event : Event) :
      Used en (.ok event.target) (en.start stack event)
  | handle {prompt : Prompt} {stack : Stack} {outcome : Outcome}
      (h : Used en prompt ⟨stack, outcome⟩) (hended : ∀ p, outcome ≠ .paused p) (event : Event) :
      Used en (.ok event.target) (en.handle stack event)
  | answer {prompt : Prompt} {stack : Stack} {p : Paused} (h : Used en prompt ⟨stack, .paused p⟩)
      (reply : Except Failure Transition) : Used en (.ofReply reply) (en.answer stack p reply)

/-- A call that is not to be made at all is refused at once: a second start, or an
instruction to move where no frame is. -/
inductive Progress.Refused (a : Automaton) : Progress → Prop
  | refused {stack : Stack} {f : Failure} {v : Violation} (hstack : stack.Declared a)
      (hv : v = .alreadyStarted ∨ v = .emptyStack) (hf : f.message = v.message) :
      Refused a ⟨stack, .failed f⟩

theorem Progress.Refused.confined {a : Automaton} {progress : Progress} (h : progress.Refused a)
    (prompt : Prompt) : progress.Confined a prompt := by
  obtain @⟨stack, f, v, hstack, hv, hf⟩ := h
  refine ⟨hstack, nofun, ?_⟩
  rintro _ id ⟨⟩ hmessage
  have hunknown : v = .unknownState id := Violation.eq_of_message_eq rfl (hf.symm.trans hmessage)
  rcases hv with rfl | rfl <;> contradiction

namespace Engine

variable {en : Engine} {prompt : Prompt} {progress : Progress} {stack : Stack} {event : Event}

theorem start_orderly_or_refused (hclosed : en.automaton.Closed)
    (hstack : stack.Declared en.automaton) (prompt : Prompt) :
    (en.start stack event).Orderly en.automaton prompt ∨
      (en.start stack event).Refused en.automaton := by
  obtain ⟨frames⟩ := stack
  cases frames with
  | nil => exact .inl (orderly_start hclosed)
  | cons top rest => exact .inr (.refused hstack (.inl rfl) rfl)

theorem handle_orderly_or_refused (hclosed : en.automaton.Closed)
    (hstack : stack.Declared en.automaton) :
    (en.handle stack event).Orderly en.automaton (.ok event.target) ∨
      (en.handle stack event).Refused en.automaton := by
  by_cases hne : stack.frames = []
  · cases event with
    | message => exact .inl (orderly_deliver hclosed hstack rfl fun h => absurd rfl h)
    | goto target =>
      right
      have hempty : stack.isEmpty = true := by simp [Stack.isEmpty, hne]
      simp only [handle, deliver, hempty, if_true]
      exact .refused hstack (.inr rfl) rfl
  · exact .inl (orderly_deliver hclosed hstack rfl fun _ => hne)

theorem Used.orderly_or_refused (hclosed : en.automaton.Closed) (h : en.Used prompt progress) :
    progress.Orderly en.automaton prompt ∨ progress.Refused en.automaton := by
  have hdeclared {prompt : Prompt} {progress : Progress}
      (h : progress.Orderly en.automaton prompt ∨ progress.Refused en.automaton) :
      progress.stack.Declared en.automaton := by
    rcases h with horderly | ⟨hstack, _, _⟩
    · exact horderly.declared
    · exact hstack
  induction h with
  | fresh => exact .inl (.finished .empty nofun)
  | start _ _ event ih => exact start_orderly_or_refused hclosed (hdeclared ih) _
  | handle _ _ event ih => exact handle_orderly_or_refused hclosed (hdeclared ih)
  | answer _ reply ih =>
    rcases ih with horderly | hrefused
    · cases horderly with
      | paused hwaits => exact .inl (orderly_answer hclosed hwaits reply)
    · cases hrefused

/-- In every use of an engine each dispatch keeps to the declaration. -/
theorem Used.confined (hclosed : en.automaton.Closed) (h : en.Used prompt progress) :
    progress.Confined en.automaton prompt := by
  rcases h.orderly_or_refused hclosed with horderly | hrefused
  · exact horderly.confined
  · exact hrefused.confined prompt

/-- Whoever runs the actions, a run leads from one moment to another. -/
theorem Used.run {invoke : ι → Invocation → Except Failure Transition × ι} {fuel : Nat} {i i' : ι}
    {result : Except Failure Status} (h : en.Used prompt progress)
    (hrun : en.run invoke fuel i progress = some (stack, result, i')) :
    ∃ prompt' outcome, en.Used prompt' ⟨stack, outcome⟩ ∧ ∀ p, outcome ≠ .paused p := by
  fun_induction Engine.run en invoke fuel i progress generalizing prompt with
  | case1 _ i reached status =>
    cases hrun
    exact ⟨_, _, h, nofun⟩
  | case2 _ i reached f =>
    cases hrun
    exact ⟨_, _, h, nofun⟩
  | case3 => contradiction
  | case4 i fuel reached p reply next hreply ih => exact ih (h.answer reply) hrun

end Engine

end PushdownActors
