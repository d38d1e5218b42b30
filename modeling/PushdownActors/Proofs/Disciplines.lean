-- SUMMARY: Without pushes the two disciplines are the same, up to the first event that a single state refuses.
import PushdownActors.Proofs.SingleState

/-!
# Disciplines

An automaton can be run with a stack of states or with a single one. If nothing ever
pushes, the stack has one frame as well, and it can be asked what difference is left. It
is in one place only: an event that the state neither handles nor ignores. With a single
state that is a violation, and nothing more is done. With a stack the frame is left like
any other, its exit action runs, and beneath it there is no frame: the event halts the
automaton if it is `Halt`, and is a violation otherwise.

Up to there both run the same actions in the same order, and give the same answers; that
includes raised events, instructions to move, and calls that fail for other reasons or
never come to an end.
-/

namespace PushdownActors

variable {a : Automaton} {id : StateId} {event : Event} {stack : Stack}

/-! ## Automata without pushes -/

/-- No state pushes. -/
def Automaton.Pushless (a : Automaton) : Prop :=
  ∀ s ∈ a.states, ∀ t target, (t, Reaction.push target) ∉ s.reactions

/-- What is built from a declaration pushes only where that is declared. -/
theorem Automaton.pushless_of_build {type : String} {kind : Kind} {d : Declaration}
    (hbuild : build type kind d = .ok a) (hdeclared : ∀ id s, (id, s) ∈ d.flatten → s.pushes = []) :
    a.Pushless := by
  intro s hs t target hpush
  obtain ⟨id, spec, hmem, hbuilt⟩ := mem_buildStates (build_eq_ok hbuild).1 hs
  obtain ⟨_, rfl⟩ := buildState_eq_ok hbuilt
  simp [StateSpec.claims, hdeclared id spec hmem] at hpush

theorem Automaton.Pushless.reaction?_ne (h : a.Pushless) {s : State} (hs : a.state? id = some s)
    {t : EventType} {target : StateId} : s.reaction? t ≠ some (.push target) :=
  fun hr => h s (mem_of_state? hs) t target (State.mem_of_reaction? hr)

/-! ## Refusals -/

/-- The failure of an automaton with a single state that refuses an event. -/
def Failure.unhandled (t : EventType) (id : StateId) : Failure :=
  (Violation.monitorUnhandledEvent t id).toFailure.inState (some id)

/-- The failure is that of a state that refuses an event. -/
def Failure.IsUnhandled (f : Failure) : Prop := ∃ t id, f = .unhandled t id

/-- The violation is one by which a dispatch can fail that does not push and has met no
event that it does not handle. -/
def Violation.isCommon : Violation → Bool
  | popEmptiesStack | transitionInExit | transitionInOverride | unknownState _ => true
  | _ => false

/-- The message of a refusal tells it from other failures. -/
theorem Violation.not_isUnhandled {v : Violation} (hv : v.isCommon = true)
    (state : Option StateId) : ¬ (v.toFailure.inState state).IsUnhandled := by
  rintro ⟨t, id, heq⟩
  have hmessage : v.message = (monitorUnhandledEvent t id).message := congrArg Failure.message heq
  have hletters := congrArg String.toList hmessage
  cases v with
  | popEmptiesStack | transitionInExit | transitionInOverride | unknownState =>
    unfold message at hletters
    simp at hletters
  | _ => contradiction

/-! ## One dispatch under both disciplines -/

/-- Where a dispatch stands under the single discipline, and where it stands under the
stack discipline. Only what an action has told may fail like a refused event; `told` says
which failures are of that kind. -/
inductive Progress.Agree (a : Automaton) (told : Failure → Prop) : Progress → Progress → Prop
  | same {progress : Progress} (hlone : progress.Lone a)
      (htold : ∀ f, progress.outcome = .failed f → f.IsUnhandled → told f) :
      Agree a told progress progress
  | parted {event : Event} {id : StateId} (hpasses : a.Passes event.type id) :
      Agree a told (.violate ⟨[id]⟩ (.monitorUnhandledEvent event.type id))
        ((Engine.mk a .stack).fallThrough event [id])

section Agree

variable {told : Failure → Prop} {progress : Progress}

theorem Progress.Steady.agree (h : progress.Steady a) : progress.Agree a told progress := by
  refine .same h.lone ?_
  intro f hfailed
  cases h with
  | paused | finished => contradiction

theorem Stack.Lone.agree_violate (h : stack.Lone a) {v : Violation} (hv : v.isCommon = true) :
    (Progress.violate stack v).Agree a told (.violate stack v) := by
  refine .same (.failed h) ?_
  rintro f ⟨⟩ hunhandled
  exact absurd hunhandled (Violation.not_isUnhandled hv _)

theorem Stack.Lone.agree_finish (h : stack.Lone a) :
    (Progress.finish stack .running).Agree a told (.finish stack .running) :=
  Progress.Steady.agree (.finished h)

namespace Engine

theorem agree_start (hclosed : a.Closed) :
    ((Engine.mk a .single).start .empty event).Agree a told
      ((Engine.mk a .stack).start .empty event) :=
  (steady_start ⟨a, .single⟩ hclosed).agree

/-- The reactions that are left do the same with one frame and with several. -/
theorem agree_react (hclosed : a.Closed) (hpushless : a.Pushless) (hid : a.hasState id = true)
    {s : State} {t : EventType} {r : Reaction} (hs : a.state? id = some s)
    (hr : s.reaction? t = some r) :
    ((Engine.mk a .single).react ⟨[id]⟩ id r event).Agree a told
      ((Engine.mk a .stack).react ⟨[id]⟩ id r event) := by
  have hstack : Stack.Lone a ⟨[id]⟩ := .of_hasState hid
  cases r with
  | goto target action =>
    have htarget : a.hasState target = true := hclosed.target_of_reaction? hs hr rfl
    exact (steady_goto ⟨a, .single⟩ hstack htarget action).agree
  | push target => exact absurd hr (hpushless.reaction?_ne hs)
  | act action =>
    have hsteady : (Progress.pause ⟨[id]⟩ action .handler id event .apply).Steady a :=
      .paused hstack trivial
    exact hsteady.agree
  | ignore | defer => exact hstack.agree_finish

/-- An event that the state neither handles nor ignores is where the ways part. -/
theorem agree_deliver (hclosed : a.Closed) (hpushless : a.Pushless) (hstack : stack.Lone a) :
    ((Engine.mk a .single).deliver stack event).Agree a told
      ((Engine.mk a .stack).deliver stack event) := by
  have ⟨id, hframes, hid⟩ := hstack
  subst hframes
  cases event with
  | message type payload =>
    let event : Event := .message type payload
    show ((Engine.mk a .single).fallThrough event [id]).Agree a told
      ((Engine.mk a .stack).fallThrough event [id])
    rcases Automaton.meets event.type hid with hpasses | hignores | ⟨s, r, hs, hr, hhandles⟩
    · rw [fallThrough_single ⟨a, .single⟩ rfl hpasses]
      exact .parted hpasses
    · have hdropped (discipline : Discipline) :
          (Engine.mk a discipline).fallThrough event [id] = Progress.finish ⟨[id]⟩ .running :=
        fallThrough_of_ignores hignores
      rw [hdropped, hdropped]
      exact hstack.agree_finish
    · rw [fallThrough_of_handles ⟨a, .single⟩ hs hr hhandles,
        fallThrough_of_handles ⟨a, .stack⟩ hs hr hhandles]
      exact agree_react hclosed hpushless hid hs hr
  | goto target =>
    simp only [deliver, Stack.isEmpty, List.isEmpty_cons, Bool.false_eq_true, if_false]
    cases hstate : a.state? target with
    | none => exact hstack.agree_violate rfl
    | some state =>
      have htarget : a.hasState target = true := by simp [Automaton.hasState, hstate]
      exact (steady_goto ⟨a, .single⟩ hstack htarget none).agree

theorem agree_apply (hclosed : a.Closed) (hpushless : a.Pushless) (hstack : stack.Lone a)
    {t : Transition} (ht : ∀ target, t ≠ .push target) :
    ((Engine.mk a .single).apply stack event t).Agree a told
      ((Engine.mk a .stack).apply stack event t) := by
  cases t with
  | stay => exact hstack.agree_finish
  | raise raised => exact agree_deliver hclosed hpushless hstack
  | goto target =>
    have hgoto : ((Engine.mk a .single).deliver stack (.goto target)).Agree a told
        ((Engine.mk a .stack).deliver stack (.goto target)) :=
      agree_deliver hclosed hpushless hstack
    exact hgoto
  | push target => exact absurd rfl (ht target)
  | pop =>
    obtain ⟨id, rfl, hid⟩ := hstack
    exact Stack.Lone.agree_violate (.of_hasState hid) rfl

theorem agree_proceed (hstack : stack.Lone a) {resume : Resume} (hresume : resume.Lone a) :
    ((Engine.mk a .single).proceed stack event resume).Agree a told
      ((Engine.mk a .stack).proceed stack event resume) := by
  have hsteady : ((Engine.mk a .single).proceed stack event resume).Steady a :=
    steady_proceed ⟨a, .single⟩ hstack hresume
  cases resume with
  | apply | replace | arrive => exact hsteady.agree
  | fall | drop => exact hresume.elim

/-- After an action that does not ask for a push, the dispatch agrees again. -/
theorem agree_answer (hclosed : a.Closed) (hpushless : a.Pushless) (hstack : stack.Lone a)
    {p : Paused} (hresume : p.resume.Lone a) {reply : Except Failure Transition}
    (hreply : ∀ target, reply ≠ .ok (.push target)) :
    ((Engine.mk a .single).answer stack p reply).Agree a
      (fun f => ∃ g, reply = .error g ∧ f = g.inState stack.top?)
      ((Engine.mk a .stack).answer stack p reply) := by
  cases reply with
  | error g =>
    refine .same (.failed hstack) ?_
    rintro f ⟨⟩ _
    exact ⟨g, rfl, rfl⟩
  | ok t =>
    have ht (target : StateId) : t ≠ .push target := fun heq => hreply target (heq ▸ rfl)
    unfold answer
    split
    · contradiction
    · rename_i heq
      cases heq
      split
      · exact agree_apply hclosed hpushless hstack ht
      · split
        · exact agree_proceed hstack hresume
        · refine hstack.agree_violate ?_
          cases p.invocation.site <;> rfl

end Engine

end Agree

/-! ## Whole calls -/

namespace Engine

variable {invoke : ι → Invocation → Except Failure Transition × ι}

/-- What is left of an event that no frame has handled: `Halt` halts, and any other event
is a violation. -/
def ending (event : Event) : Except Failure Status :=
  if event.isHalt then .ok .halted else .error (Violation.unhandledEvent event.type).toFailure

/-- What comes of a call under the single discipline, where at most `fuel` actions are run
from `state` on, and what comes of it under the stack discipline. -/
inductive Twin (a : Automaton) (invoke : ι → Invocation → Except Failure Transition × ι)
    (fuel : Nat) (state : ι × List Invocation) (single stack : Progress) : Prop
  /-- The call is still under way. So far the same actions have been run, and the next one is
  the same as well. -/
  | endless {s : Stack} {p : Paused} {i : ι} {log : List Invocation}
      (hsingle : (Engine.mk a .single).advance (logged invoke) fuel state single
        = (⟨s, .paused p⟩, (i, log)))
      (hstack : (Engine.mk a .stack).advance (logged invoke) fuel state stack
        = (⟨s, .paused p⟩, (i, log)))
      (hlone : s.Lone a)
  /-- The call comes to the same end, with the same actions run. If it fails like a refused
  event, the failure is that of its last action. -/
  | same {s : Stack} {result : Except Failure Status} {i : ι} {log : List Invocation}
      (hsingle : (Engine.mk a .single).run (logged invoke) fuel state single
        = some (s, result, (i, log)))
      (hstack : (Engine.mk a .stack).run (logged invoke) fuel state stack
        = some (s, result, (i, log)))
      (hlone : s.Lone a) (hhalted : result ≠ .ok .halted)
      (htold : ∀ f, result = .error f → f.IsUnhandled → ∃ before x j g, log = before ++ [x] ∧
        (invoke j x).1 = .error g ∧ f = g.inState s.top?)
  /-- The call meets an event that the state neither handles nor ignores. The one discipline
  refuses it; the other goes on to leave the frame, and has none afterwards. -/
  | parted {event : Event} {id : StateId} {i : ι} {log : List Invocation}
      (hpasses : a.Passes event.type id)
      (hsingle : (Engine.mk a .single).run (logged invoke) fuel state single
        = some (⟨[id]⟩, .error (.unhandled event.type id), (i, log)))
      (hstack : (∀ x ∈ a.exits event [id], (invoke i x).1 = .ok .stay) →
        ∃ i', (Engine.mk a .stack).run (logged invoke) (fuel + 1) state stack
          = some (.empty, ending event, (i', log ++ a.exits event [id])))

/-- Beneath the only frame there is nothing to deliver to. -/
theorem run_fallThrough_nil {en : Engine} {fuel : Nat} {i : ι} {log : List Invocation} :
    en.run (logged invoke) fuel (i, log) (en.fallThrough event [])
      = some (.empty, ending event, (i, log)) := by
  unfold fallThrough ending
  split
  · exact run_finished
  · exact run_failed

/-- With a stack, an event that the only frame neither handles nor ignores empties the
stack, if the exit action lets it. -/
theorem run_fallThrough_only (hpasses : a.Passes event.type id) {fuel : Nat} {i : ι}
    {log : List Invocation} (hexits : ∀ x ∈ a.exits event [id], (invoke i x).1 = .ok .stay) :
    ∃ i', (Engine.mk a .stack).run (logged invoke) (fuel + 1) (i, log)
        ((Engine.mk a .stack).fallThrough event [id])
      = some (.empty, ending event, (i', log ++ a.exits event [id])) := by
  obtain ⟨s, hs, hhandles, hignores⟩ := hpasses
  have hpass : (Engine.mk a .stack).fallThrough event [id] = _ :=
    fallThrough_of_passes hs hhandles hignores
  rw [hpass]
  cases hexit : s.exit with
  | none =>
    rw [Automaton.exits_cons_of_none hs hexit, Automaton.exits_nil, List.append_nil]
    exact ⟨i, run_fallThrough_nil⟩
  | some action =>
    let x : Invocation := ⟨action, .exit, id, event⟩
    have hx : a.exits event [id] = [x] := Automaton.exits_cons_of_some hs hexit
    rw [hx] at hexits ⊢
    have hstay : (invoke i x).1 = .ok .stay := hexits x List.mem_cons_self
    have hanswer : (Engine.mk a .stack).answer ⟨[id]⟩ ⟨x, .fall⟩ (invoke i x).1
        = (Engine.mk a .stack).fallThrough event [] := by rw [hstay]; rfl
    refine ⟨(invoke i x).2, ?_⟩
    simp only [Progress.pause, run, logged]
    rw [hanswer]
    exact run_fallThrough_nil

section Twin

variable {told : Failure → Prop} {fuel : Nat} {i : ι} {log : List Invocation}
  {single stack : Progress}

/-- Where both disciplines agree, the call has come to its end, or they part, or it waits
for an action. -/
theorem twin_of_agree_of_paused (h : single.Agree a told stack)
    (htold : ∀ f, told f → ∃ before x j g, log = before ++ [x] ∧ (invoke j x).1 = .error g ∧
      f = g.inState single.stack.top?)
    (hpaused : ∀ s p, s.Lone a → p.resume.Lone a → single = ⟨s, .paused p⟩ →
      stack = ⟨s, .paused p⟩ → Twin a invoke fuel (i, log) single stack) :
    Twin a invoke fuel (i, log) single stack := by
  cases h with
  | parted hpasses => exact .parted hpasses run_failed (run_fallThrough_only hpasses)
  | same hlone hagree =>
    cases hlone with
    | paused hstack hresume => exact hpaused _ _ hstack hresume rfl rfl
    | finished hstack => exact .same run_finished run_finished hstack nofun nofun
    | failed hstack =>
      refine .same run_failed run_failed hstack nofun ?_
      rintro _ ⟨⟩ hunhandled
      exact htold _ (hagree _ rfl hunhandled)

/-- The action that a call waits for is run under both disciplines. -/
theorem Twin.of_answer {s : Stack} {p : Paused}
    (h : Twin a invoke fuel ((invoke i p.invocation).2, log ++ [p.invocation])
      ((Engine.mk a .single).answer s p (invoke i p.invocation).1)
      ((Engine.mk a .stack).answer s p (invoke i p.invocation).1)) :
    Twin a invoke (fuel + 1) (i, log) ⟨s, .paused p⟩ ⟨s, .paused p⟩ := by
  cases h with
  | endless hsingle hstack hlone => exact .endless hsingle hstack hlone
  | same hsingle hstack hlone hhalted htold => exact .same hsingle hstack hlone hhalted htold
  | parted hpasses hsingle hstack => exact .parted hpasses hsingle hstack

/-- Every action that is run leads to where the disciplines agree again, or to where they
part. -/
theorem twin_of_agree (hclosed : a.Closed) (hpushless : a.Pushless)
    (hinvoke : ∀ i x target, (invoke i x).1 ≠ .ok (.push target))
    (h : single.Agree a told stack)
    (htold : ∀ f, told f → ∃ before x j g, log = before ++ [x] ∧ (invoke j x).1 = .error g ∧
      f = g.inState single.stack.top?) :
    Twin a invoke fuel (i, log) single stack := by
  induction fuel generalizing i log single stack told with
  | zero =>
    apply twin_of_agree_of_paused h htold
    rintro s p hstack - rfl rfl
    exact .endless rfl rfl hstack
  | succ fuel ih =>
    apply twin_of_agree_of_paused h htold
    rintro s p hstack hresume rfl rfl
    apply Twin.of_answer
    apply ih (agree_answer hclosed hpushless hstack hresume (hinvoke i p.invocation))
    rintro f ⟨g, hreply, rfl⟩
    refine ⟨log, p.invocation, i, g, rfl, hreply, ?_⟩
    rw [hreply]
    rfl

end Twin

/-- A start on an empty stack, and then one event after the other, whatever comes of the
calls: the results so far, the stack after the last of them, and the log. -/
inductive Calls (en : Engine) (invoke : ι → Invocation → Except Failure Transition × ι) (i₀ : ι)
    (first : Event) :
    List Event → List (Except Failure Status) → Stack → ι → List Invocation → Prop
  | start {fuel : Nat} {stack : Stack} {result : Except Failure Status} {i : ι}
      {log : List Invocation}
      (hrun : en.run (logged invoke) fuel (i₀, []) (en.start .empty first)
        = some (stack, result, (i, log))) :
      Calls en invoke i₀ first [] [result] stack i log
  | handle {events : List Event} {event : Event} {results : List (Except Failure Status)}
      {fuel : Nat} {stack stack' : Stack} {result : Except Failure Status} {i i' : ι}
      {log log' : List Invocation} (h : Calls en invoke i₀ first events results stack i log)
      (hrun : en.run (logged invoke) fuel (i, log) (en.handle stack event)
        = some (stack', result, (i', log'))) :
      Calls en invoke i₀ first (events ++ [event]) (results ++ [result]) stack' i' log'

/-- A call that does not refuse an event is the same under both disciplines. -/
theorem Twin.stack_of_single {fuel : Nat} {state : ι × List Invocation} {single stack : Progress}
    {s : Stack} {result : Except Failure Status} {i : ι} {log : List Invocation}
    (h : Twin a invoke fuel state single stack)
    (hrun : (Engine.mk a .single).run (logged invoke) fuel state single
      = some (s, result, (i, log)))
    (hresult : ∀ f, result = .error f → ¬ f.IsUnhandled) :
    (Engine.mk a .stack).run (logged invoke) fuel state stack = some (s, result, (i, log)) ∧
      s.Lone a ∧ result ≠ .ok .halted := by
  cases h with
  | endless hsingle =>
    rw [run_eq_advance, hsingle] at hrun
    contradiction
  | same hsingle hstack hlone hhalted htold =>
    cases hsingle.symm.trans hrun
    exact ⟨hstack, hlone, hhalted⟩
  | parted hpasses hsingle hstack =>
    cases hsingle.symm.trans hrun
    exact absurd ⟨_, _, rfl⟩ (hresult _ rfl)

end Engine

/-! ## A lamp

A lamp that is switched on, and that says nothing about anything else while it is on. -/

namespace Lamp

def off : StateSpec :=
  (({ name := "Off" } : StateSpec).asStart.withExit "click").onGoto "Switch" "On"

def on : StateSpec := (({ name := "On" } : StateSpec).withEntry "shine").withExit "click"

def declaration : Declaration := (({} : Declaration).state off).state on

def automaton : Automaton where
  name := "Lamp"
  kind := .monitor
  states :=
    [{ id := ⟨"Off"⟩, entry := none, exit := some "click",
       reactions := [(⟨"Switch"⟩, .goto ⟨"On"⟩ none)], hot := false, cold := false },
     { id := ⟨"On"⟩, entry := some "shine", exit := some "click", reactions := [],
       hot := false, cold := false }]
  start := ⟨"Off"⟩
  declaration := declaration

def engine (discipline : Discipline) : Engine := ⟨automaton, discipline⟩

/-- No action asks for anything. -/
def obey (_ : Unit) (_ : Invocation) : Except Failure Transition × Unit := (.ok .stay, ())

def start : Event := .start none

def switch : Event := .message ⟨"Switch"⟩ none

def log : List Invocation :=
  [⟨"click", .exit, ⟨"Off"⟩, switch⟩, ⟨"shine", .entry, ⟨"On"⟩, switch⟩]

theorem built : Automaton.build "Lamp" .monitor declaration = .ok automaton := rfl

theorem pushless : ∀ id s, (id, s) ∈ declaration.flatten → s.pushes = [] := by
  intro id s hs
  rcases List.mem_cons.mp hs with heq | hs
  · cases heq
    rfl
  · cases List.mem_singleton.mp hs
    rfl

theorem obey_ne_push : ∀ i x target, (obey i x).1 ≠ .ok (.push target) := nofun

/-- The lamp is switched on. -/
theorem calls :
    (engine .single).Calls obey () start [switch] [.ok .running, .ok .running] ⟨[⟨"On"⟩]⟩ ()
      log := by
  have hstart : (engine .single).run (Engine.logged obey) 0 ((), [])
      ((engine .single).start .empty start) = some (⟨[⟨"Off"⟩]⟩, .ok .running, ((), [])) := rfl
  have hswitch : (engine .single).run (Engine.logged obey) 2 ((), [])
      ((engine .single).handle ⟨[⟨"Off"⟩]⟩ switch)
    = some (⟨[⟨"On"⟩]⟩, .ok .running, ((), log)) := rfl
  exact (Engine.Calls.start hstart).handle hswitch

end Lamp

/-! ## Results -/

namespace Engine

/-- For an automaton that does not push, with actions that do not ask for a push, both
disciplines make the same of every call, up to the first event that the state neither
handles nor ignores. Until then the same actions are run, the results and the stack are
the same, and the stack has one frame. The event itself is refused by the single state;
with a stack the frame is left, and the automaton has halted if the event is `Halt`, and
has failed otherwise. -/
theorem stack_calls_of_single {type : String} {kind : Kind} {d : Declaration}
    (hbuild : Automaton.build type kind d = .ok a)
    (hpushes : ∀ id s, (id, s) ∈ d.flatten → s.pushes = [])
    {invoke : ι → Invocation → Except Failure Transition × ι}
    (hinvoke : ∀ i x target, (invoke i x).1 ≠ .ok (.push target)) (i₀ : ι) (first : Event) :
    (∀ fuel, Twin a invoke fuel (i₀, []) ((Engine.mk a .single).start .empty first)
      ((Engine.mk a .stack).start .empty first)) ∧
    ∀ {events : List Event} {results : List (Except Failure Status)} {stack : Stack} {i : ι}
      {log : List Invocation},
      (Engine.mk a .single).Calls invoke i₀ first events results stack i log →
      (∀ f, .error f ∈ results → ¬ f.IsUnhandled) →
        (Engine.mk a .stack).Calls invoke i₀ first events results stack i log ∧
        stack.Lone a ∧ .ok .halted ∉ results ∧
        ∀ event fuel, Twin a invoke fuel (i, log) ((Engine.mk a .single).handle stack event)
          ((Engine.mk a .stack).handle stack event) := by
  have hclosed : a.Closed := Automaton.closed_of_build hbuild
  have hpushless : a.Pushless := Automaton.pushless_of_build hbuild hpushes
  have htwin {told : Failure → Prop} (htold : ∀ f, ¬ told f) {single stack : Progress}
      (h : single.Agree a told stack) (fuel : Nat) (i : ι) (log : List Invocation) :
      Twin a invoke fuel (i, log) single stack :=
    twin_of_agree hclosed hpushless hinvoke h fun f hf => absurd hf (htold f)
  have hstart (fuel : Nat) : Twin a invoke fuel (i₀, []) ((Engine.mk a .single).start .empty first)
      ((Engine.mk a .stack).start .empty first) :=
    htwin (fun _ => id) (agree_start hclosed) fuel i₀ []
  have hhandle {stack : Stack} (hlone : stack.Lone a) (i : ι) (log : List Invocation)
      (event : Event) (fuel : Nat) : Twin a invoke fuel (i, log)
        ((Engine.mk a .single).handle stack event) ((Engine.mk a .stack).handle stack event) :=
    htwin (fun _ => id) (agree_deliver hclosed hpushless hlone) fuel i log
  refine ⟨hstart, ?_⟩
  intro events results stack i log hcalls hresults
  suffices h : (Engine.mk a .stack).Calls invoke i₀ first events results stack i log ∧
      stack.Lone a ∧ .ok .halted ∉ results from ⟨h.1, h.2.1, h.2.2, hhandle h.2.1 i log⟩
  induction hcalls with
  | start hrun =>
    obtain ⟨hstack, hlone, hhalted⟩ := (hstart _).stack_of_single hrun
      (by rintro f rfl; exact hresults f List.mem_cons_self)
    exact ⟨.start hstack, hlone, by simpa using hhalted.symm⟩
  | handle _ hrun ih =>
    obtain ⟨hcalls, hlone, hrunning⟩ :=
      ih fun f hf => hresults f (List.mem_append_left _ hf)
    obtain ⟨hstack, hlone, hhalted⟩ := (hhandle hlone _ _ _ _).stack_of_single hrun
      (by rintro f rfl; exact hresults f (List.mem_append_right _ List.mem_cons_self))
    refine ⟨hcalls.handle hstack, hlone, ?_⟩
    simpa [hrunning] using hhalted.symm

theorem stack_calls_of_single_lamp :
    Automaton.build "Lamp" .monitor Lamp.declaration = .ok Lamp.automaton ∧
      (∀ id s, (id, s) ∈ Lamp.declaration.flatten → s.pushes = []) ∧
      (∀ i x target, (Lamp.obey i x).1 ≠ .ok (.push target)) ∧
      (Lamp.engine .single).Calls Lamp.obey () Lamp.start [Lamp.switch]
        [.ok .running, .ok .running] ⟨[⟨"On"⟩]⟩ () Lamp.log ∧
      (Lamp.engine .stack).Calls Lamp.obey () Lamp.start [Lamp.switch]
        [.ok .running, .ok .running] ⟨[⟨"On"⟩]⟩ () Lamp.log ∧
      Twin Lamp.automaton Lamp.obey 0 ((), Lamp.log)
        ((Lamp.engine .single).handle ⟨[⟨"On"⟩]⟩ .halt)
        ((Lamp.engine .stack).handle ⟨[⟨"On"⟩]⟩ .halt) := by
  have hsame := (stack_calls_of_single Lamp.built Lamp.pushless Lamp.obey_ne_push () Lamp.start).2
    Lamp.calls (by simp)
  exact ⟨Lamp.built, Lamp.pushless, Lamp.obey_ne_push, Lamp.calls, hsame.1, hsame.2.2.2 .halt 0⟩

/-- The lamp refuses to halt, or clicks off and halts. -/
example :
    (Lamp.engine .single).run (logged Lamp.obey) 0 ((), Lamp.log)
        ((Lamp.engine .single).handle ⟨[⟨"On"⟩]⟩ .halt)
      = some (⟨[⟨"On"⟩]⟩, .error (.unhandled .halt ⟨"On"⟩), ((), Lamp.log)) ∧
    (Lamp.engine .stack).run (logged Lamp.obey) 1 ((), Lamp.log)
        ((Lamp.engine .stack).handle ⟨[⟨"On"⟩]⟩ .halt)
      = some (.empty, .ok .halted,
          ((), Lamp.log ++ [⟨"click", .exit, ⟨"On"⟩, .halt⟩])) :=
  ⟨rfl, rfl⟩

end Engine

end PushdownActors
