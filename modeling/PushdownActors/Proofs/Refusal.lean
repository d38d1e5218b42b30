-- SUMMARY: Transitions that are refused: nothing is added to the stack, replaced or removed for them, and nobody is entered.
import PushdownActors.Proofs.Passage

/-!
# Refused transitions

A transition may be refused before anything is done for it: there is no state beneath to
return to, or the state that it names is not declared. A goto or a pop may be refused later
too, by the exit action of the state on top or by the action of the goto, which fail or ask
for a transition of their own.

Either way the dispatch fails on the stack from which the transition was to be made. This
holds wherever the transition stands in a dispatch, and whatever has led to it.
-/

namespace PushdownActors

/-- Why the answer of an action is refused that must not ask for a transition. -/
def Site.refusal? (site : Site) : Except Failure Transition → Option Failure
  | .error f => some f
  | .ok .stay => none
  | .ok _ => site.forbids.map Violation.toFailure

namespace Engine

section Refusals

variable {en : Engine} {invoke : ι → Invocation → Except Failure Transition × ι} {i j : ι}
  {stack₀ stack : Stack} {c : Call} {calls : List Invocation} {p : Paused}

/-- The dispatch fails on the stack, and `calls` are all that run. It fails in the state on
top, unless the failure names a state itself. -/
def FailsOn (en : Engine) (invoke : ι → Invocation → Except Failure Transition × ι) (i : ι)
    (progress : Progress) (calls : List Invocation) (stack : Stack) (f : Failure) : Prop :=
  en.Concludes invoke i progress calls stack
    (.error { f with state := f.state <|> stack.top?.map StateId.name })

theorem Reaches.failsOn {progress : Progress} {f : Failure}
    (h : en.Reaches invoke i progress calls j (.fail stack f)) :
    en.FailsOn invoke i progress calls stack f :=
  h.concludes_failed

/-- An entry action or a handler runs in the state on top. -/
theorem Stands.frames_ne_nil (h : en.Stands invoke i stack₀ c calls ⟨stack, .paused p⟩)
    (hresume : p.resume = .apply) : stack.frames ≠ [] := by
  cases h with
  | asking => exact List.cons_ne_nil _ _
  | falling => contradiction
  | @departing _ _ _ _ d _ _ hdeparts =>
    cases hdeparts with
    | exit => cases d <;> contradiction
    | override => contradiction

/-- A departure runs exit and override actions only. -/
theorem Departs.site {event : Event} {d : Departure} {since : List Invocation}
    (h : en.Departs event stack d since p) :
    ∀ x ∈ since ++ [p.invocation], x.site = .exit ∨ x.site = .override := by
  cases h with
  | exit hx =>
    obtain ⟨action, rfl⟩ := Automaton.eq_of_exits hx
    exact List.forall_mem_singleton.mpr (.inl rfl)
  | override =>
    refine List.forall_mem_append.mpr ⟨?_, List.forall_mem_singleton.mpr (.inr rfl)⟩
    intro x hx
    obtain ⟨action, id, -, rfl⟩ := Automaton.of_mem_exits hx
    exact .inl rfl

/-- An instruction to move to a state that is not declared. -/
theorem deliver_undeclared {event : Event} {id : StateId} (hne : stack.frames ≠ [])
    (htarget : event.target = some id) (hid : en.automaton.state? id = none) :
    en.deliver stack event = .violate stack (.unknownState id) := by
  cases event with
  | message => contradiction
  | goto target =>
    cases htarget
    simp [deliver, Stack.isEmpty, hne, hid]

theorem apply_undeclared {event : Event} {t : Transition} {id : StateId}
    (hne : stack.frames ≠ []) (htarget : t.target? = some id)
    (hid : en.automaton.state? id = none) :
    en.apply stack event t = .violate stack (.unknownState id) := by
  cases t with
  | stay | pop => contradiction
  | raise raised => exact deliver_undeclared hne htarget hid
  | goto target =>
    have hgoto : (Event.goto target).target = some id := htarget
    exact deliver_undeclared hne hgoto hid
  | push target =>
    cases htarget
    simp [apply, push, hid]

/-- The answer of an action that must not ask for a transition, if it is not a plain one. -/
theorem answer_refused (hresume : p.resume ≠ .apply)
    (hsite : p.invocation.site = .exit ∨ p.invocation.site = .override)
    {reply : Except Failure Transition} (hreply : reply ≠ .ok .stay) :
    ∃ f, p.invocation.site.refusal? reply = some f ∧ en.answer stack p reply = .fail stack f := by
  obtain ⟨⟨action, site, state, event⟩, resume⟩ := p
  cases reply with
  | error f => exact ⟨f, rfl, rfl⟩
  | ok t =>
    have hrefused : ∃ v, site.forbids = some v := by
      rcases hsite with rfl | rfl
      · exact ⟨_, rfl⟩
      · exact ⟨_, rfl⟩
    obtain ⟨v, hv⟩ := hrefused
    refine ⟨v.toFailure, ?_, ?_⟩
    · cases t with
      | stay => contradiction
      | _ => simp [Site.refusal?, hv]
    · cases resume with
      | apply => contradiction
      | _ =>
        cases t with
        | stay => contradiction
        | _ => simp [answer, hv, Progress.violate]

end Refusals

end Engine

/-! ## A gate

A gate that creaks and chimes when it opens for a coin, unless its lock is broken. -/

namespace Gate

def shut : StateSpec :=
  ((({ name := "Shut" } : StateSpec).asStart.withExit "creak").onGotoWith "Coin" "Open"
    "unlock").onEvent "Kick" "rattle"

def opened : StateSpec := ({ name := "Open" } : StateSpec).withEntry "chime"

def declaration : Declaration := (({} : Declaration).state shut).state opened

def engine : Engine where
  automaton :=
    { name := "Gate"
      kind := .machine
      states :=
        [{ id := ⟨"Shut"⟩, entry := none, exit := some "creak",
           reactions := [(⟨"Coin"⟩, .goto ⟨"Open"⟩ (some "unlock")), (⟨"Kick"⟩, .act "rattle")],
           hot := false, cold := false },
         { id := ⟨"Open"⟩, entry := some "chime", exit := none, reactions := [],
           hot := false, cold := false }]
      start := ⟨"Shut"⟩
      declaration := declaration }
  discipline := .stack

/-- The lock asks for a transition, which it must not, and there is nothing beneath the
state that a kick asks for. -/
def obey (_ : Unit) (x : Invocation) : Except Failure Transition × Unit :=
  (.ok (if x.action = "unlock" then .push ⟨"Open"⟩ else if x.action = "rattle" then .pop
    else .stay), ())

def coin : Event := .message ⟨"Coin"⟩ none

def kick : Event := .message ⟨"Kick"⟩ none

def creak : Invocation := ⟨"creak", .exit, ⟨"Shut"⟩, coin⟩

def unlock : Invocation := ⟨"unlock", .override, ⟨"Shut"⟩, coin⟩

def rattle : Invocation := ⟨"rattle", .handler, ⟨"Shut"⟩, kick⟩

theorem built : Automaton.build "Gate" .machine declaration = .ok engine.automaton := rfl

end Gate

/-! ## Results -/

namespace Engine

section Results

variable {en : Engine} {invoke : ι → Invocation → Except Failure Transition × ι} {i j : ι}
  {stack₀ stack : Stack} {c : Call} {calls : List Invocation} {p : Paused}

/-- What becomes of a transition that is refused, wherever in a dispatch. The dispatch
fails on the stack from which the transition was to be made.

If an entry action or a handler asks for the state beneath the only one, or for a state
that is not declared, nothing has run since.

If the dispatch waits for an exit action or an override action because of a goto or a pop,
this departure was undertaken from the same stack, only exit and override actions have run
since, and this is all that runs if the action fails or asks for a transition. -/
theorem refused_leaves_stack
    (h : en.Reaches invoke i (en.call stack₀ c) calls j ⟨stack, .paused p⟩) :
    (p.resume = .apply →
      ((invoke j p.invocation).1 = .ok .pop → stack.size ≤ 1 →
        en.FailsOn invoke i (en.call stack₀ c) (calls ++ [p.invocation]) stack
          Violation.popEmptiesStack.toFailure) ∧
      ∀ t id, (invoke j p.invocation).1 = .ok t → t.target? = some id →
        en.automaton.state? id = none →
        en.FailsOn invoke i (en.call stack₀ c) (calls ++ [p.invocation]) stack
          (Violation.unknownState id).toFailure) ∧
    (p.resume ≠ .apply → p.resume ≠ .fall →
      ∃ before since event d,
        en.Undertakes invoke i stack₀ c before stack event d ∧
        en.Departs event stack d since p ∧ calls = before ++ since ∧
        (∀ x ∈ since ++ [p.invocation], x.site = .exit ∨ x.site = .override) ∧
        ((invoke j p.invocation).1 ≠ .ok .stay →
          ∃ f, p.invocation.site.refusal? (invoke j p.invocation).1 = some f ∧
            en.FailsOn invoke i (en.call stack₀ c) (calls ++ [p.invocation]) stack f)) := by
  have hstands := h.stands
  have hanswer := h.answer
  refine ⟨fun hresume => ⟨?_, ?_⟩, ?_⟩
  · intro hreply hsize
    simp only [hreply, Engine.answer, hresume, apply, pop, hsize, if_true] at hanswer
    exact hanswer.failsOn
  · intro t id hreply htarget hid
    have hrefused : en.apply stack p.invocation.event t = .violate stack (.unknownState id) :=
      apply_undeclared (hstands.frames_ne_nil hresume) htarget hid
    simp only [hreply, Engine.answer, hresume, hrefused] at hanswer
    exact hanswer.failsOn
  · intro hresume hfall
    cases hstands with
    | asking | falling => contradiction
    | @departing before since _ event d _ hundertakes hdeparts =>
      have hlast : p.invocation.site = .exit ∨ p.invocation.site = .override :=
        hdeparts.site p.invocation (by simp)
      refine ⟨before, since, event, d, hundertakes, hdeparts, rfl, hdeparts.site, ?_⟩
      intro hreply
      obtain ⟨f, hf, hfails⟩ := answer_refused hresume hlast hreply
      rw [hfails] at hanswer
      exact ⟨f, hf, hanswer.failsOn⟩

/-- A kick asks for the state beneath the only one; and with a coin in it, and its exit
action run, the gate stays shut because of its lock. -/
theorem refused_leaves_stack_gate :
    Automaton.build "Gate" .machine Gate.declaration = .ok Gate.engine.automaton ∧
    (Gate.engine.Reaches Gate.obey () (Gate.engine.call ⟨[⟨"Shut"⟩]⟩ (.handle Gate.kick)) [] ()
        ⟨⟨[⟨"Shut"⟩]⟩, .paused ⟨Gate.rattle, .apply⟩⟩ ∧
      Gate.engine.FailsOn Gate.obey () (Gate.engine.call ⟨[⟨"Shut"⟩]⟩ (.handle Gate.kick))
        [Gate.rattle] ⟨[⟨"Shut"⟩]⟩ Violation.popEmptiesStack.toFailure) ∧
    Gate.engine.Reaches Gate.obey () (Gate.engine.call ⟨[⟨"Shut"⟩]⟩ (.handle Gate.coin))
        [Gate.creak] () ⟨⟨[⟨"Shut"⟩]⟩, .paused ⟨Gate.unlock, .arrive ⟨"Open"⟩⟩⟩ ∧
      Gate.engine.FailsOn Gate.obey () (Gate.engine.call ⟨[⟨"Shut"⟩]⟩ (.handle Gate.coin))
        [Gate.creak, Gate.unlock] ⟨[⟨"Shut"⟩]⟩ Violation.transitionInOverride.toFailure := by
  have hkick : Gate.engine.Reaches Gate.obey ()
      (Gate.engine.call ⟨[⟨"Shut"⟩]⟩ (.handle Gate.kick)) [] ()
      ⟨⟨[⟨"Shut"⟩]⟩, .paused ⟨Gate.rattle, .apply⟩⟩ := .refl
  have hcoin : Gate.engine.Reaches Gate.obey ()
      (Gate.engine.call ⟨[⟨"Shut"⟩]⟩ (.handle Gate.coin)) [Gate.creak] ()
      ⟨⟨[⟨"Shut"⟩]⟩, .paused ⟨Gate.unlock, .arrive ⟨"Open"⟩⟩⟩ :=
    .answer (p := ⟨Gate.creak, .replace ⟨"Open"⟩ (some "unlock")⟩) .refl
  refine ⟨Gate.built, ⟨hkick, ((refused_leaves_stack hkick).1 rfl).1 rfl (Nat.le_refl 1)⟩, hcoin, ?_⟩
  obtain ⟨_, _, _, _, _, _, _, _, hfails⟩ := (refused_leaves_stack hcoin).2 nofun nofun
  obtain ⟨f, hf, hfailure⟩ := hfails nofun
  cases hf
  exact hfailure

end Results

end Engine

end PushdownActors
