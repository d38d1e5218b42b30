-- SUMMARY: With a single state a declaration does the same whether it pushes or goes to its targets.
import PushdownActors.Proofs.Bracket
import PushdownActors.Proofs.SingleState
import PushdownActors.Proofs.WellFormed

/-!
# Pushes as gotos

An automaton with a single state has nothing to put a state on top of, so its pushes
replace the state, as gotos do. In a declaration the two are different tables all the
same, and an engine takes different ways through them: a goto is carried out at once, and
a push is looked up first and then handed to the discipline.

Here the pushes of a declaration are rewritten as gotos without an action of their own.
What was accepted is accepted again, and with a single state no call can tell the two
apart.
-/

namespace PushdownActors

/-! ## Rewriting pushes -/

/-- The goto that has the same event and target, and runs no action. -/
def PushRule.asGoto (r : PushRule) : GotoRule where
  on := r.on
  target := r.target

/-- The state with its pushes among its gotos. -/
def StateSpec.pushesAsGotos (s : StateSpec) : StateSpec :=
  { s with gotos := s.gotos ++ s.pushes.map PushRule.asGoto, pushes := [] }

mutual

def GroupSpec.pushesAsGotos : GroupSpec → GroupSpec
  | ⟨name, states, groups⟩ =>
    ⟨name, states.map StateSpec.pushesAsGotos, GroupSpec.pushesAsGotosAll groups⟩

def GroupSpec.pushesAsGotosAll : List GroupSpec → List GroupSpec
  | [] => []
  | g :: rest => g.pushesAsGotos :: GroupSpec.pushesAsGotosAll rest

end

/-- The declaration with the pushes of every state among its gotos. -/
def Declaration.pushesAsGotos (d : Declaration) : Declaration :=
  { d with states := d.states.map StateSpec.pushesAsGotos
           groups := GroupSpec.pushesAsGotosAll d.groups }

def Reaction.pushAsGoto : Reaction → Reaction
  | push target => goto target none
  | r => r

def Table.pushAsGoto : Table → Table
  | push => goto
  | t => t

def Claim.pushAsGoto (c : Claim) : Claim where
  event := c.event
  table := c.table.pushAsGoto
  reaction := c.reaction.pushAsGoto

def State.pushesAsGotos (s : State) : State :=
  { s with reactions := s.reactions.map fun (t, r) => (t, r.pushAsGoto) }

def Automaton.pushesAsGotos (a : Automaton) : Automaton :=
  { a with states := a.states.map State.pushesAsGotos
           declaration := a.declaration.pushesAsGotos }

/-! ## Rewritten declarations are accepted -/

theorem Reaction.target?_pushAsGoto (r : Reaction) : r.pushAsGoto.target? = r.target? := by
  cases r <;> rfl

/-- The rules keep their order. -/
theorem StateSpec.claims_pushesAsGotos (s : StateSpec) :
    s.pushesAsGotos.claims = s.claims.map Claim.pushAsGoto := by
  simp [claims, pushesAsGotos, PushRule.asGoto, Claim.pushAsGoto, Reaction.pushAsGoto,
    Table.pushAsGoto, Function.comp_def]

mutual

theorem GroupSpec.flatten_pushesAsGotos (path : String) : ∀ g : GroupSpec,
    g.pushesAsGotos.flatten path = (g.flatten path).map fun (id, s) => (id, s.pushesAsGotos)
  | ⟨name, states, groups⟩ => by
    simp only [pushesAsGotos, flatten, List.map_append, List.map_map]
    rw [GroupSpec.flattenAll_pushesAsGotos (path ++ name ++ ".") groups]
    rfl

theorem GroupSpec.flattenAll_pushesAsGotos (path : String) : ∀ groups : List GroupSpec,
    GroupSpec.flattenAll path (GroupSpec.pushesAsGotosAll groups)
      = (GroupSpec.flattenAll path groups).map fun (id, s) => (id, s.pushesAsGotos)
  | [] => rfl
  | g :: rest => by
    simp only [pushesAsGotosAll, flattenAll, List.map_append]
    rw [GroupSpec.flatten_pushesAsGotos path g, GroupSpec.flattenAll_pushesAsGotos path rest]

end

namespace Declaration

/-- The states keep their names. -/
theorem flatten_pushesAsGotos (d : Declaration) :
    d.pushesAsGotos.flatten = d.flatten.map fun (id, s) => (id, s.pushesAsGotos) := by
  simp only [flatten, pushesAsGotos, List.map_append, List.map_map]
  rw [GroupSpec.flattenAll_pushesAsGotos "" d.groups]
  rfl

theorem names_pushesAsGotos (d : Declaration) : d.pushesAsGotos.names = d.names := by
  simp [← map_fst_flatten, flatten_pushesAsGotos, Function.comp_def]

theorem starts_pushesAsGotos (d : Declaration) : d.pushesAsGotos.starts = d.starts := by
  simp [← starts_eq, flatten_pushesAsGotos, List.filter_map, Function.comp_def,
    StateSpec.pushesAsGotos]

end Declaration

namespace Automaton

variable {type : String} {kind : Kind} {d : Declaration} {a : Automaton}
  {declared : List StateId} {id : StateId} {spec : StateSpec} {s : State}

/-- A rule is checked for its event and its target, and not for its table. -/
theorem checkClaim_pushAsGoto {earlier : List Claim} {c : Claim}
    (h : checkClaim type declared id earlier c = .ok ()) :
    checkClaim type declared id (earlier.map Claim.pushAsGoto) c.pushAsGoto = .ok () := by
  cases hcheck : checkClaim type declared id (earlier.map Claim.pushAsGoto) c.pushAsGoto with
  | ok => rfl
  | error e =>
    exfalso
    cases refuses_of_checkClaim hcheck with
    | unusable hunusable =>
      have husable : c.event.isUsable = true := isUsable_of_checkClaim h
      exact absurd (husable.symm.trans hunusable) nofun
    | claimed hfirst hevent =>
      obtain ⟨before, hbefore, rfl⟩ := List.mem_map.mp hfirst
      exact fresh_of_checkClaim h before hbefore hevent
    | unknown htarget hunknown =>
      have htarget : c.reaction.target? = some _ := c.reaction.target?_pushAsGoto ▸ htarget
      exact hunknown (mem_of_checkClaim h htarget)

theorem checkClaims_pushAsGoto {earlier claims : List Claim}
    (h : checkClaims type declared id earlier claims = .ok ()) :
    checkClaims type declared id (earlier.map Claim.pushAsGoto) (claims.map Claim.pushAsGoto)
      = .ok () := by
  induction claims generalizing earlier with
  | nil => rfl
  | cons c rest ih =>
    simp only [checkClaims, bind, Except.bind] at h
    split at h
    · contradiction
    · rename_i hc
      have hrest := ih h
      rw [List.map_append] at hrest
      rw [List.map_cons, checkClaims, checkClaim_pushAsGoto hc]
      exact hrest

theorem buildState_pushesAsGotos (h : buildState type kind declared id spec = .ok s) :
    buildState type kind declared id spec.pushesAsGotos = .ok s.pushesAsGotos := by
  obtain ⟨hclaims, hs⟩ := buildState_eq_ok h
  have hmarks : checkMarks type kind id spec.pushesAsGotos = .ok () := by
    have hsame : checkMarks type kind id spec.pushesAsGotos = checkMarks type kind id spec := rfl
    rw [hsame]
    simp only [buildState, bind, Except.bind] at h
    split at h
    · contradiction
    · assumption
  have hclaims : checkClaims type declared id [] spec.pushesAsGotos.claims = .ok () := by
    rw [StateSpec.claims_pushesAsGotos]
    exact checkClaims_pushAsGoto hclaims
  simp only [buildState, hmarks, hclaims, bind, Except.bind, pure, Except.pure]
  rw [hs, StateSpec.claims_pushesAsGotos]
  simp [State.pushesAsGotos, StateSpec.pushesAsGotos, Claim.pushAsGoto, Function.comp_def]

theorem buildStates_pushesAsGotos {specs : List (StateId × StateSpec)} {states : List State}
    (h : buildStates type kind declared specs = .ok states) :
    buildStates type kind declared (specs.map fun (id, s) => (id, s.pushesAsGotos))
      = .ok (states.map State.pushesAsGotos) := by
  induction specs generalizing states with
  | nil =>
    cases h
    rfl
  | cons first rest ih =>
    simp only [buildStates, bind, Except.bind] at h
    split at h
    · contradiction
    · rename_i built hbuilt
      split at h
      · contradiction
      · rename_i later hlater
        cases h
        rw [List.map_cons, buildStates, buildState_pushesAsGotos hbuilt, ih hlater]
        rfl

/-- What is accepted is accepted with its pushes rewritten, and its automaton has them
rewritten too. -/
theorem build_pushesAsGotos (h : build type kind d = .ok a) :
    build type kind d.pushesAsGotos = .ok a.pushesAsGotos := by
  rw [build_eq] at h ⊢
  have hempty : d.pushesAsGotos.flatten.isEmpty = d.flatten.isEmpty := by
    simp [Declaration.flatten_pushesAsGotos]
  rw [hempty, Declaration.names_pushesAsGotos, Declaration.starts_pushesAsGotos]
  split at h
  · contradiction
  · rename_i hmembers
    split at h
    · contradiction
    · split at h
      · contradiction
      · split at h
        · contradiction
        · rename_i hstates
          cases h
          rw [if_neg hmembers, Declaration.flatten_pushesAsGotos,
            buildStates_pushesAsGotos hstates]
          rfl
      · contradiction

/-! ## Rewritten automata -/

theorem state?_pushesAsGotos :
    a.pushesAsGotos.state? id = (a.state? id).map State.pushesAsGotos := by
  simp [state?, pushesAsGotos, State.pushesAsGotos, List.find?_map, Function.comp_def]

end Automaton

theorem State.reaction?_pushesAsGotos (s : State) (t : EventType) :
    s.pushesAsGotos.reaction? t = (s.reaction? t).map Reaction.pushAsGoto := by
  obtain ⟨id, entry, exit, reactions, hot, cold⟩ := s
  simp only [reaction?, pushesAsGotos]
  induction reactions with
  | nil => rfl
  | cons first rest ih =>
    obtain ⟨t', r⟩ := first
    simp only [List.map_cons, List.lookup_cons, ih]
    cases t == t' <;> rfl

/-! ## The same dispatches -/

namespace Engine

variable {a : Automaton} {discipline : Discipline} {stack : Stack} {event : Event}
  {target : StateId}

theorem enter_pushesAsGotos :
    (Engine.mk a.pushesAsGotos discipline).enter stack event
      = (Engine.mk a discipline).enter stack event := by
  unfold enter
  split
  · rfl
  · rename_i top _
    simp only [Automaton.state?_pushesAsGotos]
    cases a.state? top <;> rfl

theorem leave_pushesAsGotos {resume : Resume} {next : Progress} :
    (Engine.mk a.pushesAsGotos discipline).leave stack event resume next
      = (Engine.mk a discipline).leave stack event resume next := by
  unfold leave
  split
  · rfl
  · rename_i top _
    simp only [Automaton.state?_pushesAsGotos]
    cases a.state? top <;> rfl

theorem arrive_pushesAsGotos :
    (Engine.mk a.pushesAsGotos discipline).arrive stack target event
      = (Engine.mk a discipline).arrive stack target event :=
  enter_pushesAsGotos

theorem replace_pushesAsGotos {action : Option String} :
    (Engine.mk a.pushesAsGotos discipline).replace stack target action event
      = (Engine.mk a discipline).replace stack target action event := by
  cases action with
  | none => exact arrive_pushesAsGotos
  | some action => rfl

theorem goto_pushesAsGotos {action : Option String} :
    (Engine.mk a.pushesAsGotos discipline).goto stack target action event
      = (Engine.mk a discipline).goto stack target action event := by
  unfold goto
  rw [replace_pushesAsGotos, leave_pushesAsGotos]

theorem pop_pushesAsGotos :
    (Engine.mk a.pushesAsGotos discipline).pop stack event
      = (Engine.mk a discipline).pop stack event := by
  unfold pop
  rw [leave_pushesAsGotos]

theorem push_pushesAsGotos :
    (Engine.mk a.pushesAsGotos discipline).push stack target event
      = (Engine.mk a discipline).push stack target event := by
  unfold push
  simp only [Automaton.state?_pushesAsGotos]
  cases a.state? target with
  | none => rfl
  | some state =>
    cases discipline with
    | stack => exact enter_pushesAsGotos
    | single => exact goto_pushesAsGotos

/-- The rewritten reaction does what the push does with a single state. -/
theorem react_pushAsGoto {id : StateId} {r : Reaction}
    (htarget : ∀ target, r.target? = some target → a.hasState target = true) :
    (Engine.mk a.pushesAsGotos .single).react stack id r.pushAsGoto event
      = (Engine.mk a .single).react stack id r event := by
  cases r with
  | goto target action => exact goto_pushesAsGotos
  | push target =>
    have hpush : (Engine.mk a .single).push stack target event
        = (Engine.mk a .single).goto stack target none event :=
      push_single rfl (htarget target rfl)
    exact goto_pushesAsGotos.trans hpush.symm
  | act action => rfl
  | ignore | defer => rfl

theorem fallThrough_pushesAsGotos (hclosed : a.Closed) (frames : List StateId) :
    (Engine.mk a.pushesAsGotos .single).fallThrough event frames
      = (Engine.mk a .single).fallThrough event frames := by
  cases frames with
  | nil => rfl
  | cons id rest =>
    unfold fallThrough
    simp only [Automaton.state?_pushesAsGotos]
    cases hs : a.state? id with
    | none => rfl
    | some s =>
      simp only [Option.map_some, State.reaction?_pushesAsGotos]
      cases hr : s.reaction? event.type with
      | none => rfl
      | some r =>
        have hreact : (Engine.mk a.pushesAsGotos .single).react ⟨id :: rest⟩ id r.pushAsGoto event
            = (Engine.mk a .single).react ⟨id :: rest⟩ id r event :=
          react_pushAsGoto fun target htarget => hclosed.target_of_reaction? hs hr htarget
        cases r with
        | goto | push | act => exact hreact
        | ignore | defer => rfl

theorem deliver_pushesAsGotos (hclosed : a.Closed) :
    (Engine.mk a.pushesAsGotos .single).deliver stack event
      = (Engine.mk a .single).deliver stack event := by
  cases event with
  | message type payload => exact fallThrough_pushesAsGotos hclosed stack.frames
  | goto target =>
    simp only [deliver, Automaton.state?_pushesAsGotos]
    cases a.state? target with
    | none => rfl
    | some state => simp only [Option.map_some, goto_pushesAsGotos]

theorem apply_pushesAsGotos (hclosed : a.Closed) (t : Transition) :
    (Engine.mk a.pushesAsGotos .single).apply stack event t
      = (Engine.mk a .single).apply stack event t := by
  cases t with
  | stay => rfl
  | raise raised => exact deliver_pushesAsGotos hclosed
  | goto target =>
    have hgoto : (Engine.mk a.pushesAsGotos .single).deliver stack (.goto target)
        = (Engine.mk a .single).deliver stack (.goto target) := deliver_pushesAsGotos hclosed
    exact hgoto
  | push target => exact push_pushesAsGotos
  | pop => exact pop_pushesAsGotos

theorem proceed_pushesAsGotos (hclosed : a.Closed) (resume : Resume) :
    (Engine.mk a.pushesAsGotos .single).proceed stack event resume
      = (Engine.mk a .single).proceed stack event resume := by
  cases resume with
  | apply | drop => rfl
  | replace target action => exact replace_pushesAsGotos
  | arrive target => exact arrive_pushesAsGotos
  | fall => exact fallThrough_pushesAsGotos hclosed stack.pop.frames

theorem start_pushesAsGotos :
    (Engine.mk a.pushesAsGotos discipline).start stack event
      = (Engine.mk a discipline).start stack event := by
  unfold start
  rw [enter_pushesAsGotos]
  rfl

theorem answer_pushesAsGotos (hclosed : a.Closed) (p : Paused)
    (reply : Except Failure Transition) :
    (Engine.mk a.pushesAsGotos .single).answer stack p reply
      = (Engine.mk a .single).answer stack p reply := by
  unfold answer
  split
  · rfl
  · split
    · exact apply_pushesAsGotos hclosed _
    · split
      · exact proceed_pushesAsGotos hclosed _
      · rfl

/-! ## Calls -/

variable {en en' : Engine} {invoke : ι → Invocation → Except Failure Transition × ι}

/-- Engines that take every answer in the same way come equally far. -/
theorem advance_congr
    (hanswer : ∀ stack p reply, en'.answer stack p reply = en.answer stack p reply)
    (fuel : Nat) (i : ι) (progress : Progress) :
    en'.advance invoke fuel i progress = en.advance invoke fuel i progress := by
  induction fuel generalizing i progress with
  | zero => rfl
  | succ fuel ih =>
    rcases progress with ⟨stack, p | status | failure⟩
    · simp only [advance, hanswer, ih]
    · rfl
    · rfl

/-- A call of an engine. -/
inductive Call where
  | start (event : Event)
  | handle (event : Event)

/-- Where a call begins. -/
def call (en : Engine) (stack : Stack) : Call → Progress
  | .start event => en.start stack event
  | .handle event => en.handle stack event

/-- What is seen of a call: the actions that it has run, the stack after them, and the
result, unless it is still under way. -/
structure Account where
  invocations : List Invocation
  progress : Progress

/-- Calls one after the other on a stack, whatever comes of them, and what is seen of each.
The actions are run by `invoke`, at most `fuel` of them in a call. A call that does not come
to its end with these is the last. -/
def accounts (en : Engine) (invoke : ι → Invocation → Except Failure Transition × ι)
    (fuel : Nat) : ι → Stack → List Call → List Account
  | _, _, [] => []
  | i, stack, c :: rest =>
    let (progress, i, log) := en.advance (logged invoke) fuel (i, []) (en.call stack c)
    match progress.outcome with
    | .paused _ => [⟨log, progress⟩]
    | _ => ⟨log, progress⟩ :: accounts en invoke fuel i progress.stack rest

theorem call_pushesAsGotos (hclosed : a.Closed) (c : Call) :
    (Engine.mk a.pushesAsGotos .single).call stack c = (Engine.mk a .single).call stack c := by
  cases c with
  | start event => exact start_pushesAsGotos
  | handle event => exact deliver_pushesAsGotos hclosed

/-- Engines that begin every call in the same way, and take every answer in the same way,
cannot be told apart. -/
theorem accounts_congr (hcall : ∀ stack c, en'.call stack c = en.call stack c)
    (hanswer : ∀ stack p reply, en'.answer stack p reply = en.answer stack p reply)
    (fuel : Nat) (i : ι) (stack : Stack) (calls : List Call) :
    en'.accounts invoke fuel i stack calls = en.accounts invoke fuel i stack calls := by
  induction calls generalizing i stack with
  | nil => rfl
  | cons c rest ih => simp only [accounts, hcall, advance_congr hanswer, ih]

end Engine

/-! ## A checker

A monitor that waits for something to be done. When it is done the checker leaves its
state by a push, and it is not expecting it again. -/

namespace Checker

def waiting : StateSpec :=
  ((({ name := "Waiting" } : StateSpec).asStart.asHot).withExit "leave").onPush "Done" "Idle"

def idle : StateSpec := ({ name := "Idle" } : StateSpec).asCold

def declaration : Declaration := (({} : Declaration).state waiting).state idle

def automaton : Automaton where
  name := "Checker"
  kind := .monitor
  states :=
    [{ id := ⟨"Waiting"⟩, entry := none, exit := some "leave",
       reactions := [(⟨"Done"⟩, .push ⟨"Idle"⟩)], hot := true, cold := false },
     { id := ⟨"Idle"⟩, entry := none, exit := none, reactions := [], hot := false,
       cold := true }]
  start := ⟨"Waiting"⟩
  declaration := declaration

/-- No action asks for anything. -/
def obey (_ : Unit) (_ : Invocation) : Except Failure Transition × Unit := (.ok .stay, ())

def done : Event := .message ⟨"Done"⟩ none

def calls : List Engine.Call := [.start (.start none), .handle done, .handle done]

/-- What is seen of the calls. -/
def accounts : List Engine.Account :=
  [⟨[], .finish ⟨[⟨"Waiting"⟩]⟩ .running⟩,
   ⟨[⟨"leave", .exit, ⟨"Waiting"⟩, done⟩], .finish ⟨[⟨"Idle"⟩]⟩ .running⟩,
   ⟨[], .violate ⟨[⟨"Idle"⟩]⟩ (.monitorUnhandledEvent ⟨"Done"⟩ ⟨"Idle"⟩)⟩]

theorem built : Automaton.build "Checker" .monitor declaration = .ok automaton := rfl

end Checker

/-! ## Results -/

namespace Engine

/-- A declaration that is accepted is accepted with every push rewritten as a goto without
an action. With a single state the two automata cannot be told apart, whatever calls are
made and whatever the actions answer: each call runs the same actions, gives the same
result and leaves the same stack. A call without end runs the same actions as well, however
long it is looked at. -/
theorem accounts_pushesAsGotos {type : String} {kind : Kind} {d : Declaration} {a : Automaton}
    (hbuild : Automaton.build type kind d = .ok a) :
    ∃ a', Automaton.build type kind d.pushesAsGotos = .ok a' ∧
      ∀ {ι : Type} (invoke : ι → Invocation → Except Failure Transition × ι) (fuel : Nat) (i : ι)
        (stack : Stack) (calls : List Call),
        (Engine.mk a' .single).accounts invoke fuel i stack calls
          = (Engine.mk a .single).accounts invoke fuel i stack calls := by
  have hclosed : a.Closed := Automaton.closed_of_build hbuild
  refine ⟨a.pushesAsGotos, Automaton.build_pushesAsGotos hbuild, ?_⟩
  intro ι invoke fuel i stack calls
  exact accounts_congr (fun _ => call_pushesAsGotos hclosed)
    (fun _ => answer_pushesAsGotos hclosed) fuel i stack calls

/-- The checker leaves its state by a goto as by a push. -/
theorem accounts_pushesAsGotos_checker :
    Automaton.build "Checker" .monitor Checker.declaration = .ok Checker.automaton ∧
      ∃ a', Automaton.build "Checker" .monitor Checker.declaration.pushesAsGotos = .ok a' ∧
        (Engine.mk a' .single).accounts Checker.obey 1 () .empty Checker.calls
          = Checker.accounts := by
  obtain ⟨a', ha', hsame⟩ := accounts_pushesAsGotos Checker.built
  have haccounts : (Engine.mk Checker.automaton .single).accounts Checker.obey 1 () .empty
      Checker.calls = Checker.accounts := rfl
  exact ⟨Checker.built, a', ha', (hsame Checker.obey 1 () .empty Checker.calls).trans haccounts⟩

end Engine

end PushdownActors
