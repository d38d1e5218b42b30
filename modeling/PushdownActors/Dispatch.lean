-- SUMMARY: The dispatch of one event through a stack of states, as a computation that pauses at every action.
import PushdownActors.Automaton
import PushdownActors.Failure
import PushdownActors.Stack

/-!
# Dispatch

An engine interprets an automaton on a stack of states. It runs no action
itself. A dispatch goes on until an action has to run; there it pauses and says
which action, where, and what its answer is for. The answer is a failure, or the
transition that the action asks for, and the dispatch goes on from it. Between
two actions the work is bounded by the height of the stack, so every function
here is total. What an action asks for may lead to further actions without end;
that loop is outside, with whoever runs the actions.

An event is handled by the topmost state that mentions it. Under the stack
discipline the states above are left on the way: their exit actions run and they
are removed. Under the single discipline there is one state, which has to handle
or ignore every event.

A state that a transition leads to is checked before anything happens on its
behalf, and the stack always tells what has been done so far, so a dispatch that
fails leaves the stack as of its failure.
-/

namespace PushdownActors

/-! ## Actions and what they ask for -/

/-- What an action asks for when it ends. -/
inductive Transition where
  /-- Nothing. -/
  | stay
  /-- Deliver the event right away, ahead of the mailbox. -/
  | raise (event : Event)
  /-- Replace the current state. -/
  | goto (state : StateId)
  /-- Put a state on top of the current one. -/
  | push (state : StateId)
  /-- Return to the state beneath the current one. -/
  | pop
  deriving DecidableEq, Inhabited

/-- Where an action runs. -/
inductive Site where
  | entry
  | exit
  /-- Between the exit and the entry action of a goto. -/
  | override
  | handler
  deriving DecidableEq, Repr, Inhabited

namespace Site

def text : Site → String
  | entry => "entry"
  | exit => "exit"
  | override => "transition"
  | handler => "handler"

/-- The violation that an action commits by asking for a transition here, if it
must not. -/
def forbids : Site → Option Violation
  | entry | handler => none
  | exit => some .transitionInExit
  | override => some .transitionInOverride

end Site

/-- An action to run: its name, where, in which state and for which event. -/
structure Invocation where
  action : String
  site : Site
  state : StateId
  event : Event
  deriving DecidableEq, Inhabited

/-- How an automaton uses its stack. -/
inductive Discipline where
  /-- States are put on top of each other, and events fall through to lower ones. -/
  | stack
  /-- There is a single state, and a push replaces it. -/
  | single
  deriving DecidableEq, Repr, Inhabited

/-! ## Pauses and results -/

/-- What is left to do once the action that a dispatch waits for has answered. -/
inductive Resume where
  /-- Apply the transition that it asks for. -/
  | apply
  /-- The current state is left: go on to replace it by the target. -/
  | replace (target : StateId) (action : Option String)
  /-- The current state is left and the goto's action has run: enter the target. -/
  | arrive (target : StateId)
  /-- The top state does not handle the event and is left: look beneath it. -/
  | fall
  /-- The top state is left for the one beneath it. -/
  | drop
  deriving DecidableEq, Repr, Inhabited

/-- A dispatch that waits for the answer of an action. -/
structure Paused where
  invocation : Invocation
  resume : Resume
  deriving DecidableEq, Inhabited

/-- How a dispatch ended. -/
inductive Status where
  | running
  | halted
  deriving DecidableEq, Repr, Inhabited

/-- How far a dispatch has come. -/
inductive Outcome where
  | paused (p : Paused)
  | finished (status : Status)
  | failed (failure : Failure)
  deriving DecidableEq, Inhabited

/-- The stack as of now, and how far the dispatch has come. -/
structure Progress where
  stack : Stack
  outcome : Outcome
  deriving DecidableEq, Inhabited

namespace Progress

def pause (stack : Stack) (action : String) (site : Site) (state : StateId) (event : Event)
    (resume : Resume) : Progress :=
  ⟨stack, .paused ⟨⟨action, site, state, event⟩, resume⟩⟩

def finish (stack : Stack) (status : Status) : Progress :=
  ⟨stack, .finished status⟩

/-- Fails in the state that is on top, unless the failure names another. -/
def fail (stack : Stack) (failure : Failure) : Progress :=
  ⟨stack, .failed (failure.inState stack.top?)⟩

def violate (stack : Stack) (violation : Violation) : Progress :=
  fail stack violation.toFailure

end Progress

/-- An automaton and the way in which it uses its stack. -/
structure Engine where
  automaton : Automaton
  discipline : Discipline

namespace Engine

open Progress

/-! ## Entering and leaving states -/

/-- Runs the entry action of the state on top. -/
def enter (en : Engine) (stack : Stack) (event : Event) : Progress :=
  match stack.top? with
  | none => violate stack .emptyStack
  | some top =>
    match en.automaton.state? top with
    | none => violate stack (.unknownState top)
    | some state =>
      match state.entry with
      | some action => pause stack action .entry top event .apply
      | none => finish stack .running

/-- Puts `target` in the place of the state on top and enters it. -/
def arrive (en : Engine) (stack : Stack) (target : StateId) (event : Event) : Progress :=
  en.enter (stack.replaceTop target) event

/-- Runs the action of a goto, if it has one, in the state that was left. -/
def replace (en : Engine) (stack : Stack) (target : StateId) (action : Option String)
    (event : Event) : Progress :=
  match action with
  | none => en.arrive stack target event
  | some action =>
    match stack.top? with
    | none => violate stack .emptyStack
    | some source => pause stack action .override source event (.arrive target)

/-- Runs the exit action of the state on top, if it has one; `next` follows,
either at once or, as `resume`, when the action has answered. -/
def leave (en : Engine) (stack : Stack) (event : Event) (resume : Resume) (next : Progress) :
    Progress :=
  match stack.top? with
  | none => violate stack .emptyStack
  | some top =>
    match en.automaton.state? top with
    | none => violate stack (.unknownState top)
    | some state =>
      match state.exit with
      | some action => pause stack action .exit top event resume
      | none => next

/-- Leaves the state on top and enters `target` in its place. -/
def goto (en : Engine) (stack : Stack) (target : StateId) (action : Option String)
    (event : Event) : Progress :=
  en.leave stack event (.replace target action) (en.replace stack target action event)

/-- Puts `target` on top and enters it; with a single state it takes its place. -/
def push (en : Engine) (stack : Stack) (target : StateId) (event : Event) : Progress :=
  match en.automaton.state? target with
  | none => violate stack (.unknownState target)
  | some _ =>
    match en.discipline with
    | .stack => en.enter (stack.push target) event
    | .single => en.goto stack target none event

/-- Leaves the state on top for the one beneath it, which there has to be. -/
def pop (en : Engine) (stack : Stack) (event : Event) : Progress :=
  if stack.size ≤ 1 then violate stack .popEmptiesStack
  else en.leave stack event .drop (finish stack.pop .running)

/-! ## Delivering events -/

/-- Does what the state on top does with the event. -/
def react (en : Engine) (stack : Stack) (state : StateId) (reaction : Reaction) (event : Event) :
    Progress :=
  match reaction with
  | .goto target action => en.goto stack target action event
  | .push target => en.push stack target event
  | .act action => pause stack action .handler state event .apply
  | .ignore | .defer => finish stack .running

/-- Delivers an event to the topmost of `frames` that mentions it, leaving those
above. With no frame left, `Halt` halts and any other event is a violation. -/
def fallThrough (en : Engine) (event : Event) : List StateId → Progress
  | [] =>
    if event.isHalt then finish .empty .halted
    else violate .empty (.unhandledEvent event.type)
  | top :: rest =>
    let stack : Stack := ⟨top :: rest⟩
    match en.automaton.state? top with
    | none => violate stack (.unknownState top)
    | some state =>
      match state.reaction? event.type with
      | some .ignore => finish stack .running
      | some .defer | none =>
        match en.discipline with
        | .single => violate stack (.monitorUnhandledEvent event.type top)
        | .stack =>
          match state.exit with
          | some action => pause stack action .exit top event .fall
          | none => fallThrough en event rest
      | some reaction => en.react stack top reaction event

/-- Delivers an event: an instruction to move is followed, anything else goes
to the topmost state that mentions it. -/
def deliver (en : Engine) (stack : Stack) (event : Event) : Progress :=
  match event with
  | .goto target =>
    if stack.isEmpty then violate stack .emptyStack
    else
      match en.automaton.state? target with
      | none => violate stack (.unknownState target)
      | some _ => en.goto stack target none event
  | .message .. => en.fallThrough event stack.frames

/-- Applies the transition that an entry action or a handler asks for. -/
def apply (en : Engine) (stack : Stack) (event : Event) : Transition → Progress
  | .stay => finish stack .running
  | .raise raised => en.deliver stack raised
  | .goto target => en.deliver stack (.goto target)
  | .push target => en.push stack target event
  | .pop => en.pop stack event

/-- What follows an action that must not ask for a transition. -/
def proceed (en : Engine) (stack : Stack) (event : Event) : Resume → Progress
  | .apply => finish stack .running
  | .replace target action => en.replace stack target action event
  | .arrive target => en.arrive stack target event
  | .fall => en.fallThrough event stack.pop.frames
  | .drop => finish stack.pop .running

/-! ## The interface -/

/-- Enters the start state on an empty stack. -/
def start (en : Engine) (stack : Stack) (event : Event) : Progress :=
  if stack.isEmpty then en.enter (stack.push en.automaton.start) event
  else ⟨stack, .failed Violation.alreadyStarted.toFailure⟩

/-- Begins to handle an event. -/
def handle (en : Engine) (stack : Stack) (event : Event) : Progress :=
  en.deliver stack event

/-- Goes on with a dispatch when the action that it waits for has answered. -/
def answer (en : Engine) (stack : Stack) (p : Paused) : Except Failure Transition → Progress
  | .error failure => fail stack failure
  | .ok transition =>
    match p.resume with
    | .apply => en.apply stack p.invocation.event transition
    | resume =>
      match transition with
      | .stay => en.proceed stack p.invocation.event resume
      | _ => violate stack (p.invocation.site.forbids.getD .transitionInExit)

/-- Runs a dispatch to its end, with the actions run by `invoke`. A dispatch may
ask for actions without end, so at most `fuel` of them are run; `none` means that
they did not suffice. -/
def run (en : Engine) (invoke : ι → Invocation → Except Failure Transition × ι) :
    Nat → ι → Progress → Option (Stack × Except Failure Status × ι)
  | _, i, ⟨stack, .finished status⟩ => some (stack, .ok status, i)
  | _, i, ⟨stack, .failed failure⟩ => some (stack, .error failure, i)
  | 0, _, ⟨_, .paused _⟩ => none
  | fuel + 1, i, ⟨stack, .paused p⟩ =>
    let (reply, i) := invoke i p.invocation
    run en invoke fuel i (en.answer stack p reply)

end Engine

end PushdownActors
