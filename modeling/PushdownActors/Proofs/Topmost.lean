-- SUMMARY: Which frame an event comes to, what runs on the way, and what happens there; and when a dispatch halts.
import PushdownActors.Proofs.Passage

/-!
# The topmost frame

A delivered event comes to the topmost frame that handles or ignores it. What happens on
the way is the same for every frame that is passed, and what happens there depends on that
frame alone. A dispatch halts only where a `Halt` event has been delivered that no frame
wants.
-/

namespace PushdownActors

namespace Engine

/-! ## The frame that an event comes to -/

section Falls

variable {en : Engine} {invoke : ι → Invocation → Except Failure Transition × ι} {i : ι}
  {event : Event}

/-- An action that must not ask for a transition, and does not. -/
theorem reaches_proceed {stack : Stack} {x : Invocation} {resume : Resume}
    (hresume : resume ≠ .apply) (hreply : (invoke i x).1 = .ok .stay) :
    en.Reaches invoke i ⟨stack, .paused ⟨x, resume⟩⟩ [x] (invoke i x).2
      (en.proceed stack x.event resume) := by
  have hnext : en.Reaches invoke i ⟨stack, .paused ⟨x, resume⟩⟩ [x] (invoke i x).2
      (en.answer stack ⟨x, resume⟩ (invoke i x).1) := .answer .refl
  cases resume with
  | apply => contradiction
  | _ => simpa only [hreply, Engine.answer] using hnext

/-- Frames that neither handle nor ignore an event are left from the top down. -/
theorem reaches_fallThrough (hdiscipline : en.discipline = .stack) {above : List StateId}
    (habove : ∀ id ∈ above, en.automaton.Passes event.type id)
    (hexits : ∀ j, ∀ x ∈ en.automaton.exits event above, (invoke j x).1 = .ok .stay)
    (i : ι) (rest : List StateId) :
    ∃ j, en.Reaches invoke i (en.fallThrough event (above ++ rest))
      (en.automaton.exits event above) j (en.fallThrough event rest) := by
  induction above generalizing i with
  | nil => exact ⟨i, .refl⟩
  | cons id above ih =>
    obtain ⟨⟨s, hs, hhandles, hignores⟩, habove⟩ := List.forall_mem_cons.mp habove
    simp only [List.cons_append, fallThrough_of_passes hs hhandles hignores, hdiscipline]
    cases hexit : s.exit with
    | none =>
      simp only [Automaton.exits_cons_of_none hs hexit] at hexits ⊢
      exact ih habove hexits i
    | some action =>
      simp only [Automaton.exits_cons_of_some hs hexit] at hexits ⊢
      let x : Invocation := ⟨action, .exit, id, event⟩
      have hreply : (invoke i x).1 = .ok .stay := hexits i x List.mem_cons_self
      have hleft : en.Reaches invoke i (.pause ⟨id :: (above ++ rest)⟩ action .exit id event .fall)
          [x] (invoke i x).2 (en.fallThrough event (above ++ rest)) :=
        reaches_proceed (by simp) hreply
      obtain ⟨j, hlater⟩ := ih habove (fun j y hy => hexits j y (List.mem_cons_of_mem x hy))
        (invoke i x).2
      exact ⟨j, hleft.trans hlater⟩

/-- An event that all frames pass on leaves none of them. -/
theorem concludes_of_passes (hdiscipline : en.discipline = .stack) {frames : List StateId}
    (hall : ∀ id ∈ frames, en.automaton.Passes event.type id)
    (hexits : ∀ j, ∀ x ∈ en.automaton.exits event frames, (invoke j x).1 = .ok .stay) :
    en.Concludes invoke i (en.fallThrough event frames) (en.automaton.exits event frames) .empty
      (if event.isHalt then .ok .halted
        else .error (Violation.unhandledEvent event.type).toFailure) := by
  obtain ⟨j, hgone⟩ := reaches_fallThrough hdiscipline hall hexits i []
  simp only [List.append_nil, fallThrough] at hgone
  split
  · rename_i hhalt
    simp only [hhalt, if_true] at hgone
    exact hgone.concludes
  · rename_i hother
    simp only [hother] at hgone
    exact hgone.concludes_failed

/-- A goto is past the exit action of the state on top. -/
theorem reaches_replace {id target : StateId} {below : List StateId} {action : Option String}
    {s : State} (hs : en.automaton.state? id = some s)
    (hexits : ∀ j, ∀ x ∈ en.automaton.exits event [id], (invoke j x).1 = .ok .stay) (i : ι) :
    ∃ j, en.Reaches invoke i (en.goto ⟨id :: below⟩ target action event)
      (en.automaton.exits event [id]) j (en.replace ⟨id :: below⟩ target action event) := by
  simp only [goto, leave, Stack.top?, List.head?_cons, hs]
  cases hexit : s.exit with
  | none =>
    simp only [Automaton.exits_cons_of_none hs hexit, Automaton.exits_nil]
    exact ⟨i, .refl⟩
  | some name =>
    simp only [Automaton.exits_cons_of_some hs hexit, Automaton.exits_nil] at hexits ⊢
    exact ⟨_, reaches_proceed (by simp) (hexits i _ List.mem_cons_self)⟩

/-- There is a topmost frame that handles or ignores an event, unless all pass it on. -/
theorem exists_topmost (t : EventType) {frames : List StateId}
    (hframes : Stack.Declared en.automaton ⟨frames⟩) :
    (∀ id ∈ frames, en.automaton.Passes t id) ∨
      ∃ above id below s r, frames = above ++ id :: below ∧
        (∀ upper ∈ above, en.automaton.Passes t upper) ∧
        en.automaton.state? id = some s ∧ s.reaction? t = some r ∧ r ≠ .defer := by
  induction frames with
  | nil => exact .inl nofun
  | cons id rest ih =>
    obtain ⟨s, hs⟩ := hframes.state? rfl
    rcases passes_or_reacts t hs with hpass | ⟨r, hr, hdefer⟩
    · rcases ih hframes.pop with hall | ⟨above, lower, below, s', r, rfl, habove, hlower⟩
      · exact .inl (List.forall_mem_cons.mpr ⟨hpass, hall⟩)
      · exact .inr ⟨id :: above, lower, below, s', r, rfl,
          List.forall_mem_cons.mpr ⟨hpass, habove⟩, hlower⟩
    · exact .inr ⟨[], id, rest, s, r, rfl, nofun, hs, hr, hdefer⟩

/-- How a dispatch goes on, after `calls`, at a frame with the reaction: it ends, the
handler runs, or the target is entered, which for a goto the exit action of the frame and
the action of the goto precede. -/
def Reacts (en : Engine) (invoke : ι → Invocation → Except Failure Transition × ι) (i : ι)
    (progress : Progress) (event : Event) (calls : List Invocation) (id : StateId)
    (below : List StateId) : Reaction → Prop
  | .ignore => en.Concludes invoke i progress calls ⟨id :: below⟩ (.ok .running)
  | .act action =>
    ∃ j, en.Reaches invoke i progress calls j
      (.pause ⟨id :: below⟩ action .handler id event .apply)
  | .push target =>
    ∃ j, en.Reaches invoke i progress calls j (en.enter ⟨target :: id :: below⟩ event)
  | .goto target none =>
    ∃ j, en.Reaches invoke i progress (calls ++ en.automaton.exits event [id]) j
      (en.enter ⟨target :: below⟩ event)
  | .goto target (some action) =>
    let calls := calls ++ en.automaton.exits event [id]
    let x : Invocation := ⟨action, .override, id, event⟩
    ∃ j, en.Reaches invoke i progress calls j
        (.pause ⟨id :: below⟩ action .override id event (.arrive target)) ∧
      ((invoke j x).1 = .ok .stay →
        en.Reaches invoke i progress (calls ++ [x]) (invoke j x).2
          (en.enter ⟨target :: below⟩ event))
  | .defer => False

/-- What a frame does that an event has come to. -/
theorem reacts_of_reaches (hclosed : en.automaton.Closed) (hdiscipline : en.discipline = .stack)
    {progress : Progress} {calls : List Invocation} {j : ι} {id : StateId} {below : List StateId}
    {s : State} {r : Reaction} (hs : en.automaton.state? id = some s)
    (hr : s.reaction? event.type = some r) (hdefer : r ≠ .defer)
    (hexits : ∀ j, ∀ x ∈ en.automaton.exits event [id], (invoke j x).1 = .ok .stay)
    (h : en.Reaches invoke i progress calls j (en.react ⟨id :: below⟩ id r event)) :
    en.Reacts invoke i progress event calls id below r := by
  cases r with
  | ignore => exact h.concludes
  | act action => exact ⟨j, h⟩
  | push target =>
    obtain ⟨t, ht⟩ := Option.isSome_iff_exists.mp (hclosed.target_of_reaction? hs hr rfl)
    simp only [react, push, ht, hdiscipline] at h
    exact ⟨j, h⟩
  | goto target action =>
    obtain ⟨k, hleft⟩ := reaches_replace hs hexits j
    have hreplace := h.trans hleft
    cases action with
    | none => exact ⟨k, hreplace⟩
    | some action =>
      refine ⟨k, hreplace, ?_⟩
      intro hreply
      exact hreplace.trans (reaches_proceed (by simp) hreply)
  | defer => contradiction

end Falls

end Engine

/-! ## Upstairs -/

namespace Loft

def upstairs : Stack := ⟨[⟨"Loft"⟩, ⟨"Ground"⟩]⟩

def climb : Event := .message ⟨"Climb"⟩ none

end Loft

/-! ## Results -/

namespace Engine

section Results

variable {en : Engine} {type : String} {kind : Kind} {d : Declaration}

/-- An event that is not an instruction to move comes to the topmost frame that handles or
ignores it. If the exit actions of the frames above answer without asking for anything,
they are what runs until then, from the top down and once each, and what happens next
depends on the reaction of this frame. If there is no such frame, the exit actions of all
frames run, and the dispatch ends with no frame left: a `Halt` event halts, and any other
cannot be handled.

Whatever the actions do, a dispatch halts in this way only: a `Halt` event has been
delivered, the event of the dispatch or one that an action has raised, to frames none of
which handles or ignores it, and since then their exit actions have run. -/
theorem delivered_to_topmost (hbuild : Automaton.build type kind d = .ok en.automaton)
    (stack : Stack) (event : Event) (invoke : ι → Invocation → Except Failure Transition × ι)
    (i : ι) :
    (en.discipline = .stack → stack.Declared en.automaton → event.target = none →
      (∀ j, ∀ x ∈ en.automaton.exits event stack.frames, (invoke j x).1 = .ok .stay) →
      (∃ above id below s r, stack.frames = above ++ id :: below ∧
        (∀ upper ∈ above, en.automaton.Passes event.type upper) ∧
        en.automaton.state? id = some s ∧ s.reaction? event.type = some r ∧
        (s.handles event.type = true ∨ s.ignores event.type = true) ∧
        en.Reacts invoke i (en.handle stack event) event (en.automaton.exits event above) id
          below r) ∨
      (∀ id ∈ stack.frames, en.automaton.Passes event.type id) ∧
        en.Concludes invoke i (en.handle stack event) (en.automaton.exits event stack.frames)
          .empty
          (if event.isHalt then .ok .halted
            else .error (Violation.unhandledEvent event.type).toFailure)) ∧
    ∀ fuel log stack' i' log',
      en.run (logged invoke) fuel (i, log) (en.handle stack event)
        = some (stack', .ok .halted, (i', log')) →
      stack' = .empty ∧
        ∃ calls j reached halt,
          en.Delivers invoke i stack (.handle event) calls j reached halt ∧
          halt.isHalt = true ∧ (∀ id ∈ reached.frames, en.automaton.Passes halt.type id) ∧
          log' = log ++ (calls ++ en.automaton.exits halt reached.frames) := by
  refine ⟨?_, ?_⟩
  · intro hdiscipline hdeclared htarget hexits
    have hhandle : en.handle stack event = en.fallThrough event stack.frames := by
      cases event with
      | message => rfl
      | goto => contradiction
    obtain ⟨frames⟩ := stack
    simp only [hhandle]
    rcases exists_topmost event.type hdeclared
      with hall | ⟨above, id, below, s, r, rfl, habove, hs, hr, hdefer⟩
    · exact .inr ⟨hall, concludes_of_passes hdiscipline hall hexits⟩
    · left
      have hsplit : en.automaton.exits event (above ++ id :: below)
          = en.automaton.exits event above
            ++ (en.automaton.exits event [id] ++ en.automaton.exits event below) := by
        simp [← Automaton.exits_append]
      simp only [hsplit, List.mem_append] at hexits
      obtain ⟨j, hgone⟩ := reaches_fallThrough hdiscipline habove
        (fun j x hx => hexits j x (.inl hx)) i (id :: below)
      rw [fallThrough_of_reaction hs hr hdefer] at hgone
      have hreacts := reacts_of_reaches (Automaton.closed_of_build hbuild) hdiscipline hs hr hdefer
        (fun j x hx => hexits j x (.inr (.inl hx))) hgone
      refine ⟨above, id, below, s, r, rfl, habove, hs, hr, ?_, hreacts⟩
      cases r with
      | defer => contradiction
      | ignore => exact .inr (by simp [State.ignores, hr])
      | goto | push | act => exact .inl (by simp [State.handles, hr, Reaction.handles])
  · intro fuel log stack' i' log' hrun
    obtain ⟨calls, rfl, hreaches⟩ := reaches_of_run hrun
    have hstands : en.Stands invoke i stack (.handle event) calls (.finish stack' .halted) :=
      hreaches.stands
    cases hstands with
    | halted h hhalt hpasses => exact ⟨rfl, _, _, _, _, h, hhalt, hpasses, rfl⟩

/-- From the loft, a climb passes the loft and comes to the ground, which puts the loft on
top again; and a machine that is asked to halt there leaves both frames. -/
theorem delivered_to_topmost_loft :
    Automaton.build "House" .machine Loft.declaration = .ok Loft.engine.automaton ∧
      Loft.engine.discipline = .stack ∧ Loft.upstairs.Declared Loft.engine.automaton ∧
      (∀ j, ∀ x ∈ Loft.engine.automaton.exits Loft.climb Loft.upstairs.frames,
        (Loft.obey j x).1 = .ok .stay) ∧
      (∃ j, Loft.engine.Reaches Loft.obey () (Loft.engine.handle Loft.upstairs Loft.climb)
        [⟨"leave", .exit, ⟨"Loft"⟩, Loft.climb⟩] j
        (Loft.engine.enter ⟨[⟨"Loft"⟩, ⟨"Ground"⟩]⟩ Loft.climb)) ∧
      Loft.engine.run (logged Loft.obey) 1 ((), []) (Loft.engine.handle Loft.upstairs .halt)
        = some (.empty, .ok .halted, ((), [⟨"leave", .exit, ⟨"Loft"⟩, .halt⟩])) ∧
      ∃ calls j reached halt,
        Loft.engine.Delivers Loft.obey () Loft.upstairs (.handle .halt) calls j reached halt ∧
        halt.isHalt = true ∧
        [⟨"leave", .exit, ⟨"Loft"⟩, .halt⟩]
          = [] ++ (calls ++ Loft.engine.automaton.exits halt reached.frames) := by
  have hdeclared : Loft.upstairs.Declared Loft.engine.automaton :=
    (Stack.Declared.empty.push rfl).push rfl
  have hobeys : ∀ j, ∀ x ∈ Loft.engine.automaton.exits Loft.climb Loft.upstairs.frames,
      (Loft.obey j x).1 = .ok .stay := fun _ _ _ => rfl
  have hrun : Loft.engine.run (logged Loft.obey) 1 ((), [])
      (Loft.engine.handle Loft.upstairs .halt)
    = some (.empty, .ok .halted, ((), [⟨"leave", .exit, ⟨"Loft"⟩, .halt⟩])) := rfl
  have hclimb := (delivered_to_topmost Loft.built Loft.upstairs Loft.climb Loft.obey ()).1 rfl
    hdeclared rfl hobeys
  have hhalt := (delivered_to_topmost Loft.built Loft.upstairs .halt Loft.obey ()).2 1 [] _ _ _ hrun
  obtain ⟨-, calls, j, reached, halt, hdelivers, hhalts, -, hlog⟩ := hhalt
  refine ⟨Loft.built, rfl, hdeclared, hobeys, ?_, hrun, calls, j, reached, halt, hdelivers,
    hhalts, hlog⟩
  rcases hclimb with ⟨above, id, below, s, r, hframes, -, hs, hr, -, hreacts⟩ | ⟨hall, -⟩
  · match above with
    | [] =>
      cases hframes
      cases hs
      cases hr
    | [_] =>
      cases hframes
      cases hs
      cases hr
      exact hreacts
    | _ :: _ :: _ => simp [Loft.upstairs] at hframes
  · obtain ⟨s, hs, hhandles, -⟩ := hall ⟨"Ground"⟩ (.tail _ (.head _))
    cases hs
    cases hhandles

end Results

end Engine

end PushdownActors
