-- SUMMARY: What the checks of a declaration guarantee: no state leads to an undeclared one, and no action is missing.
import PushdownActors.Registry

/-!
# Checked automata

The checks of a declaration look at one rule after the other. What they guarantee
together is that an automaton is closed: its start state is declared, and so is every
state that a reaction leads to. And a type is built only if the action library defines
each action that a state can run.
-/

namespace PushdownActors

theorem State.mem_of_reaction? {s : State} {t : EventType} {r : Reaction}
    (h : s.reaction? t = some r) : (t, r) ∈ s.reactions := by
  obtain ⟨before, after, heq, _⟩ := List.lookup_eq_some_iff.mp h
  rw [heq]
  exact List.mem_append_right before List.mem_cons_self

namespace Automaton

/-! ## Rules -/

section Rules

variable {type : String} {declared : List StateId} {id target : StateId}
  {earlier claims : List Claim} {c : Claim}

theorem isUsable_of_checkClaim (h : checkClaim type declared id earlier c = .ok ()) :
    c.event.isUsable = true := by
  cases husable : c.event.isUsable with
  | true => rfl
  | false => simp [checkClaim, husable, throw, throwThe, MonadExceptOf.throw, bind, Except.bind] at h

theorem mem_of_checkClaim (h : checkClaim type declared id earlier c = .ok ())
    (htarget : c.reaction.target? = some target) : target ∈ declared := by
  simp only [checkClaim, htarget, bind, Except.bind, throw, throwThe, MonadExceptOf.throw] at h
  split at h
  · contradiction
  · split at h
    · contradiction
    · by_cases hmem : target ∈ declared
      · exact hmem
      · simp [hmem] at h

theorem exists_checkClaim (h : checkClaims type declared id earlier claims = .ok ())
    (hc : c ∈ claims) : ∃ before, checkClaim type declared id before c = .ok () := by
  induction claims generalizing earlier with
  | nil => contradiction
  | cons first rest ih =>
    simp only [checkClaims, bind, Except.bind] at h
    split at h
    · contradiction
    · rename_i hfirst
      rcases List.mem_cons.mp hc with rfl | hc
      · exact ⟨earlier, hfirst⟩
      · exact ih h hc

end Rules

/-! ## States -/

section States

variable {type : String} {kind : Kind} {declared : List StateId}
  {specs : List (StateId × StateSpec)} {states : List State} {id : StateId} {spec : StateSpec}
  {s : State}

/-- What is checked of a state, and what becomes of it. -/
theorem buildState_eq_ok (h : buildState type kind declared id spec = .ok s) :
    checkClaims type declared id [] spec.claims = .ok () ∧
      s = { id, entry := spec.entry, exit := spec.exit,
            reactions := spec.claims.map fun c => (c.event, c.reaction),
            hot := spec.hot, cold := spec.cold } := by
  simp only [buildState, bind, Except.bind] at h
  split at h
  · contradiction
  · split at h
    · contradiction
    · rename_i hclaims
      cases h
      exact ⟨hclaims, rfl⟩

theorem mem_buildStates (h : buildStates type kind declared specs = .ok states) (hs : s ∈ states) :
    ∃ id spec, (id, spec) ∈ specs ∧ buildState type kind declared id spec = .ok s := by
  induction specs generalizing states with
  | nil =>
    cases h
    contradiction
  | cons first rest ih =>
    obtain ⟨id, spec⟩ := first
    simp only [buildStates, bind, Except.bind] at h
    split at h
    · contradiction
    · rename_i built hbuilt
      split at h
      · contradiction
      · rename_i later hlater
        cases h
        rcases List.mem_cons.mp hs with rfl | hs
        · exact ⟨id, spec, List.mem_cons_self, hbuilt⟩
        · obtain ⟨id', spec', hmem, hbuilt'⟩ := ih hlater hs
          exact ⟨id', spec', List.mem_cons_of_mem _ hmem, hbuilt'⟩

theorem map_id_of_buildStates (h : buildStates type kind declared specs = .ok states) :
    states.map State.id = specs.map Prod.fst := by
  induction specs generalizing states with
  | nil =>
    cases h
    rfl
  | cons first rest ih =>
    obtain ⟨id, spec⟩ := first
    simp only [buildStates, bind, Except.bind] at h
    split at h
    · contradiction
    · rename_i built hbuilt
      split at h
      · contradiction
      · rename_i later hlater
        cases h
        rw [List.map_cons, List.map_cons, ih hlater, (buildState_eq_ok hbuilt).2]

theorem hasState_iff {a : Automaton} : a.hasState id = true ↔ id ∈ a.states.map State.id := by
  simp [hasState, state?]

end States

/-! ## Automata -/

/-- What an automaton has been checked for: it starts in a declared state, and what a
declared state reacts to is an event that users may send, with a reaction that leads,
if it leads anywhere, to a declared state. -/
structure Closed (a : Automaton) : Prop where
  start : a.hasState a.start = true
  usable {s : State} {t : EventType} {r : Reaction} (hs : s ∈ a.states)
    (hr : (t, r) ∈ s.reactions) : t.isUsable = true
  target {s : State} {t : EventType} {r : Reaction} {target : StateId} (hs : s ∈ a.states)
    (hr : (t, r) ∈ s.reactions) (htarget : r.target? = some target) : a.hasState target = true

variable {type : String} {kind : Kind} {d : Declaration} {a : Automaton}

theorem build_eq_ok (h : build type kind d = .ok a) :
    buildStates type kind (d.flatten.map Prod.fst) d.flatten = .ok a.states ∧
      a.start ∈ d.flatten.map Prod.fst ∧ a.name = type ∧ a.kind = kind := by
  simp only [build, bind, Except.bind] at h
  split at h
  · contradiction
  · split at h
    · contradiction
    · split at h
      · contradiction
      · rename_i start hstart
        split at h
        · contradiction
        · rename_i hstates
          cases h
          have hmem := List.mem_singleton_self start
          rw [← hstart] at hmem
          obtain ⟨declared, hdeclared, rfl⟩ := List.mem_map.mp hmem
          exact ⟨hstates, List.mem_map_of_mem (List.mem_filter.mp hdeclared).1, rfl, rfl⟩
      · contradiction

theorem closed_of_build (h : build type kind d = .ok a) : a.Closed := by
  obtain ⟨hstates, hstart, _, _⟩ := build_eq_ok h
  -- Each reaction comes from a rule that has been checked against the declared names.
  have hrule {s : State} {t : EventType} {r : Reaction} (hs : s ∈ a.states)
      (hr : (t, r) ∈ s.reactions) :
      ∃ c : Claim, c.event = t ∧ c.reaction = r ∧ ∃ id before,
        checkClaim type (d.flatten.map Prod.fst) id before c = .ok () := by
    obtain ⟨id, spec, _, hbuilt⟩ := mem_buildStates hstates hs
    obtain ⟨hclaims, rfl⟩ := buildState_eq_ok hbuilt
    obtain ⟨c, hc, heq⟩ := List.mem_map.mp hr
    cases heq
    exact ⟨c, rfl, rfl, id, exists_checkClaim hclaims hc⟩
  refine ⟨?_, ?_, ?_⟩
  · rw [hasState_iff, map_id_of_buildStates hstates]
    exact hstart
  · intro s t r hs hr
    obtain ⟨c, rfl, rfl, id, before, hcheck⟩ := hrule hs hr
    exact isUsable_of_checkClaim hcheck
  · intro s t r target hs hr htarget
    obtain ⟨c, rfl, rfl, id, before, hcheck⟩ := hrule hs hr
    rw [hasState_iff, map_id_of_buildStates hstates]
    exact mem_of_checkClaim hcheck htarget

theorem mem_of_state? {id : StateId} {s : State} (h : a.state? id = some s) : s ∈ a.states :=
  List.mem_of_find?_eq_some h

namespace Closed

variable {id : StateId} {s : State} {t : EventType} {r : Reaction}

theorem usable_of_reaction? (h : a.Closed) (hs : a.state? id = some s)
    (hr : s.reaction? t = some r) : t.isUsable = true :=
  h.usable (mem_of_state? hs) (State.mem_of_reaction? hr)

theorem target_of_reaction? (h : a.Closed) (hs : a.state? id = some s)
    (hr : s.reaction? t = some r) {target : StateId} (htarget : r.target? = some target) :
    a.hasState target = true :=
  h.target (mem_of_state? hs) (State.mem_of_reaction? hr) htarget

end Closed

/-! ## Actions -/

theorem mem_insertByName {s t : State} {states : List State} :
    s ∈ insertByName t states ↔ s = t ∨ s ∈ states := by
  induction states with
  | nil => simp [insertByName]
  | cons first rest ih =>
    unfold insertByName
    split
    · exact List.mem_cons
    · simp only [List.mem_cons, ih]
      exact or_left_comm

theorem mem_sortedStates {s : State} : s ∈ a.sortedStates ↔ s ∈ a.states := by
  have hfold (states sorted : List State) :
      s ∈ states.foldl (fun sorted t => insertByName t sorted) sorted
        ↔ s ∈ states ∨ s ∈ sorted := by
    induction states generalizing sorted with
    | nil => simp
    | cons first rest ih =>
      simp only [List.foldl_cons, ih, mem_insertByName, List.mem_cons]
      exact or_left_comm.trans or_assoc.symm
  rw [sortedStates, hfold]
  simp

theorem forM_eq_ok {α ε : Type} {f : α → Except ε Unit} {items : List α}
    (h : items.forM f = .ok ()) : ∀ x ∈ items, f x = .ok () := by
  induction items with
  | nil => exact nofun
  | cons first rest ih =>
    rw [show (first :: rest).forM f = (f first >>= fun _ => rest.forM f) from rfl] at h
    simp only [bind, Except.bind] at h
    split at h
    · contradiction
    · rename_i hfirst
      exact List.forall_mem_cons.mpr ⟨hfirst, ih h⟩

/-- Every action that a state can run is defined. -/
theorem isDefined_of_resolveActions {isDefined : String → Bool}
    (h : a.resolveActions isDefined = .ok ()) {s : State} (hs : s ∈ a.states) {action : String}
    (haction : action ∈ s.actions) : isDefined action = true := by
  have hstate := forM_eq_ok h s (mem_sortedStates.mpr hs)
  split at hstate
  · contradiction
  · rename_i hfind
    simpa using List.find?_eq_none.mp hfind action haction

end Automaton

/-! ## Types -/

namespace Blueprint

/-- The type has been built from a description, and so it has been checked. -/
def Built (b : Blueprint σ) : Prop := ∃ type kind d, build type kind d = .ok b

section Built

variable {type : String} {kind : Kind} {d : Description σ} {b : Blueprint σ}

theorem build_eq_ok (h : build type kind d = .ok b) :
    Automaton.build type kind d.declaration = .ok b.automaton ∧
      b.automaton.resolveActions (fun name => (d.actions.lookup name).isSome) = .ok () ∧
      b.actions = d.actions := by
  simp only [build, bind, Except.bind] at h
  split at h
  · contradiction
  · rename_i hautomaton
    split at h
    · contradiction
    · rename_i hactions
      cases h
      exact ⟨hautomaton, hactions, rfl⟩

theorem Built.closed (h : b.Built) : b.automaton.Closed := by
  obtain ⟨type, kind, d, hbuild⟩ := h
  exact Automaton.closed_of_build (build_eq_ok hbuild).1

/-- A built type binds every action that one of its states can run. -/
theorem Built.exists_action (h : b.Built) {s : State} (hs : s ∈ b.automaton.states)
    {name : String} (hname : name ∈ s.actions) : ∃ action, b.action? name = some action := by
  obtain ⟨type, kind, d, hbuild⟩ := h
  obtain ⟨_, hresolved, hactions⟩ := build_eq_ok hbuild
  have hdefined := Automaton.isDefined_of_resolveActions hresolved hs hname
  rw [action?, hactions]
  exact Option.isSome_iff_exists.mp hdefined

end Built

end Blueprint

namespace Registry

/-- All types of the registry have been built. -/
def Built (r : Registry σ) : Prop := ∀ entry ∈ r.entries, entry.2.Built

/-- A registry gives built types only, and keeps no others. -/
theorem Built.fetch {r r' : Registry σ} {catalog : Catalog σ} {kind : Kind} {type : String}
    {b : Blueprint σ} (h : r.Built) (hfetch : r.fetch catalog kind type = .ok (b, r')) :
    b.Built ∧ r'.Built := by
  unfold Registry.fetch at hfetch
  split at hfetch
  · rename_i found hfind
    cases hfetch
    obtain ⟨before, after, heq, _⟩ := List.lookup_eq_some_iff.mp hfind
    have hmem : (type, b) ∈ r.entries := by
      rw [heq]
      exact List.mem_append_right before List.mem_cons_self
    exact ⟨h _ hmem, h⟩
  · simp only [bind, Except.bind] at hfetch
    split at hfetch
    · contradiction
    · rename_i built hbuild
      cases hfetch
      have hb : b.Built := ⟨type, kind, _, hbuild⟩
      exact ⟨hb, List.forall_mem_append.mpr ⟨h, List.forall_mem_singleton.mpr hb⟩⟩

end Registry

end PushdownActors
