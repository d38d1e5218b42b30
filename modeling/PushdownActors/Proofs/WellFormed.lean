-- SUMMARY: Which declarations are accepted, what becomes of them, and what a refusal tells of the others.
import PushdownActors.Proofs.Checked

/-!
# Well-formed declarations

The checks of a declaration go through its states one by one, and through the rules of a
state one table after the other, and the first check that fails ends them. What they
amount to is said here without their order: a declaration is well-formed if its names,
its marks and the events and targets of its rules fit together. Exactly these are accepted.

An accepted automaton answers for each state and event type what the declaration says
about them, and nothing else. A refusal names a type, a state, an event, a target or two
tables, and what it says of them is so.
-/

namespace PushdownActors

/-! ## Members -/

/-- A declared state, and the names of the groups around it from the outside to the
inside. -/
structure Member where
  path : List String
  spec : StateSpec

/-- The path and the state's own name, joined by dots. -/
def Member.id (m : Member) : StateId := ⟨".".intercalate (m.path ++ [m.spec.name])⟩

mutual

/-- The states of a group and of the groups inside it. -/
def GroupSpec.members (around : List String) : GroupSpec → List Member
  | ⟨name, states, groups⟩ =>
    states.map (Member.mk (around ++ [name])) ++ GroupSpec.membersAll (around ++ [name]) groups

def GroupSpec.membersAll (around : List String) : List GroupSpec → List Member
  | [] => []
  | g :: rest => g.members around ++ GroupSpec.membersAll around rest

end

/-- All states of a declaration. -/
def Declaration.members (d : Declaration) : List Member :=
  d.states.map (Member.mk []) ++ GroupSpec.membersAll [] d.groups

/-- The qualified names of all states. -/
def Declaration.names (d : Declaration) : List StateId := d.members.map Member.id

/-- The states that are marked as the start. -/
def Declaration.starts (d : Declaration) : List StateId :=
  (d.members.filter (·.spec.start)).map Member.id

/-- What stands before the names of states that are declared at a path. -/
def dotted : List String → String
  | [] => ""
  | g :: rest => g ++ "." ++ dotted rest

theorem dotted_append (path : List String) (g : String) :
    dotted (path ++ [g]) = dotted path ++ g ++ "." := by
  induction path with
  | nil => simp [dotted]
  | cons first rest ih => simp [dotted, ih, String.append_assoc]

theorem intercalate_append (path : List String) (name : String) :
    ".".intercalate (path ++ [name]) = dotted path ++ name := by
  induction path with
  | nil => simp [dotted]
  | cons first rest ih =>
    have hne : rest ++ [name] ≠ [] := List.append_ne_nil_of_right_ne_nil rest (List.cons_ne_nil _ _)
    rw [List.cons_append, String.intercalate_cons_of_ne_nil hne, ih, dotted]
    simp only [String.append_assoc]

theorem Member.id_mk (path : List String) (s : StateSpec) :
    (Member.mk path s).id = ⟨dotted path ++ s.name⟩ := by
  rw [id, intercalate_append]

mutual

theorem GroupSpec.flatten_eq (path : List String) :
    ∀ g : GroupSpec, g.flatten (dotted path) = (g.members path).map fun m => (m.id, m.spec)
  | ⟨name, states, groups⟩ => by
    simp only [flatten, members, List.map_append, List.map_map]
    rw [← dotted_append, GroupSpec.flattenAll_eq (path ++ [name]) groups]
    simp [Member.id_mk, Function.comp_def]

theorem GroupSpec.flattenAll_eq (path : List String) :
    ∀ groups : List GroupSpec, GroupSpec.flattenAll (dotted path) groups
      = (GroupSpec.membersAll path groups).map fun m => (m.id, m.spec)
  | [] => rfl
  | g :: rest => by
    simp only [flattenAll, membersAll, List.map_append]
    rw [GroupSpec.flatten_eq path g, GroupSpec.flattenAll_eq path rest]

end

/-- The names that are put together on the way through the groups are the paths of their
states. -/
theorem Declaration.flatten_eq (d : Declaration) :
    d.flatten = d.members.map fun m => (m.id, m.spec) := by
  have hgroups : GroupSpec.flattenAll "" d.groups
      = (GroupSpec.membersAll [] d.groups).map fun m => (m.id, m.spec) :=
    GroupSpec.flattenAll_eq [] d.groups
  simp only [flatten, members, List.map_append, List.map_map, hgroups]
  simp [Member.id_mk, dotted, Function.comp_def]

theorem Declaration.map_fst_flatten (d : Declaration) : d.flatten.map Prod.fst = d.names := by
  simp [flatten_eq, names]

theorem Declaration.starts_eq (d : Declaration) :
    (d.flatten.filter fun (_, s) => s.start).map Prod.fst = d.starts := by
  simp [flatten_eq, starts, List.filter_map, Function.comp_def]

/-! ## Well-formed states and declarations -/

namespace StateSpec

/-- The event types that the state mentions and where, list after list. -/
def mentions (s : StateSpec) : List (EventType × Table) :=
  s.gotos.map (fun r => (r.on, .goto)) ++ s.pushes.map (fun r => (r.on, .push))
    ++ s.actions.map (fun r => (r.on, .action)) ++ s.ignored.map (fun e => (e, .ignored))
    ++ s.deferred.map (fun e => (e, .deferred))

def events (s : StateSpec) : List EventType := s.mentions.map Prod.fst

/-- The states that the state leads to. -/
def targets (s : StateSpec) : List StateId :=
  s.gotos.map (·.target) ++ s.pushes.map (·.target)

/-- The state fits the kind of its automaton and the names that are declared. -/
structure WellFormed (kind : Kind) (declared : List StateId) (s : StateSpec) : Prop where
  marks : ¬ (s.hot = true ∧ s.cold = true)
  machine : kind = .machine → s.hot = false ∧ s.cold = false
  monitor : kind = .monitor → s.deferred = []
  target : ∀ id ∈ s.targets, id ∈ declared
  usable : ∀ t ∈ s.events, t.name ≠ "" ∧ t ≠ .gotoState ∧ t ≠ .start
  once : s.events.Nodup

end StateSpec

/-- The states have different names, one of them is the start, and each of them fits. -/
structure Declaration.WellFormed (kind : Kind) (d : Declaration) : Prop where
  nonempty : d.members ≠ []
  distinct : d.names.Nodup
  start : ∃ id, d.starts = [id]
  state : ∀ m ∈ d.members, m.spec.WellFormed kind d.names

/-! ## What an automaton answers -/

/-- The state does what is declared, and nothing else. -/
structure State.Follows (s : State) (spec : StateSpec) : Prop where
  entry : s.entry = spec.entry
  exit : s.exit = spec.exit
  hot : s.hot = spec.hot
  cold : s.cold = spec.cold
  goto (t : EventType) (target : StateId) (action : Option String) :
    s.reaction? t = some (.goto target action) ↔ ⟨t, target, action⟩ ∈ spec.gotos
  push (t : EventType) (target : StateId) :
    s.reaction? t = some (.push target) ↔ ⟨t, target⟩ ∈ spec.pushes
  act (t : EventType) (action : String) :
    s.reaction? t = some (.act action) ↔ ⟨t, action⟩ ∈ spec.actions
  ignores (t : EventType) : s.ignores t = true ↔ t ∈ spec.ignored
  defers (t : EventType) : s.defers t = true ↔ t ∈ spec.deferred
  silent (t : EventType) : s.reaction? t = none ↔ t ∉ spec.events

/-- The automaton has the states of the declaration, under their qualified names. -/
structure Automaton.Follows (a : Automaton) (type : String) (kind : Kind) (d : Declaration) :
    Prop where
  name : a.name = type
  kind : a.kind = kind
  declaration : a.declaration = d
  start : d.starts = [a.start]
  ids : a.states.map State.id = d.names
  state {m : Member} (hm : m ∈ d.members) : ∃ s, a.state? m.id = some s ∧ s.Follows m.spec
  declared {id : StateId} {s : State} (hs : a.state? id = some s) :
    ∃ m ∈ d.members, m.id = id ∧ s.Follows m.spec

/-! ## What a refusal tells -/

/-- What the error says is so. -/
def BuildError.Blames (type : String) (kind : Kind) (d : Declaration) : BuildError → Prop
  | noStates t => t = type ∧ d.members = []
  | noStartState t => t = type ∧ d.starts = []
  | multipleStartStates t ids => t = type ∧ ids = d.starts ∧ 2 ≤ ids.length
  | duplicateState t id => t = type ∧ 2 ≤ d.names.count id
  | unknownTarget t id target =>
    t = type ∧ target ∉ d.names ∧ ∃ m ∈ d.members, m.id = id ∧ target ∈ m.spec.targets
  | hotAndCold t id =>
    t = type ∧ ∃ m ∈ d.members, m.id = id ∧ m.spec.hot = true ∧ m.spec.cold = true
  | conflictingDeclaration t id e first second =>
    t = type ∧ ∃ m ∈ d.members, m.id = id ∧ [(e, first), (e, second)].Sublist m.spec.mentions
  | invalidDefinition t (.heatOutsideMonitor id) =>
    t = type ∧ kind = .machine ∧
      ∃ m ∈ d.members, m.id = id ∧ (m.spec.hot = true ∨ m.spec.cold = true)
  | invalidDefinition t (.deferralInMonitor id) =>
    t = type ∧ kind = .monitor ∧ ∃ m ∈ d.members, m.id = id ∧ m.spec.deferred ≠ []
  | invalidDefinition t (.unusableEvent id e) =>
    t = type ∧ (e.name = "" ∨ e = .gotoState ∨ e = .start) ∧
      ∃ m ∈ d.members, m.id = id ∧ e ∈ m.spec.events
  | unresolvedAction .. | invalidDefinition _ (.described _) | malformed => False

/-- A declaration that is blamed for something is not well-formed. -/
theorem BuildError.Blames.not_wellFormed {type : String} {kind : Kind} {d : Declaration}
    {e : BuildError} (h : e.Blames type kind d) : ¬ d.WellFormed kind := by
  intro hd
  obtain ⟨id, hid⟩ := hd.start
  cases e with
  | noStates t => exact hd.nonempty h.2
  | noStartState t =>
    rw [h.2] at hid
    contradiction
  | multipleStartStates t ids =>
    obtain ⟨_, rfl, hlength⟩ := h
    simp [hid] at hlength
  | duplicateState t id =>
    have honce : d.names.count id ≤ 1 := List.nodup_iff_count.mp hd.distinct id
    have htwice : 2 ≤ d.names.count id := h.2
    omega
  | unknownTarget t id target =>
    obtain ⟨_, hunknown, m, hm, _, htarget⟩ := h
    exact hunknown ((hd.state m hm).target target htarget)
  | hotAndCold t id =>
    obtain ⟨_, m, hm, _, hboth⟩ := h
    exact (hd.state m hm).marks hboth
  | conflictingDeclaration t id e first second =>
    obtain ⟨_, m, hm, _, hsub⟩ := h
    have htwice : [e, e].Sublist m.spec.events := hsub.map Prod.fst
    exact absurd ((hd.state m hm).once.sublist htwice) (by simp)
  | invalidDefinition t defect =>
    cases defect with
    | heatOutsideMonitor id =>
      obtain ⟨_, hkind, m, hm, _, hmarked⟩ := h
      obtain ⟨hhot, hcold⟩ := (hd.state m hm).machine hkind
      simp [hhot, hcold] at hmarked
    | deferralInMonitor id =>
      obtain ⟨_, hkind, m, hm, _, hdeferred⟩ := h
      exact hdeferred ((hd.state m hm).monitor hkind)
    | unusableEvent id e =>
      obtain ⟨_, hunusable, m, hm, _, he⟩ := h
      obtain ⟨hname, hgoto, hstart⟩ := (hd.state m hm).usable e he
      rcases hunusable with hempty | hinternal | hinternal
      · exact hname hempty
      · exact hgoto hinternal
      · exact hstart hinternal
    | described reason => exact h
  | unresolvedAction | malformed => exact h

/-! ## Rules -/

theorem EventType.isUsable_iff {t : EventType} :
    t.isUsable = true ↔ t.name ≠ "" ∧ t ≠ .gotoState ∧ t ≠ .start := by
  simp [isUsable, isInternal]

namespace StateSpec

variable {s : StateSpec}

theorem mentions_eq : s.mentions = s.claims.map fun c => (c.event, c.table) := by
  simp [mentions, claims, Function.comp_def]

theorem events_eq : s.events = s.claims.map Claim.event := by
  simp [events, mentions_eq, Function.comp_def]

theorem mem_targets {target : StateId} :
    target ∈ s.targets ↔ ∃ c ∈ s.claims, c.reaction.target? = some target := by
  simp only [targets, claims, List.mem_append, List.mem_map]
  constructor
  · rintro (⟨r, hr, rfl⟩ | ⟨r, hr, rfl⟩)
    · exact ⟨_, .inl (.inl (.inl (.inl ⟨r, hr, rfl⟩))), rfl⟩
    · exact ⟨_, .inl (.inl (.inl (.inr ⟨r, hr, rfl⟩))), rfl⟩
  · rintro ⟨c, hc, htarget⟩
    rcases hc with (((⟨r, hr, rfl⟩ | ⟨r, hr, rfl⟩) | ⟨r, hr, rfl⟩) | ⟨t, ht, rfl⟩) | ⟨t, ht, rfl⟩
    · exact .inl ⟨r, hr, Option.some.inj htarget⟩
    · exact .inr ⟨r, hr, Option.some.inj htarget⟩
    all_goals contradiction

/-! What the state does with an event, rule by rule: each table gives its own kind of
reaction. -/

section Reactions

variable {t : EventType} {target : StateId}

theorem goto_mem_claims {action : Option String} :
    (t, Reaction.goto target action) ∈ s.claims.map (fun c => (c.event, c.reaction))
      ↔ ⟨t, target, action⟩ ∈ s.gotos := by
  constructor
  · intro h
    obtain ⟨⟨_, _, _⟩, hr, rfl, rfl, rfl⟩ : ∃ r ∈ s.gotos, r.on = t ∧ r.target = target ∧
        r.action = action := by simpa [claims] using h
    exact hr
  · intro hr
    have h : ∃ r ∈ s.gotos, r.on = t ∧ r.target = target ∧ r.action = action :=
      ⟨_, hr, rfl, rfl, rfl⟩
    simpa [claims] using h

theorem push_mem_claims :
    (t, Reaction.push target) ∈ s.claims.map (fun c => (c.event, c.reaction))
      ↔ ⟨t, target⟩ ∈ s.pushes := by
  constructor
  · intro h
    obtain ⟨⟨_, _⟩, hr, rfl, rfl⟩ : ∃ r ∈ s.pushes, r.on = t ∧ r.target = target := by
      simpa [claims] using h
    exact hr
  · intro hr
    have h : ∃ r ∈ s.pushes, r.on = t ∧ r.target = target := ⟨_, hr, rfl, rfl⟩
    simpa [claims] using h

theorem act_mem_claims {action : String} :
    (t, Reaction.act action) ∈ s.claims.map (fun c => (c.event, c.reaction))
      ↔ ⟨t, action⟩ ∈ s.actions := by
  constructor
  · intro h
    obtain ⟨⟨_, _⟩, hr, rfl, rfl⟩ : ∃ r ∈ s.actions, r.on = t ∧ r.action = action := by
      simpa [claims] using h
    exact hr
  · intro hr
    have h : ∃ r ∈ s.actions, r.on = t ∧ r.action = action := ⟨_, hr, rfl, rfl⟩
    simpa [claims] using h

theorem ignore_mem_claims :
    (t, Reaction.ignore) ∈ s.claims.map (fun c => (c.event, c.reaction)) ↔ t ∈ s.ignored := by
  simp [claims]

theorem defer_mem_claims :
    (t, Reaction.defer) ∈ s.claims.map (fun c => (c.event, c.reaction)) ↔ t ∈ s.deferred := by
  simp [claims]

end Reactions

end StateSpec

namespace Automaton

section Rules

variable {type : String} {declared : List StateId} {id : StateId} {earlier claims : List Claim}
  {c : Claim} {e : BuildError}

/-- Why a rule is refused. -/
inductive Refuses (type : String) (declared : List StateId) (id : StateId)
    (earlier : List Claim) (c : Claim) : BuildError → Prop
  | unusable (h : c.event.isUsable = false) :
      Refuses type declared id earlier c (.invalidDefinition type (.unusableEvent id c.event))
  | claimed {first : Claim} (hfirst : first ∈ earlier) (hevent : first.event = c.event) :
      Refuses type declared id earlier c
        (.conflictingDeclaration type id c.event first.table c.table)
  | unknown {target : StateId} (htarget : c.reaction.target? = some target)
      (hunknown : target ∉ declared) :
      Refuses type declared id earlier c (.unknownTarget type id target)

theorem refuses_of_checkClaim (h : checkClaim type declared id earlier c = .error e) :
    Refuses type declared id earlier c e := by
  simp only [checkClaim, bind, Except.bind, throw, throwThe, MonadExceptOf.throw] at h
  split at h
  · rename_i hunusable
    cases h
    exact .unusable (by simpa using hunusable)
  · split at h
    · rename_i first hfind
      cases h
      exact .claimed (List.mem_of_find?_eq_some hfind) (by simpa using List.find?_some hfind)
    · split at h
      · rename_i target htarget
        split at h
        · rename_i hunknown
          cases h
          exact .unknown htarget (by simpa using hunknown)
        · contradiction
      · contradiction

/-- A rule that is accepted mentions an event that no rule before it mentions. -/
theorem fresh_of_checkClaim (h : checkClaim type declared id earlier c = .ok ()) :
    ∀ first ∈ earlier, first.event ≠ c.event := by
  intro first hfirst hevent
  have hfound : (earlier.find? (·.event == c.event)).isSome :=
    List.find?_isSome.mpr ⟨first, hfirst, by simpa using hevent⟩
  obtain ⟨found, hfind⟩ := Option.isSome_iff_exists.mp hfound
  simp only [checkClaim, hfind, bind, Except.bind, throw, throwThe, MonadExceptOf.throw] at h
  split at h <;> contradiction

theorem refuses_of_checkClaims (h : checkClaims type declared id earlier claims = .error e) :
    ∃ before c after, claims = before ++ c :: after ∧
      Refuses type declared id (earlier ++ before) c e := by
  induction claims generalizing earlier with
  | nil => contradiction
  | cons first rest ih =>
    simp only [checkClaims, bind, Except.bind] at h
    split at h
    · rename_i hfirst
      cases h
      refine ⟨[], first, rest, rfl, ?_⟩
      rw [List.append_nil]
      exact refuses_of_checkClaim hfirst
    · obtain ⟨before, c, after, hsplit, hrefuses⟩ := ih h
      refine ⟨first :: before, c, after, congrArg (first :: ·) hsplit, ?_⟩
      rw [List.append_assoc] at hrefuses
      exact hrefuses

theorem nodup_of_checkClaims (h : checkClaims type declared id earlier claims = .ok ()) :
    (claims.map Claim.event).Nodup ∧
      ∀ first ∈ earlier, ∀ c ∈ claims, first.event ≠ c.event := by
  induction claims generalizing earlier with
  | nil => exact ⟨List.nodup_nil, fun _ _ _ => nofun⟩
  | cons next rest ih =>
    simp only [checkClaims, bind, Except.bind] at h
    split at h
    · contradiction
    · rename_i hnext
      obtain ⟨hnodup, hapart⟩ := ih h
      refine ⟨?_, ?_⟩
      · refine List.nodup_cons.mpr ⟨?_, hnodup⟩
        intro hmem
        obtain ⟨c, hc, hevent⟩ := List.mem_map.mp hmem
        exact hapart next (List.mem_append_right _ List.mem_cons_self) c hc hevent.symm
      · intro first hfirst c hc
        rcases List.mem_cons.mp hc with rfl | hc
        · exact fresh_of_checkClaim hnext first hfirst
        · exact hapart first (List.mem_append_left _ hfirst) c hc

end Rules

/-! ## States -/

section States

variable {type : String} {kind : Kind} {d : Declaration} {declared : List StateId} {id : StateId}
  {spec : StateSpec} {m : Member} {e : BuildError}

theorem checkMarks_eq : checkMarks type kind id spec =
    if spec.hot && spec.cold then .error (.hotAndCold type id)
    else if kind == .machine && (spec.hot || spec.cold) then
      .error (.invalidDefinition type (.heatOutsideMonitor id))
    else if kind == .monitor && !spec.deferred.isEmpty then
      .error (.invalidDefinition type (.deferralInMonitor id))
    else .ok () := by
  unfold checkMarks
  split
  · rfl
  · split
    · rfl
    · split <;> rfl

theorem marks_of_checkMarks (h : checkMarks type kind id spec = .ok ()) :
    ¬ (spec.hot = true ∧ spec.cold = true) ∧
      (kind = .machine → spec.hot = false ∧ spec.cold = false) ∧
      (kind = .monitor → spec.deferred = []) := by
  rw [checkMarks_eq] at h
  split at h
  · contradiction
  · rename_i hboth
    split at h
    · contradiction
    · rename_i hheat
      split at h
      · contradiction
      · rename_i hdeferral
        refine ⟨by simpa using hboth, ?_, ?_⟩
        · intro hkind
          simpa [hkind] using hheat
        · intro hkind
          simpa [hkind] using hdeferral

/-- The error of a state's marks says what is so. -/
theorem blames_of_checkMarks (hm : m ∈ d.members)
    (h : checkMarks type kind m.id m.spec = .error e) : e.Blames type kind d := by
  rw [checkMarks_eq] at h
  split at h
  · rename_i hboth
    cases h
    exact ⟨rfl, m, hm, rfl, by simpa using hboth⟩
  · split at h
    · rename_i hheat
      cases h
      obtain ⟨hkind, hmarked⟩ : kind = .machine ∧ (m.spec.hot = true ∨ m.spec.cold = true) := by
        simpa using hheat
      exact ⟨rfl, hkind, m, hm, rfl, hmarked⟩
    · split at h
      · rename_i hdeferral
        cases h
        obtain ⟨hkind, hdeferred⟩ : kind = .monitor ∧ m.spec.deferred ≠ [] := by
          simpa using hdeferral
        exact ⟨rfl, hkind, m, hm, rfl, hdeferred⟩
      · contradiction

/-- The error of a rule says what is so. -/
theorem Refuses.blames {before after : List Claim} {c : Claim} (hm : m ∈ d.members)
    (hsplit : m.spec.claims = before ++ c :: after) (h : Refuses type d.names m.id before c e) :
    e.Blames type kind d := by
  have hc : c ∈ m.spec.claims := by
    rw [hsplit]
    exact List.mem_append_right before List.mem_cons_self
  cases h with
  | unusable hunusable =>
    refine ⟨rfl, ?_, m, hm, rfl, ?_⟩
    · by_cases hname : c.event.name = ""
      · exact .inl hname
      · refine .inr (Decidable.or_iff_not_imp_left.mpr ?_)
        simpa [EventType.isUsable, EventType.isInternal, hname] using hunusable
    · rw [StateSpec.events_eq]
      exact List.mem_map_of_mem hc
  | @claimed first hfirst hevent =>
    refine ⟨rfl, m, hm, rfl, ?_⟩
    rw [StateSpec.mentions_eq, hsplit, List.map_append]
    have hbefore : [(c.event, first.table)].Sublist (before.map fun c => (c.event, c.table)) := by
      rw [List.singleton_sublist, ← hevent]
      exact List.mem_map_of_mem hfirst
    have hafter : [(c.event, c.table)].Sublist ((c :: after).map fun c => (c.event, c.table)) := by
      rw [List.singleton_sublist]
      exact List.mem_cons_self
    exact hbefore.append hafter
  | unknown htarget hunknown =>
    exact ⟨rfl, hunknown, m, hm, rfl, StateSpec.mem_targets.mpr ⟨c, hc, htarget⟩⟩

theorem blames_of_buildState (hm : m ∈ d.members)
    (h : buildState type kind d.names m.id m.spec = .error e) : e.Blames type kind d := by
  simp only [buildState, bind, Except.bind] at h
  split at h
  · rename_i hmarks
    cases h
    exact blames_of_checkMarks hm hmarks
  · split at h
    · rename_i hclaims
      cases h
      obtain ⟨before, c, after, hsplit, hrefuses⟩ := refuses_of_checkClaims hclaims
      rw [List.nil_append] at hrefuses
      exact hrefuses.blames hm hsplit
    · contradiction

/-- A state that is built is well-formed. -/
theorem wellFormed_of_buildState {s : State} (h : buildState type kind declared id spec = .ok s) :
    spec.WellFormed kind declared := by
  obtain ⟨hclaims, _⟩ := buildState_eq_ok h
  have hmarks : checkMarks type kind id spec = .ok () := by
    simp only [buildState, bind, Except.bind] at h
    split at h
    · contradiction
    · rename_i hmarks
      exact hmarks
  obtain ⟨hboth, hmachine, hmonitor⟩ := marks_of_checkMarks hmarks
  refine ⟨hboth, hmachine, hmonitor, ?_, ?_, ?_⟩
  · intro target htarget
    obtain ⟨c, hc, htarget⟩ := StateSpec.mem_targets.mp htarget
    obtain ⟨before, hcheck⟩ := exists_checkClaim hclaims hc
    exact mem_of_checkClaim hcheck htarget
  · intro t ht
    rw [StateSpec.events_eq] at ht
    obtain ⟨c, hc, rfl⟩ := List.mem_map.mp ht
    obtain ⟨before, hcheck⟩ := exists_checkClaim hclaims hc
    exact EventType.isUsable_iff.mp (isUsable_of_checkClaim hcheck)
  · rw [StateSpec.events_eq]
    exact (nodup_of_checkClaims hclaims).1

/-- Where no event is mentioned twice, each rule is found. -/
theorem reaction?_eq_some_iff {s : State} (hnodup : (s.reactions.map Prod.fst).Nodup)
    {t : EventType} {r : Reaction} : s.reaction? t = some r ↔ (t, r) ∈ s.reactions := by
  refine ⟨State.mem_of_reaction?, ?_⟩
  intro hmem
  obtain ⟨before, after, hsplit⟩ := List.append_of_mem hmem
  refine List.lookup_eq_some_iff.mpr ⟨before, after, hsplit, ?_⟩
  intro other hother
  rw [hsplit, List.map_append] at hnodup
  have hapart := (List.nodup_append.mp hnodup).2.2 other.1 (List.mem_map_of_mem hother) t
    List.mem_cons_self
  simpa [bne_iff_ne] using Ne.symm hapart

/-- A state that is built does what is declared. -/
theorem follows_of_buildState {s : State} (h : buildState type kind declared id spec = .ok s) :
    s.Follows spec := by
  have honce := (wellFormed_of_buildState h).once
  have hreactions : s.reactions = spec.claims.map fun c => (c.event, c.reaction) := by
    rw [(buildState_eq_ok h).2]
  have hkeys : s.reactions.map Prod.fst = spec.events := by
    simp [hreactions, StateSpec.events_eq, Function.comp_def]
  have hfind {t : EventType} {r : Reaction} : s.reaction? t = some r ↔ (t, r) ∈ s.reactions :=
    reaction?_eq_some_iff (by rwa [hkeys])
  constructor
  case goto =>
    intro t target action
    rw [hfind, hreactions, StateSpec.goto_mem_claims]
  case push =>
    intro t target
    rw [hfind, hreactions, StateSpec.push_mem_claims]
  case act =>
    intro t action
    rw [hfind, hreactions, StateSpec.act_mem_claims]
  case ignores =>
    intro t
    rw [State.ignores, beq_iff_eq, hfind, hreactions, StateSpec.ignore_mem_claims]
  case defers =>
    intro t
    rw [State.defers, beq_iff_eq, hfind, hreactions, StateSpec.defer_mem_claims]
  case silent =>
    intro t
    rw [← hkeys, State.reaction?, List.lookup_eq_none_iff, List.mem_map]
    grind
  all_goals rw [(buildState_eq_ok h).2]

end States

section Declarations

variable {type : String} {kind : Kind} {d : Declaration} {a : Automaton} {e : BuildError}

/-- The states of a declaration are built one by one, each for its member. -/
theorem wellFormed_of_buildStates {declared : List StateId} {members : List Member}
    {states : List State}
    (h : buildStates type kind declared (members.map fun m => (m.id, m.spec)) = .ok states) :
    ∀ m ∈ members, m.spec.WellFormed kind declared ∧
      ∃ s ∈ states, s.id = m.id ∧ s.Follows m.spec := by
  induction members generalizing states with
  | nil => exact nofun
  | cons first rest ih =>
    simp only [List.map_cons, buildStates, bind, Except.bind] at h
    split at h
    · contradiction
    · rename_i built hbuilt
      split at h
      · contradiction
      · rename_i later hlater
        cases h
        intro m hm
        rcases List.mem_cons.mp hm with rfl | hm
        · have hid : built.id = m.id := by rw [(buildState_eq_ok hbuilt).2]
          exact ⟨wellFormed_of_buildState hbuilt, built, List.mem_cons_self, hid,
            follows_of_buildState hbuilt⟩
        · obtain ⟨hwell, s, hs, hfollows⟩ := ih hlater m hm
          exact ⟨hwell, s, List.mem_cons_of_mem built hs, hfollows⟩

theorem blames_of_buildStates {members : List Member} (hmembers : ∀ m ∈ members, m ∈ d.members)
    (h : buildStates type kind d.names (members.map fun m => (m.id, m.spec)) = .error e) :
    e.Blames type kind d := by
  induction members with
  | nil => contradiction
  | cons first rest ih =>
    simp only [List.map_cons, buildStates, bind, Except.bind] at h
    split at h
    · rename_i hfirst
      cases h
      exact blames_of_buildState (hmembers first List.mem_cons_self) hfirst
    · split at h
      · rename_i hrest
        cases h
        exact ih (fun m hm => hmembers m (List.mem_cons_of_mem first hm)) hrest
      · contradiction

theorem nodup_of_firstRepeated? {seen ids : List StateId} (h : firstRepeated? seen ids = none) :
    ids.Nodup ∧ ∀ id ∈ ids, id ∉ seen := by
  induction ids generalizing seen with
  | nil => exact ⟨List.nodup_nil, nofun⟩
  | cons first rest ih =>
    unfold firstRepeated? at h
    split at h
    · contradiction
    · rename_i hfirst
      obtain ⟨hnodup, hapart⟩ := ih h
      have hunseen : first ∉ seen := by simpa using hfirst
      refine ⟨List.nodup_cons.mpr ⟨?_, hnodup⟩, List.forall_mem_cons.mpr ⟨hunseen, ?_⟩⟩
      · intro hmem
        exact hapart first hmem List.mem_cons_self
      · intro id hid hseen
        exact hapart id hid (List.mem_cons_of_mem first hseen)

theorem count_of_firstRepeated? {seen ids : List StateId} {id : StateId}
    (h : firstRepeated? seen ids = some id) : 2 ≤ (seen ++ ids).count id := by
  induction ids generalizing seen with
  | nil => contradiction
  | cons first rest ih =>
    unfold firstRepeated? at h
    split at h
    · rename_i hfirst
      cases h
      have hseen : 0 < seen.count id := List.count_pos_iff.mpr (by simpa using hfirst)
      rw [List.count_append, List.count_cons_self]
      omega
    · have hcount := ih h
      simp only [List.count_append, List.count_cons] at hcount ⊢
      omega

theorem members_eq_nil : d.flatten.isEmpty = true ↔ d.members = [] := by
  simp [Declaration.flatten_eq]

/-- What is done with a declaration: its names and its marks for the start are looked
at first, and then its states. -/
theorem build_eq : build type kind d =
    if d.flatten.isEmpty then .error (.noStates type)
    else match firstRepeated? [] d.names with
    | some id => .error (.duplicateState type id)
    | none => match d.starts with
      | [] => .error (.noStartState type)
      | [start] =>
        match buildStates type kind d.names d.flatten with
        | .error e => .error e
        | .ok states => .ok { name := type, kind, states, start, declaration := d }
      | starts => .error (.multipleStartStates type starts) := by
  simp only [build, Declaration.starts_eq, Declaration.map_fst_flatten, throw, throwThe,
    MonadExceptOf.throw, bind, Except.bind]
  split
  · rfl
  · cases firstRepeated? [] d.names with
    | some id => rfl
    | none =>
      rcases d.starts with _ | ⟨start, _ | ⟨second, rest⟩⟩
      · rfl
      · cases buildStates type kind d.names d.flatten <;> rfl
      · rfl

/-- The states of an automaton are found under their names. -/
theorem state?_id {s : State} (hnodup : (a.states.map State.id).Nodup) (hs : s ∈ a.states) :
    a.state? s.id = some s := by
  obtain ⟨before, after, hsplit⟩ := List.append_of_mem hs
  rw [hsplit, List.map_append] at hnodup
  have hapart := (List.nodup_append.mp hnodup).2.2
  rw [state?, hsplit, List.find?_append, List.find?_eq_none.mpr, Option.none_or]
  · simp
  · intro other hother
    simpa using hapart other.id (List.mem_map_of_mem hother) s.id List.mem_cons_self

/-- What has been looked at before the states, and what is kept of it. -/
theorem starts_of_build (h : build type kind d = .ok a) :
    d.members ≠ [] ∧ d.names.Nodup ∧ d.starts = [a.start] ∧ a.declaration = d := by
  rw [build_eq] at h
  split at h
  · contradiction
  · rename_i hmembers
    split at h
    · contradiction
    · rename_i hrepeated
      split at h
      · contradiction
      · rename_i start hstart
        split at h
        · contradiction
        · cases h
          rw [members_eq_nil] at hmembers
          exact ⟨hmembers, (nodup_of_firstRepeated? hrepeated).1, hstart, rfl⟩
      · contradiction

/-- What is accepted is well-formed, and the automaton follows it. -/
theorem follows_of_build (h : build type kind d = .ok a) :
    d.WellFormed kind ∧ a.Follows type kind d := by
  obtain ⟨hmembers, hdistinct, hstart, hdeclaration⟩ := starts_of_build h
  obtain ⟨hstates, _, hname, hkind⟩ := build_eq_ok h
  have hids : a.states.map State.id = d.names := by
    rw [map_id_of_buildStates hstates, Declaration.map_fst_flatten]
  have hnodup : (a.states.map State.id).Nodup := by rwa [hids]
  rw [Declaration.map_fst_flatten, Declaration.flatten_eq] at hstates
  have hbuilt := wellFormed_of_buildStates hstates
  -- A member's state is found under the member's name.
  have hfound {m : Member} (hm : m ∈ d.members) :
      ∃ s, a.state? m.id = some s ∧ s.Follows m.spec := by
    obtain ⟨s, hs, hid, hfollows⟩ := (hbuilt m hm).2
    rw [← hid]
    exact ⟨s, state?_id hnodup hs, hfollows⟩
  refine ⟨⟨hmembers, hdistinct, ⟨a.start, hstart⟩, fun m hm => (hbuilt m hm).1⟩, ?_⟩
  refine ⟨hname, hkind, hdeclaration, hstart, hids, hfound, ?_⟩
  intro id s hs
  have hid : s.id = id := by simpa using List.find?_some hs
  have hdeclared : id ∈ d.names := by
    rw [← hids, ← hid]
    exact List.mem_map_of_mem (mem_of_state? hs)
  obtain ⟨m, hm, rfl⟩ := List.mem_map.mp hdeclared
  obtain ⟨s', hs', hfollows⟩ := hfound hm
  rw [hs] at hs'
  cases hs'
  exact ⟨m, hm, rfl, hfollows⟩

/-- A declaration that is refused is so for what the error says. -/
theorem blames_of_build (h : build type kind d = .error e) : e.Blames type kind d := by
  rw [build_eq] at h
  split at h
  · rename_i hmembers
    cases h
    exact ⟨rfl, members_eq_nil.mp hmembers⟩
  · split at h
    · rename_i id hrepeated
      cases h
      exact ⟨rfl, count_of_firstRepeated? hrepeated⟩
    · split at h
      · rename_i hstarts
        cases h
        exact ⟨rfl, hstarts⟩
      · split at h
        · rename_i hstates
          cases h
          rw [Declaration.flatten_eq] at hstates
          exact blames_of_buildStates (fun m hm => hm) hstates
        · contradiction
      · rename_i hnone hone
        cases h
        refine ⟨rfl, rfl, ?_⟩
        rcases hstarts : d.starts with _ | ⟨start, _ | ⟨second, rest⟩⟩
        · exact absurd hstarts hnone
        · exact absurd hstarts (hone start)
        · simp

/-- A declaration is accepted exactly if it is well-formed. What it becomes then answers
as declared; otherwise what the error says is so. -/
theorem build_exact (type : String) (kind : Kind) (d : Declaration) :
    ((∃ a, build type kind d = .ok a) ↔ d.WellFormed kind) ∧
      (∀ a, build type kind d = .ok a → a.Follows type kind d) ∧
      ∀ e, build type kind d = .error e → e.Blames type kind d := by
  refine ⟨⟨?_, ?_⟩, ?_, ?_⟩
  · rintro ⟨a, h⟩
    exact (follows_of_build h).1
  · intro hwell
    cases hbuild : build type kind d with
    | ok a => exact ⟨a, rfl⟩
    | error e => exact absurd hwell (blames_of_build hbuild).not_wellFormed
  · intro a h
    exact (follows_of_build h).2
  · intro e h
    exact blames_of_build h

end Declarations

end Automaton

/-! ## A turnstile

A turnstile whose open state stands in a group inside a group. It waits with the next
coin while someone passes, which a monitor could not do. -/

namespace Turnstile

def locked : StateSpec where
  name := "Locked"
  start := true
  gotos := [⟨⟨"Coin"⟩, ⟨"Open.Once.Passing"⟩, none⟩]
  ignored := [⟨"Push"⟩]

def passing : StateSpec where
  name := "Passing"
  gotos := [⟨⟨"Push"⟩, ⟨"Locked"⟩, some "count"⟩]
  deferred := [⟨"Coin"⟩]

def declaration : Declaration where
  states := [locked]
  groups := [{ name := "Open", groups := [{ name := "Once", states := [passing] }] }]

/-- As a machine the turnstile is well-formed, and as a monitor it is not. -/
theorem declaration_built :
    declaration.WellFormed .machine ∧
      (∃ a, Automaton.build "Turnstile" .machine declaration = .ok a ∧
        a.Follows "Turnstile" .machine declaration) ∧
      (BuildError.invalidDefinition "Turnstile" (.deferralInMonitor ⟨"Open.Once.Passing"⟩)).Blames
        "Turnstile" .monitor declaration := by
  obtain ⟨a, ha⟩ : ∃ a, Automaton.build "Turnstile" .machine declaration = .ok a := ⟨_, rfl⟩
  obtain ⟨haccepted, hfollows, _⟩ := Automaton.build_exact "Turnstile" .machine declaration
  exact ⟨haccepted.mp ⟨a, ha⟩, ⟨a, ha, hfollows a ha⟩,
    (Automaton.build_exact "Turnstile" .monitor declaration).2.2 _ rfl⟩

end Turnstile

end PushdownActors
