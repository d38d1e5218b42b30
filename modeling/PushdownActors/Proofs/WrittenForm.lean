-- SUMMARY: A declaration that was read is written as a value that reads as the same declaration and builds the same automaton.
import PushdownActors.Proofs.WellFormed

/-!
# Written declarations

A declaration can be read from values of many forms: a record may be an object or an array,
fields may be left out where they have a default, and objects may hold other fields
besides. It is written in one of them, with fields left out by rules of their own. So the
reader has to supply whatever the writer leaves out, record by record, and down through the
groups.

It does, with one exception. Data about a declaration that are null read as if there were
none; but then no declaration that was read has such data.
-/

namespace PushdownActors

/-! ## Fields of written records -/

namespace Value

section Fields

variable {α : Type} {name key : String} {v : Value} {fields : List (String × Value)}

theorem lookup_field :
    List.lookup name ((key, v) :: fields) = if name = key then some v else fields.lookup name := by
  rw [List.lookup_cons]
  split
  · rename_i heq
    rw [if_pos (by simpa using heq)]
  · rename_i hne
    rw [if_neg (by simpa using hne)]

theorem lookup_insertField :
    (insertField key v fields).lookup name = if name = key then some v else fields.lookup name := by
  induction fields with
  | nil => exact lookup_field
  | cons field rest ih =>
    obtain ⟨n, u⟩ := field
    unfold insertField
    split
    · rename_i hsame
      subst hsame
      simp only [lookup_field]
      split <;> rfl
    · rename_i hother
      split
      · exact lookup_field
      · simp only [lookup_field, ih]
        by_cases hkey : name = key
        · subst hkey
          simp only [if_neg hother, if_true]
        · simp only [if_neg hkey]

/-- Of two fields of one name the later counts. -/
theorem lookup_foldl_insertField (written : List (String × Value)) :
    (written.foldl (fun acc (n, u) => insertField n u acc) fields).lookup name
      = (written.reverse.lookup name).or (fields.lookup name) := by
  induction written generalizing fields with
  | nil => rfl
  | cons field rest ih =>
    obtain ⟨n, u⟩ := field
    rw [List.foldl_cons, ih, lookup_insertField, List.reverse_cons, List.lookup_append,
      Option.or_assoc, lookup_field]
    split <;> rfl

/-- A record is read from an object field by field, in whatever order they were written. -/
theorem record?_ofFields (names : List String) (written : List (String × Value)) :
    (ofFields written).record? names = some (names.map fun name => written.reverse.lookup name) := by
  simp [ofFields, record?, lookup_foldl_insertField]

@[simp] theorem reverse_optionalField (o : Option Value) :
    (optionalField key o).reverse = optionalField key o := by
  cases o <;> rfl

@[simp] theorem reverse_listField (items : List Value) :
    (listField key items).reverse = listField key items := by
  cases items <;> rfl

theorem lookup_optionalField (o : Option Value) :
    (optionalField key o).lookup name = if name = key then o else none := by
  cases o with
  | none => simp [optionalField]
  | some v => exact lookup_field

/-- What a list is written as in a field, if it is written. -/
def nonemptyList : List Value → Option Value
  | [] => none
  | items => some (.array items)

theorem lookup_listField (items : List Value) :
    (listField key items).lookup name = if name = key then nonemptyList items else none := by
  cases items with
  | nil => simp [listField, nonemptyList]
  | cons item rest => exact lookup_field

theorem optional_string (o : Option String) : optional toString? (o.map .string) = some o := by
  cases o <;> rfl

/-- A field that may be null is never read as one that is. -/
theorem optional_ne_null (o : Option Value) : Value.optional some o ≠ some (some .null) := by
  rcases o with _ | v
  · exact nofun
  · cases v <;> exact nofun

theorem optional_of_ne_null {o : Option Value} (h : o ≠ some .null) :
    Value.optional some o = some o := by
  rcases o with _ | v
  · rfl
  · cases v with
    | null => contradiction
    | _ => rfl

section Lists

variable {read : Value → Option α} {write : α → Value}

theorem toList?_array (hread : ∀ x, read (write x) = some x) (items : List α) :
    toList? read (.array (items.map write)) = some items := by
  unfold toList?
  induction items with
  | nil => rfl
  | cons x rest ih => simp [hread, ih]

/-- A list that is left out when it is empty reads as the empty list then. -/
theorem defaulted_nonemptyList (hread : ∀ x, read (write x) = some x) (items : List α) :
    defaulted [] (toList? read) (nonemptyList (items.map write)) = some items := by
  cases items with
  | nil => rfl
  | cons x rest => exact toList?_array hread (x :: rest)

end Lists

end Fields

end Value

open Value

/-! ## Rules and states -/

theorem GotoRule.ofValue?_toValue (r : GotoRule) : ofValue? r.toValue = some r := by
  have hfields : r.toValue.record? ["on", "to", "with"]
      = some [some (.string r.on.name), some (.string r.target.name),
          r.action.map .string] := by
    simp [toValue, record?_ofFields, List.lookup_append, lookup_field, lookup_optionalField]
  simp only [ofValue?, hfields, optional_string]
  rfl

theorem PushRule.ofValue?_toValue (r : PushRule) : ofValue? r.toValue = some r := by
  have hfields : r.toValue.record? ["on", "to"]
      = some [some (.string r.on.name), some (.string r.target.name)] := by
    simp [toValue, record?_ofFields, lookup_field]
  simp only [ofValue?, hfields]
  rfl

theorem ActionRule.ofValue?_toValue (r : ActionRule) : ofValue? r.toValue = some r := by
  have hfields : r.toValue.record? ["on", "do"]
      = some [some (.string r.on.name), some (.string r.action)] := by
    simp [toValue, record?_ofFields, lookup_field]
  simp only [ofValue?, hfields]
  rfl

namespace StateSpec

/-- The fields of a written state as they are read. -/
theorem record?_toValue (s : StateSpec) :
    s.toValue.record? ["name", "start", "entry", "exit", "goto", "push", "actions", "ignore",
        "defer", "hot", "cold"]
      = some [some (.string s.name), some (.bool s.start), s.entry.map .string, s.exit.map .string,
          nonemptyList (s.gotos.map GotoRule.toValue),
          nonemptyList (s.pushes.map PushRule.toValue),
          nonemptyList (s.actions.map ActionRule.toValue),
          nonemptyList (s.ignored.map fun e => .string e.name),
          nonemptyList (s.deferred.map fun e => .string e.name),
          some (.bool s.hot), some (.bool s.cold)] := by
  simp [toValue, record?_ofFields, List.lookup_append, lookup_field, lookup_optionalField,
    lookup_listField]

theorem ofValue?_toValue (s : StateSpec) : ofValue? s.toValue = some s := by
  have hevent (e : EventType) : EventType.ofValue? (.string e.name) = some e := rfl
  have hevents (events : List EventType) :
      defaulted [] (toList? EventType.ofValue?) (nonemptyList (events.map fun e => .string e.name))
        = some events :=
    defaulted_nonemptyList hevent events
  simp only [ofValue?, record?_toValue, optional_string, hevents,
    defaulted_nonemptyList GotoRule.ofValue?_toValue,
    defaulted_nonemptyList PushRule.ofValue?_toValue,
    defaulted_nonemptyList ActionRule.ofValue?_toValue]
  rfl

theorem listOfField?_array (states : List StateSpec) :
    listOfField? (some (.array (states.map toValue))) = some states :=
  toList?_array ofValue?_toValue states

end StateSpec

/-! ## Groups -/

namespace GroupSpec

theorem listOfFields?_eq (fields : List (String × Value)) :
    listOfFields? fields = defaulted [] listOfValue? (fields.lookup "groups") := by
  induction fields with
  | nil => rfl
  | cons field rest ih =>
    obtain ⟨name, v⟩ := field
    unfold listOfFields?
    rw [lookup_field, ih]
    by_cases hname : name = "groups"
    · rw [if_pos hname, if_pos hname.symm]
      rfl
    · rw [if_neg hname, if_neg (Ne.symm hname)]

/-- A group that is written as an object is read field by field. -/
theorem ofValue?_ofFields (written : List (String × Value)) :
    ofValue? (.ofFields written) = (do
      let name ← required toString? (written.reverse.lookup "name")
      let states ← StateSpec.listOfField? (written.reverse.lookup "states")
      let groups ← defaulted [] listOfValue? (written.reverse.lookup "groups")
      return { name, states, groups }) := by
  simp only [ofFields, ofValue?, listOfFields?_eq, lookup_foldl_insertField, List.lookup_nil,
    Option.or_none]

/-- Groups inside a group, or in a declaration, that are left out when there are none. -/
theorem defaulted_groups {values : List Value} {groups : List GroupSpec}
    (hread : listOfItems? values = some groups) :
    defaulted [] listOfValue? (nonemptyList values) = some groups := by
  cases values with
  | nil => exact hread
  | cons v rest => exact hread

mutual

theorem ofValue?_toValue : ∀ g : GroupSpec, ofValue? g.toValue = some g
  | ⟨name, states, groups⟩ => by
    have hgroups : defaulted [] listOfValue? (nonemptyList (toValues groups)) = some groups :=
      defaulted_groups (listOfItems?_toValues groups)
    rw [toValue, ofValue?_ofFields]
    simp [List.lookup_append, lookup_field, lookup_listField, StateSpec.listOfField?_array, hgroups]
    rfl

theorem listOfItems?_toValues :
    ∀ groups : List GroupSpec, listOfItems? (toValues groups) = some groups
  | [] => rfl
  | g :: rest => by
    simp [toValues, listOfItems?, ofValue?_toValue g, listOfItems?_toValues rest]

end

end GroupSpec

/-! ## Declarations -/

namespace Declaration

variable {v : Value} {d : Declaration}

/-- Data about a declaration that are null are read as none. -/
theorem about_ne_null (h : ofValue? v = some d) : d.about ≠ some .null := by
  unfold ofValue? at h
  split at h
  · rename_i states groups about hfields
    obtain ⟨_, _, h⟩ := Option.bind_eq_some_iff.mp h
    obtain ⟨_, _, h⟩ := Option.bind_eq_some_iff.mp h
    obtain ⟨_, habout, h⟩ := Option.bind_eq_some_iff.mp h
    cases h
    rintro rfl
    exact optional_ne_null about habout
  · contradiction

/-- A declaration is read as it was written, unless null is all that it says about itself. -/
theorem ofValue?_toValue_iff : ofValue? d.toValue = some d ↔ d.about ≠ some .null := by
  refine ⟨about_ne_null, ?_⟩
  intro habout
  have hfields : d.toValue.record? ["states", "groups", "meta"]
      = some [some (.array (d.states.map StateSpec.toValue)),
          nonemptyList (GroupSpec.toValues d.groups), d.about] := by
    simp [toValue, record?_ofFields, List.lookup_append, lookup_field, lookup_optionalField,
      lookup_listField]
  have hgroups : defaulted [] GroupSpec.listOfValue? (nonemptyList (GroupSpec.toValues d.groups))
      = some d.groups := GroupSpec.defaulted_groups (GroupSpec.listOfItems?_toValues d.groups)
  simp only [ofValue?, hfields, StateSpec.listOfField?_array, hgroups, optional_of_ne_null habout]
  rfl

end Declaration

/-! ## A ferry

A ferry that leaves the shore when it is called, written down in the reader's terms rather
than in the writer's: most records are arrays that stop early, some fields are null or hold
what they would hold anyway, and some are not known. -/

namespace Ferry

def shore : Value :=
  .array [.string "Shore", .bool true, .null, .string "cast off",
    .array [.object [("fare", .integer 2), ("on", .string "Call"),
      ("to", .string "River.Deep.Afloat"), ("with", .null)]]]

def afloat : Value :=
  .object [("defer", .array [.string "Call"]),
    ("goto", .array [.array [.string "Land", .string "Shore", .string "moor"]]),
    ("hot", .bool false), ("name", .string "Afloat"), ("push", .array [])]

def value : Value :=
  .object [("captain", .string "nobody"),
    ("groups", .array [.array [.string "River", .array [],
      .array [.object [("name", .string "Deep"), ("states", .array [afloat])]]]]),
    ("meta", .null), ("states", .array [shore])]

def declaration : Declaration where
  states :=
    [{ name := "Shore", start := true, exit := some "cast off",
       gotos := [⟨⟨"Call"⟩, ⟨"River.Deep.Afloat"⟩, none⟩] }]
  groups :=
    [{ name := "River"
       groups :=
        [{ name := "Deep"
           states :=
            [{ name := "Afloat", gotos := [⟨⟨"Land"⟩, ⟨"Shore"⟩, some "moor"⟩],
               deferred := [⟨"Call"⟩] }] }] }]

def automaton : Automaton where
  name := "Ferry"
  kind := .machine
  states :=
    [{ id := ⟨"Shore"⟩, entry := none, exit := some "cast off",
       reactions := [(⟨"Call"⟩, .goto ⟨"River.Deep.Afloat"⟩ none)], hot := false, cold := false },
     { id := ⟨"River.Deep.Afloat"⟩, entry := none, exit := none,
       reactions := [(⟨"Land"⟩, .goto ⟨"Shore"⟩ (some "moor")), (⟨"Call"⟩, .defer)],
       hot := false, cold := false }]
  start := ⟨"Shore"⟩
  declaration := declaration

theorem built : Automaton.ofValue "Ferry" .machine value = .ok automaton := rfl

end Ferry

/-! ## Results -/

namespace Automaton

/-- An automaton that was built from a value keeps the declaration that was read. What that
is written as builds the very same automaton, so its declaration, its start and its states
are the same, and it is written in the same way again. -/
theorem ofValue_written {type : String} {kind : Kind} {v : Value} {a : Automaton}
    (h : ofValue type kind v = .ok a) :
    Declaration.ofValue? v = some a.declaration ∧
      ofValue type kind a.declaration.toValue = .ok a := by
  unfold ofValue at h
  split at h
  · rename_i d hread
    have hkept : a.declaration = d := (starts_of_build h).2.2.2
    subst hkept
    have hwritten : Declaration.ofValue? a.declaration.toValue = some a.declaration :=
      Declaration.ofValue?_toValue_iff.mpr (Declaration.about_ne_null hread)
    refine ⟨hread, ?_⟩
    rw [ofValue, hwritten]
    exact h
  · contradiction

theorem ofValue_written_ferry :
    ofValue "Ferry" .machine Ferry.value = .ok Ferry.automaton ∧
      Declaration.ofValue? Ferry.value = some Ferry.declaration ∧
      ofValue "Ferry" .machine Ferry.declaration.toValue = .ok Ferry.automaton :=
  ⟨Ferry.built, ofValue_written Ferry.built⟩

end Automaton

end PushdownActors
