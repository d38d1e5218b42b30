-- SUMMARY: Machine and monitor types: their descriptions, and the registry of those that were built.
import PushdownActors.Action
import PushdownActors.Automaton.Build

/-!
# Types of machines and monitors

A type describes itself by a declaration and by the actions that the
declaration mentions by name. It is built on first use, and the registry keeps
the result under the type's name. One type can be used both as a machine and as
a monitor; the kind of its first use decides what is kept.
-/

namespace PushdownActors

/-! ## Descriptions -/

/-- What a type says about itself. -/
structure Description (σ : Type) where
  declaration : Declaration := {}
  /-- Actions by name; of two with one name the first counts. -/
  actions : List (String × Action σ) := []

namespace Description

def state (d : Description σ) (s : StateSpec) : Description σ :=
  { d with declaration := d.declaration.state s }

def group (d : Description σ) (g : GroupSpec) : Description σ :=
  { d with declaration := d.declaration.group g }

/-- Adds everything that a declaration holds. -/
def table (d : Description σ) (t : Declaration) : Description σ :=
  { d with declaration := d.declaration.table t }

/-- Binds an action to a name, in place of one that had it before. -/
def action (d : Description σ) (name : String) (body : Action σ) : Description σ :=
  { d with actions := (name, body) :: d.actions }

end Description

/-- A type: what a fresh instance remembers, and its description as each kind. -/
structure TypeSpec (σ : Type) where
  fresh : σ
  describe : Kind → Description σ

/-- All types, by name. -/
abbrev Catalog (σ : Type) := String → TypeSpec σ

/-! ## Building -/

/-- A type that was built: its automaton and its actions. -/
structure Blueprint (σ : Type) where
  automaton : Automaton
  actions : List (String × Action σ)

namespace Blueprint

def action? (b : Blueprint σ) (name : String) : Option (Action σ) :=
  b.actions.lookup name

/-- Builds the automaton of a description and checks that every action that it
mentions is there. -/
def build (type : String) (kind : Kind) (d : Description σ) : Except BuildError (Blueprint σ) := do
  let automaton ← Automaton.build type kind d.declaration
  automaton.resolveActions fun name => (d.actions.lookup name).isSome
  return { automaton, actions := d.actions }

end Blueprint

/-! ## Registries -/

/-- The types that were built, by name. -/
structure Registry (σ : Type) where
  entries : List (String × Blueprint σ) := []

namespace Registry

def find? (r : Registry σ) (type : String) : Option (Blueprint σ) :=
  r.entries.lookup type

def contains (r : Registry σ) (type : String) : Bool :=
  (r.find? type).isSome

def size (r : Registry σ) : Nat :=
  r.entries.length

/-- The blueprint of a type, built as `kind` unless it is there already. A type
that does not build leaves no entry. -/
def fetch (r : Registry σ) (catalog : Catalog σ) (kind : Kind) (type : String) :
    Except BuildError (Blueprint σ × Registry σ) :=
  match r.find? type with
  | some blueprint => .ok (blueprint, r)
  | none => do
    let blueprint ← Blueprint.build type kind ((catalog type).describe kind)
    return (blueprint, { entries := r.entries ++ [(type, blueprint)] })

end Registry

end PushdownActors
