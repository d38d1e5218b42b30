-- SUMMARY: A type is kept under its name alone, so its first use that builds decides what both kinds run.
import PushdownActors.Proofs.Monitors

/-!
# Kinds of types

A type may be used as a machine and as a monitor. It describes itself as each of them, and
a description is checked for its kind: machines have no hot or cold states, and monitors
leave no event waiting. The registry keeps what was built under the name of the type
alone. So the first use that builds decides; a later use as the other kind is not refused,
but gets what there is, with the states, the actions and the checks of the first.

This holds in either mode, and whoever uses the type: actions of machines, or operations
from outside. A type that is used as one kind only runs as that kind.
-/

namespace PushdownActors

/-! ## Uses -/

/-- A use of a type as one of the kinds. -/
structure Use where
  kind : Kind
  type : String
  deriving DecidableEq

/-- What is built where the use comes first: the type is described and checked as the kind
of the use. -/
def Use.build? (catalog : Catalog σ) (u : Use) : Option (Blueprint σ) :=
  (Blueprint.build u.type u.kind ((catalog u.type).describe u.kind)).toOption

/-- What the first use of a type builds; uses that do not build are passed over. -/
def firstBuilt? (catalog : Catalog σ) (uses : List Use) (type : String) : Option (Blueprint σ) :=
  (uses.filter (·.type = type)).findSome? (Use.build? catalog)

section Uses

variable {catalog : Catalog σ} {uses more : List Use} {kind : Kind} {type : String}
  {b : Blueprint σ}

theorem Use.build?_eq_some :
    Use.build? catalog ⟨kind, type⟩ = some b ↔
      Blueprint.build type kind ((catalog type).describe kind) = .ok b := by
  unfold Use.build?
  cases Blueprint.build type kind ((catalog type).describe kind) <;> simp [Except.toOption]

theorem firstBuilt?_append :
    firstBuilt? catalog (uses ++ more) type
      = (firstBuilt? catalog uses type).or (firstBuilt? catalog more type) := by
  simp [firstBuilt?, List.filter_append, List.findSome?_append]

theorem firstBuilt?_singleton (u : Use) :
    firstBuilt? catalog [u] type = if u.type = type then u.build? catalog else none := by
  by_cases htype : u.type = type <;> simp [firstBuilt?, htype]

/-- Later uses change nothing. -/
theorem firstBuilt?_append_of_some (h : firstBuilt? catalog uses type = some b) :
    firstBuilt? catalog (uses ++ more) type = some b := by
  rw [firstBuilt?_append, h, Option.some_or]

/-- There is a first use that builds, and before it none does. -/
theorem exists_first_use (h : firstBuilt? catalog uses type = some b) :
    ∃ before kind after, uses = before ++ ⟨kind, type⟩ :: after ∧
      firstBuilt? catalog before type = none ∧
      Blueprint.build type kind ((catalog type).describe kind) = .ok b := by
  induction uses with
  | nil => contradiction
  | cons u rest ih =>
    obtain ⟨kind, type'⟩ := u
    have hsplit : firstBuilt? catalog ([⟨kind, type'⟩] ++ rest) type = some b := h
    rw [firstBuilt?_append] at hsplit
    cases hfirst : firstBuilt? catalog [⟨kind, type'⟩] type with
    | some b' =>
      rw [hfirst, Option.some_or] at hsplit
      cases hsplit
      rw [firstBuilt?_singleton] at hfirst
      split at hfirst
      · rename_i htype
        subst htype
        exact ⟨[], kind, rest, rfl, rfl, Use.build?_eq_some.mp hfirst⟩
      · contradiction
    | none =>
      rw [hfirst, Option.none_or] at hsplit
      obtain ⟨before, kind', after, rfl, hbefore, hbuild⟩ := ih hsplit
      refine ⟨⟨kind, type'⟩ :: before, kind', after, rfl, ?_, hbuild⟩
      have hcons : firstBuilt? catalog ([⟨kind, type'⟩] ++ before) type = none := by
        rw [firstBuilt?_append, hfirst, hbefore, Option.none_or]
      exact hcons

end Uses

/-! ## Registries -/

namespace Registry

variable {catalog : Catalog σ} {uses : List Use} {kind : Kind} {type : String}
  {b : Blueprint σ} {r r' : Registry σ}

/-- The registry holds, for each type, what its first use has built. -/
def Reflects (r : Registry σ) (catalog : Catalog σ) (uses : List Use) : Prop :=
  ∀ type, r.find? type = firstBuilt? catalog uses type

theorem Reflects.empty : Reflects {} catalog [] := fun _ => rfl

/-- Uses that build nothing new change nothing. -/
theorem Reflects.append (h : r.Reflects catalog uses) {more : List Use}
    (hmore : ∀ type, r.find? type = none → firstBuilt? catalog more type = none) :
    r.Reflects catalog (uses ++ more) := by
  intro type
  rw [firstBuilt?_append, ← h]
  cases hfind : r.find? type with
  | some b => rfl
  | none => rw [hmore type hfind, Option.none_or]

theorem find?_append (type' : String) :
    find? { entries := r.entries ++ [(type, b)] } type'
      = (r.find? type').or (if type = type' then some b else none) := by
  unfold find?
  rw [List.lookup_append]
  congr 1
  by_cases htype : type = type'
  · simp [htype]
  · have hother : (type' == type) = false := by simpa using Ne.symm htype
    simp [htype, List.lookup_cons, hother]

/-- A type that is there already is found whatever it is used as, and the registry stays
as it is. -/
theorem fetch_of_find? (h : r.find? type = some b) (kind : Kind) :
    r.fetch catalog kind type = .ok (b, r) := by
  simp only [fetch, h]

/-- A type that is not there is built as the kind that it is used as. -/
theorem fetch_of_not_find? (h : r.find? type = none) (kind : Kind) :
    r.fetch catalog kind type
      = (Blueprint.build type kind ((catalog type).describe kind)).map fun b =>
          (b, { entries := r.entries ++ [(type, b)] }) := by
  simp only [fetch, h]
  cases Blueprint.build type kind ((catalog type).describe kind) <;> rfl

/-- A use gets what the first use has built, which may be itself. -/
theorem Reflects.fetch (h : r.Reflects catalog uses)
    (hfetch : r.fetch catalog kind type = .ok (b, r')) :
    r'.Reflects catalog (uses ++ [⟨kind, type⟩]) ∧
      firstBuilt? catalog (uses ++ [⟨kind, type⟩]) type = some b := by
  cases hfind : r.find? type with
  | some found =>
    rw [fetch_of_find? hfind] at hfetch
    cases hfetch
    have hfirst : firstBuilt? catalog uses type = some b := (h type).symm.trans hfind
    refine ⟨h.append ?_, firstBuilt?_append_of_some hfirst⟩
    intro type' hfind'
    rw [firstBuilt?_singleton, if_neg]
    rintro rfl
    cases hfind.symm.trans hfind'
  | none =>
    rw [fetch_of_not_find? hfind] at hfetch
    cases hbuild : Blueprint.build type kind ((catalog type).describe kind) with
    | error e =>
      rw [hbuild] at hfetch
      contradiction
    | ok built =>
      rw [hbuild] at hfetch
      cases hfetch
      have huse : Use.build? catalog ⟨kind, type⟩ = some b := Use.build?_eq_some.mpr hbuild
      have hnew : Reflects { entries := r.entries ++ [(type, b)] } catalog
          (uses ++ [⟨kind, type⟩]) := by
        intro type'
        rw [find?_append, firstBuilt?_append, firstBuilt?_singleton, h, huse]
      have hfound : find? { entries := r.entries ++ [(type, b)] } type = some b := by
        rw [find?_append, hfind, if_pos rfl, Option.none_or]
      exact ⟨hnew, (hnew type).symm.trans hfound⟩

/-- A use that fails leaves nothing behind. -/
theorem Reflects.refuse {e : BuildError} (h : r.Reflects catalog uses)
    (hfetch : r.fetch catalog kind type = .error e) :
    r.Reflects catalog (uses ++ [⟨kind, type⟩]) := by
  refine h.append ?_
  intro type' hfind'
  rw [firstBuilt?_singleton]
  split
  · rename_i htype
    subst htype
    rw [fetch_of_not_find? hfind'] at hfetch
    cases hbuild : Blueprint.build type kind ((catalog type).describe kind) with
    | error e' => simp [Use.build?, hbuild, Except.toOption]
    | ok built =>
      rw [hbuild] at hfetch
      contradiction
  · rfl

end Registry

/-! ## Who there is in a world -/

/-- The use that a request makes of a type, if it makes one. -/
def Request.use? : Request → Option Use
  | .create type _ => some ⟨.machine, type⟩
  | _ => none

namespace World

variable {sys : System σ} {w v w' : World σ} {type : String} {place : Place} {id : MachineId}

/-- The machines and monitors of a world: the kind and the type of each, and what it
runs. -/
def roster (w : World σ) : List (Use × Blueprint σ) :=
  w.machines.map (fun m => (⟨.machine, m.id.typeName⟩, m.cell.blueprint))
    ++ w.monitors.map fun m => (⟨.monitor, m.type⟩, m.cell.blueprint)

/-- No type has been built, and nobody has come in or runs something else. -/
structure Retains (w w' : World σ) : Prop where
  registry : w'.registry = w.registry
  roster : w'.roster ⊆ w.roster

namespace Retains

theorem of_eq (hregistry : w'.registry = w.registry) (hmachines : w'.machines = w.machines)
    (hmonitors : w'.monitors = w.monitors) : Retains w w' where
  registry := hregistry
  roster := by
    rw [World.roster, World.roster, hmachines, hmonitors]
    exact List.Subset.refl _

theorem refl (w : World σ) : Retains w w := .of_eq rfl rfl rfl

theorem trans (h : Retains w v) (h' : Retains v w') : Retains w w' :=
  ⟨h'.registry.trans h.registry, List.Subset.trans h'.roster h.roster⟩

end Retains

theorem mem_roster {entry : Use × Blueprint σ} :
    entry ∈ w.roster ↔
      (∃ m ∈ w.machines, (⟨.machine, m.id.typeName⟩, m.cell.blueprint) = entry) ∨
        ∃ m ∈ w.monitors, (⟨.monitor, m.type⟩, m.cell.blueprint) = entry := by
  simp [roster]

theorem retains_setMachine {m m' : Machine σ} (hm : w.machineAt? place = some m)
    (hid : m'.id = m.id) (hblueprint : m'.cell.blueprint = m.cell.blueprint) :
    Retains w (w.setMachine place m') := by
  refine ⟨rfl, ?_⟩
  intro entry hentry
  rw [mem_roster] at hentry ⊢
  rcases hentry with ⟨m'', hmem, rfl⟩ | hmonitor
  · rcases List.mem_or_eq_of_mem_set hmem with hold | rfl
    · exact .inl ⟨m'', hold, rfl⟩
    · exact .inl ⟨m, List.mem_of_getElem? hm, by rw [hid, hblueprint]⟩
  · exact .inr hmonitor

theorem retains_setMonitor {m m' : Monitor σ} (hm : w.monitor? m'.type = some m)
    (hblueprint : m'.cell.blueprint = m.cell.blueprint) : Retains w (w.setMonitor m') := by
  refine ⟨rfl, ?_⟩
  intro entry hentry
  rw [mem_roster] at hentry ⊢
  rcases hentry with hmachine | ⟨m'', hmem, rfl⟩
  · exact .inl hmachine
  · obtain ⟨old, hold, rfl⟩ := List.mem_map.mp hmem
    refine .inr ?_
    split
    · exact ⟨m, List.mem_of_find?_eq_some hm, by rw [type_of_monitor? hm, hblueprint]⟩
    · exact ⟨old, hold, rfl⟩

theorem retains_removeMonitor (type : String) : Retains w (w.removeMonitor type) := by
  refine ⟨rfl, ?_⟩
  intro entry hentry
  rw [mem_roster] at hentry ⊢
  rcases hentry with hmachine | ⟨m, hmem, rfl⟩
  · exact .inl hmachine
  · exact .inr ⟨m, (List.mem_filter.mp hmem).1, rfl⟩

theorem retains_setCell {actor : Actor} {cell cell' : Cell σ} (hcell : w.cell? actor = some cell)
    (hblueprint : cell'.blueprint = cell.blueprint) : Retains w (w.setCell actor cell') := by
  cases actor with
  | machine place id =>
    obtain ⟨m, hm, rfl⟩ := Option.map_eq_some_iff.mp hcell
    rw [setCell_machine hm]
    exact retains_setMachine hm rfl hblueprint
  | monitor type =>
    obtain ⟨m, hm, rfl⟩ := Option.map_eq_some_iff.mp hcell
    obtain rfl : m.type = type := type_of_monitor? hm
    let m' : Monitor σ := { m with cell := cell' }
    have hset : Retains w (w.setMonitor m') := retains_setMonitor hm hblueprint
    rw [setCell_monitor hm]
    exact hset

/-! ## Small steps -/

theorem retains_markBound (config : Config) : Retains w (w.markBound config) :=
  .of_eq (markBound_registry config) (markBound_machines w config) (markBound_monitors w config)

theorem retains_beginRun (index : Nat) : Retains w (w.beginRun index) := by
  unfold beginRun
  split <;> exact .of_eq rfl rfl rfl

theorem retains_schedulePending (h : w.schedulePending.LeadsTo w') : Retains w w' := by
  obtain ⟨index, _, rfl⟩ := schedulePending_leadsTo h
  exact (retains_beginRun index).trans (.of_eq rfl rfl rfl)

theorem retains_abort {m : Machine σ} (hm : w.machineAt? place = some m) (f : Failure) :
    Retains w (w.abort place m f).retire := by
  have hset : Retains w (w.setMachine place { m with active := false }) :=
    retains_setMachine hm rfl rfl
  unfold abort
  dsimp only
  split
  · exact hset.trans (.of_eq rfl rfl rfl)
  · exact hset.trans (.of_eq rfl rfl rfl)

theorem retains_giveBack {result : Except Failure Unit} (h : (w.giveBack result).LeadsTo w') :
    Retains w w' := by
  unfold giveBack at h
  split at h
  · exact Move.leadsTo_step.mp h ▸ .of_eq rfl rfl rfl
  · exact Move.leadsTo_returned.mp h ▸ .refl w

theorem retains_conclude {actor : Actor} {result : Except Failure Status}
    (h : (w.conclude sys actor result).LeadsTo w') : Retains w w' := by
  cases actor with
  | machine place id =>
    simp only [conclude] at h
    split at h
    · rename_i m hm
      have hset {m' : Machine σ} (hid : m'.id = m.id)
          (hblueprint : m'.cell.blueprint = m.cell.blueprint) :
          Retains w (w.setMachine place m') := retains_setMachine hm hid hblueprint
      unfold concludeMachine at h
      split at h
      · dsimp only at h
        split at h
        · exact endRun_leadsTo.mp h ▸ (hset (by rfl) (by rfl)).trans (.of_eq rfl rfl rfl)
        · exact Move.leadsTo_step.mp h ▸ (hset (by rfl) (by rfl)).trans (.of_eq rfl rfl rfl)
      · exact endRun_leadsTo.mp h ▸ (hset (by rfl) (by rfl)).trans (.of_eq rfl rfl rfl)
      · exact endRun_leadsTo.mp h ▸ retains_abort hm _
    · exact absurd h Move.not_leadsTo_idle
  | monitor type =>
    simp only [conclude] at h
    split at h
    · rename_i m hm
      obtain rfl : m.type = type := type_of_monitor? hm
      unfold concludeMonitor at h
      split at h
      · let m' : Monitor σ := { m with registered := true }
        have hset : Retains w (w.setMonitor m') := retains_setMonitor hm rfl
        exact hset.trans (retains_giveBack h)
      · dsimp only at h
        split at h
        · exact retains_giveBack h
        · exact (retains_removeMonitor m.type).trans (retains_giveBack h)
    · exact absurd h Move.not_leadsTo_idle

/-- However a dispatch is carried on, everyone runs what they ran before. -/
theorem retains_carry {actor : Actor} {progress : Progress}
    (h : (w.carry sys actor progress).LeadsTo w') : Retains w w' := by
  unfold carry at h
  split at h
  · exact absurd h Move.not_leadsTo_idle
  · rename_i cell hcell
    have hset : Retains w (w.setCell actor { cell with stack := progress.stack }) :=
      retains_setCell hcell rfl
    dsimp only at h
    split at h
    · exact hset.trans (retains_conclude h)
    · exact hset.trans (retains_conclude h)
    · split at h
      · exact Move.leadsTo_step.mp h ▸ hset.trans (.of_eq rfl rfl rfl)
      · exact hset.trans (retains_conclude h)

theorem retains_notify {e : Event} (h : (w.notify sys type e).LeadsTo w') : Retains w w' := by
  unfold notify at h
  split at h
  · exact retains_giveBack h
  · split at h
    · exact retains_giveBack h
    · exact retains_carry h

theorem retains_beginDispatch {m : Machine σ} (hm : w.machineAt? place = some m)
    (h : (w.beginDispatch sys place m).LeadsTo w') : Retains w w' := by
  have hset {m' : Machine σ} (hid : m'.id = m.id)
      (hblueprint : m'.cell.blueprint = m.cell.blueprint) :
      Retains w (w.setMachine place m') := retains_setMachine hm hid hblueprint
  unfold beginDispatch at h
  dsimp only at h
  split at h
  · exact endRun_leadsTo.mp h ▸ (hset (by rfl) (by rfl)).trans (.of_eq rfl rfl rfl)
  · exact (hset (by rfl) (by rfl)).trans (retains_carry h)
  · split at h
    · exact endRun_leadsTo.mp h ▸ (hset (by rfl) (by rfl)).trans (.of_eq rfl rfl rfl)
    · split at h
      · exact endRun_leadsTo.mp h ▸ retains_abort hm _
      · exact endRun_leadsTo.mp h ▸ (hset (by rfl) (by rfl)).trans (.of_eq rfl rfl rfl)
      · exact (hset (by rfl) (by rfl)).trans (retains_carry h)

theorem retains_delivered {e : Event} {seen : List Traffic} (h : Delivered w e seen w') :
    Retains w w' := by
  cases h with
  | refused _ _ => exact .refl w
  | handed hm _ _ _ | queued hm _ _ _ => exact retains_setMachine hm rfl rfl
  | woken hm _ _ _ => exact (retains_setMachine hm (by rfl) (by rfl)).trans (.of_eq rfl rfl rfl)

section Actions

variable {rest : List (Frame σ)} {actor : Actor} {p : Paused} {c : Context}

theorem retains_goOn {program : Program σ Verdict}
    (h : (w.goOn rest actor p c program).LeadsTo w') : Retains w w' :=
  goOn_leadsTo.mp h ▸ .of_eq rfl rfl rfl

theorem retains_reply {α : Type} {answer : Except Failure α}
    {next : Except Failure α → Program σ Verdict}
    (h : (w.reply rest actor p c answer next).LeadsTo w') : Retains w w' :=
  retains_goOn h

theorem retains_await {types : List EventType} {next : Except Failure Event → Program σ Verdict}
    {m : Machine σ} (hm : w.machineAt? place = some m)
    (h : (w.await sys rest actor p c types next place m).LeadsTo w') : Retains w w' := by
  have hgiven {v : World σ} (hv : Retains w v) (hmachines : v.machines = w.machines)
      {f : Failure} (h : (v.giveUp rest actor p c next place m f).LeadsTo w') : Retains w w' := by
    have hset : Retains v (v.setMachine place { m with waiting := none }) :=
      retains_setMachine ((machineAt?_congr hmachines place).trans hm) rfl rfl
    exact (hv.trans hset).trans (retains_reply h)
  have hmarked : Retains w (w.markBound sys.config) := retains_markBound sys.config
  unfold await at h
  split at h
  · have hset : Retains w (w.setMachine place { m with received := none }) :=
      retains_setMachine hm rfl rfl
    exact hset.trans (retains_reply h)
  · split at h
    · exact hgiven (.refl w) rfl h
    · split at h
      · exact absurd h Move.not_leadsTo_parked
      · dsimp only at h
        split at h
        · exact hgiven hmarked (markBound_machines w sys.config) h
        · split at h
          · exact hgiven hmarked (markBound_machines w sys.config) h
          · exact hmarked.trans (retains_schedulePending h)

/-- A request that uses no type, or may not, is answered without one. -/
theorem retains_serve {r : Request} {next : r.Reply → Program σ Verdict}
    (huse : r.use? = none ∨ ∃ type, actor = .monitor type)
    (h : (w.serve sys rest actor p c r next).LeadsTo w') : Retains w w' := by
  by_cases hinward : r.isInward actor = true
  · obtain ⟨c', answer, rfl⟩ := serve_inward_leadsTo hinward h
    exact .of_eq rfl rfl rfl
  · cases actor with
    | monitor type =>
      cases r with
      | remark remark =>
        have hwritten : Retains w (w.write (.remarked (.monitor type) remark)) := .of_eq rfl rfl rfl
        exact hwritten.trans (retains_goOn h)
      | _ => exact absurd rfl hinward
    | machine place id =>
      cases r with
      | send target e =>
        simp only [serve] at h
        split at h
        · rename_i sent hdeliver
          exact (retains_delivered (delivered_of_deliver hdeliver)).trans (retains_reply h)
        · exact retains_reply h
      | create type payload =>
        rcases huse with huse | ⟨_, hself⟩ <;> contradiction
      | notify type e =>
        let frame : Frame σ := .acting (.machine place id) p c (.notifying next)
        have hwaiting : Retains w { w with frames := frame :: rest } := .of_eq rfl rfl rfl
        exact hwaiting.trans (retains_notify h)
      | receive types =>
        simp only [serve] at h
        split at h
        · exact absurd h Move.not_leadsTo_idle
        · rename_i m hm
          split at h
          · exact (retains_setMachine hm (by rfl) (by rfl)).trans (retains_reply h)
          · exact Move.leadsTo_step.mp h ▸
              (retains_setMachine hm (by rfl) (by rfl)).trans (.of_eq rfl rfl rfl)
      | remark remark =>
        have hwritten : Retains w (w.write (.remarked (.machine id) remark)) := .of_eq rfl rfl rfl
        exact hwritten.trans (retains_goOn h)
      | raise | goto | push | pop | id | choose | assert => exact absurd rfl hinward

end Actions

/-! ## What everyone runs -/

/-- Everyone has used their type as what they are, and runs what its first use has built. -/
structure Typed (catalog : Catalog σ) (uses : List Use) (w : World σ) : Prop where
  registry : w.registry.Reflects catalog uses
  roster : ∀ entry ∈ w.roster,
    entry.1 ∈ uses ∧ firstBuilt? catalog uses entry.1.type = some entry.2

section Typed

variable {catalog : Catalog σ} {uses : List Use} {kind : Kind} {b : Blueprint σ}

theorem Typed.of_new (hregistry : w.registry = {}) (hmachines : w.machines = [])
    (hmonitors : w.monitors = []) : Typed catalog [] w where
  registry := hregistry ▸ .empty
  roster := by simp [World.roster, hmachines, hmonitors]

theorem Typed.retains (h : Typed catalog uses w) (hw : Retains w w') : Typed catalog uses w' where
  registry := hw.registry ▸ h.registry
  roster entry hentry := h.roster entry (hw.roster hentry)

/-- A use brings in whoever uses the type so, with what is in the registry then. -/
theorem Typed.admit {registry : Registry σ} (h : Typed catalog uses w)
    (hfetch : w.registry.fetch catalog kind type = .ok (b, registry))
    (hregistry : w'.registry = registry)
    (hroster : ∀ entry ∈ w'.roster, entry ∈ w.roster ∨ entry = (⟨kind, type⟩, b)) :
    Typed catalog (uses ++ [⟨kind, type⟩]) w' := by
  obtain ⟨hreflects, hfirst⟩ := h.registry.fetch hfetch
  refine ⟨hregistry ▸ hreflects, ?_⟩
  intro entry hentry
  rcases hroster entry hentry with hold | rfl
  · obtain ⟨hused, hbuilt⟩ := h.roster entry hold
    exact ⟨List.mem_append_left _ hused, firstBuilt?_append_of_some hbuilt⟩
  · exact ⟨List.mem_append_right _ List.mem_cons_self, hfirst⟩

/-- A use that fails concerns nobody. -/
theorem Typed.refuse {e : BuildError} (h : Typed catalog uses w)
    (hfetch : w.registry.fetch catalog kind type = .error e) :
    Typed catalog (uses ++ [⟨kind, type⟩]) w where
  registry := h.registry.refuse hfetch
  roster entry hentry := by
    obtain ⟨hused, hbuilt⟩ := h.roster entry hentry
    exact ⟨List.mem_append_left _ hused, firstBuilt?_append_of_some hbuilt⟩

theorem Typed.create {payload : Option Value} (h : Typed catalog uses w)
    (hcreate : w.create catalog type payload = .ok (id, w')) :
    Typed catalog (uses ++ [⟨.machine, type⟩]) w' := by
  obtain ⟨blueprint, registry, hfetch, rfl⟩ := exists_fetch_of_create hcreate
  refine h.admit hfetch rfl ?_
  intro entry hentry
  rw [mem_roster] at hentry ⊢
  rcases hentry with ⟨m, hm, rfl⟩ | hmonitor
  · rcases List.mem_append.mp hm with hold | hnew
    · exact .inl (.inl ⟨m, hold, rfl⟩)
    · obtain rfl := List.mem_singleton.mp hnew
      exact .inr rfl
  · exact .inl (.inr hmonitor)

theorem Typed.register (h : Typed sys.catalog uses w)
    (hregister : (w.register sys type).LeadsTo w') :
    Typed sys.catalog (uses ++ [⟨.monitor, type⟩]) w' := by
  unfold World.register at hregister
  split at hregister
  · rename_i m hm
    obtain rfl := Move.leadsTo_returned.mp hregister
    -- The monitor is there, and so is its type.
    have hfound := monitor?_of_registered? hm
    obtain ⟨_, hbuilt⟩ := h.roster (⟨.monitor, m.type⟩, m.cell.blueprint)
      (mem_roster.mpr (.inr ⟨m, List.mem_of_find?_eq_some hfound, rfl⟩))
    obtain rfl : m.type = type := type_of_monitor? hfound
    have hfind : w'.registry.find? m.type = some m.cell.blueprint := (h.registry _).trans hbuilt
    exact h.admit (Registry.fetch_of_find? hfind .monitor) rfl fun _ => .inl
  · split at hregister
    · rename_i e hfetch
      exact Move.leadsTo_returned.mp hregister ▸ h.refuse hfetch
    · rename_i blueprint registry hfetch
      let m : Monitor σ := { type, cell := { blueprint, memory := (sys.catalog type).fresh } }
      have hadded : Typed sys.catalog (uses ++ [⟨.monitor, type⟩]) (w.withMonitor registry m) := by
        refine h.admit hfetch rfl ?_
        intro entry hentry
        rw [mem_roster] at hentry ⊢
        rcases hentry with hmachine | ⟨m', hm', rfl⟩
        · exact .inl (.inl hmachine)
        · rcases List.mem_append.mp hm' with hold | hnew
          · exact .inl (.inr ⟨m', (List.mem_filter.mp hold).1, rfl⟩)
          · obtain rfl := List.mem_singleton.mp hnew
            exact .inr rfl
      exact hadded.retains (retains_carry hregister)

/-- A machine that is not created has a type that does not build. -/
theorem exists_error_of_create {payload : Option Value} {f : Failure}
    (h : w.create catalog type payload = .error f) :
    ∃ e, w.registry.fetch catalog .machine type = .error e := by
  unfold World.create at h
  split at h
  · rename_i e hfetch
    exact ⟨e, hfetch⟩
  · contradiction

/-- A request of a machine uses a type if it asks for a machine. -/
theorem Typed.serve {rest : List (Frame σ)} {p : Paused} {c : Context} {r : Request}
    {next : r.Reply → Program σ Verdict} (h : Typed sys.catalog uses w)
    (hserve : (w.serve sys rest (.machine place id) p c r next).LeadsTo w') :
    Typed sys.catalog (uses ++ r.use?.toList) w' := by
  cases huse : r.use? with
  | none =>
    rw [Option.toList_none, List.append_nil]
    exact h.retains (retains_serve (.inl huse) hserve)
  | some u =>
    cases r with
    | create type payload =>
      cases huse
      simp only [World.serve] at hserve
      split at hserve
      · rename_i hcreate
        exact (h.create hcreate).retains (retains_reply hserve)
      · rename_i hcreate
        obtain ⟨e, hfetch⟩ := exists_error_of_create hcreate
        exact (h.refuse hfetch).retains (retains_reply hserve)
    | raise | goto | push | pop | id | send | notify | choose | assert | receive | remark =>
      contradiction

/-- The use that the next small step makes of a type, if it makes one. Only machines create
machines. -/
def use? (w : World σ) : Option Use :=
  match w.frames with
  | .acting (.machine ..) _ _ (.running (.request r _)) :: _ => r.use?
  | _ => none

theorem Typed.execute {rest : List (Frame σ)} {actor : Actor} {p : Paused} {c : Context}
    {program : Program σ Verdict} {cell : Cell σ} (h : Typed sys.catalog uses w)
    (hframes : w.frames = .acting actor p c (.running program) :: rest)
    (hcell : w.cell? actor = some cell)
    (hexecute : (w.execute sys rest actor p c cell program).LeadsTo w') :
    Typed sys.catalog (uses ++ w.use?.toList) w' := by
  have hretains (huse : w.use? = none) (hw : Retains w w') :
      Typed sys.catalog (uses ++ w.use?.toList) w' := by
    rw [huse, Option.toList_none, List.append_nil]
    exact h.retains hw
  cases program with
  | done verdict =>
    refine hretains (by simp [use?, hframes]) ?_
    have hpopped : Retains w { w with frames := rest } := .of_eq rfl rfl rfl
    simp only [World.execute] at hexecute
    split at hexecute
    · exact Move.leadsTo_panicked.mp hexecute ▸ .of_eq rfl rfl rfl
    · exact hpopped.trans (retains_carry hexecute)
  | load next => exact hretains (by simp [use?, hframes]) (retains_goOn hexecute)
  | store memory next =>
    have hset : Retains w (w.setCell actor { cell with memory }) := retains_setCell hcell rfl
    exact hretains (by simp [use?, hframes]) (hset.trans (retains_goOn hexecute))
  | request r next =>
    have hserve : (w.serve sys rest actor p c r next).LeadsTo w' := hexecute
    cases actor with
    | monitor type =>
      exact hretains (by simp [use?, hframes]) (retains_serve (.inr ⟨type, rfl⟩) hserve)
    | machine place id =>
      have huse : w.use? = r.use? := by simp [use?, hframes]
      rw [huse]
      exact h.serve hserve

/-- A small step uses a type at most once, and nobody runs anything else afterwards. -/
theorem Typed.next (h : Typed sys.catalog uses w) (hnext : (w.next sys).LeadsTo w') :
    Typed sys.catalog (uses ++ w.use?.toList) w' := by
  unfold World.next at hnext
  split at hnext
  · exact absurd hnext Move.not_leadsTo_idle
  · rename_i place rest hframes
    have huse : w.use? = none := by simp [use?, hframes]
    rw [huse, Option.toList_none, List.append_nil]
    split at hnext
    · rename_i m hm
      have hpopped : Retains w { w with frames := rest } := .of_eq rfl rfl rfl
      exact h.retains (hpopped.trans (retains_beginDispatch hm hnext))
    · exact absurd hnext Move.not_leadsTo_idle
  · rename_i actor p c program rest hframes
    split at hnext
    · rename_i cell hcell
      exact h.execute hframes hcell hnext
    · exact absurd hnext Move.not_leadsTo_idle
  · rename_i place id p c types next rest hframes
    have huse : w.use? = none := by simp [use?, hframes]
    rw [huse, Option.toList_none, List.append_nil]
    split at hnext
    · rename_i m hm
      exact h.retains (retains_await hm hnext)
    · exact absurd hnext Move.not_leadsTo_idle
  · exact absurd hnext Move.not_leadsTo_idle
  · exact absurd hnext Move.not_leadsTo_idle

end Typed

/-! ## All uses -/

/-- What is done with a world from outside, with the uses that it makes of types. -/
inductive Operation (sys : System σ) (w : World σ) : List Use → World σ → Prop
  | create {type : String} {payload : Option Value} {id : MachineId} {w' : World σ}
      (h : w.create sys.catalog type payload = .ok (id, w')) :
      Operation sys w [⟨.machine, type⟩] w'
  | register {type : String} {w' : World σ} (h : (w.register sys type).LeadsTo w') :
      Operation sys w [⟨.monitor, type⟩] w'
  /-- A type is looked up, as either kind. -/
  | lookup {kind : Kind} {type : String} {b : Blueprint σ} {registry : Registry σ}
      (h : w.registry.fetch sys.catalog kind type = .ok (b, registry)) :
      Operation sys w [⟨kind, type⟩] { w with registry }
  /-- A type is not there and does not build. -/
  | refuse {kind : Kind} {type : String} {e : BuildError}
      (h : w.registry.fetch sys.catalog kind type = .error e) : Operation sys w [⟨kind, type⟩] w
  | send {target : MachineId} {e : Event} {w' : World σ} (h : w.deliver target e = .ok w') :
      Operation sys w [] w'
  | fail (f : Failure) : Operation sys w [] (w.fail f)
  | notify {type : String} {e : Event} {w' : World σ} (h : (w.notify sys type e).LeadsTo w') :
      Operation sys w [] w'
  | step {w' : World σ} (h : w.schedulePending.LeadsTo w') : Operation sys w [] w'
  /-- A pending run begins without a scheduling step, as in production mode. -/
  | begin (index : Nat) : Operation sys w [] (w.beginRun index)
  | markBound : Operation sys w [] (w.markBound sys.config)
  /-- The runs in progress are exchanged for others, that were parked. -/
  | exchange (frames : List (Frame σ)) : Operation sys w [] { w with frames }

/-- The worlds that a system comes to, in either mode, with the uses that have been made of
types since the last reset. -/
inductive Uses (sys : System σ) : World σ → List Use → Prop
  | empty : Uses sys .empty []
  | next {w w' : World σ} {uses : List Use} (h : Uses sys w uses)
      (hnext : (w.next sys).LeadsTo w') : Uses sys w' (uses ++ w.use?.toList)
  | outside {w w' : World σ} {uses more : List Use} (h : Uses sys w uses)
      (ho : Operation sys w more w') : Uses sys w' (uses ++ more)
  | reset {w : World σ} {uses : List Use} (h : Uses sys w uses) : Uses sys w.reset []

theorem Typed.operation {uses more : List Use} (h : Typed sys.catalog uses w)
    (ho : Operation sys w more w') : Typed sys.catalog (uses ++ more) w' := by
  have hretains (hw : Retains w w') : Typed sys.catalog (uses ++ []) w' := by
    rw [List.append_nil]
    exact h.retains hw
  cases ho with
  | create hcreate => exact h.create hcreate
  | register hregister => exact h.register hregister
  | lookup hfetch => exact h.admit hfetch rfl fun _ => .inl
  | refuse hfetch => exact h.refuse hfetch
  | send hdeliver => exact hretains (retains_delivered (delivered_of_deliver hdeliver))
  | fail f => exact hretains (.of_eq rfl rfl rfl)
  | notify hnotify => exact hretains (retains_notify hnotify)
  | step hstep => exact hretains (retains_schedulePending hstep)
  | begin index => exact hretains (retains_beginRun index)
  | markBound => exact hretains (retains_markBound sys.config)
  | exchange frames => exact hretains (.of_eq rfl rfl rfl)

theorem Uses.typed {uses : List Use} (h : Uses sys w uses) : Typed sys.catalog uses w := by
  induction h with
  | empty | reset => exact .of_new rfl rfl rfl
  | next _ hnext ih => exact ih.next hnext
  | outside _ ho ih => exact ih.operation ho

/-- Running until nothing is left uses no type before it comes to small steps. -/
theorem Uses.run {uses : List Use} (h : Uses sys w uses) (hidle : w.frames = [])
    (hrun : (w.nextUntilQuiescent sys).LeadsTo w') : Uses sys w' uses := by
  have houtside {v v' : World σ} (h : Uses sys v uses) (ho : Operation sys v [] v') :
      Uses sys v' uses := by
    have hafter := h.outside ho
    rwa [List.append_nil] at hafter
  unfold nextUntilQuiescent at hrun
  simp only [hidle] at hrun
  split at hrun
  · exact Move.leadsTo_returned.mp hrun ▸ h
  · have hmarked : Uses sys (w.markBound sys.config) uses := houtside h .markBound
    split at hrun
    · exact Move.leadsTo_returned.mp hrun ▸ hmarked
    · exact houtside hmarked (.step hrun)

/-- Whatever world occurs in either mode, types have been used in some way. -/
theorem Occurs.exists_uses (h : Occurs sys w) : ∃ uses, Uses sys w uses := by
  induction h with
  | empty => exact ⟨[], .empty⟩
  | next _ hnext ih =>
    obtain ⟨uses, ih⟩ := ih
    exact ⟨_, ih.next hnext⟩
  | outside _ hidle hi ih =>
    obtain ⟨uses, ih⟩ := ih
    cases hi with
    | create h => exact ⟨_, ih.outside (.create h)⟩
    | send h => exact ⟨_, ih.outside (.send h)⟩
    | fail f => exact ⟨_, ih.outside (.fail f)⟩
    | describe h => exact ⟨_, ih.outside (.lookup h)⟩
    | register h => exact ⟨_, ih.outside (.register h)⟩
    | notify h => exact ⟨_, ih.outside (.notify h)⟩
    | step h => exact ⟨_, ih.outside (.step h)⟩
    | run h => exact ⟨uses, ih.run hidle h⟩
  | reset _ ih =>
    obtain ⟨uses, ih⟩ := ih
    exact ⟨[], ih.reset⟩
  | @exchange w frames _ _ ih =>
    obtain ⟨uses, ih⟩ := ih
    exact ⟨_, ih.outside (.exchange frames)⟩
  | begin _ _ index ih =>
    obtain ⟨uses, ih⟩ := ih
    exact ⟨_, ih.outside (.begin index)⟩

end World

/-! ## A doorkeeper with two faces

As a monitor the doorkeeper watches, and owes something while it does. As a machine it
guards the door, and lets everyone who knocks wait. -/

namespace Janus

def watching : StateSpec := ({ name := "Watching" } : StateSpec).asStart.asHot

def guarding : StateSpec := ({ name := "Guarding" } : StateSpec).asStart.deferring "Knock"

def describe : Kind → Description Unit
  | .machine => ({} : Description Unit).state guarding
  | .monitor => ({} : Description Unit).state watching

def system : System Unit where
  catalog _ := { fresh := (), describe }
  config := .embedded

/-- The face of the monitor. -/
def watcher : Blueprint Unit where
  automaton :=
    { name := "Janus", kind := .monitor,
      states := [{ id := ⟨"Watching"⟩, entry := none, exit := none, reactions := [], hot := true,
                   cold := false }],
      start := ⟨"Watching"⟩, declaration := (describe .monitor).declaration }
  actions := []

/-- The face of the machine. -/
def guard : Blueprint Unit where
  automaton :=
    { name := "Janus", kind := .machine,
      states := [{ id := ⟨"Guarding"⟩, entry := none, exit := none,
                   reactions := [(⟨"Knock"⟩, .defer)], hot := false, cold := false }],
      start := ⟨"Guarding"⟩, declaration := (describe .machine).declaration }
  actions := []

/-- The monitor has been registered. -/
def watched : World Unit where
  registry := { entries := [("Janus", watcher)] }
  monitors :=
    [{ type := "Janus", cell := { blueprint := watcher, memory := (), stack := ⟨[⟨"Watching"⟩]⟩ },
       registered := true }]

/-- The machine has been created, too. -/
def doubled : World Unit :=
  { watched with
    machines := [{ id := ⟨"Janus", 1⟩, cell := { blueprint := watcher, memory := () } }]
    lastId := 1
    pending := [0]
    active := 1 }

def uses : List Use := [⟨.monitor, "Janus"⟩, ⟨.machine, "Janus"⟩]

theorem uses_doubled : World.Uses system doubled uses := by
  have hregister : (World.empty.register system "Janus").LeadsTo watched :=
    Move.leadsTo_returned.mpr rfl
  have hcreate : watched.create system.catalog "Janus" none = .ok (⟨"Janus", 1⟩, doubled) := rfl
  exact (World.Uses.empty.outside (.register hregister)).outside (.create hcreate)

end Janus

/-! ## Results -/

namespace World

variable {sys : System σ} {w : World σ} {uses : List Use}

/-- In either mode, every machine has been used as a machine and every monitor as a
monitor, and each runs what was built at the first use of its type that builds. A later use
gets the same, as whichever kind. As long as nothing has been built, a use builds the type
as its own kind. What is built is the description of that use, with the checks of its kind;
so a type that is used as one kind only runs as that kind. -/
theorem Uses.first_use_decides (h : Uses sys w uses) :
    (∀ m ∈ w.machines, ⟨.machine, m.id.typeName⟩ ∈ uses ∧
      firstBuilt? sys.catalog uses m.id.typeName = some m.cell.blueprint) ∧
    (∀ m ∈ w.monitors, ⟨.monitor, m.type⟩ ∈ uses ∧
      firstBuilt? sys.catalog uses m.type = some m.cell.blueprint) ∧
    (∀ type b, firstBuilt? sys.catalog uses type = some b →
      (∀ kind, w.registry.fetch sys.catalog kind type = .ok (b, w.registry)) ∧
      ∃ before kind after, uses = before ++ ⟨kind, type⟩ :: after ∧
        firstBuilt? sys.catalog before type = none ∧
        Blueprint.build type kind ((sys.catalog type).describe kind) = .ok b ∧
        b.automaton.kind = kind) ∧
    ∀ type, firstBuilt? sys.catalog uses type = none → ∀ kind,
      w.registry.fetch sys.catalog kind type
        = (Blueprint.build type kind ((sys.catalog type).describe kind)).map fun b =>
            (b, { entries := w.registry.entries ++ [(type, b)] }) := by
  obtain ⟨hregistry, hroster⟩ := h.typed
  refine ⟨?_, ?_, ?_, ?_⟩
  · intro m hm
    exact hroster _ (mem_roster.mpr (.inl ⟨m, hm, rfl⟩))
  · intro m hm
    exact hroster _ (mem_roster.mpr (.inr ⟨m, hm, rfl⟩))
  · intro type b hfirst
    refine ⟨Registry.fetch_of_find? ((hregistry type).trans hfirst), ?_⟩
    obtain ⟨before, kind, after, huses, hbefore, hbuild⟩ := exists_first_use hfirst
    obtain ⟨hautomaton, _, _⟩ := Blueprint.build_eq_ok hbuild
    have hkind : b.automaton.kind = kind := (Automaton.build_eq_ok hautomaton).2.2.2
    exact ⟨before, kind, after, huses, hbefore, hbuild, hkind⟩
  · intro type hfirst
    exact Registry.fetch_of_not_find? ((hregistry type).trans hfirst)

theorem Uses.first_use_decides_janus :
    Uses Janus.system Janus.doubled Janus.uses ∧
      (∀ m ∈ Janus.doubled.machines,
        firstBuilt? Janus.system.catalog Janus.uses m.id.typeName = some m.cell.blueprint) ∧
      Janus.doubled.registry.fetch Janus.system.catalog .machine "Janus"
        = .ok (Janus.watcher, Janus.doubled.registry) := by
  obtain ⟨hmachines, _, hbuilt, _⟩ := Uses.first_use_decides Janus.uses_doubled
  exact ⟨Janus.uses_doubled, fun m hm => (hmachines m hm).2,
    (hbuilt "Janus" Janus.watcher rfl).1 .machine⟩

/-- The doorkeeper is registered as a monitor and then created as a machine. It is not
refused, and what it runs is the face of the monitor and not its own. -/
theorem machine_runs_monitor :
    Uses Janus.system Janus.doubled Janus.uses ∧
      Janus.watched.registry.fetch Janus.system.catalog .machine "Janus"
        ≠ .error (.invalidDefinition "Janus" (.described "registered under a different kind")) ∧
      (Janus.doubled.machineAt? 0).map (·.cell.blueprint) = some Janus.watcher ∧
      Blueprint.build "Janus" .machine (Janus.describe .machine) = .ok Janus.guard ∧
      (Janus.watcher.automaton.kind, Janus.guard.automaton.kind) = (.monitor, .machine) :=
  ⟨Janus.uses_doubled, nofun, rfl, rfl, rfl⟩

end World

end PushdownActors
