-- SUMMARY: Monitors in all runs of either mode: one declared state each, and the hot ones are those in states that are declared hot.
import PushdownActors.PingPong
import PushdownActors.Proofs.Integrity
import PushdownActors.Proofs.SingleState
import PushdownActors.Proofs.WellFormed

/-!
# Monitors

A monitor is called, by an action of a machine or from outside, and is at work until it has
dealt with its event. It waits for no other run, so its frame is on top of all others for
as long as it is there. That holds in either mode, and whatever becomes of the call: a
monitor that fails keeps the state that it has come to, and is called again.

This module does not look at how machines are scheduled. In production mode the frames in
progress are exchanged for those of another run now and then, but these are frames of
machines.
-/

namespace PushdownActors

/-- The type of a monitor has been built, and its stack has one frame. -/
structure Cell.Lone (c : Cell σ) : Prop where
  built : c.blueprint.Built
  stack : c.stack.Lone c.blueprint.automaton

namespace World

variable {sys : System σ} {w v w' : World σ} {type : String} {place : Place} {id : MachineId}

/-- Only machines are in progress. -/
def Unobserved (w : World σ) : Prop := ∀ f ∈ w.frames, f.place? ≠ none

/-- The monitors of a world: one for each type, each with one frame. Of the frames in
progress only the innermost may be one of a monitor. -/
structure Watched (w : World σ) : Prop where
  registry : w.registry.Built
  types : (w.monitors.map Monitor.type).Nodup
  cell : ∀ m ∈ w.monitors, m.cell.Lone
  top : ∀ type p c stage rest, w.frames = .acting (.monitor type) p c stage :: rest →
    ∃ m, w.monitor? type = some m ∧ p.resume.Lone m.cell.blueprint.automaton
  below : ∀ f ∈ w.frames.tail, f.place? ≠ none

/-! ## Runs of machines -/

/-- What goes on without monitors: they are as they were, and none is in progress. -/
structure Aside (w w' : World σ) : Prop where
  registry : w.registry.Built → w'.registry.Built
  monitors : w'.monitors = w.monitors
  unobserved : w'.Unobserved

theorem Unobserved.of_idle (h : w.frames = []) : w.Unobserved := by
  rw [Unobserved, h]
  exact List.forall_mem_nil _

theorem Unobserved.cons {f : Frame σ} {rest : List (Frame σ)} (h : w.frames = f :: rest)
    (hf : f.place? = some place) (hrest : ∀ f ∈ rest, f.place? ≠ none) : w.Unobserved := by
  rw [Unobserved, h]
  exact List.forall_mem_cons.mpr ⟨Option.ne_none_iff_exists'.mpr ⟨place, hf⟩, hrest⟩

/-- No monitor is in progress then. -/
theorem Unobserved.not_monitor {p : Paused} {c : Context} {stage : Stage σ}
    {rest : List (Frame σ)} (h : w.Unobserved)
    (hframes : w.frames = .acting (.monitor type) p c stage :: rest) : False :=
  h (.acting (.monitor type) p c stage) (hframes ▸ List.mem_cons_self) rfl

theorem Unobserved.below (h : w.Unobserved) : ∀ f ∈ w.frames.tail, f.place? ≠ none :=
  fun f hf => h f (List.mem_of_mem_tail hf)

namespace Aside

theorem same (hregistry : w'.registry = w.registry) (hmonitors : w'.monitors = w.monitors)
    (hunobserved : w'.Unobserved) : Aside w w' :=
  ⟨fun h => hregistry ▸ h, hmonitors, hunobserved⟩

/-- A machine acts on top of machines. -/
theorem acting {p : Paused} {c : Context} {stage : Stage σ} {rest : List (Frame σ)}
    (hregistry : w'.registry = w.registry) (hmonitors : w'.monitors = w.monitors)
    (hframes : w'.frames = .acting (.machine place id) p c stage :: rest)
    (hrest : ∀ f ∈ rest, f.place? ≠ none) : Aside w w' :=
  .same hregistry hmonitors (.cons hframes rfl hrest)

theorem trans (h : Aside w v) (h' : Aside v w') : Aside w w' :=
  ⟨fun hbuilt => h'.registry (h.registry hbuilt), h'.monitors.trans h.monitors, h'.unobserved⟩

/-- Monitors do not notice what goes on without them. -/
theorem watched (h : Aside w w') (hw : w.Watched) : w'.Watched where
  registry := h.registry hw.registry
  types := h.monitors ▸ hw.types
  cell := h.monitors ▸ hw.cell
  top _ _ _ _ _ hframes := (h.unobserved.not_monitor hframes).elim
  below := h.unobserved.below

end Aside

theorem markBound_registry (config : Config) : (w.markBound config).registry = w.registry := by
  unfold markBound
  split <;> rfl

theorem Unobserved.markBound (h : w.Unobserved) (config : Config) :
    (w.markBound config).Unobserved := by
  rw [Unobserved, markBound_frames]
  exact h

theorem aside_beginRun (h : w.Unobserved) (index : Nat) : Aside w (w.beginRun index) := by
  unfold beginRun
  split
  · exact .same rfl rfl (.cons rfl rfl h)
  · exact .same rfl rfl h

theorem aside_beginTurn (h : w.Unobserved) (index : Nat) : Aside w (w.beginTurn index) := by
  have hbegun := aside_beginRun h index
  exact ⟨hbegun.registry, hbegun.monitors, hbegun.unobserved⟩

theorem aside_schedulePending (h : w.Unobserved) (hmove : w.schedulePending.LeadsTo w') :
    Aside w w' := by
  obtain ⟨index, _, rfl⟩ := schedulePending_leadsTo hmove
  exact aside_beginTurn h index

theorem aside_abort (h : w.Unobserved) (m : Machine σ) (f : Failure) :
    Aside w (w.abort place m f).retire := by
  unfold abort
  dsimp only
  split <;> exact .same rfl rfl h

theorem aside_delivered {e : Event} {seen : List Traffic} (h : Delivered w e seen w')
    (hw : w.Unobserved) : Aside w w' := by
  cases h with
  | refused _ _ => exact .same rfl rfl hw
  | handed _ _ _ _ | queued _ _ _ _ | woken _ _ _ _ => exact .same rfl rfl hw

theorem aside_create {catalog : Catalog σ} {payload : Option Value}
    (h : w.create catalog type payload = .ok (id, w')) (hw : w.Unobserved) : Aside w w' := by
  obtain ⟨blueprint, registry, hfetch, rfl⟩ := exists_fetch_of_create h
  exact ⟨fun hbuilt => (hbuilt.fetch hfetch).2, rfl, hw⟩

/-- However a dispatch of a machine is carried on, in either mode. -/
theorem aside_carry {progress : Progress} (hw : w.Unobserved)
    (h : (w.carry sys (.machine place id) progress).LeadsTo w') : Aside w w' := by
  have hconclude {v : World σ} (hv : Aside w v) {result : Except Failure Status}
      (h : (v.conclude sys (.machine place id) result).LeadsTo w') : Aside w w' := by
    simp only [conclude] at h
    split at h
    · unfold concludeMachine at h
      split at h
      · dsimp only at h
        split at h
        · exact endRun_leadsTo.mp h ▸ hv.trans (.same rfl rfl hv.unobserved)
        · exact Move.leadsTo_step.mp h ▸
            hv.trans (.same rfl rfl (.cons rfl rfl hv.unobserved))
      · exact endRun_leadsTo.mp h ▸ hv.trans (.same rfl rfl hv.unobserved)
      · exact endRun_leadsTo.mp h ▸ hv.trans (aside_abort hv.unobserved _ _)
    · exact absurd h Move.not_leadsTo_idle
  unfold carry at h
  split at h
  · exact absurd h Move.not_leadsTo_idle
  · rename_i cell hcell
    obtain ⟨m, hm, rfl⟩ := Option.map_eq_some_iff.mp hcell
    simp only [setCell_machine hm] at h
    have hset : Aside w (w.setMachine place
        { m with cell := { m.cell with stack := progress.stack } }) := .same rfl rfl hw
    split at h
    · exact hconclude hset h
    · exact hconclude hset h
    · split at h
      · exact Move.leadsTo_step.mp h ▸ hset.trans (.same rfl rfl (.cons rfl rfl hw))
      · exact hconclude hset h

theorem aside_beginDispatch {m : Machine σ} (hw : w.Unobserved)
    (h : (w.beginDispatch sys place m).LeadsTo w') : Aside w w' := by
  have hset (m' : Machine σ) : Aside w (w.setMachine place m') := .same rfl rfl hw
  unfold beginDispatch at h
  dsimp only at h
  split at h
  · exact endRun_leadsTo.mp h ▸ .same rfl rfl hw
  · exact (hset _).trans (aside_carry hw h)
  · split at h
    · exact endRun_leadsTo.mp h ▸ .same rfl rfl hw
    · split at h
      · exact endRun_leadsTo.mp h ▸ aside_abort hw _ _
      · exact endRun_leadsTo.mp h ▸ .same rfl rfl hw
      · exact (hset _).trans (aside_carry hw h)

/-- The action of a machine gets an answer. -/
theorem aside_reply {α : Type} {rest : List (Frame σ)} {p : Paused} {c : Context}
    {answer : Except Failure α} {next : Except Failure α → Program σ Verdict}
    (hrest : ∀ f ∈ rest, f.place? ≠ none)
    (h : (w.reply rest (.machine place id) p c answer next).LeadsTo w') : Aside w w' :=
  reply_leadsTo.mp h ▸ .acting rfl rfl rfl hrest

theorem aside_goOn {rest : List (Frame σ)} {p : Paused} {c : Context}
    {program : Program σ Verdict} (hrest : ∀ f ∈ rest, f.place? ≠ none)
    (h : (w.goOn rest (.machine place id) p c program).LeadsTo w') : Aside w w' :=
  goOn_leadsTo.mp h ▸ .acting rfl rfl rfl hrest

/-- A machine that waits for an event, in either mode. -/
theorem aside_await {rest : List (Frame σ)} {p : Paused} {c : Context} {types : List EventType}
    {next : Except Failure Event → Program σ Verdict} {m : Machine σ} (hw : w.Unobserved)
    (hrest : ∀ f ∈ rest, f.place? ≠ none)
    (h : (w.await sys rest (.machine place id) p c types next place m).LeadsTo w') :
    Aside w w' := by
  have hmarked : Aside w (w.markBound sys.config) :=
    .same (markBound_registry sys.config) (markBound_monitors w sys.config)
      (hw.markBound sys.config)
  have hgiven {v : World σ} (hv : Aside w v) {m' : Machine σ} {f : Failure}
      (h : ((v.setMachine place m').reply rest (.machine place id) p c (.error f) next).LeadsTo
        w') : Aside w w' := by
    have hset : Aside v (v.setMachine place m') := .same rfl rfl hv.unobserved
    exact (hv.trans hset).trans (aside_reply hrest h)
  unfold await at h
  split at h
  · have hset (m' : Machine σ) : Aside w (w.setMachine place m') := .same rfl rfl hw
    exact (hset _).trans (aside_reply hrest h)
  · dsimp only [giveUp] at h
    split at h
    · exact hgiven (.same rfl rfl hw) h
    · split at h
      · exact absurd h Move.not_leadsTo_parked
      · split at h
        · exact hgiven hmarked h
        · split at h
          · exact hgiven hmarked h
          · exact hmarked.trans (aside_schedulePending hmarked.unobserved h)

/-! ## Runs of monitors -/

/-- The monitors of the other types have one frame each, and nothing of a monitor is in
progress: what the dispatch of a monitor finds, be it registered already or not. -/
structure WatchedBut (w : World σ) (type : String) : Prop where
  registry : w.registry.Built
  types : (w.monitors.map Monitor.type).Nodup
  others : ∀ m ∈ w.monitors, m.type ≠ type → m.cell.Lone
  unobserved : w.Unobserved

namespace WatchedBut

theorem of_watched (h : w.Watched) (hunobserved : w.Unobserved) (type : String) :
    w.WatchedBut type where
  registry := h.registry
  types := h.types
  others m hm _ := h.cell m hm
  unobserved := hunobserved

/-- The monitor has one frame again. -/
theorem setMonitor {m : Monitor σ} (h : w.WatchedBut m.type) (hcell : m.cell.Lone) :
    (w.setMonitor m).Watched where
  registry := h.registry
  types := by
    have hsame : (w.setMonitor m).monitors.map Monitor.type = w.monitors.map Monitor.type := by
      simp only [World.setMonitor, List.map_map]
      apply List.map_congr_left
      intro m' hm'
      by_cases htype : m'.type = m.type <;> simp [htype]
    exact hsame ▸ h.types
  cell := by
    intro m' hm'
    obtain ⟨m'', hm'', rfl⟩ := List.mem_map.mp hm'
    split
    · exact hcell
    · rename_i hother
      exact h.others m'' hm'' (by simpa using hother)
  top _ _ _ _ _ hframes := (h.unobserved.not_monitor hframes).elim
  below := h.unobserved.below

end WatchedBut

theorem Watched.removeMonitor (h : w.Watched) (hunobserved : w.Unobserved) (type : String) :
    (w.removeMonitor type).Watched where
  registry := h.registry
  types := h.types.sublist (List.filter_sublist.map _)
  cell m hm := h.cell m (List.mem_filter.mp hm).1
  top _ _ _ _ _ hframes := (hunobserved.not_monitor hframes).elim
  below := h.below

/-- The action that waits for a monitor is one of a machine. -/
theorem aside_giveBack {result : Except Failure Unit} (hw : w.Unobserved)
    (h : (w.giveBack result).LeadsTo w') : Aside w w' := by
  unfold giveBack at h
  split at h
  · rename_i actor p c next rest hframes
    rw [Unobserved, hframes] at hw
    obtain ⟨hactor, hrest⟩ := List.forall_mem_cons.mp hw
    obtain ⟨place, hplace⟩ := Option.ne_none_iff_exists'.mp hactor
    exact Move.leadsTo_step.mp h ▸ .same rfl rfl (.cons rfl hplace hrest)
  · obtain rfl := Move.leadsTo_returned.mp h
    exact .same rfl rfl hw

theorem Watched.concludeMonitor {m : Monitor σ} {result : Except Failure Status} (h : w.Watched)
    (hunobserved : w.Unobserved) (hcell : m.cell.Lone)
    (hback : (w.concludeMonitor m result).LeadsTo w') : w'.Watched := by
  unfold World.concludeMonitor at hback
  split at hback
  · have hset : (w.setMonitor { m with registered := true }).Watched :=
      WatchedBut.setMonitor (.of_watched h hunobserved _) hcell
    have hunobserved : (w.setMonitor { m with registered := true }).Unobserved := hunobserved
    exact (aside_giveBack hunobserved hback).watched hset
  · dsimp only at hback
    split at hback
    · exact (aside_giveBack hunobserved hback).watched h
    · have hremoved := h.removeMonitor hunobserved m.type
      have hunobserved : (w.removeMonitor m.type).Unobserved := hunobserved
      exact (aside_giveBack hunobserved hback).watched hremoved

/-- However the dispatch of a monitor is carried on, its one frame is put back. -/
theorem WatchedBut.carry {m : Monitor σ} {progress : Progress} (h : w.WatchedBut type)
    (hm : w.monitor? type = some m) (hbuilt : m.cell.blueprint.Built)
    (hprogress : progress.Lone m.cell.blueprint.automaton)
    (hcarry : (w.carry sys (.monitor type) progress).LeadsTo w') : w'.Watched := by
  obtain rfl : m.type = type := type_of_monitor? hm
  let m' : Monitor σ := { m with cell := { m.cell with stack := progress.stack } }
  have hcell : m'.cell.Lone := ⟨hbuilt, hprogress.lone_stack⟩
  have hset : (w.setMonitor m').Watched := WatchedBut.setMonitor (m := m') h hcell
  have hfound : (w.setMonitor m').monitor? m.type = some m' := monitor?_setMonitor_self hm m' rfl
  have hconclude {result : Except Failure Status}
      (hback : ((w.setMonitor m').conclude sys (.monitor m.type) result).LeadsTo w') :
      w'.Watched := by
    simp only [conclude, hfound] at hback
    exact hset.concludeMonitor h.unobserved hcell hback
  unfold World.carry at hcarry
  simp only [cell?_monitor hm, setCell_monitor hm] at hcarry
  cases hprogress with
  | @paused stack p hstack hresume =>
    dsimp only at hcarry
    split at hcarry
    · rename_i action haction
      obtain rfl := Move.leadsTo_step.mp hcarry
      refine ⟨hset.registry, hset.types, hset.cell, ?_, h.unobserved⟩
      intro type p' c stage rest hframes
      cases hframes
      exact ⟨m', hfound, hresume⟩
    · exact hconclude hcarry
  | finished _ | failed _ => exact hconclude hcarry

/-- Below the innermost frame there are machines only. -/
theorem Watched.rest {f : Frame σ} {rest : List (Frame σ)} (h : w.Watched)
    (hframes : w.frames = f :: rest) : ∀ f ∈ rest, f.place? ≠ none := by
  have hbelow := h.below
  rwa [hframes, List.tail_cons] at hbelow

/-- The innermost frame may be taken away. -/
theorem Watched.popFrame {f : Frame σ} {rest : List (Frame σ)} (h : w.Watched)
    (hframes : w.frames = f :: rest) : Watched { w with frames := rest } :=
  Aside.watched (.same (w := w) rfl rfl (h.rest hframes)) h

/-- A dispatch of a monitor begins and goes on with one frame. -/
theorem Watched.dispatches {cell : Cell σ} {prompt : Prompt} {progress : Progress}
    (h : w.Watched) (hd : w.Dispatches sys (.monitor type) cell prompt progress) :
    cell.blueprint.Built ∧ progress.Lone cell.blueprint.automaton := by
  cases hd with
  | answer hframes hcell =>
    obtain ⟨m, hm, hresume⟩ := h.top _ _ _ _ _ hframes
    cases hcell.symm.trans (cell?_monitor hm)
    have hlone := h.cell m (List.mem_of_find?_eq_some hm)
    exact ⟨hlone.built,
      Engine.lone_answer ((Actor.monitor type).engine m.cell) hlone.built.closed rfl
        hlone.stack hresume _⟩
  | register hfetch =>
    have hbuilt := (h.registry.fetch hfetch).1
    exact ⟨hbuilt,
      (Engine.steady_start ((Actor.monitor type).engine cell) hbuilt.closed).lone⟩
  | @notify _ m _ hm hsendable =>
    have hlone := h.cell m (List.mem_of_find?_eq_some (monitor?_of_registered? hm))
    exact ⟨hlone.built,
      Engine.lone_deliver ((Actor.monitor type).engine m.cell) hlone.built.closed rfl
        hlone.stack⟩

theorem watched_notify {e : Event} (h : w.Watched) (hunobserved : w.Unobserved)
    (hnotify : (w.notify sys type e).LeadsTo w') : w'.Watched := by
  unfold World.notify at hnotify
  split at hnotify
  · exact (aside_giveBack hunobserved hnotify).watched h
  · rename_i hsendable
    split at hnotify
    · exact (aside_giveBack hunobserved hnotify).watched h
    · rename_i m hm
      have hd : w.Dispatches sys _ _ _ _ := .notify hm hsendable
      obtain ⟨hbuilt, hprogress⟩ := h.dispatches hd
      exact (WatchedBut.of_watched h hunobserved type).carry (monitor?_of_registered? hm) hbuilt
        hprogress hnotify

/-- A monitor that is new, or takes the place of one that was not registered. -/
theorem watched_register (h : w.Watched) (hunobserved : w.Unobserved)
    (hregister : (w.register sys type).LeadsTo w') : w'.Watched := by
  unfold World.register at hregister
  split at hregister
  · exact Move.leadsTo_returned.mp hregister ▸ h
  · split at hregister
    · exact Move.leadsTo_returned.mp hregister ▸ h
    · rename_i blueprint registry hfetch
      obtain ⟨hbuilt, hregistry⟩ := h.registry.fetch hfetch
      let m : Monitor σ := { type, cell := { blueprint, memory := (sys.catalog type).fresh } }
      have hremoved := h.removeMonitor hunobserved type
      have hadded : (w.withMonitor registry m).WatchedBut type := by
        refine ⟨hregistry, ?_, ?_, hunobserved⟩
        · simp only [withMonitor, List.map_append, List.map_cons, List.map_nil]
          refine List.nodup_append.mpr ⟨hremoved.types, by simp, ?_⟩
          intro t ht t' ht'
          obtain ⟨m', hm', rfl⟩ := List.mem_map.mp ht
          obtain rfl := List.mem_singleton.mp ht'
          simpa [World.removeMonitor] using (List.mem_filter.mp hm').2
        · intro m' hm' hother
          rcases List.mem_append.mp hm' with hold | hnew
          · exact hremoved.cell m' hold
          · obtain rfl := List.mem_singleton.mp hnew
            exact absurd rfl hother
      have hprogress : (((Actor.monitor type).engine m.cell).start .empty (.start none)).Lone
          m.cell.blueprint.automaton :=
        (Engine.steady_start ((Actor.monitor type).engine m.cell) hbuilt.closed).lone
      exact hadded.carry monitor?_withMonitor hbuilt hprogress hregister

/-! ## Steps -/

/-- The innermost action of a monitor goes on. -/
theorem Watched.goOn {p : Paused} {c c' : Context} {stage stage' : Stage σ}
    {rest : List (Frame σ)} (h : w.Watched)
    (hframes : w.frames = .acting (.monitor type) p c stage :: rest)
    (hframes' : w'.frames = .acting (.monitor type) p c' stage' :: rest)
    (hregistry : w'.registry = w.registry) (hmonitors : w'.monitors = w.monitors) :
    w'.Watched where
  registry := hregistry ▸ h.registry
  types := hmonitors ▸ h.types
  cell := hmonitors ▸ h.cell
  top := by
    intro type' p' c'' stage'' rest' hframes''
    rw [hframes'] at hframes''
    cases hframes''
    obtain ⟨m, hm, hresume⟩ := h.top _ _ _ _ _ hframes
    refine ⟨m, ?_, hresume⟩
    rw [monitor?, hmonitors]
    exact hm
  below := by
    rw [hframes', List.tail_cons]
    exact h.rest hframes

/-- A request of a monitor is answered at once, and concerns nobody else. -/
theorem serve_monitor (sys : System σ) {rest : List (Frame σ)} {p : Paused} {c : Context}
    {r : Request} {next : r.Reply → Program σ Verdict}
    (h : (w.serve sys rest (.monitor type) p c r next).LeadsTo w') :
    ∃ c' stage, w'.frames = .acting (.monitor type) p c' stage :: rest ∧
      w'.registry = w.registry ∧ w'.monitors = w.monitors := by
  by_cases hinward : r.isInward (.monitor type) = true
  · obtain ⟨c', answer, rfl⟩ := serve_inward_leadsTo hinward h
    exact ⟨c', _, rfl, rfl, rfl⟩
  · cases r with
    | remark remark =>
      obtain rfl := goOn_leadsTo.mp h
      exact ⟨c, _, rfl, rfl, rfl⟩
    | _ => exact absurd rfl hinward

/-- A request of a machine touches a monitor only by notifying it. -/
theorem watched_serve_machine {rest : List (Frame σ)} {p : Paused} {c : Context} {r : Request}
    {next : r.Reply → Program σ Verdict} (hw : w.Watched) (hunobserved : w.Unobserved)
    (hrest : ∀ f ∈ rest, f.place? ≠ none)
    (h : (w.serve sys rest (.machine place id) p c r next).LeadsTo w') : w'.Watched := by
  by_cases hinward : r.isInward (.machine place id) = true
  · obtain ⟨c', answer, rfl⟩ := serve_inward_leadsTo hinward h
    exact Aside.watched (.acting (w := w) rfl rfl rfl hrest) hw
  · cases r with
    | send target e =>
      simp only [serve] at h
      split at h
      · rename_i sent hdeliver
        have hsent := aside_delivered (delivered_of_deliver hdeliver) hunobserved
        exact (hsent.trans (aside_reply hrest h)).watched hw
      · exact (aside_reply hrest h).watched hw
    | create type payload =>
      simp only [serve] at h
      split at h
      · rename_i created grown hcreate
        exact ((aside_create hcreate hunobserved).trans (aside_reply hrest h)).watched hw
      · exact (aside_reply hrest h).watched hw
    | notify type e =>
      let frame : Frame σ := .acting (.machine place id) p c (.notifying next)
      have hwaiting : Aside w { w with frames := frame :: rest } := .acting rfl rfl rfl hrest
      exact watched_notify (hwaiting.watched hw) hwaiting.unobserved h
    | receive types =>
      simp only [serve] at h
      split at h
      · exact absurd h Move.not_leadsTo_idle
      · split at h
        · have hset (m : Machine σ) : Aside w (w.setMachine place m) := .same rfl rfl hunobserved
          exact ((hset _).trans (aside_reply hrest h)).watched hw
        · obtain rfl := Move.leadsTo_step.mp h
          exact Aside.watched (.acting (w := w) rfl rfl rfl hrest) hw
    | remark remark =>
      obtain rfl := goOn_leadsTo.mp h
      exact Aside.watched (.acting (w := w) rfl rfl rfl hrest) hw
    | raise | goto | push | pop | id | choose | assert => exact absurd rfl hinward

/-- The action of a machine goes on by one step of its program. -/
theorem watched_execute_machine {rest : List (Frame σ)} {p : Paused} {c : Context}
    {program : Program σ Verdict} {cell : Cell σ} (hw : w.Watched) (hunobserved : w.Unobserved)
    (hrest : ∀ f ∈ rest, f.place? ≠ none)
    (h : (w.execute sys rest (.machine place id) p c cell program).LeadsTo w') : w'.Watched := by
  cases program with
  | done verdict =>
    have hpopped : Aside w { w with frames := rest } := .same rfl rfl hrest
    simp only [execute] at h
    split at h
    · obtain rfl := Move.leadsTo_panicked.mp h
      exact Aside.watched (.same (w := w) rfl rfl (.of_idle rfl)) hw
    · exact (hpopped.trans (aside_carry hrest h)).watched hw
  | load next => exact (aside_goOn hrest h).watched hw
  | store memory next =>
    obtain rfl := goOn_leadsTo.mp h
    refine Aside.watched (.acting (w := w) ?_ ?_ rfl hrest) hw
    all_goals
      simp only [setCell]
      split <;> rfl
  | request r next => exact watched_serve_machine hw hunobserved hrest h

/-- The action of a monitor goes on by one step of its program. -/
theorem watched_execute_monitor {rest : List (Frame σ)} {p : Paused} {c : Context}
    {program : Program σ Verdict} {cell : Cell σ} (hw : w.Watched)
    (hframes : w.frames = .acting (.monitor type) p c (.running program) :: rest)
    (hcell : w.cell? (.monitor type) = some cell)
    (h : (w.execute sys rest (.monitor type) p c cell program).LeadsTo w') : w'.Watched := by
  have hbelow := hw.rest hframes
  have hpopped : Watched { w with frames := rest } := hw.popFrame hframes
  obtain ⟨m, hm, rfl⟩ := Option.map_eq_some_iff.mp hcell
  cases program with
  | done verdict =>
    simp only [execute] at h
    split at h
    · obtain rfl := Move.leadsTo_panicked.mp h
      exact Aside.watched (.same (w := w) rfl rfl (.of_idle rfl)) hw
    · have hd : w.Dispatches sys _ _ _ _ := .answer hframes hcell
      obtain ⟨hbuilt, hprogress⟩ := hw.dispatches hd
      exact (WatchedBut.of_watched hpopped hbelow type).carry hm hbuilt hprogress h
  | load next =>
    obtain rfl := goOn_leadsTo.mp h
    exact hw.goOn hframes rfl rfl rfl
  | store memory next =>
    obtain rfl := type_of_monitor? hm
    obtain rfl := goOn_leadsTo.mp h
    let m' : Monitor σ := { m with cell := { m.cell with memory } }
    have hlone := hw.cell m (List.mem_of_find?_eq_some hm)
    have hset : (setMonitor { w with frames := rest } m').Watched :=
      WatchedBut.setMonitor (m := m') (.of_watched hpopped hbelow m.type) ⟨hlone.built, hlone.stack⟩
    rw [setCell_monitor hm]
    refine ⟨hset.registry, hset.types, hset.cell, ?_, hbelow⟩
    intro type p' c' stage rest' hframes'
    cases hframes'
    obtain ⟨m₀, hm₀, hresume⟩ := hw.top _ _ _ _ _ hframes
    cases hm.symm.trans hm₀
    exact ⟨m', monitor?_setMonitor_self hm m' rfl, hresume⟩
  | request r next =>
    obtain ⟨c', stage, hframes', hregistry, hmonitors⟩ := serve_monitor sys h
    exact hw.goOn hframes hframes' hregistry hmonitors

/-- Every small step in either mode keeps one frame for each monitor. -/
theorem watched_next (hw : w.Watched) (h : (w.next sys).LeadsTo w') : w'.Watched := by
  unfold World.next at h
  split at h
  · exact absurd h Move.not_leadsTo_idle
  · rename_i place rest hframes
    have hbelow := hw.rest hframes
    split at h
    · have hpopped : Aside w { w with frames := rest } := .same rfl rfl hbelow
      exact (hpopped.trans (aside_beginDispatch hbelow h)).watched hw
    · exact absurd h Move.not_leadsTo_idle
  · rename_i actor p c program rest hframes
    have hbelow := hw.rest hframes
    split at h
    · rename_i cell hcell
      cases actor with
      | machine place id =>
        exact watched_execute_machine hw (.cons hframes rfl hbelow) hbelow h
      | monitor type => exact watched_execute_monitor hw hframes hcell h
    · exact absurd h Move.not_leadsTo_idle
  · rename_i place id p c types next rest hframes
    have hbelow := hw.rest hframes
    split at h
    · exact (aside_await (.cons hframes rfl hbelow) hbelow h).watched hw
    · exact absurd h Move.not_leadsTo_idle
  · exact absurd h Move.not_leadsTo_idle
  · exact absurd h Move.not_leadsTo_idle

/-- So does every operation from outside. -/
theorem watched_intervention {seen : List Traffic} (hw : w.Watched) (hidle : w.frames = [])
    (h : Intervention sys w seen w') : w'.Watched := by
  have hunobserved : w.Unobserved := .of_idle hidle
  cases h with
  | create h => exact (aside_create h hunobserved).watched hw
  | send h => exact (aside_delivered (delivered_of_deliver h) hunobserved).watched hw
  | fail f => exact Aside.watched (.same (w := w) rfl rfl hunobserved) hw
  | describe h =>
    exact Aside.watched (w := w) ⟨fun hbuilt => (hbuilt.fetch h).2, rfl, hunobserved⟩ hw
  | register h => exact watched_register hw hunobserved h
  | notify h => exact watched_notify hw hunobserved h
  | step h => exact (aside_schedulePending hunobserved h).watched hw
  | run h =>
    have hmarked : Aside w (w.markBound sys.config) :=
      .same (markBound_registry sys.config) (markBound_monitors w sys.config)
        (hunobserved.markBound sys.config)
    unfold nextUntilQuiescent at h
    simp only [hidle] at h
    split at h
    · exact Move.leadsTo_returned.mp h ▸ hw
    · split at h
      · exact Move.leadsTo_returned.mp h ▸ hmarked.watched hw
      · exact (hmarked.trans (aside_schedulePending hmarked.unobserved h)).watched hw

theorem watched_of_new (hregistry : w.registry = {}) (hmonitors : w.monitors = [])
    (hframes : w.frames = []) : w.Watched where
  registry := by simp [hregistry, Registry.Built]
  types := by simp [hmonitors]
  cell := by simp [hmonitors]
  top := by simp [hframes]
  below := by simp [hframes]

/-! ## All worlds that occur -/

/-- The worlds that a system comes to, in either mode. Small steps and operations from
outside are as in the runs of a serial system. In production mode the machine in progress
may be exchanged for others, which wait where they were parked or begin their runs. -/
inductive Occurs (sys : System σ) : World σ → Prop
  | empty : Occurs sys .empty
  | next {w w' : World σ} (h : Occurs sys w) (hnext : (w.next sys).LeadsTo w') : Occurs sys w'
  | outside {w w' : World σ} {seen : List Traffic} (h : Occurs sys w) (hidle : w.frames = [])
      (hi : Intervention sys w seen w') : Occurs sys w'
  | reset {w : World σ} (h : Occurs sys w) : Occurs sys w.reset
  | exchange {w : World σ} {frames : List (Frame σ)} (h : Occurs sys w)
      (hframes : ∀ f ∈ frames, f.place? ≠ none) : Occurs sys { w with frames }
  | begin {w : World σ} (h : Occurs sys w) (hunobserved : w.Unobserved) (index : Nat) :
      Occurs sys (w.beginRun index)

theorem Occurs.watched (h : Occurs sys w) : w.Watched := by
  induction h with
  | empty | reset => exact watched_of_new rfl rfl rfl
  | next _ hnext ih => exact watched_next ih hnext
  | outside _ hidle hi ih => exact watched_intervention ih hidle hi
  | @exchange w frames _ hframes ih => exact Aside.watched (.same (w := w) rfl rfl hframes) ih
  | begin _ hunobserved index ih => exact (aside_beginRun hunobserved index).watched ih

/-- All worlds of the runs of a serial system occur. -/
theorem Run.occurs {log : List Traffic} (h : Run sys w log) : Occurs sys w := by
  induction h with
  | empty => exact .empty
  | next _ hnext ih => exact ih.next hnext
  | outside _ hidle hi ih => exact ih.outside hidle hi
  | reset _ _ ih => exact ih.reset

end World

namespace World

variable {sys : System σ} {w w' : World σ} {type : String}

/-! ## What is found out about monitors -/

section Lookup

variable {m m' : Monitor σ}

theorem Watched.eq_of_type (h : w.Watched) (hm : m ∈ w.monitors) (hm' : m' ∈ w.monitors)
    (htype : m'.type = m.type) : m' = m := by
  have hdistinct : w.monitors.Pairwise fun m m' => m.type ≠ m'.type := List.pairwise_map.mp h.types
  obtain ⟨i, hi, rfl⟩ := List.mem_iff_getElem.mp hm
  obtain ⟨j, hj, rfl⟩ := List.mem_iff_getElem.mp hm'
  have hne := List.pairwise_iff_getElem.mp hdistinct
  rcases Nat.lt_trichotomy i j with hlt | rfl | hlt
  · exact absurd htype.symm (hne i j hi hj hlt)
  · rfl
  · exact absurd htype (hne j i hj hi hlt)

/-- What is registered for a type is the monitor of that type, once it has started. -/
theorem Watched.registered?_iff (h : w.Watched) :
    w.registered? type = some m ↔ m ∈ w.monitors ∧ m.type = type ∧ m.registered = true := by
  constructor
  · intro hm
    have hfound := monitor?_of_registered? hm
    exact ⟨List.mem_of_find?_eq_some hfound, type_of_monitor? hfound,
      (Option.filter_eq_some_iff.mp hm).2⟩
  · rintro ⟨hm, rfl, hregistered⟩
    refine Option.filter_eq_some_iff.mpr ⟨?_, hregistered⟩
    obtain ⟨m', hfound⟩ : ∃ m', w.monitor? m.type = some m' :=
      Option.isSome_iff_exists.mp (List.find?_isSome.mpr ⟨m, hm, by simp⟩)
    rw [hfound, h.eq_of_type hm (List.mem_of_find?_eq_some hfound) (type_of_monitor? hfound)]

/-- Putting back what is there changes nothing. -/
theorem Watched.setMonitor_self (h : w.Watched) (hm : m ∈ w.monitors) : w.setMonitor m = w := by
  have hsame : (w.monitors.map fun m' => if m'.type == m.type then m else m') = w.monitors := by
    refine (List.map_congr_left ?_).trans (List.map_id _)
    intro m' hm'
    split
    · rename_i htype
      exact (h.eq_of_type hm hm' (by simpa using htype)).symm
    · rfl
  rw [World.setMonitor, hsame]

theorem Watched.isMonitorHot_iff (h : w.Watched) :
    w.isMonitorHot type = true ↔ ∃ m ∈ w.monitors, m.type = type ∧ m.registered = true ∧
      ∃ s, m.cell.state? = some s ∧ s.hot = true := by
  rw [isMonitorHot, Option.any_eq_true]
  constructor
  · rintro ⟨m, hm, hhot⟩
    obtain ⟨hmem, htype, hregistered⟩ := h.registered?_iff.mp hm
    exact ⟨m, hmem, htype, hregistered, (Option.any_eq_true _ _).mp hhot⟩
  · rintro ⟨m, hmem, htype, hregistered, hhot⟩
    exact ⟨m, h.registered?_iff.mpr ⟨hmem, htype, hregistered⟩, (Option.any_eq_true _ _).mpr hhot⟩

theorem Watched.mem_hotMonitors_iff (h : w.Watched) :
    type ∈ w.hotMonitors ↔ ∃ m ∈ w.monitors, m.type = type ∧ m.registered = true ∧
      ∃ s, m.cell.state? = some s ∧ s.hot = true := by
  rw [hotMonitors, List.mem_mergeSort, List.mem_map]
  constructor
  · rintro ⟨m, hm, rfl⟩
    exact h.isMonitorHot_iff.mp (List.mem_filter.mp hm).2
  · rintro ⟨m, hm, rfl, hhot⟩
    exact ⟨m, List.mem_filter.mpr ⟨hm, h.isMonitorHot_iff.mpr ⟨m, hm, rfl, hhot⟩⟩, rfl⟩

/-- The hot monitors are listed once each, in the order of their names. -/
theorem Watched.nodup_hotMonitors (h : w.Watched) :
    w.hotMonitors.Nodup ∧ w.hotMonitors.Pairwise (· ≤ ·) := by
  constructor
  · refine (List.mergeSort_perm _ _).nodup_iff.mpr ?_
    exact h.types.sublist (List.filter_sublist.map _)
  · have htrans (a b c : String) (hab : decide (a ≤ b) = true) (hbc : decide (b ≤ c) = true) :
        decide (a ≤ c) = true := by
      simp only [decide_eq_true_eq] at hab hbc ⊢
      exact String.le_trans hab hbc
    have htotal (a b : String) : (decide (a ≤ b) || decide (b ≤ a)) = true := by
      simpa using String.le_total a b
    have hsorted := List.pairwise_mergeSort htrans htotal
      ((w.monitors.filter fun m => w.isMonitorHot m.type).map (·.type))
    exact hsorted.imp fun hle => of_decide_eq_true hle

end Lookup

end World

/-- No state is both hot and cold. -/
theorem Blueprint.Built.not_hot_and_cold {b : Blueprint σ} (h : b.Built) {id : StateId} {s : State}
    (hs : b.automaton.state? id = some s) : ¬ (s.hot = true ∧ s.cold = true) := by
  obtain ⟨type, kind, d, hbuild⟩ := h
  obtain ⟨id', spec, _, hstate⟩ := Automaton.mem_buildStates
    (Automaton.build_eq_ok (Blueprint.build_eq_ok hbuild).1).1 (Automaton.mem_of_state? hs)
  have hmarks := (Automaton.wellFormed_of_buildState hstate).marks
  obtain ⟨_, rfl⟩ := Automaton.buildState_eq_ok hstate
  exact hmarks

namespace World

variable {sys : System σ} {w w' : World σ} {type : String}

theorem Watched.not_hot_and_cold (h : w.Watched) :
    ¬ (w.isMonitorHot type = true ∧ w.isMonitorCold type = true) := by
  rw [isMonitorHot, isMonitorCold]
  rintro ⟨hhot, hcold⟩
  obtain ⟨m, hm, hhot⟩ := (Option.any_eq_true _ _).mp hhot
  obtain ⟨_, hm', hcold⟩ := (Option.any_eq_true _ _).mp hcold
  cases hm.symm.trans hm'
  obtain ⟨s, hs, hhot⟩ := (Option.any_eq_true _ _).mp hhot
  obtain ⟨_, hs', hcold⟩ := (Option.any_eq_true _ _).mp hcold
  cases hs.symm.trans hs'
  have hbuilt := (h.cell m (h.registered?_iff.mp hm).1).built
  obtain ⟨id, _, hstate⟩ := Option.bind_eq_some_iff.mp hs
  exact hbuilt.not_hot_and_cold hstate ⟨hhot, hcold⟩

/-- What a monitor is said to have failed with. -/
def refusal (type : String) (id : StateId) (v : Violation) : Failure :=
  (v.toFailure.inState (some id)).inMachine type

/-- A dispatch that is refused in the state that a monitor is in comes to nothing but the
failure. -/
theorem Watched.carry_violate (h : w.Watched) {m : Monitor σ} {id : StateId}
    (hm : w.registered? type = some m) (hstack : m.cell.stack = ⟨[id]⟩) (v : Violation) :
    w.carry sys (.monitor type) (.violate ⟨[id]⟩ v)
      = w.giveBack (.error (refusal type id v)) := by
  obtain ⟨hmem, rfl, hregistered⟩ := h.registered?_iff.mp hm
  have hfound := monitor?_of_registered? hm
  have hresult : (Progress.violate ⟨[id]⟩ v).result? m.cell.blueprint
      = some (.error (v.toFailure.inState (some id))) := rfl
  have hself : w.setMonitor
      { m with cell := { m.cell with stack := (Progress.violate ⟨[id]⟩ v).stack } } = w := by
    have hkept : (Progress.violate ⟨[id]⟩ v).stack = m.cell.stack := hstack.symm
    rw [hkept]
    exact h.setMonitor_self hmem
  rw [carry_eq_conclude (cell?_monitor hfound) hresult, setCell_monitor hfound, hself]
  simp only [conclude, hfound, World.concludeMonitor, hregistered, if_true]
  rfl

/-- An event that the current state of a monitor neither handles nor ignores is refused:
the failure is all that comes of it. -/
theorem Watched.notify_unhandled (h : w.Watched) {m : Monitor σ} {e : Event} {id : StateId}
    (hm : w.registered? type = some m) (hstack : m.cell.stack = ⟨[id]⟩)
    (hsendable : e.checkSendable = .ok ())
    (hpasses : m.cell.blueprint.automaton.Passes e.type id) :
    w.notify sys type e
      = w.giveBack (.error (refusal type id (.monitorUnhandledEvent e.type id))) := by
  have hrefused := Engine.handle_unhandled ((Actor.monitor type).engine m.cell) rfl hpasses
    (target_of_checkSendable hsendable)
  simp only [notify, hsendable, hm, hstack, hrefused]
  exact h.carry_violate hm hstack _

/-- What an action of a monitor asks for is refused in the same way, where it is an event
that cannot be handled, or a pop. -/
theorem Watched.next_of_refused (h : w.Watched) {m : Monitor σ} {id : StateId} {p : Paused}
    {c : Context} {verdict : Verdict} {rest : List (Frame σ)} {t : PushdownActors.Transition}
    {v : Violation}
    (hframes : w.frames = .acting (.monitor type) p c (.running (.done verdict)) :: rest)
    (hm : w.registered? type = some m) (hstack : m.cell.stack = ⟨[id]⟩)
    (hanswer : c.answer verdict = .ok t)
    (hrefused : ((Actor.monitor type).engine m.cell).answer ⟨[id]⟩ p (.ok t)
      = .violate ⟨[id]⟩ v) :
    w.next sys = World.giveBack { w with frames := rest } (.error (refusal type id v)) := by
  have hpopped : Watched { w with frames := rest } := h.popFrame hframes
  have hcell := cell?_monitor (monitor?_of_registered? hm)
  simp only [World.next, hframes, hcell, execute]
  split
  · rename_i message _
    cases hviolation : c.violation <;>
      simp [Context.answer, Verdict.failure?, hviolation] at hanswer
  · rw [hstack, hanswer, hrefused]
    exact hpopped.carry_violate hm hstack v

end World

/-! ## A liveness monitor

The monitor of the ping-pong system, registered and not notified yet. No ping is waiting, so
it has no use for a pong. -/

namespace PongLiveness

def system : System PingPong.Memory := ⟨PingPong.catalog, .bugFinding 0⟩

def begun : Session PingPong.Memory CyclicChoice :=
  let s : Session PingPong.Memory CyclicChoice := { source := { numbers := [] } }
  (s.perform system 10 (.register PingPong.monitorType)).2

theorem occurs_begun : World.Occurs system begun.world := by
  have hhistory : Session.History system begun := .perform (.fresh _) (.register _) 10 nofun
  obtain ⟨⟨log, hrun⟩, _⟩ := hhistory.atRest rfl
  exact hrun.occurs

/-- The monitor as it waits for a ping. -/
def answered : Monitor PingPong.Memory where
  type := PingPong.monitorType
  cell :=
    { blueprint :=
        { automaton :=
            { name := PingPong.monitorType
              kind := .monitor
              states :=
                [{ id := ⟨"Answered"⟩, entry := none, exit := none,
                   reactions := [(PingPong.ping, .goto ⟨"Waiting"⟩ none)], hot := false,
                   cold := true },
                 { id := ⟨"Waiting"⟩, entry := none, exit := none,
                   reactions := [(PingPong.pong, .goto ⟨"Answered"⟩ none)], hot := true,
                   cold := false }]
              start := ⟨"Answered"⟩
              declaration := PingPong.monitorDescription.declaration }
          actions := [] }
      memory := .monitor
      stack := ⟨[⟨"Answered"⟩]⟩ }
  registered := true

theorem registered_begun : begun.world.registered? PingPong.monitorType = some answered := rfl

def pong : Event := .message PingPong.pong none

theorem passes_pong :
    answered.cell.blueprint.automaton.Passes pong.type ⟨"Answered"⟩ := ⟨_, rfl, rfl, rfl⟩

end PongLiveness

/-! ## Results -/

namespace World

section Results

variable {sys : System σ} {w : World σ} [ChoiceSource τ]

/-- In every world that occurs each monitor has one frame, a declared state. No dispatch of a
monitor halts, whether it begins, goes on after an action, or ends. An event that its state
neither handles nor ignores, be it sent or raised, and a pop come to nothing but a failure
that names the state. Actions that may not ask for any transition fail with that if they ask
for a pop. No monitor is both hot and cold, and the hot monitors are those that are
registered and in a state that is declared hot. -/
theorem Occurs.single_state (h : Occurs sys w) :
    (∀ m ∈ w.monitors, ∃ id, m.cell.stack = ⟨[id]⟩ ∧
      m.cell.blueprint.automaton.hasState id = true) ∧
    (∀ type cell prompt progress, w.Dispatches sys (.monitor type) cell prompt progress →
      progress.outcome ≠ .finished .halted ∧ ∃ id, progress.stack = ⟨[id]⟩ ∧
        cell.blueprint.automaton.hasState id = true) ∧
    (∀ type m id, w.registered? type = some m → m.cell.stack = ⟨[id]⟩ →
      (∀ e, e.checkSendable = .ok () → m.cell.blueprint.automaton.Passes e.type id →
        let f := refusal type id (.monitorUnhandledEvent e.type id)
        w.notify sys type e = w.giveBack (.error f) ∧
          (w.frames = [] → ∀ (source : τ) budget,
            Session.notify ⟨w, source⟩ sys budget type e
              = (.ok (.error (.failure f)), ⟨w.fail f, source⟩))) ∧
      ∀ p c verdict rest,
        w.frames = .acting (.monitor type) p c (.running (.done verdict)) :: rest →
          (∀ e, p.resume = .apply → c.answer verdict = .ok (.raise e) →
            e.checkSendable = .ok () → m.cell.blueprint.automaton.Passes e.type id →
            w.next sys = giveBack { w with frames := rest }
              (.error (refusal type id (.monitorUnhandledEvent e.type id)))) ∧
          (c.answer verdict = .ok .pop →
            w.next sys = giveBack { w with frames := rest }
              (.error (refusal type id
                (if p.resume = .apply then .popEmptiesStack
                  else p.invocation.site.forbids.getD .transitionInExit))))) ∧
    (∀ type, ¬ (w.isMonitorHot type = true ∧ w.isMonitorCold type = true)) ∧
    (∀ type, type ∈ w.hotMonitors ↔ ∃ m ∈ w.monitors, m.type = type ∧ m.registered = true ∧
      ∃ s, m.cell.state? = some s ∧ s.hot = true) ∧
    w.hotMonitors.Nodup ∧ w.hotMonitors.Pairwise (· ≤ ·) := by
  have hwatched := h.watched
  refine ⟨?_, ?_, ?_, fun type => hwatched.not_hot_and_cold,
    fun type => hwatched.mem_hotMonitors_iff, hwatched.nodup_hotMonitors⟩
  · intro m hm
    exact (hwatched.cell m hm).stack
  · intro type cell prompt progress hd
    have hlone := (hwatched.dispatches hd).2
    exact ⟨hlone.not_halted, hlone.lone_stack⟩
  · intro type m id hm hstack
    constructor
    · intro e hsendable hpasses f
      have hnotify : w.notify sys type e = w.giveBack (.error f) :=
        hwatched.notify_unhandled hm hstack hsendable hpasses
      refine ⟨hnotify, ?_⟩
      intro hidle source budget
      simp only [Session.notify, hnotify, giveBack, hidle]
      rfl
    · intro p c verdict rest hframes
      constructor
      · intro e hresume hanswer hsendable hpasses
        exact hwatched.next_of_refused hframes hm hstack hanswer
          (Engine.answer_raise_unhandled rfl hresume hpasses (target_of_checkSendable hsendable))
      · intro hanswer
        exact hwatched.next_of_refused hframes hm hstack hanswer Engine.answer_pop

theorem Occurs.single_state_pongLiveness :
    Occurs PongLiveness.system PongLiveness.begun.world ∧
      PongLiveness.begun.world.registered? PingPong.monitorType = some PongLiveness.answered ∧
      PongLiveness.begun.world.notify PongLiveness.system PingPong.monitorType PongLiveness.pong
        = .returned PongLiveness.begun.world (.error
          (refusal PingPong.monitorType ⟨"Answered"⟩
            (.monitorUnhandledEvent PingPong.pong ⟨"Answered"⟩))) := by
  have hsingle := (@Occurs.single_state _ CyclicChoice _ _ _ PongLiveness.occurs_begun).2.2.1
    PingPong.monitorType PongLiveness.answered ⟨"Answered"⟩ PongLiveness.registered_begun rfl
  exact ⟨PongLiveness.occurs_begun, PongLiveness.registered_begun,
    (hsingle.1 PongLiveness.pong rfl PongLiveness.passes_pong).1⟩

end Results

end World

end PushdownActors
