-- SUMMARY: What a reported deadlock tells: all runs in progress are blocked in receives, and which of them still wait.
import PushdownActors.Proofs.Delivery

/-!
# Deadlocks

A blocked receive lets other runs go first, and gives up with a deadlock when none is
pending. Then every run in progress is blocked in a receive. A receive that has not got
an event yet has none in its mailbox either, so the machines whose receives wait can
do nothing before somebody else sends.

But receives lie on each other and only the innermost can go on. One beneath it may
have got its event in the meantime. It is not pending, and yet it would go on, and
might send what the innermost waits for. So a reported deadlock is one only if no
receive beneath has its event, and the invariant of this module tells the two apart.
-/

namespace PushdownActors

/-! ## Receives under way -/

/-- The machine is in a receive of these types: it waits for one of them, or has got
an event of one of them. -/
inductive Machine.Receiving (m : Machine σ) (types : List EventType) : Prop
  | waiting (hwaiting : m.waiting = some types) : Receiving m types
  | served {e : Event} (hwaiting : m.waiting = none) (hreceived : m.received = some e)
      (htype : types.contains e.type = true) : Receiving m types

/-- Its mailbox and the rest do not matter. -/
theorem Machine.Receiving.congr {m m' : Machine σ} {types : List EventType}
    (h : m.Receiving types) (hwaiting : m'.waiting = m.waiting)
    (hreceived : m'.received = m.received) : m'.Receiving types := by
  cases h with
  | waiting h => exact .waiting (hwaiting.trans h)
  | served hfree he htype => exact .served (hwaiting.trans hfree) (hreceived.trans he) htype

/-- The receive that the frame waits in: whose, and of which types. -/
def Frame.receive? : Frame σ → Option (Place × List EventType)
  | acting actor _ _ (.receiving types _) => actor.place?.map fun place => (place, types)
  | acting _ _ _ (.running _) | acting _ _ _ (.notifying _) | ready _ => none

theorem Frame.place?_of_receive? {f : Frame σ} {place : Place} {types : List EventType}
    (h : f.receive? = some (place, types)) : f.place? = some place := by
  unfold receive? at h
  split at h
  · obtain ⟨_, hplace, heq⟩ := Option.map_eq_some_iff.mp h
    cases heq
    exact hplace
  all_goals contradiction

namespace World

/-- The receives that runs in progress wait in, the innermost first. -/
def receives (w : World σ) : List (Place × List EventType) := w.frames.filterMap Frame.receive?

theorem receives_of_frames {w : World σ} {f : Frame σ} {rest : List (Frame σ)}
    (h : w.frames = f :: rest) :
    w.receives = f.receive?.toList ++ rest.filterMap Frame.receive? := by
  rw [receives, h, List.filterMap_cons]
  cases f.receive? <;> rfl

/-- Beneath the frame of a machine nobody waits for that machine. -/
theorem Accounted.not_receives {w : World σ} {lost : List Place} {f : Frame σ}
    {rest : List (Frame σ)} {place : Place} (h : w.Accounted (lost ++ w.runs))
    (hframes : w.frames = f :: rest) (hplace : f.place? = some place) (types : List EventType) :
    (place, types) ∉ rest.filterMap Frame.receive? := by
  intro hmem
  obtain ⟨g, hg, hreceive⟩ := List.mem_filterMap.mp hmem
  exact h.place?_ne_of_frames hframes hplace g hg (Frame.place?_of_receive? hreceive)

/-! ## The invariant -/

/-- A run in progress waits in a receive only if its machine is in that receive. -/
def Attended (w : World σ) : Prop :=
  ∀ place types, (place, types) ∈ w.receives →
    ∃ m, w.machineAt? place = some m ∧ m.Receiving types

namespace Attended

variable {w w' : World σ} {place : Place} {m m' : Machine σ} {f f' : Frame σ}
  {rest : List (Frame σ)}

theorem of_idle (h : w.frames = []) : w.Attended := by
  intro place types hmem
  rw [receives, h] at hmem
  contradiction

theorem congr (h : w.Attended) (hmachines : w'.machines = w.machines)
    (hreceives : w'.receives ⊆ w.receives) : w'.Attended := by
  intro place types hmem
  obtain ⟨m, hm, hreceiving⟩ := h place types (hreceives hmem)
  exact ⟨m, (machineAt?_congr hmachines place).trans hm, hreceiving⟩

/-- A machine is exchanged. If somebody waits for it, it is still in its receive. -/
theorem update (h : w.Attended) (hm : w.machineAt? place = some m)
    (hmachines : w'.machines = (w.setMachine place m').machines)
    (hreceives : ∀ other types, (other, types) ∈ w'.receives →
      other = place ∧ m'.Receiving types ∨ (other, types) ∈ w.receives ∧
        (other = place → m.Receiving types → m'.Receiving types)) : w'.Attended := by
  intro other types hmem
  rw [machineAt?_congr hmachines]
  rcases hreceives other types hmem with ⟨rfl, hreceiving⟩ | ⟨hmem, hkeeps⟩
  · exact ⟨m', machineAt?_setMachine_self hm, hreceiving⟩
  · obtain ⟨m'', hm'', hreceiving⟩ := h other types hmem
    by_cases hother : other = place
    · subst hother
      cases hm.symm.trans hm''
      exact ⟨m', machineAt?_setMachine_self hm, hkeeps rfl hreceiving⟩
    · exact ⟨m'', (machineAt?_setMachine_of_ne (Ne.symm hother)).trans hm'', hreceiving⟩

/-- A machine is exchanged for one that is in the same receive, if it is in one. -/
theorem alter (h : w.Attended) (hm : w.machineAt? place = some m)
    (hmachines : w'.machines = (w.setMachine place m').machines)
    (hreceives : w'.receives ⊆ w.receives) (hwaiting : m'.waiting = m.waiting)
    (hreceived : m'.received = m.received) : w'.Attended :=
  h.update hm hmachines fun _ _ hmem =>
    .inr ⟨hreceives hmem, fun _ hreceiving => hreceiving.congr hwaiting hreceived⟩

/-- A machine is exchanged that nobody waits for. -/
theorem exchange (h : w.Attended) (hm : w.machineAt? place = some m)
    (hmachines : w'.machines = (w.setMachine place m').machines)
    (hreceives : w'.receives ⊆ w.receives) (hfree : ∀ types, (place, types) ∉ w'.receives) :
    w'.Attended := by
  refine h.update hm hmachines fun other types hmem => .inr ⟨hreceives hmem, ?_⟩
  rintro rfl
  exact absurd hmem (hfree types)

theorem popFrame (h : w.Attended) (hframes : w.frames = f :: rest) :
    Attended { w with frames := rest } := by
  refine h.congr rfl ?_
  rw [receives_of_frames hframes]
  exact List.subset_append_right ..

/-- The innermost frame is another, which waits in no receive. -/
theorem replaceFrame (h : w.Attended) (hframes : w.frames = f :: rest)
    (hfree : f'.receive? = none) : Attended { w with frames := f' :: rest } := by
  refine h.congr rfl ?_
  rw [receives_of_frames hframes, receives, List.filterMap_cons_none hfree]
  exact List.subset_append_right ..

theorem markBound (h : w.Attended) (config : Config) : (w.markBound config).Attended := by
  refine h.congr (markBound_machines w config) ?_
  rw [receives, receives, markBound_frames]
  exact List.Subset.refl _

theorem beginTurn (h : w.Attended) (index : Nat) : (w.beginTurn index).Attended := by
  unfold World.beginTurn World.beginRun
  split <;> exact h.congr rfl (List.Subset.refl _)

theorem setCell {actor : Actor} {cell : Cell σ} (h : w.Attended)
    (hcell : w.cell? actor = some cell) (cell' : Cell σ) : (w.setCell actor cell').Attended := by
  have hreceives : (w.setCell actor cell').receives = w.receives := by
    rw [receives, setCell_frames]
    rfl
  cases actor with
  | monitor type =>
    exact h.congr (SameRuns.setMonitorCell w type cell').machines (hreceives ▸ List.Subset.refl _)
  | machine place id =>
    obtain ⟨m, hm, rfl⟩ := Option.map_eq_some_iff.mp hcell
    rw [setCell_machine hm]
    exact h.alter hm rfl (List.Subset.refl _) rfl rfl

/-- An event that is handed over is of a type that the machine waits for. -/
theorem delivered {e : Event} {seen : List Traffic} (h : w.Attended)
    (hdelivered : Delivered w e seen w') : w'.Attended := by
  cases hdelivered with
  | refused _ _ => exact h
  | handed hm _ hwaiting htype =>
    refine h.update hm rfl fun other types hmem => .inr ⟨hmem, ?_⟩
    intro _ hreceiving
    cases hreceiving with
    | waiting hwaiting' =>
      cases hwaiting.symm.trans hwaiting'
      exact .served rfl rfl htype
    | served hfree _ _ =>
      rw [hfree] at hwaiting
      contradiction
  | queued hm _ _ _ => exact h.alter hm rfl (List.Subset.refl _) rfl rfl
  | woken hm _ _ _ => exact h.alter hm rfl (List.Subset.refl _) rfl rfl

theorem create {catalog : Catalog σ} {type : String} {payload : Option Value} {id : MachineId}
    (h : w.Attended) (hcreate : w.create catalog type payload = .ok (id, w')) : w'.Attended := by
  obtain ⟨blueprint, registry, rfl⟩ := create_eq_ok hcreate
  intro place types hmem
  obtain ⟨m, hm, hreceiving⟩ := h place types hmem
  have hlt : place < w.machines.length := (List.getElem?_eq_some_iff.mp hm).1
  exact ⟨m, (List.getElem?_append_left hlt).trans hm, hreceiving⟩

theorem abort {failure : Failure} (h : w.Attended) (hm : w.machineAt? place = some m)
    (hwaiting : m'.waiting = m.waiting) (hreceived : m'.received = m.received) :
    (w.abort place m' failure).retire.Attended := by
  unfold World.abort
  dsimp only
  split <;> exact h.alter hm rfl (List.Subset.refl _) hwaiting hreceived

theorem giveBack {result : Except Failure Unit} (h : w.Attended)
    (hback : (w.giveBack result).LeadsTo w') : w'.Attended := by
  unfold World.giveBack at hback
  split at hback
  · rename_i hframes
    exact Move.leadsTo_step.mp hback ▸ h.replaceFrame hframes rfl
  · exact Move.leadsTo_returned.mp hback ▸ h

/-- However a dispatch is carried on, nobody waits for the machine beneath it. -/
theorem carried {actor : Actor} {progress : Progress} (hcarried : Carried w actor progress w')
    (h : w.Attended)
    (hfree : ∀ place types, actor.place? = some place → (place, types) ∉ w.receives) :
    w'.Attended := by
  cases hcarried with
  | acting hcell hpaused haction => exact (h.setCell hcell _).congr rfl (List.Subset.refl _)
  | yielded hm hresult => exact h.alter hm rfl (List.Subset.refl _) rfl rfl
  | halted hm hresult =>
    exact h.exchange hm rfl (List.Subset.refl _) fun types => hfree _ types rfl
  | aborted hm hresult => exact h.abort hm rfl rfl
  | judged hm hresult hback =>
    obtain ⟨judged, answer, heq, hframes, hsame⟩ :=
      SameRuns.concludeMonitor_eq (w.setMonitor _) _ _
    rw [heq] at hback
    have hjudged : judged.Attended := by
      refine h.congr hsame.machines ?_
      rw [receives, hframes]
      exact List.Subset.refl _
    exact hjudged.giveBack hback

end Attended

section Runs

variable {sys : System σ} {w w' : World σ} {lost : List Place} {seen : List Traffic}

/-- Every small step keeps it that those who wait are in their receives. -/
theorem Transition.attended (haccounted : w.Accounted (lost ++ w.runs)) (h : w.Attended)
    (ht : Transition sys w seen w') : w'.Attended := by
  cases ht with
  | panic hpropagate => exact .of_idle rfl
  | start hframes hm hcreated hcarried =>
    refine .carried hcarried ((h.popFrame hframes).alter hm rfl (List.Subset.refl _) rfl rfl) ?_
    rintro _ types ⟨⟩
    exact haccounted.not_receives hframes rfl types
  | dispatch hframes hm hactive hfailed hselect hcarried =>
    refine .carried hcarried ((h.popFrame hframes).alter hm rfl (List.Subset.refl _) rfl rfl) ?_
    rintro _ types ⟨⟩
    exact haccounted.not_receives hframes rfl types
  | rest hframes hm hactive hfailed hselect =>
    exact (h.popFrame hframes).alter hm rfl (List.Subset.refl _) rfl rfl
  | unselectable hframes hm hactive hfailed hselect => exact (h.popFrame hframes).abort hm rfl rfl
  | stop hframes hm hwhy =>
    exact (h.popFrame hframes).alter hm rfl (List.Subset.refl _) rfl rfl
  | answer hframes hcell hcarried =>
    refine .carried hcarried (h.popFrame hframes) ?_
    intro place types hplace
    exact haccounted.not_receives hframes hplace types
  | goOn hframes => exact h.replaceFrame hframes rfl
  | store hframes hcell =>
    exact (h.setCell hcell _).replaceFrame ((setCell_frames ..).trans hframes) rfl
  | remark hframes => exact (h.replaceFrame hframes rfl).congr rfl (List.Subset.refl _)
  | send hframes hdeliver =>
    have hdelivered := delivered_of_deliver hdeliver
    exact (h.delivered hdelivered).replaceFrame (hdelivered.frames.trans hframes) rfl
  | create hframes hcreate =>
    have hgrown := h.create hcreate
    obtain ⟨blueprint, registry, rfl⟩ := create_eq_ok hcreate
    exact hgrown.replaceFrame hframes rfl
  | notify hframes hm hcarried => exact .carried hcarried (h.replaceFrame hframes rfl) nofun
  | take hframes hm htake =>
    exact (h.replaceFrame hframes rfl).alter hm rfl (List.Subset.refl _) rfl rfl
  | @block place id p c types next rest m hframes hm htake =>
    refine h.update hm rfl fun other types' hmem => ?_
    -- The receive that blocks is new, and the machine waits for exactly its types.
    rcases List.mem_cons.mp hmem with hnew | hbelow
    · cases hnew
      exact .inl ⟨rfl, .waiting rfl⟩
    · refine .inr ⟨?_, ?_⟩
      · rw [receives_of_frames hframes]
        exact List.mem_append_right _ hbelow
      · rintro rfl
        exact absurd hbelow (haccounted.not_receives hframes rfl types')
  | resume hframes hm hreceived =>
    have hfree := haccounted.not_receives hframes rfl
    exact (h.replaceFrame hframes rfl).exchange hm rfl (List.Subset.refl _) hfree
  | giveUp hframes hm hreceived hgiven =>
    have hgivenAttended := hgiven.keeps (P := Attended) h (h.markBound sys.config)
    have hm' := (machineAt?_congr hgiven.machines _).trans hm
    have hframes' := hgiven.frames.trans hframes
    have hfree := haccounted.not_receives hframes rfl
    exact (hgivenAttended.replaceFrame hframes' rfl).exchange hm' rfl (List.Subset.refl _) hfree
  | turn hframes hm hreceived hfailed hbounded hindex =>
    exact (h.markBound sys.config).beginTurn _

/-- An operation from outside begins when nobody waits. -/
theorem Operated.attended (hidle : w.frames = []) (ho : Operated sys w seen w') :
    w'.Attended := by
  have h : w.Attended := .of_idle hidle
  have hfree {w₁ : World σ} (hframes : w₁.frames = []) (actor : Actor) :
      ∀ place types, actor.place? = some place → (place, types) ∉ w₁.receives := by
    intro place types _
    rw [receives, hframes]
    exact List.not_mem_nil
  cases ho with
  | unchanged => exact h
  | create hcreate => exact h.create hcreate
  | send hdeliver => exact h.delivered (delivered_of_deliver hdeliver)
  | fail f => exact .of_idle hidle
  | describe registry => exact .of_idle hidle
  | register htype hcarried => exact .carried hcarried (.of_idle hidle) (hfree hidle _)
  | notify hm hcarried => exact .carried hcarried h (hfree hidle _)
  | step hindex => exact h.beginTurn _
  | settle hend => exact h.markBound sys.config
  | run hindex => exact (h.markBound sys.config).beginTurn _

/-- In all runs of a serial system those who wait are in their receives. -/
theorem Run.attended {log : List Traffic} (hserial : sys.config.serial = true)
    (hrun : Run sys w log) : w.Attended := by
  induction hrun with
  | empty => exact .of_idle rfl
  | next hrun hnext ih =>
    obtain ⟨lost, haccounted, _⟩ := hrun.exists_accounted hserial
    exact (next_leadsTo hserial hnext).attended haccounted ih
  | outside hrun hidle hi ih => exact (hi.operated hserial hidle).attended hidle
  | reset hrun hidle ih => exact .of_idle rfl

end Runs

end World

/-! ## An exchange

Two machines that show what a report is worth: each sends the other what it waits for,
one after its own receive and one before. -/

namespace Exchange

def x : EventType := ⟨"X"⟩

def y : EventType := ⟨"Y"⟩

/-- Waits for `X`, and then sends `Y`. -/
def asker : Description Unit :=
  let asking := ({ name := "Asking" } : StateSpec).asStart.withEntry "go"
  (({} : Description Unit).state asking).action "go" fun _ => Body.toProgram do
    let _ ← Body.receive [x]
    Body.send ⟨"Giver", 2⟩ (.message y none)

/-- Sends `X`, and then waits for `Y`. -/
def giver : Description Unit :=
  let giving := ({ name := "Giving" } : StateSpec).asStart.withEntry "go"
  (({} : Description Unit).state giving).action "go" fun _ => Body.toProgram do
    Body.send ⟨"Asker", 1⟩ (.message x none)
    let _ ← Body.receive [y]

def catalog : Catalog Unit := fun type =>
  { fresh := (), describe := fun _ => if type = "Asker" then asker else giver }

def system : System Unit := { catalog, config := .bugFinding 0 }

/-- The asker alone, before it has run. -/
def alone : Session Unit CyclicChoice :=
  let s : Session Unit CyclicChoice := { source := { numbers := [] } }
  (s.perform system 0 (.create "Asker" none)).2

/-- One machine of each type, before any of them has run. -/
def begun : Session Unit CyclicChoice := (alone.perform system 0 (.create "Giver" none)).2

/-- The turn of the asker begins. -/
def opened : World Unit := begun.world.beginTurn 0

theorem run_opened : World.Run system opened [] := by
  have hasker : World.empty.create system.catalog "Asker" none
      = .ok (⟨"Asker", 1⟩, alone.world) := rfl
  have hgiver : alone.world.create system.catalog "Giver" none
      = .ok (⟨"Giver", 2⟩, begun.world) := rfl
  have hcreated := (World.Run.empty.outside rfl (.create hasker)).outside rfl (.create hgiver)
  exact hcreated.outside rfl (.step (.ask 0))

/-- Both are in their receives, and the asker beneath has got its event. -/
def crossed : World Unit × List Traffic := World.trail system 6 (opened, [])

theorem run_crossed : World.Run system crossed.1 crossed.2 := run_opened.trail 6

theorem concedes_crossed : World.Concedes system crossed.1 1 [y] (deadlocked [y]) :=
  .giveUp rfl rfl rfl (.deadlocked rfl rfl rfl)

end Exchange

/-! ## Reports -/

/-- The machine waits for one of the types, and none of them has come. -/
def Machine.Starves (m : Machine σ) (types : List EventType) : Prop :=
  m.waiting = some types ∧ m.received = none ∧ ∀ e ∈ m.mailbox, types.contains e.type = false

namespace World

variable {sys : System σ} {w given : World σ} {log : List Traffic}

/-- Where a receive gives up with a deadlock, nothing else has made it give up. -/
theorem pending_of_givesUp {types reported : List EventType}
    (h : GivesUp sys w types given (deadlocked reported)) :
    w.pending = [] ∧ w.failure = none := by
  generalize hreport : deadlocked reported = f at h
  have hkind : f.kind = .deadlock := by
    rw [← hreport]
    rfl
  cases h with
  | failed _ | bounded _ _ => contradiction
  | deadlocked hfailed hbounded hpending => exact ⟨hpending, by simpa [hasFailed] using hfailed⟩

/-- Each run in progress waits in a receive of its machine. The machine starves, or has
got its event; then it is not the innermost, and would go on if it were. -/
theorem Run.starves_or_received (hserial : sys.config.serial = true) (hrun : Run sys w log)
    {above below : List (Frame σ)} {f : Frame σ} (hframes : w.frames = above ++ f :: below)
    (hblocked : f.Blocked) :
    ∃ place id p c types next m, f = .acting (.machine place id) p c (.receiving types next) ∧
      w.machineAt? place = some m ∧
      (m.Starves types ∨ ∃ e, m.received = some e ∧ types.contains e.type = true ∧
        World.next sys { w with frames := f :: below }
          = .step { w.setMachine place { m with received := none } with
              frames := .acting (.machine place id) p c (.running (next (.ok e))) :: below }) := by
  cases hblocked with
  | @receiving place id p c types next =>
    have hmem : (place, types) ∈ w.receives := by
      rw [receives, hframes, List.filterMap_append]
      exact List.mem_append_right _ List.mem_cons_self
    obtain ⟨m, hm, hreceiving⟩ := hrun.attended hserial place types hmem
    refine ⟨place, id, p, c, types, next, m, rfl, hm, ?_⟩
    cases hreceiving with
    | waiting hwaiting =>
      obtain ⟨lost, _, hkeeping⟩ := hrun.keeping hserial
      exact .inl ⟨hwaiting, (hkeeping.keeps place m hm).awaits types hwaiting⟩
    | served _ hreceived htype =>
      have hnext : World.next sys
          { w with frames := .acting (.machine place id) p c (.receiving types next) :: below }
          = .step { w.setMachine place { m with received := none } with
              frames := .acting (.machine place id) p c (.running (next (.ok _))) :: below } :=
        next_of_received rfl hm hreceived
      exact .inr ⟨_, hreceived, htype, hnext⟩

/-- Whenever a receive of a serial system gives up with a deadlock, no run is pending and
nothing has failed. Every run in progress waits in a receive of its machine. The
machine starves, or it has got its event; then it is beneath the one that gives up, and
would go on if it were the innermost. Thus all of them starve, and the report is right,
if and only if none has its event. Nobody else has a run, unless a panic has ended it. -/
theorem Run.deadlock_reported (hserial : sys.config.serial = true) (hrun : Run sys w log)
    {place : Place} {types : List EventType} (h : Concedes sys w place types (deadlocked types)) :
    w.pending = [] ∧ w.failure = none ∧
      (∀ above f below, w.frames = above ++ f :: below →
        ∃ other id p c awaited next m,
          f = .acting (.machine other id) p c (.receiving awaited next) ∧
          w.machineAt? other = some m ∧
          (m.Starves awaited ∨
            above ≠ [] ∧ ∃ e, m.received = some e ∧ awaited.contains e.type = true ∧
              World.next sys { w with frames := f :: below }
                = .step { w.setMachine other { m with received := none } with
                    frames :=
                      .acting (.machine other id) p c (.running (next (.ok e))) :: below })) ∧
      ((∀ other ∈ w.running,
          ∃ m awaited, w.machineAt? other = some m ∧ m.Starves awaited) ↔
        ∀ other ∈ w.running, ∀ m, w.machineAt? other = some m → m.received = none) ∧
      (sys.config.propagatePanics = false → ∀ other m, w.machineAt? other = some m →
        m.active = true → other ∈ w.running) := by
  obtain ⟨hframes, hm, hreceived, hgiven⟩ := h
  obtain ⟨hpending, hfailure⟩ := pending_of_givesUp hgiven
  have hblocked : ∀ f ∈ w.frames, f.Blocked := by
    rw [hframes]
    have hbelow := (hrun.nested hserial).blocked_of_receiving hframes
    exact List.forall_mem_cons.mpr ⟨.receiving, hbelow⟩
  refine ⟨hpending, hfailure, ?_, ⟨?_, ?_⟩, ?_⟩
  · intro above f below hsplit
    have hf : f.Blocked := hblocked f (by simp [hsplit])
    obtain ⟨other, id, p, c, awaited, next, m, rfl, hother, hstarves | hgot⟩ :=
      hrun.starves_or_received hserial hsplit hf
    · exact ⟨other, id, p, c, awaited, next, m, rfl, hother, .inl hstarves⟩
    · refine ⟨other, id, p, c, awaited, next, m, rfl, hother, .inr ⟨?_, hgot⟩⟩
      -- The innermost receive is the one that gives up, so it has got nothing.
      rintro rfl
      obtain ⟨e, he, _⟩ := hgot
      rw [List.nil_append, hframes] at hsplit
      cases hsplit
      cases hm.symm.trans hother
      rw [hreceived] at he
      contradiction
  · intro hstarve other hother m hm
    obtain ⟨m', _, hm', _, hnone, _⟩ := hstarve other hother
    cases hm.symm.trans hm'
    exact hnone
  · intro hnone other hother
    obtain ⟨f, hf, hplace⟩ := List.mem_filterMap.mp hother
    obtain ⟨above, below, hsplit⟩ := List.append_of_mem hf
    obtain ⟨other', _, _, _, awaited, _, m, rfl, hm, hstarves | ⟨e, he, _⟩⟩ :=
      hrun.starves_or_received hserial hsplit (hblocked f hf)
    · cases hplace
      exact ⟨m, awaited, hm, hstarves⟩
    · cases hplace
      rw [hnone _ hother m hm] at he
      contradiction
  · intro hcaught other m hm hactive
    have hmem := ((hrun.accounted hserial hcaught).mem_iff other).mpr ⟨m, hm, hactive⟩
    rwa [runs, hpending, List.append_nil] at hmem

theorem Run.deadlock_reported_crossed :
    Run Exchange.system Exchange.crossed.1 Exchange.crossed.2 ∧
      Concedes Exchange.system Exchange.crossed.1 1 [Exchange.y] (deadlocked [Exchange.y]) ∧
      Exchange.crossed.1.pending = [] ∧
      ¬ ∀ other ∈ Exchange.crossed.1.running,
        ∃ m awaited, Exchange.crossed.1.machineAt? other = some m ∧ m.Starves awaited := by
  obtain ⟨hpending, _, _, hsound, _⟩ :=
    Run.deadlock_reported rfl Exchange.run_crossed Exchange.concedes_crossed
  refine ⟨Exchange.run_crossed, Exchange.concedes_crossed, hpending, fun hstarve => ?_⟩
  have hrunning : (0 : Place) ∈ Exchange.crossed.1.running := by decide
  have hreceived := hsound.mp hstarve 0 hrunning _ rfl
  contradiction

/-- A deadlock that is none: the asker has its event when the giver gives up, and sends
what the giver was waiting for in one of the next steps. -/
theorem exchange_not_deadlocked :
    Run Exchange.system Exchange.crossed.1 Exchange.crossed.2 ∧
      Concedes Exchange.system Exchange.crossed.1 1 [Exchange.y] (deadlocked [Exchange.y]) ∧
      0 ∈ Exchange.crossed.1.running ∧
      ((Exchange.crossed.1.machineAt? 0).bind (·.received)) = some (.message Exchange.x none) ∧
      .accepted 1 (.message Exchange.y none)
        ∈ (World.trail Exchange.system 4 Exchange.crossed).2 ∧
      (Exchange.begun.run Exchange.system 100).1
        = .ok (.error (.failure
            { deadlocked [Exchange.y] with
              machine := some "Giver(2)"
              state := some "Giving" })) := by
  refine ⟨Exchange.run_crossed, Exchange.concedes_crossed, by decide, rfl, ?_, rfl⟩
  have hlog : (World.trail Exchange.system 4 Exchange.crossed).2
      = [.accepted 0 (.message Exchange.x none), .received 0 (.message Exchange.x none),
        .accepted 1 (.message Exchange.y none)] := rfl
  rw [hlog]
  decide

end World

end PushdownActors
