-- SUMMARY: The runs that the frames of a world stand for, and the changes of a world that leave them alone.
import PushdownActors.Proofs.Run

/-!
# Frames and runs

A run of a machine in progress is one frame. Frames of monitors lie between them but
belong to no run. Most small steps are about monitors, memories or the progress of
an action, and `SameRuns` is what all of them have in common.
-/

namespace PushdownActors

/-! ## Runs of a world -/

/-- The place of the machine that an actor is. -/
def Actor.place? : Actor → Option Place
  | machine place _ => some place
  | monitor _ => none

namespace Frame

/-- The place of the machine whose run the frame is part of. -/
def place? : Frame σ → Option Place
  | ready place => some place
  | acting actor .. => actor.place?

/-- The place of the machine whose receive the frame waits for. -/
def blocked? : Frame σ → Option Place
  | acting actor _ _ (.receiving ..) => actor.place?
  | acting _ _ _ (.running _) | acting _ _ _ (.notifying _) | ready _ => none

theorem place?_of_blocked? {f : Frame σ} {place : Place} (h : f.blocked? = some place) :
    f.place? = some place := by
  unfold blocked? at h
  split at h
  · exact h
  all_goals contradiction

end Frame

namespace World

/-- The machines whose runs are in progress, the innermost first. -/
def running (w : World σ) : List Place := w.frames.filterMap Frame.place?

/-- The machines whose runs wait in a receive, the innermost first. -/
def blocked (w : World σ) : List Place := w.frames.filterMap Frame.blocked?

/-- The machines that have a run, in progress or pending. -/
def runs (w : World σ) : List Place := w.running ++ w.pending

theorem blocked_subset_running (w : World σ) : w.blocked ⊆ w.running := by
  intro place h
  obtain ⟨f, hf, hplace⟩ := List.mem_filterMap.mp h
  exact List.mem_filterMap.mpr ⟨f, hf, Frame.place?_of_blocked? hplace⟩

theorem running_of_frames {w : World σ} {f : Frame σ} {rest : List (Frame σ)}
    (h : w.frames = f :: rest) :
    w.running = f.place?.toList ++ rest.filterMap Frame.place? := by
  rw [running, h, List.filterMap_cons]
  cases f.place? <;> rfl

theorem blocked_of_frames {w : World σ} {f : Frame σ} {rest : List (Frame σ)}
    (h : w.frames = f :: rest) :
    w.blocked = f.blocked?.toList ++ rest.filterMap Frame.blocked? := by
  rw [blocked, h, List.filterMap_cons]
  cases f.blocked? <;> rfl

/-- Another frame of the same run leaves the runs in progress as they are. -/
theorem running_replaceFrame {w : World σ} {f f' : Frame σ} {rest : List (Frame σ)}
    (h : w.frames = f :: rest) (hplace : f'.place? = f.place?) :
    { w with frames := f' :: rest }.running = w.running := by
  have hreplaced : { w with frames := f' :: rest }.frames = f' :: rest := rfl
  rw [running_of_frames hreplaced, running_of_frames h, hplace]

theorem blocked_replaceFrame {w : World σ} {f f' : Frame σ} {rest : List (Frame σ)}
    (h : w.frames = f :: rest) (hblocked : f'.blocked? = f.blocked?) :
    { w with frames := f' :: rest }.blocked = w.blocked := by
  have hreplaced : { w with frames := f' :: rest }.frames = f' :: rest := rfl
  rw [blocked_of_frames hreplaced, blocked_of_frames h, hblocked]

/-- A frame that waits in no receive leaves the blocked ones as they are. -/
theorem blocked_popFrame {w : World σ} {f : Frame σ} {rest : List (Frame σ)}
    (h : w.frames = f :: rest) (hfree : f.blocked? = none) :
    { w with frames := rest }.blocked = w.blocked := by
  rw [blocked_of_frames h, hfree]
  rfl

/-- The second world has the machines and the runs of the first. It may differ in
its monitors, its journal, and how far the innermost action is. -/
structure SameRuns (w w' : World σ) : Prop where
  machines : w'.machines = w.machines
  pending : w'.pending = w.pending
  active : w'.active = w.active
  running : w'.running = w.running
  blocked : w'.blocked = w.blocked
  failure : w'.failure = w.failure
  bounded : w'.bounded = w.bounded

namespace SameRuns

theorem refl (w : World σ) : SameRuns w w := ⟨rfl, rfl, rfl, rfl, rfl, rfl, rfl⟩

theorem trans {w w' w'' : World σ} (h : SameRuns w w') (h' : SameRuns w' w'') :
    SameRuns w w'' where
  machines := h'.machines.trans h.machines
  pending := h'.pending.trans h.pending
  active := h'.active.trans h.active
  running := h'.running.trans h.running
  blocked := h'.blocked.trans h.blocked
  failure := h'.failure.trans h.failure
  bounded := h'.bounded.trans h.bounded

theorem runs {w w' : World σ} (h : SameRuns w w') : w'.runs = w.runs := by
  rw [World.runs, World.runs, h.running, h.pending]

theorem machineAt? {w w' : World σ} (h : SameRuns w w') (place : Place) :
    w'.machineAt? place = w.machineAt? place :=
  machineAt?_congr h.machines place

/-- Only the innermost frame is another, and it is part of the same run. -/
theorem replaceFrame {w : World σ} {f f' : Frame σ} {rest : List (Frame σ)}
    (h : w.frames = f :: rest) (hplace : f'.place? = f.place?)
    (hblocked : f'.blocked? = f.blocked?) : SameRuns w { w with frames := f' :: rest } where
  machines := rfl
  pending := rfl
  active := rfl
  running := running_replaceFrame h hplace
  blocked := blocked_replaceFrame h hblocked
  failure := rfl
  bounded := rfl

/-- A frame of a monitor is part of no run. -/
theorem pushMonitor (w : World σ) (type : String) (p : Paused) (c : Context)
    (program : Program σ Verdict) :
    SameRuns w { w with frames := .acting (.monitor type) p c (.running program) :: w.frames } :=
  ⟨rfl, rfl, rfl, rfl, rfl, rfl, rfl⟩

theorem setMonitorCell (w : World σ) (type : String) (cell : Cell σ) :
    SameRuns w (w.setCell (.monitor type) cell) := by
  unfold setCell
  split
  · contradiction
  · split <;> exact ⟨rfl, rfl, rfl, rfl, rfl, rfl, rfl⟩

theorem setMonitor (w : World σ) (m : Monitor σ) : SameRuns w (w.setMonitor m) :=
  ⟨rfl, rfl, rfl, rfl, rfl, rfl, rfl⟩

theorem removeMonitor (w : World σ) (type : String) : SameRuns w (w.removeMonitor type) :=
  ⟨rfl, rfl, rfl, rfl, rfl, rfl, rfl⟩

theorem write (w : World σ) (entry : JournalEntry) : SameRuns w (w.write entry) :=
  ⟨rfl, rfl, rfl, rfl, rfl, rfl, rfl⟩

/-- The result of a monitor is given to the action beneath it or to the outside. -/
theorem giveBack {w w' : World σ} {result : Except Failure Unit}
    (h : (w.giveBack result).LeadsTo w') : SameRuns w w' := by
  unfold World.giveBack at h
  split at h
  · rename_i hframes
    obtain rfl := Move.leadsTo_step.mp h
    exact replaceFrame hframes rfl rfl
  · exact Move.leadsTo_returned.mp h ▸ refl w

/-- The end of a monitor's dispatch changes monitors only, and gives a result back. -/
theorem concludeMonitor_eq (w : World σ) (m : Monitor σ) (result : Except Failure Status) :
    ∃ judged answer, w.concludeMonitor m result = judged.giveBack answer ∧
      judged.frames = w.frames ∧ SameRuns w judged := by
  unfold World.concludeMonitor
  split
  · exact ⟨_, _, rfl, rfl, setMonitor w _⟩
  · refine ⟨_, _, rfl, ?_⟩
    split
    · exact ⟨rfl, refl w⟩
    · exact ⟨rfl, removeMonitor w _⟩

/-- However the dispatch of a monitor is carried on, the runs stay as they are. -/
theorem carried {w w' : World σ} {type : String} {progress : Progress}
    (h : Carried w (.monitor type) progress w') : SameRuns w w' := by
  cases h with
  | acting hcell hpaused haction =>
    exact ((setMonitorCell w type _).trans (write _ _)).trans (pushMonitor _ type _ _ _)
  | judged hm hresult hback =>
    obtain ⟨judged, answer, heq, _, hsame⟩ := concludeMonitor_eq (w.setMonitor _) _ _
    rw [heq] at hback
    exact ((setMonitor w _).trans hsame).trans (giveBack hback)

end SameRuns

end World

end PushdownActors
