-- SUMMARY: The runs of a serial system: the worlds that small steps and operations from outside lead to, in any order.
import PushdownActors.Proofs.Transition

/-!
# Runs

A run begins with an empty world. While something is in progress its next small
step is made; otherwise an operation from outside comes next. Every answer to a
question is allowed, so the runs are those under all choice sources. A run keeps
what has happened to events since the world was last reset.
-/

namespace PushdownActors

namespace World

/-- What an operation from outside does to a world in which nothing is in progress.
Operations that let actions run are represented by their first move. -/
inductive Intervention (sys : System σ) (w : World σ) : List Traffic → World σ → Prop
  | create {type : String} {payload : Option Value} {id : MachineId} {w' : World σ}
      (h : w.create sys.catalog type payload = .ok (id, w')) : Intervention sys w [] w'
  | send {target : MachineId} {e : Event} {w' : World σ} (h : w.deliver target e = .ok w') :
      Intervention sys w (w.arrival target e) w'
  | fail (f : Failure) : Intervention sys w [] (w.fail f)
  | describe {type : String} {blueprint : Blueprint σ} {registry : Registry σ}
      (h : w.registry.fetch sys.catalog .machine type = .ok (blueprint, registry)) :
      Intervention sys w [] { w with registry }
  | register {type : String} {w' : World σ} (h : (w.register sys type).LeadsTo w') :
      Intervention sys w [] w'
  | notify {type : String} {e : Event} {w' : World σ} (h : (w.notify sys type e).LeadsTo w') :
      Intervention sys w [] w'
  | step {w' : World σ} (h : w.schedulePending.LeadsTo w') : Intervention sys w [] w'
  | run {w' : World σ} (h : (w.nextUntilQuiescent sys).LeadsTo w') : Intervention sys w [] w'

/-- The worlds that runs come to, with what has happened to events since the last
reset. -/
inductive Run (sys : System σ) : World σ → List Traffic → Prop
  | empty : Run sys .empty []
  | next {w w' : World σ} {log : List Traffic} (hrun : Run sys w log)
      (hnext : (w.next sys).LeadsTo w') : Run sys w' (log ++ w.traffic)
  | outside {w w' : World σ} {log seen : List Traffic} (hrun : Run sys w log)
      (hidle : w.frames = []) (h : Intervention sys w seen w') : Run sys w' (log ++ seen)
  | reset {w : World σ} {log : List Traffic} (hrun : Run sys w log) (hidle : w.frames = []) :
      Run sys w.reset []

/-! ## What operations lead to -/

/-- The world in which the start state of a new monitor is entered. -/
def withMonitor (w : World σ) (registry : Registry σ) (m : Monitor σ) : World σ :=
  { w.removeMonitor m.type with registry, monitors := (w.removeMonitor m.type).monitors ++ [m] }

/-- What comes of an operation from outside, with one case for each effect. -/
inductive Operated (sys : System σ) (w : World σ) : List Traffic → World σ → Prop
  | unchanged : Operated sys w [] w
  | create {type : String} {payload : Option Value} {id : MachineId} {w' : World σ}
      (h : w.create sys.catalog type payload = .ok (id, w')) : Operated sys w [] w'
  | send {target : MachineId} {e : Event} {w' : World σ} (h : w.deliver target e = .ok w') :
      Operated sys w (w.arrival target e) w'
  | fail (f : Failure) : Operated sys w [] (w.fail f)
  | describe (registry : Registry σ) {type : String} {blueprint : Blueprint σ}
      (hfetch : w.registry.fetch sys.catalog .machine type = .ok (blueprint, registry)) :
      Operated sys w [] { w with registry }
  | register {type : String} {m : Monitor σ} {registry : Registry σ} {w' : World σ}
      (htype : m.type = type)
      (hcarried : Carried (w.withMonitor registry m) (.monitor type)
        (((Actor.monitor type).engine m.cell).start .empty (.start none)) w')
      (hfetch : w.registry.fetch sys.catalog .monitor type = .ok (m.cell.blueprint, registry))
      (hfresh : m.cell.stack = .empty) :
      Operated sys w [] w'
  | notify {type : String} {m : Monitor σ} {e : Event} {w' : World σ}
      (hm : w.registered? type = some m)
      (hcarried : Carried w (.monitor type)
        (((Actor.monitor type).engine m.cell).handle m.cell.stack e) w')
      (hsendable : e.checkSendable = .ok ()) :
      Operated sys w [] w'
  | step {index : Nat} (hindex : index < w.pending.length) :
      Operated sys w [] (w.beginTurn index)
  /-- Running until nothing is left has ended without a failure. -/
  | settle (hend : (w.markBound sys.config).bounded = true ∨ w.pending = []) :
      Operated sys w [] (w.markBound sys.config)
  | run {index : Nat} (hindex : index < w.pending.length) :
      Operated sys w [] ((w.markBound sys.config).beginTurn index)

section Inversion

variable {sys : System σ} {w w' : World σ}

/-- Registering a monitor changes nothing, or begins its first dispatch. -/
theorem register_leadsTo (hserial : sys.config.serial = true) {type : String}
    (h : (w.register sys type).LeadsTo w') : Operated sys w [] w' := by
  unfold register at h
  split at h
  · exact Move.leadsTo_returned.mp h ▸ .unchanged
  · split at h
    · exact Move.leadsTo_returned.mp h ▸ .unchanged
    · rename_i blueprint registry hfetch
      let m : Monitor σ := { type, cell := { blueprint, memory := (sys.catalog type).fresh } }
      have hcarried : Carried (w.withMonitor registry m) (.monitor type)
          (((Actor.monitor type).engine m.cell).start .empty (.start none)) w' :=
        carry_leadsTo hserial h
      exact .register (m := m) rfl hcarried hfetch rfl

/-- Running until nothing is left ends, or begins the turn of a pending run. -/
theorem nextUntilQuiescent_leadsTo (hidle : w.frames = [])
    (h : (w.nextUntilQuiescent sys).LeadsTo w') : Operated sys w [] w' := by
  unfold nextUntilQuiescent at h
  simp only [hidle] at h
  split at h
  · exact Move.leadsTo_returned.mp h ▸ .unchanged
  · split at h
    · rename_i hstop
      exact Move.leadsTo_returned.mp h ▸ .settle (by simpa using hstop)
    · obtain ⟨index, hindex, rfl⟩ := schedulePending_leadsTo h
      exact .run (by simpa using hindex)

/-- While something is in progress, running until nothing is left makes its steps. -/
theorem nextUntilQuiescent_leadsTo_of_frames (hframes : w.frames ≠ [])
    (h : (w.nextUntilQuiescent sys).LeadsTo w') : (w.next sys).LeadsTo w' := by
  unfold nextUntilQuiescent at h
  split at h
  · contradiction
  · split at h
    · rename_i hmove
      rw [hmove]
      exact Move.leadsTo_step.mp h ▸ .returned
    · exact h

/-- Every operation from outside has one of the effects. -/
theorem Intervention.operated (hserial : sys.config.serial = true) (hidle : w.frames = [])
    {seen : List Traffic} (h : Intervention sys w seen w') : Operated sys w seen w' := by
  cases h with
  | create h => exact .create h
  | send h => exact .send h
  | fail f => exact .fail f
  | describe hfetch => exact .describe _ hfetch
  | register h => exact register_leadsTo hserial h
  | notify h =>
    rcases notify_leadsTo hserial h with ⟨result, hback⟩ | ⟨hsendable, m, hm, hcarried⟩
    · obtain rfl : w' = w := by simpa [giveBack, hidle] using hback
      exact .unchanged
    · exact .notify hm hcarried hsendable
  | step h =>
    obtain ⟨index, hindex, rfl⟩ := schedulePending_leadsTo h
    exact .step hindex
  | run h => exact nextUntilQuiescent_leadsTo hidle h

/-- A property of all runs holds at the beginning and is kept by every transition,
every operation and every reset. -/
theorem Run.invariant {P : World σ → List Traffic → Prop} (hserial : sys.config.serial = true)
    (hempty : P .empty [])
    (hnext : ∀ {w w' : World σ} {log seen : List Traffic}, P w log → Transition sys w seen w' →
      P w' (log ++ seen))
    (houtside : ∀ {w w' : World σ} {log seen : List Traffic}, P w log → w.frames = [] →
      Operated sys w seen w' → P w' (log ++ seen))
    (hreset : ∀ {w : World σ} {log : List Traffic}, P w log → P w.reset [])
    {log : List Traffic} (hrun : Run sys w log) : P w log := by
  induction hrun with
  | empty => exact hempty
  | next _ h ih => exact hnext ih (next_leadsTo hserial h)
  | outside _ hidle h ih => exact houtside ih hidle (h.operated hserial hidle)
  | reset _ _ ih => exact hreset ih

end Inversion

end World

end PushdownActors
