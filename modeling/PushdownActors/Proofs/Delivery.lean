-- SUMMARY: Accepted events are neither lost nor doubled, and those of one type are consumed in the order of sending.
import PushdownActors.Proofs.History
import PushdownActors.Proofs.Mailbox

/-!
# Delivery

Until its machine halts, an event that was accepted is in the mailbox, in the slot of
a blocked receive, or consumed. Events may overtake each other, by deferral and by
receives that name other types, but never one of their own type. So for each type the
events accepted are the events consumed, followed by the one in the slot, followed by
those in the mailbox, in this order. Every step keeps this equation.

The slot comes before the mailbox because of two facts about receives: while one
waits, the mailbox holds none of its types, and once it has got its event nobody else
takes events from the mailbox before it goes on.
-/

namespace PushdownActors

/-! ## What a machine keeps -/

/-- What is known of a machine and of what has happened at its place. It is `held up`
when its run is blocked in a receive, or was lost in one. -/
structure Machine.Keeps (m : Machine σ) (heldUp : Prop) (log : List Traffic) (place : Place) :
    Prop where
  /-- Only a receive waits or has an event in its slot. -/
  clear : ¬ heldUp → m.waiting = none ∧ m.received = none
  /-- What a receive waits for has not arrived. -/
  awaits : ∀ types, m.waiting = some types →
    m.received = none ∧ ∀ e ∈ m.mailbox, types.contains e.type = false
  /-- A machine that has halted has no run. -/
  ended : m.lifecycle = .halted → m.active = false
  conserved : m.lifecycle ≠ .halted → ∀ t, ofType t (acceptedAt log place)
    = ofType t (consumedAt log place ++ (m.received.toList ++ m.mailbox))
  ordered : ∀ t, ofType t (consumedAt log place) <+: ofType t (acceptedAt log place)

namespace Machine.Keeps

variable {m m' : Machine σ} {heldUp heldUp' : Prop} {log seen : List Traffic} {place : Place}

/-- The order is a consequence for a machine that has not halted. -/
theorem of_conserved (hclear : ¬ heldUp → m.waiting = none ∧ m.received = none)
    (hawaits : ∀ types, m.waiting = some types →
      m.received = none ∧ ∀ e ∈ m.mailbox, types.contains e.type = false)
    (hlive : m.lifecycle ≠ .halted)
    (hconserved : ∀ t, ofType t (acceptedAt log place)
      = ofType t (consumedAt log place ++ (m.received.toList ++ m.mailbox))) :
    m.Keeps heldUp log place where
  clear := hclear
  awaits := hawaits
  ended := fun hhalted => absurd hhalted hlive
  conserved := fun _ => hconserved
  ordered := by
    intro t
    rw [hconserved t, ofType_append]
    exact List.prefix_append ..

/-- A machine without a receive under way is free. -/
theorem of_clear (hwaiting : m.waiting = none) (hreceived : m.received = none)
    (hlive : m.lifecycle ≠ .halted)
    (hconserved : ∀ t, ofType t (acceptedAt log place)
      = ofType t (consumedAt log place ++ (m.received.toList ++ m.mailbox))) :
    m.Keeps heldUp log place := by
  refine of_conserved (fun _ => ⟨hwaiting, hreceived⟩) ?_ hlive hconserved
  rw [hwaiting]
  exact nofun

/-- What happens elsewhere does not matter. -/
theorem elsewhere (h : m.Keeps heldUp log place) (hseen : ∀ entry ∈ seen, entry.place ≠ place) :
    m.Keeps heldUp (log ++ seen) place := by
  have haccepted' : acceptedAt (log ++ seen) place = acceptedAt log place := by
    rw [acceptedAt_append, acceptedAt_eq_nil hseen, List.append_nil]
  have hconsumed' : consumedAt (log ++ seen) place = consumedAt log place := by
    rw [consumedAt_append, consumedAt_eq_nil hseen, List.append_nil]
  refine ⟨h.clear, h.awaits, h.ended, ?_, ?_⟩
  · rw [haccepted', hconsumed']
    exact h.conserved
  · rw [haccepted', hconsumed']
    exact h.ordered

theorem weaken (h : m.Keeps heldUp log place) (hheldUp : heldUp → heldUp') :
    m.Keeps heldUp' log place where
  clear := fun hfree => h.clear fun hheld => hfree (hheldUp hheld)
  awaits := h.awaits
  ended := h.ended
  conserved := h.conserved
  ordered := h.ordered

/-- What a machine remembers, and whether it has a run, does not matter. -/
theorem congr (h : m.Keeps heldUp log place) (hwaiting : m'.waiting = m.waiting)
    (hreceived : m'.received = m.received) (hmailbox : m'.mailbox = m.mailbox)
    (hlive : m'.lifecycle ≠ .halted → m.lifecycle ≠ .halted)
    (hended : m'.lifecycle = .halted → m'.active = false) : m'.Keeps heldUp log place where
  clear := by rw [hwaiting, hreceived]; exact h.clear
  awaits := by rw [hwaiting, hreceived, hmailbox]; exact h.awaits
  ended := hended
  conserved := by
    intro hlive'
    rw [hreceived, hmailbox]
    exact h.conserved (hlive hlive')
  ordered := h.ordered

theorem halt (h : m.Keeps heldUp log place) : m.halt.Keeps heldUp log place where
  clear := fun _ => ⟨rfl, rfl⟩
  awaits := nofun
  ended := fun _ => rfl
  conserved := fun hlive => absurd rfl hlive
  ordered := h.ordered

/-- A machine that has a run has not halted. -/
theorem live (h : m.Keeps heldUp log place) (hactive : m.active = true) :
    m.lifecycle ≠ .halted := by
  intro hhalted
  rw [h.ended hhalted] at hactive
  contradiction

/-- The mailbox takes in an event that no receive waits for. -/
theorem queue {e : Event} (h : m.Keeps heldUp log place) (hlive : m.lifecycle ≠ .halted)
    (hwaiting : (m.waiting.getD []).contains e.type = false) :
    Machine.Keeps { m with mailbox := m.mailbox ++ [e], active := true } heldUp
      (log ++ [.accepted place e]) place := by
  refine of_conserved h.clear ?_ hlive ?_
  · intro types htypes
    obtain ⟨hreceived, hmailbox⟩ := h.awaits types htypes
    have hsome : m.waiting = some types := htypes
    rw [hsome, Option.getD_some] at hwaiting
    exact ⟨hreceived, List.forall_mem_append.mpr ⟨hmailbox, by simpa using hwaiting⟩⟩
  · intro t
    have hconserved := h.conserved hlive t
    simp only [acceptedAt_append, consumedAt_append, acceptedAt_accepted, consumedAt_accepted,
      List.append_nil, ofType_append] at hconserved ⊢
    rw [hconserved]
    simp only [List.append_assoc]

/-- A receive gets the event that it waits for. The mailbox holds no other of the type. -/
theorem hand {e : Event} {types : List EventType} (h : m.Keeps heldUp log place)
    (hlive : m.lifecycle ≠ .halted) (hwaiting : m.waiting = some types)
    (htype : types.contains e.type = true) :
    Machine.Keeps { m with waiting := none, received := some e } heldUp
      (log ++ [.accepted place e]) place := by
  obtain ⟨hreceived, hmailbox⟩ := h.awaits types hwaiting
  refine of_conserved ?_ nofun hlive ?_
  · intro hfree
    rw [(h.clear hfree).1] at hwaiting
    contradiction
  · intro t
    have hconserved := h.conserved hlive t
    simp only [acceptedAt_append, consumedAt_append, acceptedAt_accepted, consumedAt_accepted,
      List.append_nil, ofType_append, hreceived, Option.toList_none, Option.toList_some,
      List.nil_append] at hconserved ⊢
    rw [hconserved]
    by_cases ht : e.type = t
    -- The slot comes before the mailbox, so the event overtakes what is there: nothing.
    · have hnone : ofType t m.mailbox = [] := by
        refine ofType_eq_nil fun other hother heq => ?_
        have hnot := hmailbox other hother
        rw [heq, ← ht, htype] at hnot
        contradiction
      rw [hnone, List.append_nil, List.append_nil]
    · rw [ofType_cons_of_ne ht, ofType_nil, List.append_nil, List.nil_append]

/-- A scan of the mailbox, while no receive has an event in its slot. -/
theorem scan {taken : Option Event} {left : List Event} (h : m.Keeps heldUp log place)
    (hfree : ¬ heldUp) (hactive : m.lifecycle = .active)
    (hselect : ((Actor.machine place m.id).engine m.cell).select m.cell.stack m.mailbox
      = .ok (taken, left)) :
    Machine.Keeps { m with mailbox := left } heldUp' (log ++ m.scan place) place := by
  obtain ⟨hwaiting, hreceived⟩ := h.clear hfree
  have hlive : m.lifecycle ≠ .halted := by simp [hactive]
  refine of_clear hwaiting hreceived hlive fun t => ?_
  have hconserved := h.conserved hlive t
  have hscanned := Machine.ofType_select hselect t
  simp only [acceptedAt_append, consumedAt_append, Machine.acceptedAt_scan, List.append_nil,
    ofType_append, hreceived, Option.toList_none, List.nil_append] at *
  rw [hconserved, hscanned, List.append_assoc]

/-- A receive takes an event from the mailbox. -/
theorem take {types : List EventType} {e : Event} {left : List Event}
    (h : m.Keeps heldUp log place) (hfree : ¬ heldUp) (hlive : m.lifecycle ≠ .halted)
    (htake : removeFirst types m.mailbox = some (e, left)) :
    Machine.Keeps { m with mailbox := left } heldUp' (log ++ [.received place e]) place := by
  obtain ⟨hwaiting, hreceived⟩ := h.clear hfree
  refine of_clear hwaiting hreceived hlive fun t => ?_
  have hconserved := h.conserved hlive t
  have htaken : ofType t m.mailbox = ofType t [e] ++ ofType t left := by
    rw [ofType_removeFirst htake t, ← ofType_append, List.singleton_append]
  simp only [acceptedAt_append, consumedAt_append, acceptedAt_received, consumedAt_received,
    List.append_nil, ofType_append, hreceived, Option.toList_none, List.nil_append] at *
  rw [hconserved, htaken, List.append_assoc]

/-- A receive blocks. -/
theorem block {types : List EventType} (h : m.Keeps heldUp log place) (hfree : ¬ heldUp)
    (hlive : m.lifecycle ≠ .halted) (htake : removeFirst types m.mailbox = none) :
    Machine.Keeps { m with waiting := some types } True log place := by
  refine of_conserved (fun hfree => absurd trivial hfree) ?_ hlive (h.conserved hlive)
  intro types' htypes
  cases htypes
  exact ⟨(h.clear hfree).2, not_contains_of_removeFirst htake⟩

/-- A blocked receive goes on with its event. -/
theorem resume {e : Event} (h : m.Keeps heldUp log place) (hlive : m.lifecycle ≠ .halted)
    (hreceived : m.received = some e) :
    Machine.Keeps { m with received := none } heldUp' (log ++ [.received place e]) place := by
  have hwaiting : m.waiting = none := by
    cases hwaiting : m.waiting with
    | none => rfl
    | some types =>
      rw [(h.awaits types hwaiting).1] at hreceived
      contradiction
  refine of_clear hwaiting rfl hlive fun t => ?_
  have hconserved := h.conserved hlive t
  simp only [acceptedAt_append, consumedAt_append, acceptedAt_received, consumedAt_received,
    List.append_nil, ofType_append, hreceived, Option.toList_none, Option.toList_some,
    List.nil_append] at *
  rw [hconserved, List.append_assoc]

/-- A blocked receive gives up. -/
theorem giveUp (h : m.Keeps heldUp log place) (hlive : m.lifecycle ≠ .halted)
    (hreceived : m.received = none) :
    Machine.Keeps { m with waiting := none } heldUp' log place :=
  of_clear rfl hreceived hlive (h.conserved hlive)

end Machine.Keeps

namespace World

/-- Every machine keeps what it should. A machine is held up when it is blocked, or
when a panic ended its run. -/
structure Keeping (w : World σ) (lost : List Place) (log : List Traffic) : Prop where
  known : ∀ entry ∈ log, entry.place < w.machines.length
  keeps : ∀ place m, w.machineAt? place = some m →
    m.Keeps (place ∈ w.blocked ∨ place ∈ lost) log place

/-- A machine whose innermost frame is not a blocked receive is not held up. -/
theorem Accounted.not_heldUp {w : World σ} {lost : List Place} {f : Frame σ}
    {rest : List (Frame σ)} {place : Place} (h : w.Accounted (lost ++ w.runs))
    (hframes : w.frames = f :: rest) (hplace : f.place? = some place)
    (hfree : f.blocked? = none) : ¬ (place ∈ w.blocked ∨ place ∈ lost) := by
  rintro (hblocked | hlost)
  · rw [blocked_of_frames hframes, hfree] at hblocked
    obtain ⟨g, hg, hgplace⟩ := List.mem_filterMap.mp hblocked
    exact h.place?_ne_of_frames hframes hplace g hg (Frame.place?_of_blocked? hgplace)
  · have hrunning : place ∈ w.runs := by simp [runs, running_of_frames hframes, hplace]
    exact (List.nodup_append.mp h.nodup).2.2 place hlost place hrunning rfl

namespace Keeping

variable {w w' : World σ} {lost lost' : List Place} {log seen : List Traffic} {place : Place}
  {m m' : Machine σ}

/-- A step in which nothing happens to events adds nothing to the log. -/
theorem quiet (h : w.Keeping lost log) : w.Keeping lost (log ++ []) := by
  rw [List.append_nil]
  exact h

theorem nil (hmachines : w.machines = []) : w.Keeping lost [] where
  known := by simp
  keeps := by
    intro place m hm
    rw [machineAt?, hmachines] at hm
    contradiction

/-- Only machines matter, and that those held up still are. -/
theorem congr (h : w.Keeping lost log) (hmachines : w'.machines = w.machines)
    (hheldUp : ∀ place, place ∈ w.blocked ∨ place ∈ lost → place ∈ w'.blocked ∨ place ∈ lost') :
    w'.Keeping lost' log where
  known := hmachines ▸ h.known
  keeps := by
    intro place m hm
    rw [machineAt?_congr hmachines] at hm
    exact (h.keeps place m hm).weaken (hheldUp place)

theorem sameRuns (h : w.Keeping lost log) (hsame : SameRuns w w') : w'.Keeping lost log := by
  refine h.congr hsame.machines ?_
  rw [hsame.blocked]
  exact fun _ => id

theorem popFrame {f : Frame σ} {rest : List (Frame σ)} (h : w.Keeping lost log)
    (hframes : w.frames = f :: rest) (hfree : f.blocked? = none) :
    { w with frames := rest }.Keeping lost log := by
  refine h.congr rfl ?_
  rw [blocked_popFrame hframes hfree]
  exact fun _ => id

theorem replaceFrame {f f' : Frame σ} {rest : List (Frame σ)} (h : w.Keeping lost log)
    (hframes : w.frames = f :: rest) (hblocked : f'.blocked? = f.blocked?) :
    { w with frames := f' :: rest }.Keeping lost log := by
  refine h.congr rfl ?_
  rw [blocked_replaceFrame hframes hblocked]
  exact fun _ => id

/-- A machine is exchanged, and something happens at its place. -/
theorem update (h : w.Keeping lost log) (hm : w.machineAt? place = some m)
    (hmachines : w'.machines = (w.setMachine place m').machines)
    (hblocked : ∀ other, other ≠ place → other ∈ w.blocked → other ∈ w'.blocked)
    (hseen : ∀ entry ∈ seen, entry.place = place)
    (hkeeps : m'.Keeps (place ∈ w'.blocked ∨ place ∈ lost) (log ++ seen) place) :
    w'.Keeping lost (log ++ seen) where
  known := by
    have hlength : w'.machines.length = w.machines.length := by
      rw [hmachines, setMachine, List.length_set]
    have hplace : place < w.machines.length := (List.getElem?_eq_some_iff.mp hm).1
    intro entry hentry
    rw [hlength]
    rcases List.mem_append.mp hentry with hlog | hentry
    · exact h.known entry hlog
    · rw [hseen entry hentry]
      exact hplace
  keeps := by
    intro other m'' hm''
    rw [machineAt?_congr hmachines] at hm''
    rcases machineAt?_setMachine_eq_some hm'' with ⟨rfl, rfl⟩ | ⟨hother, hm''⟩
    · exact hkeeps
    · have helsewhere : ∀ entry ∈ seen, entry.place ≠ other := by
        intro entry hentry heq
        exact hother (heq.symm.trans (hseen entry hentry))
      exact ((h.keeps other m'' hm'').weaken (Or.imp_left (hblocked other hother))).elsewhere
        helsewhere

/-- The machine of the innermost frame is exchanged, and the frame for another. -/
theorem updateFrame {f f' : Frame σ} {rest : List (Frame σ)} (h : w.Keeping lost log)
    (hframes : w.frames = f :: rest) (hplace : f.place? = some place)
    (hm : w.machineAt? place = some m) (hframes' : w'.frames = f' :: rest)
    (hmachines : w'.machines = (w.setMachine place m').machines)
    (hseen : ∀ entry ∈ seen, entry.place = place)
    (hkeeps : m'.Keeps (place ∈ w'.blocked ∨ place ∈ lost) (log ++ seen) place) :
    w'.Keeping lost (log ++ seen) := by
  refine h.update hm hmachines ?_ hseen hkeeps
  intro other hother hblocked
  rw [blocked_of_frames hframes] at hblocked
  rw [blocked_of_frames hframes']
  rcases List.mem_append.mp hblocked with hfirst | hbelow
  · have hfirst := Frame.place?_of_blocked? (Option.mem_toList.mp hfirst)
    exact absurd (Option.some.inj (hfirst.symm.trans hplace)) hother
  · exact List.mem_append_right _ hbelow

/-- A machine is exchanged, and nothing happens to events. -/
theorem exchange (h : w.Keeping lost log) (hm : w.machineAt? place = some m)
    (hmachines : w'.machines = (w.setMachine place m').machines)
    (hblocked : ∀ other, other ≠ place → other ∈ w.blocked → other ∈ w'.blocked)
    (hkeeps : m'.Keeps (place ∈ w'.blocked ∨ place ∈ lost) log place) : w'.Keeping lost log := by
  have hupdated : w'.Keeping lost (log ++ []) :=
    h.update hm hmachines hblocked (by simp) (by rwa [List.append_nil])
  rwa [List.append_nil] at hupdated

/-- A machine is exchanged for one that has the same events. -/
theorem alter (h : w.Keeping lost log) (hm : w.machineAt? place = some m)
    (hmachines : w'.machines = (w.setMachine place m').machines) (hblocked : w'.blocked = w.blocked)
    (hwaiting : m'.waiting = m.waiting) (hreceived : m'.received = m.received)
    (hmailbox : m'.mailbox = m.mailbox) (hlive : m'.lifecycle ≠ .halted → m.lifecycle ≠ .halted)
    (hended : m'.lifecycle = .halted → m'.active = false) : w'.Keeping lost log := by
  refine h.exchange hm hmachines ?_ ?_
  · rw [hblocked]
    exact fun _ _ => id
  · rw [hblocked]
    exact (h.keeps place m hm).congr hwaiting hreceived hmailbox hlive hended

theorem setCell {actor : Actor} {cell : Cell σ} (h : w.Keeping lost log)
    (hcell : w.cell? actor = some cell) (cell' : Cell σ) :
    (w.setCell actor cell').Keeping lost log := by
  cases actor with
  | monitor type => exact h.sameRuns (.setMonitorCell w type cell')
  | machine place id =>
    obtain ⟨m, hm, rfl⟩ := Option.map_eq_some_iff.mp hcell
    rw [setCell_machine hm]
    exact h.alter hm rfl rfl rfl rfl rfl (fun hlive => hlive) (h.keeps place m hm).ended

/-- A failing machine keeps its events. -/
theorem abort {f : Failure} (h : w.Keeping lost log) (hm : w.machineAt? place = some m)
    (hwaiting : m'.waiting = m.waiting) (hreceived : m'.received = m.received)
    (hmailbox : m'.mailbox = m.mailbox) (hlifecycle : m'.lifecycle = m.lifecycle) :
    (w.abort place m' f).retire.Keeping lost log := by
  have hlive : m'.lifecycle ≠ .halted → m.lifecycle ≠ .halted := by
    rw [hlifecycle]
    exact id
  unfold World.abort
  dsimp only
  split <;> exact h.alter hm rfl rfl hwaiting hreceived hmailbox hlive fun _ => rfl

/-- However a dispatch is carried on, machines keep their events, or halt. -/
theorem carried {actor : Actor} {progress : Progress} (hcarried : Carried w actor progress w')
    (h : w.Keeping lost log) : w'.Keeping lost log := by
  cases hcarried with
  | acting hcell hpaused haction => exact (h.setCell hcell _).congr rfl fun _ => id
  | yielded hm hresult => exact h.alter hm rfl rfl rfl rfl rfl id (h.keeps _ _ hm).ended
  | halted hm hresult =>
    exact h.exchange hm rfl (fun _ _ => id) (h.keeps _ _ hm).halt
  | aborted hm hresult => exact h.abort hm rfl rfl rfl rfl
  | judged hm hresult hback => exact h.sameRuns (SameRuns.carried (.judged hm hresult hback))

theorem delivered {e : Event} (hdelivered : Delivered w e seen w') (h : w.Keeping lost log) :
    w'.Keeping lost (log ++ seen) := by
  cases hdelivered with
  | refused _ _ => exact h.quiet
  | handed hm hlive hwaiting htype =>
    exact h.update hm rfl (fun _ _ => id) (by simp [Traffic.place])
      ((h.keeps _ _ hm).hand hlive hwaiting htype)
  | queued hm hlive hwaiting _ =>
    exact h.update hm rfl (fun _ _ => id) (by simp [Traffic.place])
      ((h.keeps _ _ hm).queue hlive hwaiting)
  | woken hm hlive hwaiting _ =>
    exact h.update hm rfl (fun _ _ => id) (by simp [Traffic.place])
      ((h.keeps _ _ hm).queue hlive hwaiting)

/-- Nothing has happened at the place of a new machine. -/
theorem create {catalog : Catalog σ} {type : String} {payload : Option Value} {id : MachineId}
    (h : w.Keeping lost log) (hcreate : w.create catalog type payload = .ok (id, w')) :
    w'.Keeping lost log := by
  obtain ⟨blueprint, registry, rfl⟩ := create_eq_ok hcreate
  refine ⟨?_, ?_⟩
  · intro entry hentry
    have hknown := h.known entry hentry
    rw [List.length_append]
    exact Nat.lt_add_right _ hknown
  · intro place m hm
    rcases machineAt?_append_eq_some rfl hm with hm | ⟨rfl, rfl⟩
    · exact h.keeps place m hm
    · have helsewhere : ∀ entry ∈ log, entry.place ≠ w.machines.length :=
        fun entry hentry => Nat.ne_of_lt (h.known entry hentry)
      refine .of_clear rfl rfl nofun fun t => ?_
      rw [acceptedAt_eq_nil helsewhere, consumedAt_eq_nil helsewhere]
      rfl

/-- The machine of the innermost frame has a run, so it has not halted. -/
theorem live_of_frames {f : Frame σ} {rest : List (Frame σ)} (h : w.Keeping lost log)
    (haccounted : w.Accounted (lost ++ w.runs)) (hframes : w.frames = f :: rest)
    (hplace : f.place? = some place) (hm : w.machineAt? place = some m) :
    m.lifecycle ≠ .halted :=
  (h.keeps place m hm).live (haccounted.active_of_frames hframes hplace hm)

/-- The machines of the runs that a panic ends are held up for ever. -/
theorem panic (h : w.Keeping lost log) :
    Keeping { w with frames := [] } (lost ++ w.running) log := by
  refine h.congr rfl fun place hheld => .inr ?_
  rcases hheld with hblocked | hlost
  · exact List.mem_append_right _ (w.blocked_subset_running hblocked)
  · exact List.mem_append_left _ hlost

theorem markBound (h : w.Keeping lost log) (config : Config) :
    (w.markBound config).Keeping lost log := by
  refine h.congr (markBound_machines w config) ?_
  rw [blocked, blocked, markBound_frames]
  exact fun _ => id

theorem beginTurn (h : w.Keeping lost log) (index : Nat) :
    (w.beginTurn index).Keeping lost log := by
  unfold World.beginTurn World.beginRun
  split <;> exact h.congr rfl fun _ => id

end Keeping

section Runs

variable {sys : System σ} {w w' : World σ} {lost : List Place} {log seen : List Traffic}

/-- Every small step keeps what has to be kept, unless a panic ends all runs. -/
theorem Transition.keeping (haccounted : w.Accounted (lost ++ w.runs)) (h : w.Keeping lost log)
    (ht : Transition sys w seen w') :
    w'.Keeping lost (log ++ seen) ∨
      sys.config.propagatePanics = true ∧ w' = { w with frames := [] } ∧ seen = [] := by
  cases ht with
  | panic hpropagate => exact .inr ⟨hpropagate, rfl, rfl⟩
  | start hframes hm hcreated hcarried =>
    refine .inl (.quiet (.carried hcarried ?_))
    exact (h.popFrame hframes rfl).alter hm rfl rfl rfl rfl rfl (by simp [hcreated]) nofun
  | dispatch hframes hm hactive hfailed hselect hcarried =>
    -- A run that begins a dispatch is the innermost one, so its machine waits in no receive.
    have hfree := haccounted.not_heldUp hframes rfl rfl
    exact .inl (.carried hcarried ((h.popFrame hframes rfl).update hm rfl (fun _ _ => id)
      (fun _ => Machine.place_of_mem_scan) ((h.keeps _ _ hm).scan hfree hactive hselect)))
  | rest hframes hm hactive hfailed hselect =>
    have hfree := haccounted.not_heldUp hframes rfl rfl
    exact .inl ((h.popFrame hframes rfl).update hm rfl (fun _ _ => id)
      (fun _ => Machine.place_of_mem_scan)
      (((h.keeps _ _ hm).scan hfree hactive hselect).congr rfl rfl rfl id fun _ => rfl))
  | unselectable hframes hm hactive hfailed hselect =>
    refine .inl (.quiet ?_)
    exact (h.popFrame hframes rfl).abort hm rfl rfl rfl rfl
  | stop hframes hm hwhy =>
    refine .inl (.quiet ?_)
    exact (h.popFrame hframes rfl).alter hm rfl rfl rfl rfl rfl id fun _ => rfl
  | answer hframes hcell hcarried =>
    exact .inl (.quiet (.carried hcarried (h.popFrame hframes rfl)))
  | goOn hframes => exact .inl (.quiet (h.replaceFrame hframes rfl))
  | store hframes hcell =>
    refine .inl (.quiet ?_)
    exact (h.setCell hcell _).replaceFrame ((setCell_frames ..).trans hframes) rfl
  | remark hframes =>
    exact .inl (.quiet ((h.sameRuns (.write w _)).replaceFrame hframes rfl))
  | send hframes hdeliver =>
    have hdelivered := delivered_of_deliver hdeliver
    exact .inl
      ((h.delivered hdelivered).replaceFrame (hdelivered.frames.trans hframes) rfl)
  | create hframes hcreate =>
    have hgrown := h.create hcreate
    obtain ⟨blueprint, registry, rfl⟩ := create_eq_ok hcreate
    exact .inl (.quiet (hgrown.replaceFrame hframes rfl))
  | notify hframes hm hcarried =>
    exact .inl (.quiet (.carried hcarried (h.replaceFrame hframes rfl)))
  | take hframes hm htake =>
    have hfree := haccounted.not_heldUp hframes rfl rfl
    have hlive := h.live_of_frames haccounted hframes rfl hm
    exact .inl (h.updateFrame hframes rfl hm rfl rfl (by simp [Traffic.place])
      ((h.keeps _ _ hm).take hfree hlive htake))
  | block hframes hm htake =>
    have hfree := haccounted.not_heldUp hframes rfl rfl
    have hlive := h.live_of_frames haccounted hframes rfl hm
    refine .inl (h.updateFrame hframes rfl hm rfl rfl (by simp) ?_)
    rw [List.append_nil]
    -- The frame that the receive leaves behind is what holds the machine up.
    exact ((h.keeps _ _ hm).block hfree hlive htake).weaken fun _ =>
      .inl (List.mem_filterMap.mpr ⟨_, List.mem_cons_self, rfl⟩)
  | resume hframes hm hreceived =>
    have hlive := h.live_of_frames haccounted hframes rfl hm
    exact .inl (h.updateFrame hframes rfl hm rfl rfl (by simp [Traffic.place])
      ((h.keeps _ _ hm).resume hlive hreceived))
  | giveUp hframes hm hreceived hgiven =>
    have hlive := h.live_of_frames haccounted hframes rfl hm
    have hgivenKeeping := hgiven.keeps (P := fun w => w.Keeping lost log) h (h.markBound sys.config)
    have hm' := (machineAt?_congr hgiven.machines _).trans hm
    have hframes' := hgiven.frames.trans hframes
    refine .inl (hgivenKeeping.updateFrame hframes' rfl hm' rfl rfl (by simp) ?_)
    rw [List.append_nil]
    exact (h.keeps _ _ hm).giveUp hlive hreceived
  | turn hframes hm hreceived hfailed hbounded hindex =>
    exact .inl (.quiet ((h.markBound sys.config).beginTurn _))

/-- Every operation from outside keeps it as well. -/
theorem Operated.keeping (h : w.Keeping lost log) (ho : Operated sys w seen w') :
    w'.Keeping lost (log ++ seen) := by
  cases ho with
  | send hdeliver => exact h.delivered (delivered_of_deliver hdeliver)
  | unchanged => exact .quiet h
  | create hcreate => exact .quiet (h.create hcreate)
  | fail f => exact .quiet (h.congr rfl fun _ => id)
  | describe registry => exact .quiet (h.congr rfl fun _ => id)
  | register htype hcarried =>
    exact .quiet (.carried hcarried (h.congr rfl fun _ => id))
  | notify hm hcarried => exact .quiet (.carried hcarried h)
  | step hindex => exact .quiet (h.beginTurn _)
  | settle hend => exact .quiet (h.markBound sys.config)
  | run hindex => exact .quiet ((h.markBound sys.config).beginTurn _)

/-- In all runs of a serial system machines keep what they should. -/
theorem Run.keeping (hserial : sys.config.serial = true) (hrun : Run sys w log) :
    ∃ lost, w.Accounted (lost ++ w.runs) ∧ w.Keeping lost log := by
  refine Run.invariant
    (P := fun w log => ∃ lost, w.Accounted (lost ++ w.runs) ∧ w.Keeping lost log)
    hserial ?_ ?_ ?_ ?_ hrun
  · exact ⟨[], .nil rfl rfl, .nil rfl⟩
  · rintro w w' log seen ⟨lost, haccounted, h⟩ ht
    -- A panic that comes through is the one step after which runs are missing.
    have hpanic : Keeping { w with frames := [] } (lost ++ w.running) (log ++ []) := h.panic.quiet
    rcases ht.accounted haccounted with haccounted' | ⟨_, rfl, rfl⟩
    · rcases ht.keeping haccounted h with hkeeping | ⟨_, rfl, rfl⟩
      · exact ⟨lost, haccounted', hkeeping⟩
      · exact ⟨lost ++ w.running, haccounted.panic, hpanic⟩
    · exact ⟨lost ++ w.running, haccounted.panic, hpanic⟩
  · rintro w w' log seen ⟨lost, haccounted, h⟩ _ ho
    exact ⟨lost, ho.accounted haccounted, ho.keeping h⟩
  · intro w log _
    exact ⟨[], .nil rfl rfl, .nil rfl⟩

end Runs

end World

/-! ## What the log says -/

/-- What an entry of the log tells about the step that made it. -/
def Traffic.Tells (w w' : World σ) : Traffic → Prop
  /- The machine has not halted, and the event is now in its mailbox or its slot. -/
  | accepted place e => ∃ m m', w.machineAt? place = some m ∧ m.lifecycle ≠ .halted ∧
      w'.machineAt? place = some m' ∧
      (m'.mailbox = m.mailbox ++ [e] ∨
        (m.waiting.getD []).contains e.type = true ∧ m'.received = some e)
  /- The event was selected, and the machine begins to handle it. -/
  | dispatched place e => ∃ m rest left, w.frames = .ready place :: rest ∧
      w.machineAt? place = some m ∧
      ((Actor.machine place m.id).engine m.cell).select m.cell.stack m.mailbox
        = .ok (some e, left) ∧
      World.Carried ({ w with frames := rest }.setMachine place { m with mailbox := left })
        (.machine place m.id) (((Actor.machine place m.id).engine m.cell).handle m.cell.stack e) w'
  /- The action that asked for the event goes on with it. -/
  | received place e => ∃ id p c types next rest,
      (w.frames = .acting (.machine place id) p c (.running (.request (.receive types) next)) :: rest
        ∨ w.frames = .acting (.machine place id) p c (.receiving types next) :: rest) ∧
      w'.frames = .acting (.machine place id) p c (.running (next (.ok e))) :: rest
  /- The current state ignores the event. -/
  | dropped place e => ∃ m state, w.machineAt? place = some m ∧ m.cell.state? = some state ∧
      state.ignores e.type = true

namespace World

variable {sys : System σ} {w w' : World σ} {log seen : List Traffic}

/-- An event that is sent is accepted, or nothing happens to it. -/
theorem Delivered.tells {e : Event} (h : Delivered w e seen w') :
    ∀ entry ∈ seen, ∃ place, entry = .accepted place e ∧
      Traffic.Tells w w' (.accepted place e) := by
  cases h with
  | refused _ _ => simp
  | handed hm hlive hwaiting htype =>
    rw [List.forall_mem_singleton]
    refine ⟨_, rfl, _, _, hm, hlive, machineAt?_setMachine_self hm, .inr ⟨?_, rfl⟩⟩
    rwa [hwaiting, Option.getD_some]
  | queued hm hlive hwaiting _ =>
    rw [List.forall_mem_singleton]
    exact ⟨_, rfl, _, _, hm, hlive, machineAt?_setMachine_self hm, .inl rfl⟩
  | woken hm hlive hwaiting _ =>
    rw [List.forall_mem_singleton]
    exact ⟨_, rfl, _, _, hm, hlive, machineAt?_setMachine_self hm, .inl rfl⟩

/-- What a scan drops is ignored by the current state. -/
theorem tells_of_scan {place : Place} {m : Machine σ} (hm : w.machineAt? place = some m)
    (hpicked : ∀ e, .dispatched place e ∈ m.scan place →
      Traffic.Tells w w' (.dispatched place e)) :
    ∀ entry ∈ m.scan place, entry.Tells w w' := by
  intro entry hentry
  obtain ⟨state, hstate, ⟨e, he, rfl⟩ | ⟨e, _, rfl⟩⟩ := Machine.mem_scan hentry
  · exact ⟨m, state, hm, hstate, State.ignores_of_mem_skipped he⟩
  · exact hpicked e hentry

/-- Every entry that a small step adds to the log is true. -/
theorem Transition.tells (ht : Transition sys w seen w') : ∀ entry ∈ seen, entry.Tells w w' := by
  cases ht with
  | dispatch hframes hm hactive hfailed hselect hcarried =>
    refine tells_of_scan hm fun e hentry => ?_
    cases Machine.selected_of_dispatched hselect hentry
    exact ⟨_, _, _, hframes, hm, hselect, hcarried⟩
  | rest hframes hm hactive hfailed hselect =>
    refine tells_of_scan hm fun e hentry => ?_
    cases Machine.selected_of_dispatched hselect hentry
  | send hframes hdeliver =>
    intro entry hentry
    obtain ⟨place, rfl, htells⟩ := (delivered_of_deliver hdeliver).tells entry hentry
    exact htells
  | take hframes hm htake =>
    rw [List.forall_mem_singleton]
    exact ⟨_, _, _, _, _, _, .inl hframes, rfl⟩
  | resume hframes hm hreceived =>
    rw [List.forall_mem_singleton]
    exact ⟨_, _, _, _, _, _, .inr hframes, rfl⟩
  | _ => simp

/-! ## Delivery in all runs -/

/-- Lists with the same events of each type hold the same events. -/
theorem perm_of_ofType {events events' : List Event}
    (h : ∀ t, ofType t events = ofType t events') : events.Perm events' := by
  refine List.perm_iff_count.mpr fun e => ?_
  have hself : ∀ l : List Event, (ofType e.type l).count e = l.count e :=
    fun l => List.count_filter (by simp)
  rw [← hself events, ← hself events', h]

/-- In all runs of a serial system, whatever an event that was accepted by a machine
that has not halted, it is in exactly one place: consumed, in the slot of a receive, or
in the mailbox. For each type these places hold the events in the order in which they
were accepted, so they are consumed in that order, also by a machine that halts later.
What the log says of a step is what the step does: an event that is consumed is handled,
or it answers a receive, or the current state ignores it. -/
theorem Run.delivery (hserial : sys.config.serial = true) (hrun : Run sys w log) :
    (∀ place m, w.machineAt? place = some m → m.lifecycle ≠ .halted →
      (acceptedAt log place).Perm
        (consumedAt log place ++ (m.received.toList ++ m.mailbox)) ∧
      ∀ t, ofType t (acceptedAt log place)
        = ofType t (consumedAt log place ++ (m.received.toList ++ m.mailbox))) ∧
      (∀ place t, ofType t (consumedAt log place) <+: ofType t (acceptedAt log place)) ∧
      (∀ w', (w.next sys).LeadsTo w' → ∀ entry ∈ w.traffic, entry.Tells w w') ∧
      ∀ target e w', w.deliver target e = .ok w' →
        ∀ entry ∈ w.arrival target e, entry.Tells w w' := by
  obtain ⟨lost, haccounted, h⟩ := hrun.keeping hserial
  refine ⟨?_, ?_, ?_, ?_⟩
  · intro place m hm hlive
    have hconserved := (h.keeps place m hm).conserved hlive
    exact ⟨perm_of_ofType hconserved, hconserved⟩
  · intro place t
    cases hm : w.machineAt? place with
    | some m => exact (h.keeps place m hm).ordered t
    | none =>
      -- Nothing has happened where there is no machine.
      have helsewhere : ∀ entry ∈ log, entry.place ≠ place := by
        intro entry hentry heq
        have hknown := h.known entry hentry
        rw [heq] at hknown
        exact absurd hm (by simp [machineAt?, List.getElem?_eq_getElem hknown])
      rw [consumedAt_eq_nil helsewhere]
      exact List.nil_prefix
  · intro w' hnext
    exact (next_leadsTo hserial hnext).tells
  · intro target e w' hdeliver entry hentry
    obtain ⟨place, rfl, htells⟩ := (delivered_of_deliver hdeliver).tells entry hentry
    exact htells

/-- The world and the log after at most so many small steps that ask nothing. -/
def trail (sys : System σ) : Nat → World σ × List Traffic → World σ × List Traffic
  | 0, point => point
  | n + 1, (w, log) =>
    match w.next sys with
    | .step w' => trail sys n (w', log ++ w.traffic)
    | _ => (w, log)

theorem Run.trail (n : Nat) (hrun : Run sys w log) :
    Run sys (World.trail sys n (w, log)).1 (World.trail sys n (w, log)).2 := by
  induction n generalizing w log with
  | zero => exact hrun
  | succ n ih =>
    rw [World.trail]
    split
    · rename_i w' hstep
      exact ih (hrun.next (hstep ▸ .step))
    · exact hrun

end World

namespace Rendezvous

/-- The turn of the waiter begins. -/
def opened : World Unit := begun.world.beginTurn 0

theorem run_opened : World.Run system opened [] := by
  have hwaiter : World.empty.create system.catalog "Waiter" none
      = .ok (⟨"Waiter", 1⟩, waiting.world) := rfl
  have hgiver : waiting.world.create system.catalog "Giver"
      (some (MachineId.toPayload ⟨"Waiter", 1⟩)) = .ok (⟨"Giver", 2⟩, begun.world) := rfl
  have hcreated := (World.Run.empty.outside rfl (.create hwaiter)).outside rfl (.create hgiver)
  exact hcreated.outside rfl (.step (.ask 0))

/-- The waiter has got its event, past the one that was sent before. -/
def met : World Unit × List Traffic := World.trail system 8 (opened, [])

end Rendezvous

theorem World.Run.delivery_met :
    World.Run Rendezvous.system Rendezvous.met.1 Rendezvous.met.2 ∧
      Rendezvous.met.2 = [.accepted 0 (.message Rendezvous.later none),
        .accepted 0 (.message Rendezvous.go none), .received 0 (.message Rendezvous.go none)] ∧
      ∀ m, Rendezvous.met.1.machineAt? 0 = some m → m.lifecycle ≠ .halted →
        [Event.message Rendezvous.later none, .message Rendezvous.go none].Perm
          ([.message Rendezvous.go none] ++ (m.received.toList ++ m.mailbox)) := by
  have hrun := Rendezvous.run_opened.trail 8
  have hdelivery := World.Run.delivery rfl hrun
  exact ⟨hrun, rfl, fun m hm hlive => (hdelivery.1 0 m hm hlive).1⟩

end PushdownActors
