-- SUMMARY: A recorded failure names whoever it has arisen in, and the state on top of the stack of the same at that moment.
import PushdownActors.Proofs.Conduct

/-!
# Attribution of failures

The name of a failure and its state are filled in by whoever handles it on its way out, unless
they are there already. The engine of the dispatch that fails adds the state on top, a monitor
its type, and the run of a machine its identity, in the end. The first to add something is the
one closest to where the failure has arisen, so nothing that is added later can spoil it: a
monitor adds both names before the machine hears of the failure, and what a machine adds is
added while its stack is still the same.

A body may also end with a failure that it has made up, with names of its own. The results are
about runs in which none does.
-/

namespace PushdownActors

/-- There is no state on top, and no name of it, if and only if the stack is empty. -/
theorem Stack.name_of_top?_eq_none (s : Stack) :
    s.top?.map StateId.name = none ↔ s = .empty := by
  obtain ⟨frames⟩ := s
  cases frames <;> simp [Stack.top?, Stack.empty]

/-- A machine that gets events has its identity and its stack still. -/
theorem Machine.Takes.same {m m' : Machine σ} {events : List Event} (h : m.Takes events m') :
    m'.id = m.id ∧ m'.cell = m.cell := by
  cases h with
  | nothing | handed | queued => exact ⟨rfl, rfl⟩

namespace World

variable {sys : System σ} {w w' v : World σ} {actor : Actor} {stack : Stack} {place : Place}
  {rest : List (Frame σ)} {p : Paused} {c : Context}

/-! ## The invariant -/

/-- The frame is there above the others, and the ledger tells the origin of what it keeps. -/
inductive Tracked (w : World σ) (ledger : Ledger) (rest : List (Frame σ)) : Frame σ → Prop
  | ready {place : Place} : Tracked w ledger rest (.ready place)
  | acting {actor : Actor} {p : Paused} {c : Context} {stage : Stage σ} {stack : Stack}
      (hbears : w.Bears actor stack)
      (hkept : ∀ f, c.violation = some f → ∃ o, ledger rest.length = some o ∧
        o.run = (Frame.acting actor p c stage :: rest).findSome? Frame.place? ∧
        o.Of actor stack f) :
      Tracked w ledger rest (.acting actor p c stage)

/-- All of the frames are. -/
def Tracks (w : World σ) (ledger : Ledger) : List (Frame σ) → Prop
  | [] => True
  | f :: rest => w.Tracked ledger rest f ∧ Tracks w ledger rest

section Tracks

variable {ledger : Ledger} {frames : List (Frame σ)} {f : Frame σ}

theorem after_of_kept {rest : List (Frame σ)} {g : Failure} (hsuffix : f :: rest <:+ w.frames)
    (hkept : f.kept? = some g) : ledger.after w rest.length = ledger rest.length := by
  simp [Ledger.after, Frame.keptAt?_of_suffix hsuffix, hkept]

theorem after_of_free {rest : List (Frame σ)} (hsuffix : f :: rest <:+ w.frames)
    (hfree : f.kept? = none) : ledger.after w rest.length = w.cause? ledger := by
  simp [Ledger.after, Frame.keptAt?_of_suffix hsuffix, hfree]

/-- Frames stay tracked whose actors stay as they are. -/
theorem Tracks.after (h : w.Tracks ledger frames) (hsuffix : frames <:+ w.frames)
    (hbears : ∀ actor p c stage stack, .acting actor p c stage ∈ frames → w.Bears actor stack →
      w'.Bears actor stack) : w'.Tracks (ledger.after w) frames := by
  induction frames with
  | nil => trivial
  | cons f rest ih =>
    obtain ⟨hf, hrest⟩ := h
    refine ⟨?_, ih hrest ((List.suffix_cons f rest).trans hsuffix) ?_⟩
    · cases hf with
      | ready => exact .ready
      | acting hold hkept =>
        refine .acting (hbears _ _ _ _ _ List.mem_cons_self hold) fun g hg => ?_
        obtain ⟨o, ho, hof⟩ := hkept g hg
        exact ⟨o, (after_of_kept hsuffix hg).trans ho, hof⟩
    · intro actor p c stage stack hmem
      exact hbears actor p c stage stack (List.mem_cons_of_mem f hmem)

/-- The actor of the frame on top is there. -/
theorem Tracks.bears {stage : Stage σ} (h : w.Tracks ledger w.frames)
    (hframes : w.frames = .acting actor p c stage :: rest) : ∃ stack, w.Bears actor stack ∧
      ∀ f, c.violation = some f → ∃ o, ledger rest.length = some o ∧ o.run = w.run? ∧
        o.Of actor stack f := by
  rw [hframes] at h
  cases h.1 with
  | acting hbears hkept =>
    refine ⟨_, hbears, fun f hf => ?_⟩
    obtain ⟨o, ho, hrun?, hof⟩ := hkept f hf
    exact ⟨o, ho, hrun?.trans (congrArg _ hframes.symm), hof⟩

end Tracks

/-! ## The origin of the failure of a dispatch -/

section Causes

variable {ledger : Ledger} {cell : Cell σ} {progress : Progress} {log : List Traffic}
  {g : Failure}

theorem scene?_of_underway (h : w.underway? = some (actor, progress)) :
    w.scene? = some ⟨actor, progress.stack, w.run?⟩ := by
  simp only [scene?, h]

/-- A dispatch goes on in the next step, either because an action has failed, or without a
failure to begin with. -/
theorem dispatches_of_underway (sys : System σ) (h : w.underway? = some (actor, progress)) :
    ∃ cell prompt, w.cell? actor = some cell ∧ w.Dispatches sys actor cell prompt progress ∧
      ((∃ told, prompt = .ok told) ∧ (∀ ledger, w.cause? ledger = w.scene?) ∨
        ∃ p c v rest raw, w.frames = .acting actor p c (.running (.done v)) :: rest ∧
          c.answer v = .error raw ∧ progress = .fail cell.stack raw) := by
  unfold underway? at h
  split at h
  · rename_i place rest hframes
    have hcause (ledger : Ledger) : w.cause? ledger = w.scene? := by
      simp only [cause?, hframes]
    obtain ⟨m, hm, h⟩ := Option.bind_eq_some_iff.mp h
    dsimp only at h
    split at h
    · rename_i hcreated
      cases h
      exact ⟨_, _, cell?_machine hm _, .start hframes hm hcreated, .inl ⟨⟨_, rfl⟩, hcause⟩⟩
    · rename_i hactive
      split at h
      · rename_i e left hselect
        cases h
        exact ⟨_, _, cell?_machine hm _, .handle hframes hm hactive hselect,
          .inl ⟨⟨_, rfl⟩, hcause⟩⟩
      · contradiction
      · contradiction
    · contradiction
  · rename_i actor p c v rest hframes
    obtain ⟨cell, hcell, heq⟩ := Option.map_eq_some_iff.mp h
    cases heq
    refine ⟨cell, _, hcell, .answer hframes hcell, ?_⟩
    cases hanswer : c.answer v with
    | ok t =>
      have hclean : c.violation = none := by
        cases hkept : c.violation <;> simp [Context.answer, hkept] at hanswer ⊢
      refine .inl ⟨⟨_, rfl⟩, fun ledger => ?_⟩
      simp [cause?, hframes, hclean]
    | error raw => exact .inr ⟨p, c, v, rest, raw, hframes, hanswer, rfl⟩
  · rename_i place id p c type e next rest hframes
    have hcause (ledger : Ledger) : w.cause? ledger = w.scene? := by
      simp only [cause?, hframes]
    split at h
    · rename_i hsendable
      obtain ⟨m, hm, heq⟩ := Option.map_eq_some_iff.mp h
      cases heq
      exact ⟨_, _, cell?_monitor (monitor?_of_registered? hm), .notify hm hsendable,
        .inl ⟨⟨_, rfl⟩, hcause⟩⟩
    · contradiction
  · contradiction

/-- A dispatch that has been told of no failure fails with a violation. -/
theorem exists_violation_of_orderly {a : Automaton}
    {told : Option StateId} (h : progress.Orderly a (.ok told))
    (hfailed : progress.outcome = .failed g) :
    ∃ raw : Failure, raw.Bare ∧ g = raw.inState progress.stack.top? := by
  cases h with
  | paused | finished => contradiction
  | told hstack hprompt => contradiction
  | unknown | broken =>
    cases hfailed
    exact ⟨_, Failure.bare_of_violation _, rfl⟩

/-- The failure with which a dispatch ends in the next step says, or will be added, what its
origin tells. -/
theorem explains_of_underway (hserial : sys.config.serial = true) (hrun : Run sys w log)
    (htracks : w.Tracks ledger w.frames) (hsupply : ∀ f, w.supply? = some f → f.Bare)
    (hunder : w.underway? = some (actor, progress)) (hcell : w.cell? actor = some cell)
    (hresult : progress.result? cell.blueprint = some (.error g)) :
    ∃ o, w.cause? ledger = some o ∧ o.run = w.run? ∧ o.Explains actor g ∧
      ∀ type, actor = .monitor type → o.stack.frames ≠ [] := by
  obtain ⟨_, prompt, hcell', hd, hwhy⟩ := dispatches_of_underway sys hunder
  cases hcell.symm.trans hcell'
  have hfailed : progress.outcome = .failed g := hd.failed_of_result? (hrun.sound hserial) hresult
  have hne : ∀ type, actor = .monitor type → progress.stack.frames ≠ [] := by
    rintro type rfl
    obtain ⟨id, hlone, _⟩ := (hrun.occurs.watched.dispatches hd).2.lone_stack
    simp [hlone]
  have hscene := scene?_of_underway hunder
  rcases hwhy with ⟨⟨told, rfl⟩, hcause⟩ | ⟨p, c, v, rest, raw, hframes, hanswer, rfl⟩
  · obtain ⟨raw, hbare, rfl⟩ := exists_violation_of_orderly
      (hd.orderly (hrun.sound hserial)).2 hfailed
    obtain ⟨hmachine, hstate⟩ := hbare.inState progress.stack.top?
    exact ⟨_, (hcause ledger).trans hscene, rfl, .own rfl hmachine hstate, hne⟩
  · have heq : raw.inState cell.stack.top? = g := by
      cases hfailed
      rfl
    obtain ⟨stack, hbears, hkept⟩ := htracks.bears hframes
    obtain rfl : cell.stack = stack := hbears.stack_eq hcell
    cases hviolation : c.violation with
    | some first =>
      have hsame : first = raw := by simpa [Context.answer, hviolation] using hanswer
      obtain ⟨o, ho, hrun?, hof⟩ := hkept first hviolation
      have hcause : w.cause? ledger = some o := by
        simp only [cause?, hframes, hviolation]
        exact ho
      refine ⟨o, hcause, hrun?, heq ▸ hsame ▸ hof.explains, ?_⟩
      rintro type rfl
      cases hof with
      | own hactor hstack hbare => exact hstack ▸ hne type rfl
      | monitor hself => contradiction
    | none =>
      have hends : v.failure? = some raw := by
        cases hverdict : v.failure? <;> simp [Context.answer, hviolation, hverdict] at hanswer ⊢
        exact hanswer
      have hbare : raw.Bare := hsupply raw (by simp [supply?, hframes, hviolation, hends])
      have hcause : w.cause? ledger = w.scene? := by
        simp [cause?, hframes, hviolation]
      obtain ⟨hmachine, hstate⟩ := hbare.inState cell.stack.top?
      exact ⟨_, hcause.trans hscene, rfl, heq ▸ .own rfl hmachine hstate, hne⟩

end Causes

/-! ## Steps -/

section Steps

variable {ledger : Ledger} {progress : Progress} {log : List Traffic} {top : Frame σ}
  {below : List (Frame σ)}

/-- A step leaves the stacks alone of the machines whose frames are beneath the one on top. -/
theorem bears_below (hserial : sys.config.serial = true) (hrun : Run sys w log)
    (hnext : (w.next sys).LeadsTo w') (hframes : w.frames = top :: below) {stage : Stage σ}
    (hmem : .acting actor p c stage ∈ below) (h : w.Bears actor stack) :
    w'.Bears actor stack := by
  cases h with
  | monitor hm => exact absurd rfl (hrun.occurs.watched.rest hframes _ hmem)
  | @machine place m hm =>
    obtain ⟨lost, haccounted, _⟩ := hrun.exists_accounted hserial
    have htop : ∀ f rest, w.frames = f :: rest → f.place? ≠ some place := by
      intro f rest hfirst hplace
      cases hframes.symm.trans hfirst
      exact haccounted.place?_ne_of_frames hframes hplace _ hmem rfl
    obtain ⟨m', hm', htakes⟩ := (next_leadsTo hserial hnext).lets hm htop
    have hbears : w'.Bears (.machine place m'.id) m'.cell.stack := .machine hm'
    obtain ⟨hid, hcell⟩ := htakes.same
    rwa [hid, hcell] at hbears

/-- Frames are tracked when the dispatch of an actor has been carried on above them. -/
theorem tracks_carried (hcarried : Carried v actor progress w')
    (hself : v.Identifies actor)
    (htracks : w'.Tracks (ledger.after w) v.frames)
    (hwaits : ∀ a p c next rest, v.frames = .acting a p c (.notifying next) :: rest →
      Frame.keptAt? w.frames rest.length = c.violation ∧ ∃ place id, a = .machine place id)
    (hjudged : ∀ type cell g, actor = .monitor type → v.cell? actor = some cell →
      progress.result? cell.blueprint = some (.error g) → v.run? = w.run? ∧
        ∃ o, w.cause? ledger = some o ∧ o.run = w.run? ∧ o.Explains actor g ∧
          ∀ type, actor = .monitor type → o.stack.frames ≠ []) :
    w'.Tracks (ledger.after w) w'.frames := by
  cases hcarried.continues hself with
  | enters hframes hbears =>
    rw [hframes]
    exact ⟨.acting hbears nofun, htracks⟩
  | ends hframes =>
    rw [hframes]
    exact htracks
  | answers _ hbelow hframes =>
    rw [hbelow] at htracks
    rw [hframes]
    obtain ⟨hhead, hrest⟩ := htracks
    cases hhead with
    | acting hbears hkept => exact ⟨.acting hbears hkept, hrest⟩
  | @fails type cell g a p c next rest program hactor hcell hresult hbelow hframes =>
    obtain ⟨hrun?, o, hcause, horigin, hexplains, hne⟩ := hjudged type cell g hactor hcell hresult
    obtain ⟨hheight, place, id, rfl⟩ := hwaits a p c next rest hbelow
    have hinnermost : o.run = v.frames.findSome? Frame.place? := horigin.trans hrun?.symm
    rw [hbelow] at htracks hinnermost
    rw [hframes]
    obtain ⟨hhead, hrest⟩ := htracks
    cases hhead with
    | @acting _ _ _ _ stack hbears hkept =>
      refine ⟨.acting hbears fun f hf => ?_, hrest⟩
      cases hviolation : c.violation with
      | some first =>
        have hsame : first = f := by simpa [Context.record, hviolation] using hf
        exact hkept f (hsame ▸ hviolation)
      | none =>
        have hsame : g.inMachine type = f := by simpa [Context.record, hviolation] using hf
        have hentry : ledger.after w rest.length = some o := by
          simpa [Ledger.after, hheight, hviolation] using hcause
        subst hactor
        have hmonitor : o.actor = .monitor type := hexplains.of_monitor
        have hnames := hexplains.names
        rw [hmonitor] at hnames
        exact ⟨o, hentry, hinnermost, .monitor rfl hmonitor (hne type rfl) (hsame ▸ hnames)⟩

/-- Without a dispatch that goes on, what is new arises in the action on top. -/
theorem cause?_of_onTop {stage : Stage σ} (hnone : w.underway? = none)
    (hbears : w.Bears actor stack) (hframes : w.frames = .acting actor p c stage :: rest) :
    w.cause? ledger = some ⟨actor, stack, w.run?⟩ := by
  obtain ⟨cell, hcell, rfl⟩ := hbears.exists_cell
  have hcause : w.cause? ledger = w.scene? := by
    unfold cause?
    split
    · rename_i hdone
      cases hframes.symm.trans hdone
      simp [underway?, hdone, hcell] at hnone
    · rfl
  rw [hcause]
  simp only [scene?, hnone, onTop?, hframes, hcell, Option.map_some]

/-- Frames are tracked when the action on top of them has gone on. -/
theorem tracks_goesOn {stage : Stage σ} (htracks : w.Tracks ledger w.frames)
    (hframes : w.frames = .acting actor p c stage :: rest) (hnone : w.underway? = none)
    (hbears : w.Bears actor stack) (hrest : w'.Tracks (ledger.after w) rest)
    (h : GoesOn rest actor stack p c w') : w'.Tracks (ledger.after w) w'.frames := by
  obtain ⟨c', stage', hframes', hlater, hbears'⟩ := h
  have hsuffix : .acting actor p c stage :: rest <:+ w.frames := hframes ▸ List.suffix_refl _
  have hrun? : w.run? = (Frame.acting actor p c' stage' :: rest).findSome? Frame.place? :=
    congrArg _ hframes
  rw [hframes']
  refine ⟨.acting hbears' fun f hf => ?_, hrest⟩
  rcases hlater f hf with hold | ⟨hfree, hbare⟩
  · obtain ⟨_, hsame, hkept⟩ := htracks.bears hframes
    obtain ⟨o, ho, horigin, hof⟩ := hkept f hold
    obtain ⟨cell, hcell, hstack⟩ := hsame.exists_cell
    cases hstack.symm.trans (hbears.stack_eq hcell)
    exact ⟨o, (after_of_kept hsuffix hold).trans ho, horigin.trans hrun?, hof⟩
  · have hentry : ledger.after w rest.length = some ⟨actor, stack, w.run?⟩ :=
      (after_of_free hsuffix hfree).trans (cause?_of_onTop hnone hbears hframes)
    exact ⟨_, hentry, hrun?, .own rfl rfl hbare⟩

/-- An action waits for a monitor beneath the frame on top: it is one of a machine. -/
theorem waits_below (hrun : Run sys w log) (hframes : w.frames = top :: below) (a : Actor)
    (p : Paused) (c : Context) (next : Except Failure Unit → Program σ Verdict)
    (rest : List (Frame σ)) (hbelow : below = .acting a p c (.notifying next) :: rest) :
    Frame.keptAt? w.frames rest.length = c.violation ∧ ∃ place id, a = .machine place id := by
  have hsuffix : .acting a p c (.notifying next) :: rest <:+ w.frames := by
    rw [hframes, hbelow]
    exact List.suffix_cons _ _
  refine ⟨Frame.keptAt?_of_suffix hsuffix, ?_⟩
  have hplace := hrun.occurs.watched.rest hframes (.acting a p c (.notifying next))
    (hbelow ▸ List.mem_cons_self)
  cases a with
  | machine place id => exact ⟨place, id, rfl⟩
  | monitor type => exact absurd rfl hplace

theorem tracks_beginDispatch {m : Machine σ} (hserial : sys.config.serial = true)
    (hrun : Run sys w log) (hframes : w.frames = .ready place :: rest)
    (hm : w.machineAt? place = some m) (hrest : w'.Tracks (ledger.after w) rest)
    (h : (beginDispatch sys { w with frames := rest } place m).LeadsTo w') :
    w'.Tracks (ledger.after w) w'.frames := by
  have hcarry {m' : Machine σ} {progress : Progress}
      (h : (({ w with frames := rest }.setMachine place m').carry sys (.machine place m.id)
        progress).LeadsTo w') (hid : m'.id = m.id) : w'.Tracks (ledger.after w) w'.frames := by
    have hset : ({ w with frames := rest }.setMachine place m').machineAt? place = some m' :=
      machineAt?_setMachine_self hm
    exact tracks_carried (carry_leadsTo hserial h) (hid ▸ identifies_machine hset) hrest
      (waits_below hrun hframes) nofun
  have hended {v : World σ} (hv : v.frames = rest) (h : v.endRun.LeadsTo w') :
      w'.Tracks (ledger.after w) w'.frames := by
    obtain rfl := endRun_leadsTo.mp h
    rw [hv]
    exact hrest
  unfold beginDispatch at h
  dsimp only at h
  split at h
  · exact hended rfl h
  · exact hcarry h rfl
  · split at h
    · exact hended rfl h
    · split at h
      · refine hended ?_ h
        unfold abort
        dsimp only
        split <;> rfl
      · exact hended rfl h
      · exact hcarry h rfl

theorem tracks_done {verdict : Verdict} {cell : Cell σ} (hserial : sys.config.serial = true)
    (hrun : Run sys w log) (htracks : w.Tracks ledger w.frames)
    (hsupply : ∀ f, w.supply? = some f → f.Bare)
    (hframes : w.frames = .acting actor p c (.running (.done verdict)) :: rest)
    (hcell : w.cell? actor = some cell) (hrest : w'.Tracks (ledger.after w) rest)
    (h : (w.execute sys rest actor p c cell (.done verdict)).LeadsTo w') :
    w'.Tracks (ledger.after w) w'.frames := by
  have hunder : w.underway? = some (actor,
      (actor.engine cell).answer cell.stack p (c.answer verdict)) := by
    simp only [underway?, hframes, hcell, Option.map_some]
  simp only [execute] at h
  split at h
  · obtain rfl := Move.leadsTo_panicked.mp h
    trivial
  · obtain ⟨stack, hbears, _⟩ := htracks.bears hframes
    refine tracks_carried (carry_leadsTo hserial h) hbears.identifies hrest
      (waits_below hrun hframes) ?_
    rintro type cell' g rfl hcell' hresult
    have hcell' : w.cell? (.monitor type) = some cell' := hcell'
    have hinnermost : rest.findSome? Frame.place? = w.run? :=
      (congrArg (List.findSome? Frame.place?) hframes).symm
    exact ⟨hinnermost, explains_of_underway hserial hrun htracks hsupply hunder hcell' hresult⟩

/-- An action of a machine asks for a monitor. -/
theorem tracks_notify {id : MachineId} {type : String} {e : Event} {m : Monitor σ}
    {next : Except Failure Unit → Program σ Verdict} (hserial : sys.config.serial = true)
    (hrun : Run sys w log) (htracks : w.Tracks ledger w.frames)
    (hsupply : ∀ f, w.supply? = some f → f.Bare)
    (hframes : w.frames
      = .acting (.machine place id) p c (.running (.request (.notify type e) next)) :: rest)
    (hsendable : e.checkSendable = .ok ()) (hm : w.registered? type = some m)
    (hrest : w'.Tracks (ledger.after w) rest)
    (h : (w.serve sys rest (.machine place id) p c (.notify type e) next).LeadsTo w') :
    w'.Tracks (ledger.after w) w'.frames := by
  let waiting : World σ :=
    { w with frames := .acting (.machine place id) p c (.notifying next) :: rest }
  have hm' : waiting.registered? type = some m := hm
  have hunder : w.underway? = some (.monitor type,
      ((Actor.monitor type).engine m.cell).handle m.cell.stack e) := by
    simp only [underway?, hframes, hsendable, hm, Option.map_some]
  have hcarried : Carried waiting (.monitor type)
      (((Actor.monitor type).engine m.cell).handle m.cell.stack e) w' := by
    simp only [serve, notify, hsendable] at h
    rw [hm'] at h
    exact carry_leadsTo hserial h
  have hsuffix : .acting (.machine place id) p c (.running (.request (.notify type e) next))
      :: rest <:+ w.frames := hframes ▸ List.suffix_refl _
  have hinnermost : waiting.run? = w.run? :=
    (congrArg (List.findSome? Frame.place?) hframes).symm
  have hwaiting : w'.Tracks (ledger.after w) waiting.frames := by
    obtain ⟨stack, hbears, hkept⟩ := htracks.bears hframes
    have hsame := SameRuns.carried hcarried
    refine ⟨.acting (hbears.of_machines hsame.machines) fun f hf => ?_, hrest⟩
    obtain ⟨o, ho, horigin, hof⟩ := hkept f hf
    exact ⟨o, (after_of_kept hsuffix hf).trans ho, horigin.trans hinnermost.symm, hof⟩
  refine tracks_carried hcarried (waiting.identifies_monitor type) hwaiting ?_ ?_
  · intro a p' c' next' rest' hwaits
    cases hwaits
    exact ⟨Frame.keptAt?_of_suffix hsuffix, place, id, rfl⟩
  · rintro _ cell g ⟨⟩ hcell hresult
    have hcell : w.cell? (.monitor type) = some cell := hcell
    exact ⟨hinnermost, explains_of_underway hserial hrun htracks hsupply hunder hcell hresult⟩

theorem tracks_execute {program : Program σ Verdict} {cell : Cell σ}
    (hserial : sys.config.serial = true) (hrun : Run sys w log)
    (htracks : w.Tracks ledger w.frames) (hsupply : ∀ f, w.supply? = some f → f.Bare)
    (hframes : w.frames = .acting actor p c (.running program) :: rest)
    (hcell : w.cell? actor = some cell) (hbears : w.Bears actor stack)
    (hrest : w'.Tracks (ledger.after w) rest)
    (h : (w.execute sys rest actor p c cell program).LeadsTo w') :
    w'.Tracks (ledger.after w) w'.frames := by
  cases program with
  | done verdict => exact tracks_done hserial hrun htracks hsupply hframes hcell hrest h
  | load next =>
    have hnone : w.underway? = none := by simp only [underway?, hframes]
    exact tracks_goesOn htracks hframes hnone hbears hrest (goesOn_goOn (.refl c) hbears h)
  | store memory next =>
    have hnone : w.underway? = none := by simp only [underway?, hframes]
    exact tracks_goesOn htracks hframes hnone hbears hrest
      (goesOn_goOn (.refl c) (hbears.store hcell memory) h)
  | request r next =>
    cases hunder : w.underway? with
    | none =>
      exact tracks_goesOn htracks hframes hunder hbears hrest
        (serve_goesOn hframes hunder hbears h)
    | some dispatch =>
      -- Of all requests only one for a monitor takes a dispatch.
      unfold underway? at hunder
      rw [hframes] at hunder
      cases r with
      | notify type e =>
        cases actor with
        | monitor => contradiction
        | machine place id =>
          dsimp only at hunder
          split at hunder
          · rename_i hsendable
            obtain ⟨m, hm, _⟩ := Option.map_eq_some_iff.mp hunder
            exact tracks_notify hserial hrun htracks hsupply hframes hsendable hm hrest h
          · contradiction
      | _ => contradiction

/-- Every small step keeps the origin of all that is kept in the ledger. -/
theorem tracks_next (hserial : sys.config.serial = true) (hrun : Run sys w log)
    (htracks : w.Tracks ledger w.frames) (hsupply : ∀ f, w.supply? = some f → f.Bare)
    (hnext : (w.next sys).LeadsTo w') : w'.Tracks (ledger.after w) w'.frames := by
  cases hframes : w.frames with
  | nil => simp [World.next, hframes] at hnext
  | cons top below =>
    have hbelow : w'.Tracks (ledger.after w) below := by
      rw [hframes] at htracks
      refine htracks.2.after (hframes ▸ List.suffix_cons top below) ?_
      intro actor p c stage stack hmem
      exact bears_below hserial hrun hnext hframes hmem
    have hstep := hnext
    unfold World.next at hstep
    rw [hframes] at hstep
    cases top with
    | ready place =>
      dsimp only at hstep
      split at hstep
      · rename_i m hm
        exact tracks_beginDispatch hserial hrun hframes hm hbelow hstep
      · exact absurd hstep Move.not_leadsTo_idle
    | acting actor p c stage =>
      obtain ⟨stack, hbears, _⟩ := htracks.bears hframes
      cases stage with
      | running program =>
        dsimp only at hstep
        split at hstep
        · rename_i cell hcell
          exact tracks_execute hserial hrun htracks hsupply hframes hcell hbears hbelow hstep
        · exact absurd hstep Move.not_leadsTo_idle
      | receiving types next =>
        cases actor with
        | monitor type => exact absurd hstep Move.not_leadsTo_idle
        | machine place id =>
          dsimp only at hstep
          split at hstep
          · rename_i m hm
            rcases await_goesOn hserial hm hbears hstep with hgoes | ⟨⟨other, hother⟩, hsame⟩
            · have hnone : w.underway? = none := by simp only [underway?, hframes]
              exact tracks_goesOn htracks hframes hnone hbears hbelow hgoes
            · have hall : w'.Tracks (ledger.after w) w.frames :=
                htracks.after (List.suffix_refl _) fun _ _ _ _ _ _ => hsame _ _
              rw [hother]
              exact ⟨.ready, hall⟩
          · exact absurd hstep Move.not_leadsTo_idle
      | notifying next => exact absurd hstep Move.not_leadsTo_idle

end Steps

/-! ## Runs -/

section Runs

variable {supplied : List Failure} {ledger : Ledger} {f : Failure}

/-- An operation from outside leaves no action that keeps a failure. -/
theorem tracks_operated {seen : List Traffic} (hidle : w.frames = [])
    (ho : Operated sys w seen w') : w'.Tracks .blank w'.frames := by
  have hunheard {v : World σ} (hv : v.frames = []) : v.Tracks .blank v.frames := by
    rw [hv]
    trivial
  have hmonitor {v : World σ} {type : String} {progress : Progress} (hv : v.frames = [])
      (hcarried : Carried v (.monitor type) progress w') : w'.Tracks .blank w'.frames := by
    cases hcarried.continues (v.identifies_monitor type) with
    | enters hframes hbears =>
      rw [hframes, hv]
      exact ⟨.acting hbears nofun, trivial⟩
    | ends hframes => exact hunheard (hframes.trans hv)
    | answers _ hbelow | fails _ _ _ hbelow => simp [hv] at hbelow
  have hturn {v : World σ} (hv : v.frames = []) {index : Nat} :
      (v.beginTurn index).Tracks .blank (v.beginTurn index).frames := by
    simp only [beginTurn, beginRun]
    split
    · simp only [hv]
      exact ⟨.ready, trivial⟩
    · exact hunheard hv
  have hmarked : (w.markBound sys.config).frames = [] := (markBound_frames w sys.config).trans hidle
  cases ho with
  | unchanged | fail | describe => exact hunheard hidle
  | create hcreate =>
    obtain ⟨blueprint, registry, rfl⟩ := create_eq_ok hcreate
    exact hunheard hidle
  | send hdeliver => exact hunheard ((delivered_of_deliver hdeliver).frames.trans hidle)
  | @register _ m registry _ _ hcarried =>
    have hadded : (w.withMonitor registry m).frames = [] := hidle
    exact hmonitor hadded hcarried
  | notify _ hcarried => exact hmonitor hidle hcarried
  | step => exact hturn hidle
  | settle => exact hunheard hmarked
  | run => exact hturn hmarked

/-- As long as no body supplies a name, the ledger tells the origin of all that is kept. -/
theorem Traced.tracks (hserial : sys.config.serial = true) (h : Traced sys w supplied ledger)
    (hbare : ∀ f ∈ supplied, f.Bare) : w.Tracks ledger w.frames := by
  induction h with
  | empty => trivial
  | next h hnext ih =>
    obtain ⟨log, hrun⟩ := h.exists_run
    refine tracks_next hserial hrun (ih fun f hf => hbare f (List.mem_append_left _ hf)) ?_ hnext
    intro f hf
    exact hbare f (List.mem_append_right _ (by simp [hf]))
  | outside _ hidle hi => exact tracks_operated hidle (hi.operated hserial hidle)
  | reset => trivial

/-- The failure with which the run of a machine breaks down says, or will be added, what its
origin tells; and that is an origin in this run. -/
theorem BreaksDown.explained {id : MachineId} {log : List Traffic}
    (hserial : sys.config.serial = true) (hrun : Run sys w log)
    (htracks : w.Tracks ledger w.frames) (hsupply : ∀ f, w.supply? = some f → f.Bare)
    (h : BreaksDown sys w id f) :
    ∃ place m o, w.run? = some place ∧ w.machineAt? place = some m ∧ m.id = id ∧
      w.cause? ledger = some o ∧ o.run = some place ∧ o.Explains (.machine place id) f := by
  cases h with
  | @start place rest m f hframes hm hcreated hresult =>
    have hrun? : w.run? = some place := by simp only [run?, hframes]; rfl
    have hunder : w.underway? = some (.machine place m.id,
        ((Actor.machine place m.id).engine m.cell).start m.cell.stack (.start m.startPayload)) := by
      simp only [underway?, hframes, hm, Option.bind_some, hcreated]
    obtain ⟨o, hcause, horigin, hexplains, _⟩ :=
      explains_of_underway hserial hrun htracks hsupply hunder (cell?_machine hm _) hresult
    exact ⟨place, m, o, hrun?, hm, rfl, hcause, horigin.trans hrun?, hexplains⟩
  | @dispatch place rest m e left f hframes hm hactive hfailed hselect hresult =>
    have hrun? : w.run? = some place := by simp only [run?, hframes]; rfl
    have hunder : w.underway? = some (.machine place m.id,
        ((Actor.machine place m.id).engine m.cell).handle m.cell.stack e) := by
      simp only [underway?, hframes, hm, Option.bind_some, hactive, hselect]
    obtain ⟨o, hcause, horigin, hexplains, _⟩ :=
      explains_of_underway hserial hrun htracks hsupply hunder (cell?_machine hm _) hresult
    exact ⟨place, m, o, hrun?, hm, rfl, hcause, horigin.trans hrun?, hexplains⟩
  | @unselectable place rest m f hframes hm hactive hfailed hselect =>
    have hrun? : w.run? = some place := by simp only [run?, hframes]; rfl
    have hcause : w.cause? ledger = some ⟨.machine place m.id, m.cell.stack, w.run?⟩ := by
      simp only [cause?, hframes, scene?, underway?, hm, Option.bind_some, hactive, hselect, onTop?,
        Option.map_some]
    have hbare : f.Bare := by
      unfold Engine.select at hselect
      split at hselect
      · cases hselect
        exact Failure.bare_of_violation _
      · split at hselect
        · cases hselect
          exact Failure.bare_of_violation _
        · contradiction
    obtain ⟨hmachine, hstate⟩ := hbare.inState m.cell.stack.top?
    exact ⟨place, m, _, hrun?, hm, rfl, hcause, hrun?, .own rfl hmachine hstate⟩
  | @answer place other p c verdict rest m f hframes hm hcaught hresult =>
    have hrun? : w.run? = some place := by simp only [run?, hframes]; rfl
    have hcell : w.cell? (.machine place other) = some m.cell := cell?_machine hm other
    have hunder : w.underway? = some (.machine place other,
        ((Actor.machine place other).engine m.cell).answer m.cell.stack p (c.answer verdict)) := by
      simp only [underway?, hframes, hcell, Option.map_some]
    obtain ⟨o, hcause, horigin, hexplains, _⟩ :=
      explains_of_underway hserial hrun htracks hsupply hunder hcell hresult
    have hid : m.id = other := by
      obtain ⟨stack, hbears, _⟩ := htracks.bears hframes
      exact hbears.identifies place other m rfl hm
    exact ⟨place, m, o, hrun?, hm, rfl, hcause, horigin.trans hrun?, hid ▸ hexplains⟩

end Runs

end World

/-- The point of a run after at most so many small steps that ask nothing. -/
def World.follow (sys : System σ) :
    Nat → World σ × List Failure × Ledger → World σ × List Failure × Ledger
  | 0, point => point
  | n + 1, (w, supplied, ledger) =>
    match w.next sys with
    | .step w' => follow sys n (w', supplied ++ w.supply?.toList, ledger.after w)
    | _ => (w, supplied, ledger)

theorem World.Traced.follow {sys : System σ} (n : Nat) {w : World σ} {supplied : List Failure}
    {ledger : Ledger} (h : Traced sys w supplied ledger) :
    Traced sys (World.follow sys n (w, supplied, ledger)).1
      (World.follow sys n (w, supplied, ledger)).2.1
      (World.follow sys n (w, supplied, ledger)).2.2 := by
  induction n generalizing w supplied ledger with
  | zero => exact h
  | succ n ih =>
    unfold World.follow
    split
    · rename_i w' hstep
      exact ih (h.next (hstep ▸ .step))
    · exact h

/-! ## An inspection

A worker has finished while its foreman waits for a report. The inspector that it calls
finds something to complain about, of which the worker takes no notice. -/

namespace Inspection

def report : EventType := ⟨"Report"⟩

def finished : EventType := ⟨"Finished"⟩

/-- Makes a worker, and waits for a report that never comes. -/
def foreman : Description Unit :=
  let waiting := ({ name := "Waiting" } : StateSpec).asStart.withEntry "wait"
  (({} : Description Unit).state waiting).action "wait" fun _ => Body.toProgram do
    let _ ← Body.create "Worker" none
    let _ ← Body.receive [report]

/-- Calls the inspector, and goes on whatever it says. -/
def worker : Description Unit :=
  let working := ({ name := "Working" } : StateSpec).asStart.withEntry "work"
  (({} : Description Unit).state working).action "work" fun _ => Body.toProgram do
    let _ ← Body.attempt (Body.notify "Inspector" (.message finished none))

/-- Finds that there is no work. -/
def inspector : Description Unit :=
  let watching := ({ name := "Watching" } : StateSpec).asStart.onEvent finished.name "inspect"
  (({} : Description Unit).state watching).action "inspect" fun _ => Body.toProgram do
    let _ ← Body.attempt (Body.assert false "there is no work")

def system : System Unit where
  catalog := fun type =>
    { fresh := ()
      describe := fun _ =>
        if type = "Foreman" then foreman else if type = "Worker" then worker else inspector }
  config := .bugFinding 0

/-- The inspector is there. -/
def watched : Session Unit CyclicChoice :=
  let s : Session Unit CyclicChoice := { source := { numbers := [] } }
  (s.perform system 10 (.register "Inspector")).2

/-- So is the foreman, before it has run. -/
def begun : Session Unit CyclicChoice := (watched.perform system 0 (.create "Foreman" none)).2

/-- The turn of the foreman begins. -/
def opened : World Unit := begun.world.beginTurn 0

theorem traced_opened : World.Traced system opened [] .blank := by
  have hinspector : (World.empty.register system "Inspector").LeadsTo watched.world := .returned
  have hforeman : watched.world.create system.catalog "Foreman" none
      = .ok (⟨"Foreman", 1⟩, begun.world) := rfl
  have hwatched := World.Traced.empty.outside rfl (.register hinspector)
  have hcreated := hwatched.outside rfl (.create hforeman)
  exact hcreated.outside rfl (.step .step)

/-- The action of the worker has ended, above the receive of the foreman. -/
def overlooked : World Unit × List Failure × Ledger := World.follow system 8 (opened, [], .blank)

/-- What the inspector complains about. -/
def complaint : Failure :=
  { Failure.assertion "there is no work" with
    machine := some "Inspector", state := some "Watching" }

end Inspection

/-! ## Results -/

namespace Failure

/-- The failure of a machine's run names who and where its origin says. -/
inductive Attributed (f : Failure) (place : Place) (id : MachineId) : Origin → Prop
  /-- It has arisen in the machine itself, which may have had no state any more. -/
  | own {stack : Stack} (hmachine : f.machine = some id.text)
      (hstate : f.state = stack.top?.map StateId.name)
      (hnone : f.state = none ↔ stack = .empty) :
      Attributed f place id ⟨.machine place id, stack, some place⟩
  /-- It has arisen in a monitor, in a dispatch during the run of the machine. -/
  | monitor {type : String} {stack : Stack} {top : StateId} (htop : stack.top? = some top)
      (hmachine : f.machine = some type) (hstate : f.state = some top.name) :
      Attributed f place id ⟨.monitor type, stack, some place⟩

end Failure

namespace World

section Results

variable {sys : System σ} {w w' : World σ} {supplied : List Failure} {ledger : Ledger}
  {f : Failure}

/-- Failures are attributed to where they have arisen. In all runs of a serial system in which
no body of an action has supplied a failure with a name in it, a failure that a step records is
that of the innermost machine's run, and names what its origin tells: the machine itself and the
state on top of its stack at that moment, or no state if and only if the stack was empty; or the
monitor that was called in this run, and the state on top of the monitor's. -/
theorem Traced.attributed (hserial : sys.config.serial = true) (h : Traced sys w supplied ledger)
    (hbare : ∀ g ∈ supplied ++ w.supply?.toList, g.Bare) (hnext : (w.next sys).LeadsTo w')
    (hrecorded : w'.failure = some f) (hnew : w.failure ≠ some f) :
    ∃ place m g o, w.run? = some place ∧ w.machineAt? place = some m ∧
      BreaksDown sys w m.id g ∧ f = g.inMachine m.id.text ∧
      w.cause? ledger = some o ∧ f.Attributed place m.id o := by
  obtain ⟨log, hrun⟩ := h.exists_run
  have htracks := h.tracks hserial fun g hg => hbare g (List.mem_append_left _ hg)
  have hsupply : ∀ g, w.supply? = some g → g.Bare := fun g hg =>
    hbare g (List.mem_append_right _ (by simp [hg]))
  obtain ⟨_, id, g, hbreaks, rfl⟩ := exists_breaksDown hserial hnext hrecorded hnew
  obtain ⟨place, m, ⟨actor, stack, run⟩, hrun?, hm, rfl, hcause, rfl, hexplains⟩ :=
    hbreaks.explained hserial hrun htracks hsupply
  refine ⟨place, m, g, _, hrun?, hm, hbreaks, rfl, hcause, ?_⟩
  obtain ⟨hmachine, hstate⟩ := hexplains.names
  cases hexplains with
  | own hactor =>
    cases hactor
    have hstate : (g.inMachine m.id.text).state = stack.top?.map StateId.name := hstate
    exact .own hmachine hstate (hstate ▸ stack.name_of_top?_eq_none)
  | monitor _ hactor hne =>
    cases hactor
    obtain ⟨top, htop⟩ := Stack.exists_top hne
    refine .monitor htop hmachine (hstate.trans ?_)
    rw [htop]
    rfl

/-- The worker's run is the innermost, and the failure is that of the inspector. -/
theorem Traced.attributed_overlooked :
    Traced Inspection.system Inspection.overlooked.1 Inspection.overlooked.2.1
        Inspection.overlooked.2.2 ∧
      ∃ w', (Inspection.overlooked.1.next Inspection.system).LeadsTo w' ∧
        w'.failure = some Inspection.complaint ∧
        ∃ place m g o, Inspection.overlooked.1.run? = some place ∧
          Inspection.overlooked.1.machineAt? place = some m ∧
          BreaksDown Inspection.system Inspection.overlooked.1 m.id g ∧
          Inspection.complaint = g.inMachine m.id.text ∧
          Inspection.overlooked.1.cause? Inspection.overlooked.2.2 = some o ∧
          o.actor = .monitor "Inspector" ∧ Inspection.complaint.Attributed place m.id o := by
  have htraced := Inspection.traced_opened.follow 8
  have hbare : ∀ g ∈ Inspection.overlooked.2.1 ++ Inspection.overlooked.1.supply?.toList,
      g.Bare := by
    have hnone : Inspection.overlooked.2.1 ++ Inspection.overlooked.1.supply?.toList = [] := rfl
    rw [hnone]
    exact List.forall_mem_nil _
  have hcause : Inspection.overlooked.1.cause? Inspection.overlooked.2.2
      = some ⟨.monitor "Inspector", ⟨[⟨"Watching"⟩]⟩, some 1⟩ := rfl
  have hnew : Inspection.overlooked.1.failure ≠ some Inspection.complaint := by
    have hnone : Inspection.overlooked.1.failure = none := rfl
    simp [hnone]
  obtain ⟨place, m, g, o, hrun?, hm, hbreaks, heq, ho, hattributed⟩ :=
    Traced.attributed rfl htraced hbare .step rfl hnew
  refine ⟨htraced, _, .step, rfl, place, m, g, o, hrun?, hm, hbreaks, heq, ho, ?_, hattributed⟩
  cases hcause.symm.trans ho
  rfl

end Results

end World

end PushdownActors
