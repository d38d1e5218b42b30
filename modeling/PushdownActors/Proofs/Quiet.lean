-- SUMMARY: Turns whose actions ask for nothing: they run to their end, whatever is chosen, and invoke what the dispatch runs.
import PushdownActors.Proofs.Independence
import PushdownActors.Proofs.Topmost

/-!
# Quiet turns

An action is quiet if it asks for nothing but choices, and ends well. To a dispatch all quiet
actions are the same, so how far it goes, and which actions it runs, can be told without
them. A turn in which only such actions run leads to its end, whatever the choice source
answers, and the machine is given back with the stack that its dispatch has come to.
-/

namespace PushdownActors

/-! ## Dispatches whose actions ask for nothing -/

/-- The invocation of an action in the state, if there is one. -/
def State.invocations (s : State) (site : Site) (action : Option String) (e : Event) :
    List Invocation :=
  (action.map fun name => ⟨name, site, s.id, e⟩).toList

namespace Engine

/-- Every action ends well, and asks for nothing. -/
def obliging (i : Unit) (_ : Invocation) : Except Failure Transition × Unit := (.ok .stay, i)

section Obliging

variable {en : Engine} {s : State} {below : List StateId} {e : Event} {target : StateId}

theorem reaches_enter (hs : en.automaton.state? s.id = some s) :
    en.Reaches obliging () (en.enter ⟨s.id :: below⟩ e) (s.invocations .entry s.entry e) ()
      (.finish ⟨s.id :: below⟩ .running) := by
  cases hentry : s.entry with
  | none =>
    have hfinish : en.enter ⟨s.id :: below⟩ e = .finish ⟨s.id :: below⟩ .running := by
      simp only [enter, Stack.top?, List.head?_cons, hs, hentry]
    rw [hfinish]
    exact .refl
  | some action =>
    have hpause : en.enter ⟨s.id :: below⟩ e
        = .pause ⟨s.id :: below⟩ action .entry s.id e .apply := by
      simp only [enter, Stack.top?, List.head?_cons, hs, hentry]
    rw [hpause]
    exact Reaches.answer .refl

theorem reaches_arrive {s' : State} (hs' : en.automaton.state? s'.id = some s') :
    en.Reaches obliging () (en.arrive ⟨s.id :: below⟩ s'.id e)
      (s'.invocations .entry s'.entry e) () (.finish ⟨s'.id :: below⟩ .running) :=
  reaches_enter hs'

theorem reaches_override (action : Option String) :
    en.Reaches obliging () (en.replace ⟨s.id :: below⟩ target action e)
      (s.invocations .override action e) () (en.arrive ⟨s.id :: below⟩ target e) := by
  cases action with
  | none => exact .refl
  | some name => exact Reaches.answer .refl

theorem exits_eq (hs : en.automaton.state? s.id = some s) :
    en.automaton.exits e [s.id] = s.invocations .exit s.exit e := by
  cases hexit : s.exit with
  | none => exact Automaton.exits_cons_of_none hs hexit
  | some action => exact Automaton.exits_cons_of_some hs hexit

theorem reaches_leave (hs : en.automaton.state? s.id = some s) {action : Option String} :
    en.Reaches obliging () (en.goto ⟨s.id :: below⟩ target action e)
      (s.invocations .exit s.exit e) () (en.replace ⟨s.id :: below⟩ target action e) := by
  have hstays : ∀ j, ∀ x ∈ en.automaton.exits e [s.id], (obliging j x).1 = .ok .stay :=
    fun _ _ _ => rfl
  obtain ⟨_, hleft⟩ := reaches_replace hs hstays ()
  rwa [exits_eq hs] at hleft

/-- What a goto runs: the exit action, its own, and the entry action of its target. -/
theorem reaches_goto {s' : State} {action : Option String}
    (hs : en.automaton.state? s.id = some s) (hs' : en.automaton.state? s'.id = some s') :
    en.Reaches obliging () (en.goto ⟨s.id :: below⟩ s'.id action e)
      (s.invocations .exit s.exit e ++ s.invocations .override action e
        ++ s'.invocations .entry s'.entry e) () (.finish ⟨s'.id :: below⟩ .running) :=
  ((reaches_leave hs).trans (reaches_override action)).trans (reaches_arrive hs')

/-- An event that the state on top reacts to goes no further. -/
theorem handle_of_reaction {r : Reaction} (hclosed : en.automaton.Closed)
    (hs : en.automaton.state? s.id = some s) (hr : s.reaction? e.type = some r)
    (hdefer : r ≠ .defer) :
    en.handle ⟨s.id :: below⟩ e = en.react ⟨s.id :: below⟩ s.id r e := by
  rw [handle, deliver_eq_fallThrough hclosed hs hr]
  exact fallThrough_of_reaction hs hr hdefer

end Obliging

end Engine

/-! ## Quiet actions -/

/-- The program reads and writes its memory, looks at itself, chooses and leaves remarks. It
asks for nothing else, and ends well. -/
inductive Program.Quiet : Program σ Verdict → Prop
  | done : Quiet (.done .ok)
  | load {next : σ → Program σ Verdict} (h : ∀ memory, Quiet (next memory)) : Quiet (.load next)
  | store {memory : σ} {next : Program σ Verdict} (h : Quiet next) : Quiet (.store memory next)
  | id {next : Except Failure MachineId → Program σ Verdict} (h : ∀ self, Quiet (next (.ok self))) :
      Quiet (.request .id next)
  | choose {q : Question} {next : q.Answer → Program σ Verdict}
      (h : ∀ answer, Quiet (next answer)) : Quiet (.request (.choose q) next)
  | assert {message : String} {next : Except Failure Unit → Program σ Verdict}
      (h : Quiet (next (.ok ()))) : Quiet (.request (.assert true message) next)
  | remark {r : Remark} {next : Unit → Program σ Verdict} (h : Quiet (next ())) :
      Quiet (.request (.remark r) next)

/-- The type binds the action to a body that is quiet when it is started for the invocation. -/
def Blueprint.Quiet (b : Blueprint σ) (x : Invocation) : Prop :=
  ∃ body, b.action? x.action = some body ∧ (body x).Quiet

/-- The invocation that an entry of the journal tells of, with its owner. -/
def JournalEntry.call? : JournalEntry → Option (Owner × Invocation)
  | invoked owner x => some (owner, x)
  | remarked .. => none

/-- What has been invoked, in the order of time. -/
def World.calls (w : World σ) : List (Owner × Invocation) :=
  w.journal.reverse.filterMap JournalEntry.call?

namespace World

theorem calls_of_journal {w w' : World σ} {entries : List JournalEntry}
    (h : w'.journal = entries ++ w.journal) :
    w'.calls = w.calls ++ entries.reverse.filterMap JournalEntry.call? := by
  simp [calls, h]

section Turns

variable [ChoiceSource τ] {sys : System σ} {b : Blueprint σ} {w v : World σ} {place : Place}
  {id : MachineId} {m : Machine σ} {p : Paused} {program : Program σ Verdict}

/-- The world in which the action of the machine has come to this program. -/
def performing (w : World σ) (place : Place) (id : MachineId) (p : Paused)
    (program : Program σ Verdict) : World σ :=
  { w with frames := [.acting (.machine place id) p {} (.running program)] }

theorem next_performing (hm : w.machineAt? place = some m) :
    (w.performing place id p program).next sys
      = (w.performing place id p program).execute sys [] (.machine place id) p {} m.cell
        program := by
  have hcell : (w.performing place id p program).cell? (.machine place id) = some m.cell :=
    cell?_machine hm id
  simp only [World.next, performing] at hcell ⊢
  simp only [hcell]

theorem inTurn_self (hm : w.machineAt? place = some m) (frames : List (Frame σ)) :
    w.inTurn place m [] frames = { w with frames } := by
  simp [inTurn, setMachine_self hm]

theorem machineAt?_inTurn_self (hm : w.machineAt? place = some m) (m' : Machine σ)
    (entries : List JournalEntry) (frames : List (Frame σ)) :
    (w.inTurn place m' entries frames).machineAt? place = some m' :=
  machineAt?_setMachine_self hm

/-- What the machine was before does not matter. -/
theorem setMachine_inTurn (m' : Machine σ) (entries : List JournalEntry)
    (frames : List (Frame σ)) :
    (w.setMachine place m').inTurn place m entries frames = w.inTurn place m entries frames := by
  simp [inTurn, setMachine]

theorem write_inTurn (entry : JournalEntry) (entries : List JournalEntry)
    (frames : List (Frame σ)) :
    (w.write entry).inTurn place m entries frames
      = w.inTurn place m (entries ++ [entry]) frames := by
  simp [inTurn, write, setMachine]

/-- A quiet program comes to its end, whatever it is told. It changes nothing but the memory,
and leaves remarks only. -/
theorem leads_of_quiet (sys : System σ) (id : MachineId) (p : Paused) (source : τ)
    (h : program.Quiet) (hm : w.machineAt? place = some m) :
    ∃ (memory : σ) (entries : List JournalEntry) (source' : τ),
      entries.filterMap JournalEntry.call? = [] ∧
      Session.Leads (World.next sys) ⟨w.performing place id p program, source⟩
        ⟨(w.inTurn place { m with cell := { m.cell with memory } } entries []).performing
          place id p (.done .ok), source'⟩ := by
  induction h generalizing w m source with
  | done =>
    refine ⟨m.cell.memory, [], source, rfl, ?_⟩
    rw [inTurn_self hm]
    exact .refl _
  | load _ ih =>
    obtain ⟨memory, entries, source', hentries, hleads⟩ := ih m.cell.memory source hm
    exact ⟨memory, entries, source', hentries,
      ((Session.Leads.refl _).step (next_performing hm)).trans hleads⟩
  | @store memory next _ ih =>
    let m₁ : Machine σ := { m with cell := { m.cell with memory } }
    have hm₁ : (w.setMachine place m₁).machineAt? place = some m₁ := machineAt?_setMachine_self hm
    have hnext : (w.performing place id p (.store memory next)).next sys
        = .step ((w.setMachine place m₁).performing place id p next) := by
      have hm' : (w.performing place id p (.store memory next)).machineAt? place = some m := hm
      rw [next_performing hm, execute, setCell_machine hm']
      rfl
    obtain ⟨memory', entries, source', hentries, hleads⟩ := ih source hm₁
    rw [setMachine_inTurn] at hleads
    exact ⟨memory', entries, source', hentries,
      ((Session.Leads.refl _).step hnext).trans hleads⟩
  | id _ ih =>
    obtain ⟨memory, entries, source', hentries, hleads⟩ := ih id source hm
    exact ⟨memory, entries, source', hentries,
      ((Session.Leads.refl _).step (next_performing hm)).trans hleads⟩
  | assert _ ih =>
    obtain ⟨memory, entries, source', hentries, hleads⟩ := ih source hm
    exact ⟨memory, entries, source', hentries,
      ((Session.Leads.refl _).step (next_performing hm)).trans hleads⟩
  | choose _ ih =>
    obtain ⟨memory, entries, source', hentries, hleads⟩ := ih _ _ hm
    exact ⟨memory, entries, source', hentries,
      ((Session.Leads.refl _).ask (next_performing hm)).trans hleads⟩
  | @remark r next _ ih =>
    have hm₁ : (w.write (.remarked (.machine id) r)).machineAt? place = some m := hm
    obtain ⟨memory, entries, source', hentries, hleads⟩ := ih source hm₁
    rw [write_inTurn] at hleads
    refine ⟨memory, entries ++ [.remarked (.machine id) r], source', ?_, ?_⟩
    · simp [hentries, JournalEntry.call?]
    · exact ((Session.Leads.refl _).step (next_performing hm)).trans hleads

theorem inTurn_inTurn (m' : Machine σ) (entries more : List JournalEntry)
    (frames frames' : List (Frame σ)) :
    (w.inTurn place m' entries frames').inTurn place m more frames
      = w.inTurn place m (more ++ entries) frames := by
  simp [inTurn, setMachine]

/-- A dispatch that waits for an action starts it. -/
theorem carry_paused {stack : Stack} {body : Action σ} (hm : w.machineAt? place = some m)
    (hbody : m.cell.blueprint.action? p.invocation.action = some body) :
    w.carry sys (.machine place id) ⟨stack, .paused p⟩
      = .step { (w.setMachine place { m with cell := { m.cell with stack } }).write
          (.invoked (.machine id) p.invocation) with
        frames := .acting (.machine place id) p {} (.running (body p.invocation)) :: w.frames } := by
  simp only [carry, cell?_machine hm, setCell_machine hm, hbody]
  rfl

/-- A dispatch whose actions are quiet is carried as far as it goes with actions that ask for
nothing. -/
theorem leads_of_reaches (source : τ) {progress last : Progress} {log : List Invocation} {j : Unit}
    (h : Engine.Reaches ⟨b.automaton, .stack⟩ Engine.obliging () progress log j last)
    (hquiet : ∀ x ∈ log, b.Quiet x) (hidle : w.frames = []) (hm : w.machineAt? place = some m)
    (hb : m.cell.blueprint = b)
    (hv : v.next sys = w.carry sys (.machine place m.id) progress) :
    ∃ (memory : σ) (stack : Stack) (entries : List JournalEntry) (v' : World σ) (source' : τ),
      entries.reverse.filterMap JournalEntry.call? = log.map (Prod.mk (.machine m.id)) ∧
      Session.Leads (World.next sys) ⟨v, source⟩ ⟨v', source'⟩ ∧
      v'.next sys = (w.inTurn place { m with cell := ⟨b, memory, stack⟩ } entries []).carry sys
        (.machine place m.id) last := by
  induction h with
  | refl =>
    refine ⟨m.cell.memory, m.cell.stack, [], v, source, rfl, .refl _, ?_⟩
    have hcell : (⟨b, m.cell.memory, m.cell.stack⟩ : Cell σ) = m.cell := by rw [← hb]
    rw [hcell, inTurn_self hm, ← hidle]
    exact hv
  | @answer log j stack p hreaches ih =>
    obtain ⟨hbefore, hx⟩ := List.forall_mem_append.mp hquiet
    obtain ⟨body, hbody, hprogram⟩ := List.forall_mem_singleton.mp hx
    obtain ⟨memory, _, entries, v₁, source₁, hentries, hleads, hv₁⟩ := ih hbefore
    let m₁ : Machine σ := { m with cell := ⟨b, memory, stack⟩ }
    let w₁ : World σ := w.inTurn place m₁ (.invoked (.machine m.id) p.invocation :: entries) []
    have hm₁ : w₁.machineAt? place = some m₁ := machineAt?_inTurn_self hm ..
    have hbegins : v₁.next sys = .step (w₁.performing place m.id p (body p.invocation)) := by
      rw [hv₁, carry_paused (machineAt?_inTurn_self hm ..) hbody]
      simp [w₁, m₁, inTurn, performing, setMachine, write]
    obtain ⟨memory', remarks, source', hremarks, hperforms⟩ :=
      leads_of_quiet sys m.id p source₁ hprogram hm₁
    refine ⟨memory', stack, remarks ++ .invoked (.machine m.id) p.invocation :: entries, _, source',
      ?_, (hleads.step hbegins).trans hperforms, ?_⟩
    · simp [hentries, hremarks, JournalEntry.call?]
    · rw [next_performing (machineAt?_inTurn_self hm₁ ..), inTurn_inTurn]
      rfl

/-- A dispatch that ends well gives up the turn. -/
theorem carry_running {stack : Stack} (hserial : sys.config.serial = true)
    (hidle : w.frames = []) (hm : w.machineAt? place = some m) :
    w.carry sys (.machine place id) (.finish stack .running)
      = .returned ((w.setMachine place { m with
          cell := { m.cell with stack }
          state := stack.top? }).requeue place) (.ok ()) := by
  have hset : (w.setMachine place { m with cell := { m.cell with stack } }).machineAt? place
      = some { m with cell := { m.cell with stack } } := machineAt?_setMachine_self hm
  simp only [carry, cell?_machine hm, setCell_machine hm, Progress.finish, conclude, hset,
    concludeMachine, hserial, if_true, setMachine_setMachine]
  exact endRun_of_idle hidle

end Turns

end World

/-! ## One turn after the other -/

/-- If there is a step bound, it leaves room for so many steps. -/
def System.Allows (sys : System σ) (steps : Nat) : Prop :=
  ∀ bound, sys.config.testing.stepBound = some bound → steps ≤ bound

theorem System.Allows.mono {sys : System σ} {steps fewer : Nat} (h : sys.Allows steps)
    (hle : fewer ≤ steps) : sys.Allows fewer :=
  fun bound hbound => Nat.le_trans hle (h bound hbound)

namespace World

section Turns

variable [ChoiceSource τ] {sys : System σ} {b : Blueprint σ} {w : World σ} {place : Place}
  {ids : List MachineId} {m m₁ : Machine σ} {source : τ}

theorem nextUntilQuiescent_of_turn (hbetween : Between ids w) (hpending : w.pending = [place])
    (hroom : sys.Allows (w.steps + 1)) : w.nextUntilQuiescent sys = .step (w.beginTurn 0) := by
  have hmark : w.markBound sys.config = w := by
    unfold markBound
    split
    · rename_i bound hbound
      have hlt : w.steps < bound := hroom bound hbound
      simp [Nat.not_le.mpr hlt]
    · rfl
  simp [nextUntilQuiescent, hbetween.idle, hasFailed, hbetween.calm.1, hmark, hbetween.calm.2,
    hpending, schedulePending]

/-- The world without the run that is pending, which has its turn. -/
def begun (w : World σ) : World σ :=
  { w with pending := [], steps := w.steps + 1, frames := [] }

/-- A turn begins with the dispatch of its machine. -/
theorem next_beginTurn (hbetween : Between ids w) (hpending : w.pending = [place])
    (hm : w.machineAt? place = some m) :
    (w.beginTurn 0).next sys = w.begun.beginDispatch sys place m := by
  have hplace : w.pending[0]? = some place := by simp [hpending]
  have hbegins : w.beginTurn 0 = { w.begun with frames := [.ready place] } := by
    rw [beginTurn_eq hplace hbetween.idle, hpending]
    rfl
  have hm' : ({ w.begun with frames := [.ready place] } : World σ).machineAt? place = some m := hm
  simp only [World.next, hbegins, hm']
  rfl

/-- A turn leads to where its small steps end. -/
theorem leads_of_returned (hbetween : Between ids w) (hpending : w.pending = [place])
    (hroom : sys.Allows (w.steps + 1)) {v w' : World σ} {source' : τ}
    (hleads : Session.Leads (World.next sys) ⟨w.beginTurn 0, source⟩ ⟨v, source'⟩)
    (hlast : v.next sys = .returned w' (.ok ())) :
    Session.Leads (World.nextUntilQuiescent sys) ⟨w, source⟩ (⟨w', source'⟩ : Session σ τ) := by
  have hbegin : Session.Leads (World.nextUntilQuiescent sys) ⟨w, source⟩
      (⟨w.beginTurn 0, source⟩ : Session σ τ) :=
    (Session.Leads.refl _).step (nextUntilQuiescent_of_turn hbetween hpending hroom)
  refine (hbegin.trans hleads.untilQuiescent).step ?_
  have hinProgress : v.frames ≠ [] := frames_ne_nil_of_next hlast (by simp)
  rw [nextUntilQuiescent_of_frames hinProgress, hlast]

/-- A turn whose dispatch ends well without asking for anything. -/
theorem leads_of_turn (source : τ) (hserial : sys.config.serial = true) (hbetween : Between ids w)
    (hpending : w.pending = [place]) (hm : w.machineAt? place = some m)
    (hroom : sys.Allows (w.steps + 1)) {progress : Progress} {log : List Invocation}
    {stack : Stack} {j : Unit}
    (hbegins : ∀ v : World σ, v.failure = none → v.beginDispatch sys place m
      = (v.setMachine place m₁).carry sys (.machine place m₁.id) progress)
    (hb : m₁.cell.blueprint = b)
    (h : Engine.Reaches ⟨b.automaton, .stack⟩ Engine.obliging () progress log j
      (.finish stack .running))
    (hquiet : ∀ x ∈ log, b.Quiet x) :
    ∃ (memory : σ) (entries : List JournalEntry) (source' : τ),
      entries.reverse.filterMap JournalEntry.call? = log.map (Prod.mk (.machine m₁.id)) ∧
      Session.Leads (World.nextUntilQuiescent sys) ⟨w, source⟩
        ⟨w.turned 0 place { m₁ with cell := ⟨b, memory, stack⟩, state := stack.top? } entries true,
          source'⟩ := by
  have hplace : w.pending[0]? = some place := by simp [hpending]
  have hm' : w.begun.machineAt? place = some m := hm
  have hm₁ : (w.begun.setMachine place m₁).machineAt? place = some m₁ :=
    machineAt?_setMachine_self hm'
  have hnext := (next_beginTurn hbetween hpending hm).trans (hbegins w.begun hbetween.calm.1)
  obtain ⟨memory, _, entries, v, source', hentries, hleads, hv⟩ :=
    leads_of_reaches source h hquiet rfl hm₁ hb hnext
  refine ⟨memory, entries, source', hentries,
    leads_of_returned hbetween hpending hroom hleads ?_⟩
  rw [hv, setMachine_inTurn, carry_running hserial rfl (machineAt?_inTurn_self hm' ..),
    turned_eq hplace hbetween.idle, hpending]
  simp [begun, inTurn, requeue, setMachine, hbetween.idle]

end Turns

end World

namespace Session

variable [ChoiceSource τ]

/-- So many turns lead from one session to the other, and these are the actions of the machine
that are invoked. No others are. -/
structure Advances (sys : System σ) (id : MachineId) (turns : Nat) (log : List Invocation)
    (s t : Session σ τ) : Prop where
  leads : Leads (World.nextUntilQuiescent sys) s t
  steps : t.world.steps = s.world.steps + turns
  calls : t.world.calls = s.world.calls ++ log.map (Prod.mk (.machine id))

namespace Advances

variable {sys : System σ} {id : MachineId} {turns more : Nat} {log later : List Invocation}
  {s t u : Session σ τ}

theorem refl (s : Session σ τ) : Advances sys id 0 [] s s :=
  ⟨.refl s, rfl, by simp⟩

theorem trans (h : Advances sys id turns log s t) (h' : Advances sys id more later t u) :
    Advances sys id (turns + more) (log ++ later) s u where
  leads := h.leads.trans h'.leads
  steps := by rw [h'.steps, h.steps, Nat.add_assoc]
  calls := by rw [h'.calls, h.calls, List.map_append, List.append_assoc]

end Advances

end Session

end PushdownActors
