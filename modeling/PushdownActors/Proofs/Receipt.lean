-- SUMMARY: A receive returns the first event of its types, whether it was there already or came while the receive was blocked.
import PushdownActors.Proofs.Delivery
import PushdownActors.Proofs.Layers

/-!
# Receipt

A receive takes its event from the mailbox or, if none of its types is there, blocks until
one is handed to it. While it is blocked other machines have turns above its frame, and some
of what they send is for the machine that waits. Which of the events come before the call and
which come during it makes no difference: the answer is the first event with one of the
types, of those in the mailbox and those that are accepted until the call returns, and the
others stay in their order. If the receive gives up there was no such event.

The event that ends the wait is not always the last to come. It stays in a slot of its own
until the frame of the receive is on top again, and what is sent meanwhile goes to the
mailbox, also if it is of one of the types.
-/

namespace PushdownActors

/-! ## The first event of some types -/

/-- The event is the first of these that has one of the types, and the others are left. -/
def Picks (types : List EventType) (events : List Event) (e : Event) (left : List Event) : Prop :=
  ∃ before after, events = before ++ e :: after ∧ left = before ++ after ∧
    types.contains e.type = true ∧ ∀ x ∈ before, types.contains x.type = false

/-- None of the events has one of the types. -/
def Lacks (types : List EventType) (events : List Event) : Prop :=
  ∀ e ∈ events, types.contains e.type = false

section Picks

variable {types : List EventType} {events left more : List Event} {e : Event}

theorem Picks.append (h : Picks types events e left) (more : List Event) :
    Picks types (events ++ more) e (left ++ more) := by
  obtain ⟨before, after, rfl, rfl, htype, hbefore⟩ := h
  exact ⟨before, after ++ more, by simp, by simp, htype, hbefore⟩

/-- The event that is missing comes. -/
theorem Lacks.picks (h : Lacks types events) (htype : types.contains e.type = true) :
    Picks types (events ++ [e]) e events :=
  ⟨events, [], rfl, (List.append_nil events).symm, htype, h⟩

theorem Lacks.append (h : Lacks types events) (hmore : Lacks types more) :
    Lacks types (events ++ more) :=
  List.forall_mem_append.mpr ⟨h, hmore⟩

theorem picks_of_removeFirst (h : removeFirst types events = some (e, left)) :
    Picks types events e left := by
  induction events generalizing left with
  | nil => contradiction
  | cons first rest ih =>
    unfold removeFirst at h
    split at h
    · rename_i hfirst
      cases h
      exact ⟨[], rest, rfl, rfl, hfirst, List.forall_mem_nil _⟩
    · rename_i hfirst
      obtain ⟨⟨taken, kept⟩, htaken, heq⟩ := Option.map_eq_some_iff.mp h
      cases heq
      obtain ⟨before, after, rfl, rfl, htype, hbefore⟩ := ih htaken
      exact ⟨first :: before, after, rfl, rfl, htype,
        List.forall_mem_cons.mpr ⟨Bool.eq_false_iff.mpr hfirst, hbefore⟩⟩

end Picks

/-! ## The machine that waits -/

/-- A machine that is blocked in a receive, with the events that were in its mailbox or have
come since. -/
inductive Machine.Awaits (types : List EventType) (events : List Event) (m : Machine σ) : Prop
  /-- None of them is for the receive. -/
  | lacking (hwaiting : m.waiting = some types) (hreceived : m.received = none)
      (hmailbox : m.mailbox = events) (hlacks : Lacks types events)
  /-- The receive has got its event, and does not know it yet. -/
  | served {e : Event} (hwaiting : m.waiting = none) (hreceived : m.received = some e)
      (hpicks : Picks types events e m.mailbox)

/-- A machine that was answered by a receive, out of these events. It waits no more. -/
structure Machine.Returned (types : List EventType) (events : List Event) (m : Machine σ)
    (answer : Except Failure Event) : Prop where
  waiting : m.waiting = none
  received : m.received = none
  mailbox : match answer with
    | .ok e => Picks types events e m.mailbox
    | .error _ => Lacks types events ∧ m.mailbox = events

/-- What comes to a machine while others run. -/
inductive Machine.Takes (m : Machine σ) : List Event → Machine σ → Prop
  | nothing : Takes m [] m
  | handed {types : List EventType} {e : Event} (hwaiting : m.waiting = some types)
      (htype : types.contains e.type = true) :
      Takes m [e] { m with waiting := none, received := some e }
  | queued {e : Event} (hwaiting : (m.waiting.getD []).contains e.type = false) :
      Takes m [e] { m with mailbox := m.mailbox ++ [e], active := true }

/-- Whatever comes, the machine waits on. -/
theorem Machine.Awaits.takes {m m' : Machine σ} {types : List EventType} {events more : List Event}
    (h : m.Awaits types events) (htakes : m.Takes more m') : m'.Awaits types (events ++ more) := by
  cases htakes with
  | nothing =>
    rw [List.append_nil]
    exact h
  | handed hwaiting htype =>
    cases h with
    | lacking hwaiting' _ hmailbox hlacks =>
      cases hwaiting.symm.trans hwaiting'
      exact .served rfl rfl (hmailbox ▸ hlacks.picks htype)
    | served hnone => simp [hnone] at hwaiting
  | @queued e hwaiting =>
    cases h with
    | lacking hwaiting' hreceived hmailbox hlacks =>
      have hother : types.contains e.type = false := by simpa [hwaiting'] using hwaiting
      exact .lacking hwaiting' hreceived (congrArg (· ++ _) hmailbox)
        (hlacks.append (List.forall_mem_singleton.mpr hother))
    | served hnone hreceived hpicks => exact .served hnone hreceived (hpicks.append _)

namespace World

/-! ## Steps of other machines -/

section Elsewhere

variable {sys : System σ} {w w' : World σ} {place other : Place} {m : Machine σ} {actor : Actor}
  {seen : List Traffic}

theorem machineAt?_setCell_of_ne (hother : actor.place? ≠ some place) (cell : Cell σ) :
    (w.setCell actor cell).machineAt? place = w.machineAt? place := by
  unfold setCell
  split
  · split
    · exact machineAt?_setMachine_of_ne fun hsame => hother (congrArg some hsame)
    · rfl
  · split <;> rfl

/-- However the dispatch of another actor is carried on, the machine stays as it is. -/
theorem Carried.machineAt? {progress : Progress} (h : Carried w actor progress w')
    (hother : actor.place? ≠ some place) : w'.machineAt? place = w.machineAt? place := by
  cases actor with
  | monitor type => exact (SameRuns.carried h).machineAt? place
  | machine other id =>
    have hset {m' : Machine σ} : (w.setMachine other m').machineAt? place = w.machineAt? place :=
      machineAt?_setMachine_of_ne fun hsame => hother (congrArg some hsame)
    cases h with
    | acting => exact machineAt?_setCell_of_ne hother _
    | yielded | halted => exact hset
    | aborted =>
      unfold abort
      dsimp only
      split <;> exact hset

/-- The machine has taken what was accepted for it, and is as it was otherwise. -/
def Lets (place : Place) (m : Machine σ) (seen : List Traffic) (w : World σ) : Prop :=
  ∃ m', w.machineAt? place = some m' ∧ m.Takes (acceptedAt seen place) m'

theorem Lets.same (h : w.machineAt? place = some m) (hseen : acceptedAt seen place = []) :
    Lets place m seen w :=
  ⟨m, h, hseen ▸ .nothing⟩

theorem Delivered.lets {e : Event} (h : Delivered w e seen w')
    (hm : w.machineAt? place = some m) : Lets place m seen w' := by
  cases h with
  | refused => exact .same hm rfl
  | @handed other m' types hm' _ hwaiting htype =>
    by_cases hplace : other = place
    · subst hplace
      cases hm.symm.trans hm'
      exact ⟨_, machineAt?_setMachine_self hm, acceptedAt_accepted ▸ .handed hwaiting htype⟩
    · exact .same ((machineAt?_setMachine_of_ne hplace).trans hm)
        (acceptedAt_eq_nil (by simpa [Traffic.place] using hplace))
  | @queued other m' hm' _ hwaiting _ | @woken other m' hm' _ hwaiting _ =>
    by_cases hplace : other = place
    · subst hplace
      cases hm.symm.trans hm'
      exact ⟨_, machineAt?_setMachine_self hm, acceptedAt_accepted ▸ .queued hwaiting⟩
    · exact .same ((machineAt?_setMachine_of_ne hplace).trans hm)
        (acceptedAt_eq_nil (by simpa [Traffic.place] using hplace))

/-- A step of another machine, or of a monitor, leaves the machine alone but for what it sends
to it. -/
theorem Transition.lets (ht : Transition sys w seen w') (hm : w.machineAt? place = some m)
    (htop : ∀ f rest, w.frames = f :: rest → f.place? ≠ some place) : Lets place m seen w' := by
  have hne {other : Place} {f : Frame σ} {rest : List (Frame σ)} (hframes : w.frames = f :: rest)
      (hf : f.place? = some other) : other ≠ place := fun hsame => htop f rest hframes (hsame ▸ hf)
  have hset {other : Place} {m' : Machine σ} (hother : other ≠ place) :
      (w.setMachine other m').machineAt? place = some m :=
    (machineAt?_setMachine_of_ne hother).trans hm
  have hscan {other : Place} {m' : Machine σ} (hother : other ≠ place) :
      acceptedAt (m'.scan other) place = [] := by
    apply acceptedAt_eq_nil
    intro entry hentry
    rw [Machine.place_of_mem_scan hentry]
    exact hother
  cases ht with
  | start hframes _ _ hcarried =>
    exact .same ((hcarried.machineAt? (htop _ _ hframes)).trans (hset (hne hframes rfl))) rfl
  | dispatch hframes _ _ _ _ hcarried =>
    exact .same ((hcarried.machineAt? (htop _ _ hframes)).trans (hset (hne hframes rfl)))
      (hscan (hne hframes rfl))
  | rest hframes => exact .same (hset (hne hframes rfl)) (hscan (hne hframes rfl))
  | unselectable hframes =>
    refine .same ?_ rfl
    unfold abort
    dsimp only
    split <;> exact hset (hne hframes rfl)
  | stop hframes | block hframes | take hframes | resume hframes =>
    exact .same (hset (hne hframes rfl)) rfl
  | answer hframes _ hcarried =>
    exact .same ((hcarried.machineAt? (htop _ _ hframes)).trans hm) rfl
  | panic | goOn | remark => exact .same hm rfl
  | store hframes _ =>
    exact .same ((machineAt?_setCell_of_ne (htop _ _ hframes) _).trans hm) rfl
  | send hframes hdeliver => exact (delivered_of_deliver hdeliver).lets hm
  | create hframes hcreate =>
    obtain ⟨blueprint, registry, rfl⟩ := create_eq_ok hcreate
    have hlt : place < w.machines.length := (List.getElem?_eq_some_iff.mp hm).1
    exact .same ((List.getElem?_append_left hlt).trans hm) rfl
  | notify hframes _ hcarried =>
    exact .same (((SameRuns.carried hcarried).machineAt? place).trans hm) rfl
  | giveUp hframes _ _ hgiven =>
    have hgone : World.machineAt? _ place = some m :=
      (machineAt?_congr hgiven.machines place).trans hm
    exact .same ((machineAt?_setMachine_of_ne (hne hframes rfl)).trans hgone) rfl
  | turn hframes =>
    refine .same ?_ rfl
    rw [machineAt?_congr (w := w)]
    · exact hm
    · unfold beginTurn beginRun
      split <;> exact markBound_machines w sys.config

end Elsewhere

/-! ## The call and its return -/

/-- A receive that an action of a machine calls. -/
structure Reception (σ : Type) where
  place : Place
  id : MachineId
  paused : Paused
  context : Context
  types : List EventType
  next : Except Failure Event → Program σ Verdict
  /-- The frames beneath the one of the action. -/
  rest : List (Frame σ)

namespace Reception

variable (r : Reception σ)

def actor : Actor := .machine r.place r.id

/-- The frames when it is called. -/
def called : List (Frame σ) :=
  .acting r.actor r.paused r.context (.running (.request (.receive r.types) r.next)) :: r.rest

/-- The frames of a call that is blocked, without those above. -/
def blocked : List (Frame σ) :=
  .acting r.actor r.paused r.context (.receiving r.types r.next) :: r.rest

/-- The frames when it has returned. -/
def returned (answer : Except Failure Event) : List (Frame σ) :=
  .acting r.actor r.paused (r.context.note answer) (.running (r.next answer)) :: r.rest

/-- What has happened to events, and the world, since the call in a world: it has just been
made, or was blocked all along until the last step. -/
inductive Lasts (sys : System σ) (w₀ : World σ) : List Traffic → World σ → Prop
  | called {w : World σ} (hnext : (w₀.next sys).LeadsTo w) : Lasts sys w₀ w₀.traffic w
  | blocked {w w' : World σ} {seen : List Traffic} (h : Lasts sys w₀ seen w)
      (hblocked : r.blocked <:+ w.frames) (hnext : (w.next sys).LeadsTo w') :
      Lasts sys w₀ (seen ++ w.traffic) w'

/-- How the call stands, with the events that were in the mailbox or have come since: it is
blocked, or it has returned, or its run was ended by a panic. -/
inductive Stands (sys : System σ) (events : List Event) (w : World σ) : Prop
  | blocked {m : Machine σ} (hframes : r.blocked <:+ w.frames)
      (hm : w.machineAt? r.place = some m) (hawaits : m.Awaits r.types events)
  | returned {m : Machine σ} (answer : Except Failure Event) (hframes : w.frames = r.returned answer)
      (hm : w.machineAt? r.place = some m) (hreturned : m.Returned r.types events answer)
  | panicked (hpropagate : sys.config.propagatePanics = true) (hframes : w.frames = [])

end Reception

section Receipt

variable {sys : System σ} {r : Reception σ} {w w₀ w' : World σ} {m : Machine σ}
  {log seen : List Traffic} {events : List Event}

/-- A call that has returned is not blocked. -/
theorem Reception.not_blocked_of_returned {answer : Except Failure Event}
    (hreturned : w.frames = r.returned answer) : ¬ r.blocked <:+ w.frames := by
  rintro ⟨above, habove⟩
  rw [hreturned] at habove
  have hnil : above = [] := by
    have hlength := congrArg List.length habove
    simpa [Reception.blocked, returned] using hlength
  simp [hnil, Reception.blocked, returned] at habove

theorem Reception.Lasts.run (h : r.Lasts sys w₀ seen w) (hrun : Run sys w₀ log) :
    Run sys w (log ++ seen) := by
  induction h with
  | called hnext => exact hrun.next hnext
  | blocked _ _ hnext ih =>
    rw [← List.append_assoc]
    exact ih.next hnext

/-- The call takes what is in the mailbox, or blocks. -/
theorem Reception.stands_of_called (hcalled : w.frames = r.called)
    (hm : w.machineAt? r.place = some m) (hfree : m.waiting = none ∧ m.received = none)
    (h : (w.next sys).LeadsTo w') :
    acceptedAt w.traffic r.place = [] ∧ r.Stands sys m.mailbox w' := by
  have hcell : w.cell? (.machine r.place r.id) = some m.cell := by simp [cell?, hm]
  cases htake : removeFirst r.types m.mailbox with
  | some taken =>
    obtain ⟨e, left⟩ := taken
    have htraffic : w.traffic = [.received r.place e] := by
      simp [traffic, hcalled, called, actor, hm, htake]
    have hnext : w.next sys = .step { w.setMachine r.place { m with mailbox := left } with
        frames := r.returned (.ok e) } := by
      simp only [World.next, hcalled, called, hcell, execute, serve, actor, hm, htake]
      rfl
    rw [hnext] at h
    obtain rfl := Move.leadsTo_step.mp h
    refine ⟨by rw [htraffic, acceptedAt_received], ?_⟩
    exact .returned (.ok e) rfl (machineAt?_setMachine_self hm)
      ⟨hfree.1, hfree.2, picks_of_removeFirst htake⟩
  | none =>
    have htraffic : w.traffic = [] := by
      simp [traffic, hcalled, called, actor, hm, htake]
    have hnext : w.next sys = .step { w.setMachine r.place { m with waiting := some r.types } with
        frames := r.blocked } := by
      simp only [World.next, hcalled, called, hcell, execute, serve, actor, hm, htake]
      rfl
    rw [hnext] at h
    obtain rfl := Move.leadsTo_step.mp h
    refine ⟨by rw [htraffic]; rfl, ?_⟩
    exact .blocked (List.suffix_refl _) (machineAt?_setMachine_self hm)
      (.lacking rfl hfree.2 rfl (not_contains_of_removeFirst htake))

/-- Once its frame is on top, a call that is blocked returns, or lets another run have a turn. -/
theorem Reception.stands_of_top (hserial : sys.config.serial = true) (hblocked : w.frames = r.blocked)
    (hm : w.machineAt? r.place = some m) (hawaits : m.Awaits r.types events)
    (h : (w.next sys).LeadsTo w') :
    acceptedAt w.traffic r.place = [] ∧ r.Stands sys events w' := by
  cases hawaits with
  | @served e hwaiting hreceived hpicks =>
    have htraffic : w.traffic = [.received r.place e] := by
      simp [traffic, hblocked, blocked, actor, hm, hreceived]
    rw [next_of_received hblocked hm hreceived] at h
    obtain rfl := Move.leadsTo_step.mp h
    refine ⟨by rw [htraffic, acceptedAt_received], ?_⟩
    exact .returned (.ok e) rfl (machineAt?_setMachine_self hm) ⟨hwaiting, rfl, hpicks⟩
  | lacking hwaiting hreceived hmailbox hlacks =>
    have htraffic : w.traffic = [] := by
      simp [traffic, hblocked, blocked, actor, hm, hreceived]
    refine ⟨by rw [htraffic]; rfl, ?_⟩
    have hgone {given : World σ} {f : Failure} (hmachines : given.machines = w.machines)
        (h : (given.giveUp r.rest r.actor r.paused r.context r.next r.place m f).LeadsTo w') :
        r.Stands sys events w' := by
      have hm' : given.machineAt? r.place = some m := (machineAt?_congr hmachines _).trans hm
      obtain rfl := reply_leadsTo.mp h
      exact .returned (.error f) rfl (machineAt?_setMachine_self hm')
        ⟨rfl, hreceived, hlacks, hmailbox⟩
    rw [next_eq_await hblocked hm] at h
    unfold await at h
    simp only [hreceived, hserial, Bool.not_true, Bool.false_eq_true, if_false] at h
    split at h
    · exact hgone rfl h
    · split at h
      · exact hgone (markBound_machines w sys.config) h
      · split at h
        · exact hgone (markBound_machines w sys.config) h
        · obtain ⟨index, _, rfl⟩ := schedulePending_leadsTo h
          have hframes : (w.markBound sys.config).frames = r.blocked :=
            (markBound_frames w sys.config).trans hblocked
          have hm' : (w.markBound sys.config).machineAt? r.place = some m :=
            (machineAt?_congr (markBound_machines w sys.config) _).trans hm
          refine .blocked ?_ ?_ (.lacking hwaiting hreceived hmailbox hlacks)
          · unfold beginTurn beginRun
            split
            · exact ⟨[_], congrArg (_ :: ·) hframes.symm⟩
            · exact ⟨[], hframes.symm⟩
          · unfold beginTurn beginRun
            split <;> exact hm'

/-- While other runs go on above it the call stays blocked, and the machine takes what comes. -/
theorem Reception.stands_of_above (hserial : sys.config.serial = true) (hrun : Run sys w log)
    {top : Frame σ} {above : List (Frame σ)} (hframes : w.frames = top :: (above ++ r.blocked))
    (hm : w.machineAt? r.place = some m) (hawaits : m.Awaits r.types events)
    (h : (w.next sys).LeadsTo w') :
    r.Stands sys (events ++ acceptedAt w.traffic r.place) w' := by
  -- The frame on top is one of another machine, since this one has its frame beneath.
  have htop : ∀ f rest, w.frames = f :: rest → f.place? ≠ some r.place := by
    intro f rest hf hplace
    obtain ⟨lost, haccounted, _⟩ := hrun.keeping hserial
    have hbeneath := haccounted.place?_ne_of_frames hf hplace
    obtain ⟨rfl, rfl⟩ := List.cons.inj (hf.symm.trans hframes)
    exact hbeneath _ (List.mem_append_right above List.mem_cons_self) rfl
  obtain ⟨m', hm', htakes⟩ := (next_leadsTo hserial h).lets hm htop
  have hawaits' := hawaits.takes htakes
  rcases next_layered hframes h with (⟨new, hnew⟩ | ⟨hbelow, result, hgiven⟩) | ⟨hpropagate, hnone⟩
  · exact .blocked ⟨new ++ above, by simp [hnew]⟩ hm' hawaits'
  · cases above with
    | nil => cases hbelow
    | cons first above =>
      obtain ⟨-, rfl⟩ := List.cons.inj hbelow
      exact .blocked ⟨_ :: above, hgiven.symm⟩ hm' hawaits'
  · exact .panicked hpropagate hnone

/-- From the call on, as long as it is blocked, the call stands as it should. -/
theorem Reception.Lasts.stands (hserial : sys.config.serial = true) (hrun : Run sys w₀ log)
    (hcalled : w₀.frames = r.called) (hm : w₀.machineAt? r.place = some m)
    (h : r.Lasts sys w₀ seen w) : r.Stands sys (m.mailbox ++ acceptedAt seen r.place) w := by
  induction h with
  | called hnext =>
    obtain ⟨lost, haccounted, hkeeping⟩ := hrun.keeping hserial
    have hfree := (hkeeping.keeps r.place m hm).clear
      (haccounted.not_heldUp hcalled rfl rfl)
    obtain ⟨hnone, hstands⟩ := stands_of_called hcalled hm hfree hnext
    rw [hnone, List.append_nil]
    exact hstands
  | @blocked w w' seen hlasts hblocked hnext ih =>
    rw [acceptedAt_append, ← List.append_assoc]
    cases ih with
    | blocked _ hm' hawaits =>
      obtain ⟨above, habove⟩ := hblocked
      cases above with
      | nil =>
        obtain ⟨hnone, hstands⟩ := stands_of_top hserial habove.symm hm' hawaits hnext
        rw [hnone, List.append_nil]
        exact hstands
      | cons top above =>
        exact stands_of_above hserial (hlasts.run hrun) habove.symm hm' hawaits hnext
    | returned answer hreturned => exact absurd hblocked (not_blocked_of_returned hreturned)
    | panicked _ hnone =>
      obtain ⟨above, habove⟩ := hblocked
      simp [hnone, Reception.blocked] at habove

end Receipt

end World

/-! ## Results -/

namespace Rendezvous

/-- After so many steps from the turn of the waiter on. -/
def after (steps : Nat) : World Unit := (World.trail system steps (opened, [])).1

/-- The receive of the waiter. -/
def reception : World.Reception Unit where
  place := 0
  id := ⟨"Waiter", 1⟩
  paused := ⟨⟨"await", .entry, ⟨"Ready"⟩, .start none⟩, .apply⟩
  context := {}
  types := [go]
  next := fun answer => Body.toProgram (Body.demand answer >>= fun _ => pure ())
  rest := []

theorem called : (after 1).frames = reception.called := rfl

/-- The other machine has sent both events meanwhile, the second one to the receive. -/
theorem lasts : reception.Lasts system (after 1)
    [.accepted 0 (.message later none), .accepted 0 (.message go none),
      .received 0 (.message go none)] (after 8) := by
  have hcalled : reception.Lasts system (after 1) [] (after 2) := .called .step
  have hturn : reception.Lasts system (after 1) [] (after 3) := hcalled.blocked ⟨[], rfl⟩ .step
  have hstart : reception.Lasts system (after 1) [] (after 4) := hturn.blocked ⟨[_], rfl⟩ .step
  have hlater : reception.Lasts system (after 1) [.accepted 0 (.message later none)] (after 5) :=
    hstart.blocked ⟨[_], rfl⟩ .step
  have hgo : reception.Lasts system (after 1)
      [.accepted 0 (.message later none), .accepted 0 (.message go none)] (after 6) :=
    hlater.blocked ⟨[_], rfl⟩ .step
  have hdone : reception.Lasts system (after 1)
      [.accepted 0 (.message later none), .accepted 0 (.message go none)] (after 7) :=
    hgo.blocked ⟨[_], rfl⟩ .step
  exact hdone.blocked ⟨[], rfl⟩ .step

theorem returned : (after 8).frames = reception.returned (.ok (.message go none)) := rfl

end Rendezvous

namespace World

section Results

variable {sys : System σ} {r : Reception σ} {w w₀ : World σ} {m : Machine σ}
  {log seen : List Traffic}

/-- A receive returns the first event with one of its types, of those in the mailbox and
those accepted before it returns, and leaves all others in their order. If it returns with a
failure there was no such event, and nothing is missing. Either way the machine waits no
longer. It has not returned only as long as its frame is there, blocked, or if a panic was
let through. -/
theorem Reception.Lasts.receives_first (hserial : sys.config.serial = true) (hrun : Run sys w₀ log)
    (hcalled : w₀.frames = r.called) (hm : w₀.machineAt? r.place = some m)
    (h : r.Lasts sys w₀ seen w) :
    r.blocked <:+ w.frames ∨
      (∃ answer m', w.frames = r.returned answer ∧ w.machineAt? r.place = some m' ∧
        m'.waiting = none ∧ m'.received = none ∧
        match answer with
        | .ok e => Picks r.types (m.mailbox ++ acceptedAt seen r.place) e m'.mailbox
        | .error _ => Lacks r.types (m.mailbox ++ acceptedAt seen r.place) ∧
            m'.mailbox = m.mailbox ++ acceptedAt seen r.place) ∨
      sys.config.propagatePanics = true ∧ w.frames = [] := by
  cases h.stands hserial hrun hcalled hm with
  | blocked hframes => exact .inl hframes
  | returned answer hframes hm' hreturned =>
    exact .inr (.inl ⟨answer, _, hframes, hm', hreturned.waiting, hreturned.received,
      hreturned.mailbox⟩)
  | panicked hpropagate hframes => exact .inr (.inr ⟨hpropagate, hframes⟩)

/-- The waiter gets its event past the one that came before. -/
theorem Reception.Lasts.receives_first_rendezvous :
    Run Rendezvous.system (Rendezvous.after 1) [] ∧
      (Rendezvous.after 1).frames = Rendezvous.reception.called ∧
      ((Rendezvous.after 1).machineAt? 0).map (·.mailbox) = some [] ∧
      ∃ answer m, (Rendezvous.after 8).frames = Rendezvous.reception.returned answer ∧
        (Rendezvous.after 8).machineAt? 0 = some m ∧ m.waiting = none ∧ m.received = none ∧
        match answer with
        | .ok e =>
          Picks [Rendezvous.go] [.message Rendezvous.later none, .message Rendezvous.go none] e
            m.mailbox
        | .error _ =>
          Lacks [Rendezvous.go] [.message Rendezvous.later none, .message Rendezvous.go none] ∧
            m.mailbox = [.message Rendezvous.later none, .message Rendezvous.go none] := by
  have hrun : Run Rendezvous.system (Rendezvous.after 1) [] := Rendezvous.run_opened.trail 1
  have hexact := Reception.Lasts.receives_first rfl hrun Rendezvous.called rfl Rendezvous.lasts
  refine ⟨hrun, rfl, rfl, ?_⟩
  rcases hexact with hblocked | hreturned | ⟨_, hnone⟩
  · exact absurd hblocked (Reception.not_blocked_of_returned Rendezvous.returned)
  · exact hreturned
  · cases hnone

end Results

end World

end PushdownActors
