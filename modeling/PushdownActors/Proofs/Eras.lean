-- SUMMARY: Eras between resets: identities are given out once, and what a world shows has come about since the last reset.
import Mathlib.Data.List.Nodup
import PushdownActors.Proofs.Delivery
import PushdownActors.Proofs.Kinds
import PushdownActors.Proofs.Seclusion
import PushdownActors.Proofs.StepBound

/-!
# Eras

A reset ends an era. The counter of identities is all that goes on, so over all eras the
identities are numbered one after the other, and as long as the counter has not come round
no identity is given out twice.

Everything else that can be seen of a world belongs to the present era: its machines are
those created since the last reset, and with them the runs that are counted or take steps,
the events that are consumed, the monitors, and what is recorded of the run as a whole. An
identity from an earlier era stands for nobody.
-/

namespace PushdownActors

/-! ## Numbers -/

/-- The identities have the numbers from one on, and this is the last. -/
structure Numbered (ids : List MachineId) (last : UInt64) : Prop where
  values : ids.map (·.value) = (List.range ids.length).map fun k => UInt64.ofNat (k + 1)
  last : last = UInt64.ofNat ids.length

namespace Numbered

variable {ids : List MachineId} {last : UInt64} {id : MachineId}

theorem nil : Numbered [] 0 := ⟨rfl, rfl⟩

theorem snoc (h : Numbered ids last) (hid : id.value = last + 1) :
    Numbered (ids ++ [id]) (last + 1) where
  values := by
    have hvalue : id.value = UInt64.ofNat (ids.length + 1) := by
      simp [hid, h.last, UInt64.ofNat_add]
    simp [List.range_succ, h.values, hvalue]
  last := by simp [h.last, UInt64.ofNat_add]

/-- The numbers are not used up as long as there are fewer identities. -/
theorem nodup (h : Numbered ids last) (hfew : ids.length < UInt64.size) : ids.Nodup := by
  apply List.Nodup.of_map (fun id : MachineId => id.value)
  simp only [h.values]
  apply List.Nodup.map_on _ List.nodup_range
  intro k hk l hl hsame
  have hk : k + 1 < UInt64.size := Nat.lt_of_le_of_lt (List.mem_range.mp hk) hfew
  have hl : l + 1 < UInt64.size := Nat.lt_of_le_of_lt (List.mem_range.mp hl) hfew
  have hnat : (UInt64.ofNat (k + 1)).toNat = (UInt64.ofNat (l + 1)).toNat :=
    congrArg UInt64.toNat hsame
  simp only [UInt64.toNat_ofNat_of_lt' hk, UInt64.toNat_ofNat_of_lt' hl] at hnat
  exact Nat.succ.inj hnat

end Numbered

/-! ## What happens in an era -/

/-- What has happened in a world since it was last reset. -/
structure Era where
  /-- The identities that creating machines has answered with. -/
  issued : List MachineId := []
  /-- The uses that were made of types, as a machine or as a monitor. -/
  uses : List Use := []
  /-- How many pending runs have begun. -/
  turns : Nat := 0
  /-- The failures that have come to be recorded. -/
  failures : List Failure := []
  traffic : List Traffic := []

namespace Era

def append (era later : Era) : Era where
  issued := era.issued ++ later.issued
  uses := era.uses ++ later.uses
  turns := era.turns + later.turns
  failures := era.failures ++ later.failures
  traffic := era.traffic ++ later.traffic

instance : Append Era := ⟨append⟩

end Era

namespace World

variable {sys : System σ}

/-- The identity with which the next small step answers an action that creates a machine. -/
def issue? (w : World σ) (catalog : Catalog σ) : Option MachineId :=
  match w.frames with
  | .acting (.machine ..) _ _ (.running (.request (.create type payload) _)) :: _ =>
    (w.create catalog type payload).toOption.map Prod.fst
  | _ => none

/-- A small step, or an operation from outside while nothing is in progress, with the
identity that it gives out, the use that it makes of a type, and what it does with
events. -/
inductive Advances (sys : System σ) (w : World σ) :
    List MachineId → List Use → List Traffic → World σ → Prop
  | next {w' : World σ} (h : (w.next sys).LeadsTo w') :
      Advances sys w (w.issue? sys.catalog).toList w.use?.toList w.traffic w'
  | create {type : String} {payload : Option Value} {id : MachineId} {w' : World σ}
      (hidle : w.frames = []) (h : w.create sys.catalog type payload = .ok (id, w')) :
      Advances sys w [id] [⟨.machine, type⟩] [] w'
  | register {type : String} {w' : World σ} (hidle : w.frames = [])
      (h : (w.register sys type).LeadsTo w') : Advances sys w [] [⟨.monitor, type⟩] [] w'
  | describe {type : String} {blueprint : Blueprint σ} {registry : Registry σ}
      (hidle : w.frames = [])
      (h : w.registry.fetch sys.catalog .machine type = .ok (blueprint, registry)) :
      Advances sys w [] [⟨.machine, type⟩] [] { w with registry }
  | send {target : MachineId} {e : Event} {w' : World σ} (hidle : w.frames = [])
      (h : w.deliver target e = .ok w') : Advances sys w [] [] (w.arrival target e) w'
  | fail (hidle : w.frames = []) (f : Failure) : Advances sys w [] [] [] (w.fail f)
  | notify {type : String} {e : Event} {w' : World σ} (hidle : w.frames = [])
      (h : (w.notify sys type e).LeadsTo w') : Advances sys w [] [] [] w'
  | step {w' : World σ} (hidle : w.frames = []) (h : w.schedulePending.LeadsTo w') :
      Advances sys w [] [] [] w'
  | run {w' : World σ} (hidle : w.frames = []) (h : (w.nextUntilQuiescent sys).LeadsTo w') :
      Advances sys w [] [] [] w'

/-- What is new in the second world, where the identities, the uses and the traffic are
known. -/
def news (w w' : World σ) (ids : List MachineId) (uses : List Use) (traffic : List Traffic) :
    Era where
  issued := ids
  uses := uses
  turns := w.pending.length - w'.pending.length
  failures := if w'.failure = w.failure then [] else w'.failure.toList
  traffic := traffic

/-- The worlds that a system comes to over all eras, with the identities of the earlier
ones and what has happened in the present one. -/
inductive Annals (sys : System σ) : List MachineId → Era → World σ → Prop
  | begin : Annals sys [] {} .empty
  | advance {earlier : List MachineId} {era : Era} {w w' : World σ} {ids : List MachineId}
      {uses : List Use} {traffic : List Traffic} (h : Annals sys earlier era w)
      (ha : Advances sys w ids uses traffic w') :
      Annals sys earlier (era ++ w.news w' ids uses traffic) w'
  | reset {earlier : List MachineId} {era : Era} {w : World σ} (h : Annals sys earlier era w)
      (hidle : w.frames = []) : Annals sys (earlier ++ era.issued) {} w.reset

/-! ## What a step leaves as it is -/

/-- No machine comes in, and no pending run begins. -/
structure Steady (w w' : World σ) : Prop where
  ids : w'.machines.map (·.id) = w.machines.map (·.id)
  lastId : w'.lastId = w.lastId
  steps : w'.steps = w.steps
  pending : w.pending.length ≤ w'.pending.length

section Steady

variable {w v w' : World σ} {place : Place} {m m' : Machine σ}

namespace Steady

theorem of_eq (hmachines : w'.machines = w.machines) (hlastId : w'.lastId = w.lastId)
    (hsteps : w'.steps = w.steps) (hpending : w'.pending = w.pending) : Steady w w' :=
  ⟨by rw [hmachines], hlastId, hsteps, Nat.le_of_eq (congrArg List.length hpending.symm)⟩

theorem refl (w : World σ) : Steady w w := .of_eq rfl rfl rfl rfl

theorem trans (h : Steady w v) (h' : Steady v w') : Steady w w' :=
  ⟨h'.ids.trans h.ids, h'.lastId.trans h.lastId, h'.steps.trans h.steps,
    Nat.le_trans h.pending h'.pending⟩

/-- A machine is exchanged for one of the same identity. -/
theorem exchange (hm : w.machineAt? place = some m)
    (hmachines : w'.machines = (w.setMachine place m').machines) (hid : m'.id = m.id)
    (hlastId : w'.lastId = w.lastId) (hsteps : w'.steps = w.steps)
    (hpending : w.pending.length ≤ w'.pending.length) : Steady w w' :=
  ⟨(congrArg (List.map Machine.id) hmachines).trans (map_id_setMachine hm hid), hlastId, hsteps,
    hpending⟩

theorem setCell {actor : Actor} {cell : Cell σ} (hcell : w.cell? actor = some cell)
    (cell' : Cell σ) : Steady w (w.setCell actor cell') := by
  cases actor with
  | machine place id =>
    obtain ⟨m, hm, -⟩ := Option.map_eq_some_iff.mp hcell
    simp only [setCell_machine hm]
    exact exchange hm rfl rfl rfl rfl (Nat.le_refl _)
  | monitor type =>
    obtain ⟨m, hm, -⟩ := Option.map_eq_some_iff.mp hcell
    simp only [setCell_monitor hm]
    exact .of_eq rfl rfl rfl rfl

theorem abort (h : Steady w v) (hm : v.machineAt? place = some m) (hid : m'.id = m.id)
    (f : Failure) : Steady w (v.abort place m' f).retire := by
  apply h.trans
  unfold World.abort
  dsimp only
  split <;> exact exchange hm rfl hid rfl rfl (Nat.le_refl _)

theorem giveBack {result : Except Failure Unit} (h : (w.giveBack result).LeadsTo w') :
    Steady w w' := by
  unfold World.giveBack at h
  split at h
  · exact Move.leadsTo_step.mp h ▸ .of_eq rfl rfl rfl rfl
  · exact Move.leadsTo_returned.mp h ▸ .refl w

theorem concludeMonitor {m : Monitor σ} {result : Except Failure Status}
    (h : (w.concludeMonitor m result).LeadsTo w') : Steady w w' := by
  unfold World.concludeMonitor at h
  split at h
  · have hset : Steady w (w.setMonitor { m with registered := true }) := .of_eq rfl rfl rfl rfl
    exact hset.trans (giveBack h)
  · dsimp only at h
    split at h
    · exact giveBack h
    · have hremoved : Steady w (w.removeMonitor m.type) := .of_eq rfl rfl rfl rfl
      exact hremoved.trans (giveBack h)

theorem carried {actor : Actor} {progress : Progress} (hcarried : Carried v actor progress w')
    (h : Steady w v) : Steady w w' := by
  apply h.trans
  cases hcarried with
  | acting hcell hpaused haction =>
    exact (setCell hcell _).trans (.of_eq rfl rfl rfl rfl)
  | yielded hm hresult => exact exchange hm rfl rfl rfl rfl (by simp [requeue, setMachine])
  | halted hm hresult => exact exchange hm rfl rfl rfl rfl (Nat.le_refl _)
  | aborted hm hresult => exact abort (.refl v) hm (by rfl) _
  | @judged type m progress result _ hm hresult hback =>
    have hset : Steady v (v.setMonitor { m with cell := { m.cell with stack := progress.stack } }) :=
      .of_eq rfl rfl rfl rfl
    exact hset.trans (concludeMonitor hback)

theorem delivered {e : Event} {seen : List Traffic} (h : Delivered w e seen w') :
    Steady w w' := by
  cases h with
  | refused hm hhalted => exact .refl w
  | handed hm | queued hm => exact exchange hm rfl rfl rfl rfl (Nat.le_refl _)
  | woken hm => exact exchange hm rfl rfl rfl rfl (by simp [schedule, setMachine])

theorem markBound (config : Config) : Steady w (w.markBound config) := by
  unfold World.markBound
  split <;> exact .of_eq rfl rfl rfl rfl

end Steady

/-- What a step does to the machines, the counters and the queue, with the identity that it
gives out. -/
inductive Stride (w : World σ) : List MachineId → World σ → Prop
  | stay {w' : World σ} (h : Steady w w') : Stride w [] w'
  | create {catalog : Catalog σ} {type : String} {payload : Option Value} {id : MachineId}
      {grown w' : World σ} (hcreate : w.create catalog type payload = .ok (id, grown))
      (h : Steady grown w') : Stride w [id] w'
  | turn {v : World σ} {index : Nat} (h : Steady w v) (hpending : v.pending = w.pending)
      (hindex : index < v.pending.length) : Stride w [] (v.beginTurn index)

/-! ## Steps -/

/-- The action that is answered with an identity has created a machine. -/
theorem create_of_issue? {catalog : Catalog σ} {id : MachineId}
    (h : w.issue? catalog = some id) :
    ∃ place self p c type payload next rest grown,
      w.frames = .acting (.machine place self) p c
        (.running (.request (.create type payload) next)) :: rest ∧
      w.create catalog type payload = .ok (id, grown) := by
  unfold issue? at h
  split at h
  · rename_i place self p c type payload next rest hframes
    cases hcreate : w.create catalog type payload with
    | error f => simp [hcreate, Except.toOption] at h
    | ok created =>
      obtain ⟨id', grown⟩ := created
      obtain rfl : id' = id := by simpa [hcreate, Except.toOption] using h
      exact ⟨place, self, p, c, type, payload, next, rest, grown, hframes, hcreate⟩
  · contradiction

theorem id_of_create {catalog : Catalog σ} {type : String} {payload : Option Value}
    {id : MachineId} (h : w.create catalog type payload = .ok (id, w')) :
    id = ⟨type, w.lastId + 1⟩ := by
  unfold create at h
  split at h
  · contradiction
  · cases h
    rfl

/-- The pending run that begins a turn leaves the queue. -/
theorem beginTurn_of_lt {index : Nat} (hindex : index < w.pending.length) :
    w.beginTurn index =
      { w with
        pending := w.pending.eraseIdx index
        frames := .ready w.pending[index] :: w.frames
        steps := w.steps + 1 } := by
  simp [beginTurn, beginRun, List.getElem?_eq_getElem hindex]

/-- A small step that gives out no identity lets no machine in. -/
theorem Transition.stride {seen : List Traffic} (h : Transition sys w seen w')
    (hnone : w.issue? sys.catalog = none) : Stride w [] w' := by
  cases h with
  | start hframes hm hcreated hcarried =>
    exact .stay (.carried hcarried (.exchange hm rfl rfl rfl rfl (Nat.le_refl _)))
  | dispatch hframes hm hactive hfailed hselect hcarried =>
    exact .stay (.carried hcarried (.exchange hm rfl rfl rfl rfl (Nat.le_refl _)))
  | rest hframes hm hactive hfailed hselect | stop hframes hm hwhy =>
    exact .stay (.exchange hm rfl rfl rfl rfl (Nat.le_refl _))
  | @unselectable place rest m f hframes hm hactive hfailed hselect =>
    have hpopped : Steady w { w with frames := rest } := .of_eq rfl rfl rfl rfl
    exact .stay (hpopped.abort hm rfl _)
  | answer hframes hcell hcarried | notify hframes hm hcarried =>
    exact .stay (.carried hcarried (.of_eq rfl rfl rfl rfl))
  | panic hpropagate | goOn hframes | remark hframes => exact .stay (.of_eq rfl rfl rfl rfl)
  | store hframes hcell =>
    exact .stay ((Steady.setCell hcell _).trans (.of_eq rfl rfl rfl rfl))
  | send hframes hdeliver =>
    have hsent : Steady w _ := .delivered (delivered_of_deliver hdeliver)
    exact .stay (hsent.trans (.of_eq rfl rfl rfl rfl))
  | create hframes hcreate => simp [issue?, hframes, hcreate, Except.toOption] at hnone
  | take hframes hm htake | block hframes hm htake | resume hframes hm hreceived =>
    exact .stay (.exchange hm rfl rfl rfl rfl (Nat.le_refl _))
  | giveUp hframes hm hreceived hgiven =>
    have hgave : Steady w _ := hgiven.keeps (.refl w) (.markBound sys.config)
    have hm' := (machineAt?_congr hgiven.machines _).trans hm
    exact .stay (hgave.trans (.exchange hm' rfl rfl rfl rfl (Nat.le_refl _)))
  | turn hframes hm hreceived hfailed hbounded hindex =>
    exact .turn (.markBound sys.config) (markBound_pending w sys.config) (by simpa using hindex)

/-- What a small step does, with the identity that it gives out. -/
theorem next_stride (hserial : sys.config.serial = true) (h : (w.next sys).LeadsTo w') :
    Stride w (w.issue? sys.catalog).toList w' := by
  cases hissue : w.issue? sys.catalog with
  | none => exact (next_leadsTo hserial h).stride hissue
  | some id =>
    -- A transition does not tell the identity, so it is read off the step itself.
    obtain ⟨place, self, p, c, type, payload, next, rest, grown, hframes, hcreate⟩ :=
      create_of_issue? hissue
    unfold World.next at h
    simp only [hframes] at h
    split at h
    · simp only [execute, serve, hcreate, reply_leadsTo] at h
      subst h
      exact .create hcreate (.of_eq rfl rfl rfl rfl)
    · exact absurd h Move.not_leadsTo_idle

theorem register_steady (hserial : sys.config.serial = true) {type : String}
    (h : (w.register sys type).LeadsTo w') : Steady w w' := by
  unfold register at h
  split at h
  · exact Move.leadsTo_returned.mp h ▸ .refl w
  · split at h
    · exact Move.leadsTo_returned.mp h ▸ .refl w
    · exact .carried (carry_leadsTo hserial h) (.of_eq rfl rfl rfl rfl)

theorem notify_steady (hserial : sys.config.serial = true) {type : String} {e : Event}
    (h : (w.notify sys type e).LeadsTo w') : Steady w w' := by
  rcases notify_leadsTo hserial h with ⟨result, hback⟩ | ⟨-, m, hm, hcarried⟩
  · exact .giveBack hback
  · exact .carried hcarried (.refl w)

theorem nextUntilQuiescent_stride (hidle : w.frames = [])
    (h : (w.nextUntilQuiescent sys).LeadsTo w') : Stride w [] w' := by
  unfold nextUntilQuiescent at h
  simp only [hidle] at h
  split at h
  · exact Move.leadsTo_returned.mp h ▸ .stay (.refl _)
  · split at h
    · exact Move.leadsTo_returned.mp h ▸ .stay (.markBound sys.config)
    · obtain ⟨index, hindex, rfl⟩ := schedulePending_leadsTo h
      exact .turn (.markBound sys.config) (markBound_pending w sys.config) hindex

theorem Advances.stride (hserial : sys.config.serial = true) {ids : List MachineId}
    {uses : List Use} {traffic : List Traffic} (h : Advances sys w ids uses traffic w') :
    Stride w ids w' := by
  cases h with
  | next h => exact next_stride hserial h
  | create hidle h => exact .create h (.refl w')
  | register hidle h => exact .stay (register_steady hserial h)
  | describe hidle h | fail hidle f => exact .stay (.of_eq rfl rfl rfl rfl)
  | send hidle h => exact .stay (.delivered (delivered_of_deliver h))
  | notify hidle h => exact .stay (notify_steady hserial h)
  | step hidle h =>
    obtain ⟨index, hindex, rfl⟩ := schedulePending_leadsTo h
    exact .turn (.refl w) rfl hindex
  | run hidle h => exact nextUntilQuiescent_stride hidle h

namespace Stride

variable {given : List MachineId}

theorem ids (h : Stride w given w') :
    w'.machines.map (·.id) = w.machines.map (·.id) ++ given := by
  cases h with
  | stay h => simpa using h.ids
  | create hcreate h =>
    have hid := id_of_create hcreate
    obtain ⟨blueprint, registry, rfl⟩ := create_eq_ok hcreate
    simpa [newMachine, ← hid] using h.ids
  | turn h hpending hindex =>
    simp only [beginTurn_of_lt hindex]
    simpa using h.ids

theorem numbered (h : Stride w given w') {all : List MachineId} (hall : Numbered all w.lastId) :
    Numbered (all ++ given) w'.lastId := by
  cases h with
  | stay h => simpa [h.lastId] using hall
  | create hcreate h =>
    have hid := id_of_create hcreate
    obtain ⟨blueprint, registry, rfl⟩ := create_eq_ok hcreate
    simp only [h.lastId]
    exact hall.snoc (congrArg MachineId.value hid)
  | turn h hpending hindex =>
    simp only [beginTurn_of_lt hindex]
    simpa [h.lastId] using hall

/-- A step is counted for every run that leaves the queue. -/
theorem steps (h : Stride w given w') :
    w'.steps = w.steps + (w.pending.length - w'.pending.length) := by
  cases h with
  | stay h =>
    have hpending := h.pending
    have hsteps := h.steps
    omega
  | create hcreate h =>
    obtain ⟨blueprint, registry, rfl⟩ := create_eq_ok hcreate
    have hpending := h.pending
    have hsteps := h.steps
    simp only [List.length_append] at hpending hsteps
    omega
  | turn h hpending hindex =>
    simp only [beginTurn_of_lt hindex, List.length_eraseIdx_of_lt hindex, h.steps]
    simp only [hpending] at hindex ⊢
    omega

end Stride

end Steady

/-! ## What holds in all eras -/

section Annals

variable {w w' : World σ} {earlier : List MachineId} {era : Era}

theorem Run.advance {ids : List MachineId} {uses : List Use} {traffic log : List Traffic}
    (h : Run sys w log) (ha : Advances sys w ids uses traffic w') :
    Run sys w' (log ++ traffic) := by
  cases ha with
  | next hnext => exact h.next hnext
  | create hidle ha => exact h.outside hidle (.create ha)
  | register hidle ha => exact h.outside hidle (.register ha)
  | describe hidle ha => exact h.outside hidle (.describe ha)
  | send hidle ha => exact h.outside hidle (.send ha)
  | fail hidle f => exact h.outside hidle (.fail f)
  | notify hidle ha => exact h.outside hidle (.notify ha)
  | step hidle ha => exact h.outside hidle (.step ha)
  | run hidle ha => exact h.outside hidle (.run ha)

theorem Uses.advance {ids : List MachineId} {uses more : List Use} {traffic : List Traffic}
    (h : Uses sys w uses) (ha : Advances sys w ids more traffic w') :
    Uses sys w' (uses ++ more) := by
  cases ha with
  | next hnext => exact h.next hnext
  | create hidle ha => exact h.outside (.create ha)
  | register hidle ha => exact h.outside (.register ha)
  | describe hidle ha => exact h.outside (.lookup ha)
  | send hidle ha => exact h.outside (.send ha)
  | fail hidle f => exact h.outside (.fail f)
  | notify hidle ha => exact h.outside (.notify ha)
  | step hidle ha => exact h.outside (.step ha)
  | run hidle ha => simpa using h.run hidle ha

theorem Annals.run (h : Annals sys earlier era w) : Run sys w era.traffic := by
  induction h with
  | begin => exact .empty
  | advance _ ha ih => exact ih.advance ha
  | reset _ hidle ih => exact ih.reset hidle

theorem Annals.uses (h : Annals sys earlier era w) : Uses sys w era.uses := by
  induction h with
  | begin => exact .empty
  | advance _ ha ih => exact ih.advance ha
  | reset _ _ ih => exact ih.reset

/-- Every operation from outside is in the books. -/
theorem Intervention.advances {seen : List Traffic} (hidle : w.frames = [])
    (h : Intervention sys w seen w') : ∃ ids uses, Advances sys w ids uses seen w' := by
  cases h with
  | create h => exact ⟨_, _, .create hidle h⟩
  | send h => exact ⟨_, _, .send hidle h⟩
  | fail f => exact ⟨_, _, .fail hidle f⟩
  | describe h => exact ⟨_, _, .describe hidle h⟩
  | register h => exact ⟨_, _, .register hidle h⟩
  | notify h => exact ⟨_, _, .notify hidle h⟩
  | step h => exact ⟨_, _, .step hidle h⟩
  | run h => exact ⟨_, _, .run hidle h⟩

/-- Every run of a system has annals. -/
theorem Run.annals {log : List Traffic} (h : Run sys w log) :
    ∃ earlier era, Annals sys earlier era w ∧ era.traffic = log := by
  induction h with
  | empty => exact ⟨[], {}, .begin, rfl⟩
  | next _ hnext ih =>
    obtain ⟨earlier, era, h, rfl⟩ := ih
    exact ⟨earlier, _, h.advance (.next hnext), rfl⟩
  | outside _ hidle hi ih =>
    obtain ⟨earlier, era, h, rfl⟩ := ih
    obtain ⟨ids, uses, ha⟩ := hi.advances hidle
    exact ⟨earlier, _, h.advance ha, rfl⟩
  | reset _ hidle ih =>
    obtain ⟨earlier, era, h, -⟩ := ih
    exact ⟨_, {}, h.reset hidle, rfl⟩

/-- What the annals say about a world. -/
structure Recorded (earlier : List MachineId) (era : Era) (w : World σ) : Prop where
  numbered : Numbered (earlier ++ era.issued) w.lastId
  ids : w.machines.map (·.id) = era.issued
  steps : w.steps = era.turns
  failure (f : Failure) (hf : w.failure = some f) : f ∈ era.failures

theorem Annals.recorded (hserial : sys.config.serial = true) (h : Annals sys earlier era w) :
    Recorded earlier era w := by
  induction h with
  | begin => exact ⟨.nil, rfl, rfl, nofun⟩
  | @advance earlier era w w' ids uses traffic h ha ih =>
    have hstride := ha.stride hserial
    refine ⟨?_, ?_, ?_, ?_⟩
    · have hnumbered := hstride.numbered ih.numbered
      rw [List.append_assoc] at hnumbered
      exact hnumbered
    · exact hstride.ids.trans (congrArg (· ++ ids) ih.ids)
    · exact hstride.steps.trans (congrArg (· + _) ih.steps)
    · intro f hf
      apply List.mem_append.mpr
      by_cases hsame : w'.failure = w.failure
      · exact .inl (ih.failure f (hsame.symm.trans hf))
      · have hnews : f ∈ w'.failure.toList := Option.mem_toList.mpr hf
        have hlisted : (w.news w' ids uses traffic).failures = w'.failure.toList := if_neg hsame
        exact .inr (hlisted ▸ hnews)
  | @reset earlier era w _ _ ih =>
    have hnumbered : Numbered ((earlier ++ era.issued) ++ []) w.lastId := by
      simpa using ih.numbered
    exact ⟨hnumbered, rfl, rfl, nofun⟩

end Annals

/-! ## Sends to nobody -/

section Sends

variable {w : World σ} {id : MachineId} {e : Event}

theorem locate?_eq_none (h : id ∉ w.machines.map (·.id)) : w.locate? id = none := by
  unfold locate?
  apply List.find?_eq_none.mpr
  rintro ⟨m, place⟩ hmem hid
  have hm : m ∈ w.machines := List.fst_mem_of_mem_zipIdx (List.mem_reverse.mp hmem)
  exact h (List.mem_map.mpr ⟨m, hm, beq_iff_eq.mp hid⟩)

theorem deliver_of_locate?_none (hsendable : e.checkSendable = .ok ())
    (hlocate : w.locate? id = none) :
    w.deliver id e = .error (Violation.unknownTarget id.text).toFailure := by
  simp only [deliver, hsendable, hlocate]

/-- A send that fails changes nothing but the action that is told so. -/
theorem next_of_deliver_error {place : Place} {self : MachineId} {p : Paused} {c : Context}
    {next : Except Failure Unit → Program σ Verdict} {rest : List (Frame σ)} {m : Machine σ}
    {f : Failure} (hm : w.machineAt? place = some m)
    (hframes : w.frames = .acting (.machine place self) p c
      (.running (.request (.send id e) next)) :: rest)
    (hdeliver : w.deliver id e = .error f) :
    w.next sys = .step { w with
      frames := .acting (.machine place self) p (c.record f) (.running (next (.error f))) :: rest } := by
  simp only [World.next, hframes, cell?_machine hm, execute, serve, hdeliver]
  rfl

end Sends

/-! ## What a world shows -/

section Isolated

variable {w : World σ} {log : List Traffic}

/-- What is consumed at a place was accepted there before, for each type in the same
order. -/
theorem Keeping.consumed_prefix {lost : List Place} (h : w.Keeping lost log) (place : Place)
    (t : EventType) : ofType t (consumedAt log place) <+: ofType t (acceptedAt log place) := by
  cases hm : w.machineAt? place with
  | some m => exact (h.keeps place m hm).ordered t
  | none =>
    have hbeyond : w.machines.length ≤ place := List.getElem?_eq_none_iff.mp hm
    have helsewhere : ∀ entry ∈ log, entry.place ≠ place := fun entry hentry =>
      Nat.ne_of_lt (Nat.lt_of_lt_of_le (h.known entry hentry) hbeyond)
    simp only [consumedAt_eq_nil helsewhere]
    exact List.nil_prefix

/-- Without a use as a monitor there is no monitor of the type. -/
theorem Typed.unnotified {catalog : Catalog σ} {uses : List Use} {type : String}
    (h : Typed catalog uses w) (hunused : ⟨.monitor, type⟩ ∉ uses) :
    w.registered? type = none := by
  cases hm : w.registered? type with
  | none => rfl
  | some m =>
    have hfound := monitor?_of_registered? hm
    have hmem : m ∈ w.monitors := List.mem_of_find?_eq_some hfound
    have hused := (h.roster _ (mem_roster.mpr (.inr ⟨m, hmem, rfl⟩))).1
    simp only [type_of_monitor? hfound] at hused
    exact absurd hused hunused

/-- A world shows nothing but the present era. -/
structure Isolated (sys : System σ) (earlier : List MachineId) (era : Era) (w : World σ) :
    Prop where
  machines : w.machines.map (·.id) = era.issued
  /-- Whatever is counted, is pending or is in progress is a run of one of them. -/
  runs : ∃ counted : List Place, counted.Nodup ∧ w.active = counted.length ∧
    (∀ place ∈ w.running ++ w.pending, place ∈ counted) ∧
    ∀ place ∈ counted, ∃ m, w.machineAt? place = some m ∧ m.id ∈ era.issued
  /-- For each machine and type, no more is consumed than was accepted, and in that order. -/
  events (place : Place) (t : EventType) :
    ofType t (consumedAt era.traffic place) <+: ofType t (acceptedAt era.traffic place)
  monitors (type : String) (hunused : ⟨.monitor, type⟩ ∉ era.uses) :
    w.registered? type = none ∧
      ∀ e : Event, e.checkSendable = .ok () → w.notify sys type e = w.giveBack (.ok ())
  failure (f : Failure) (hf : w.failure = some f) : f ∈ era.failures
  steps : w.steps = era.turns
  bounded (hbounded : w.bounded = true) :
    ∃ bound, sys.config.testing.stepBound = some bound ∧ bound ≤ era.turns
  /-- From outside or from an action, a send to an identity of an earlier era fails and
  changes no machine. -/
  sends (id : MachineId) (hid : id ∈ earlier) (e : Event) (hsendable : e.checkSendable = .ok ()) :
    w.deliver id e = .error (Violation.unknownTarget id.text).toFailure ∧
      ∀ place self p c next rest,
        w.frames = .acting (.machine place self) p c
          (.running (.request (.send id e) next)) :: rest →
        w.next sys = .step { w with
          frames := .acting (.machine place self) p
            (c.record (Violation.unknownTarget id.text).toFailure)
            (.running (next (.error (Violation.unknownTarget id.text).toFailure))) :: rest }

end Isolated

end World

/-! ## A giver that comes too late

The waiter that it is told of was there before the reset, and a failure was recorded then. -/

namespace Rendezvous

/-- The identity of the waiter. -/
def gone : MachineId := ⟨"Waiter", 1⟩

/-- The waiter, in a system that has failed. -/
def failed : World Unit := waiting.world.fail interruptedByFailure

/-- The giver alone, before it has run. -/
def late : Session Unit CyclicChoice :=
  let s : Session Unit CyclicChoice := { waiting with world := failed.reset }
  (s.create system "Giver" (some (MachineId.toPayload gone))).2

/-- The giver is about to send. -/
def astray : World Unit := (World.trail system 1 (late.world.beginTurn 0, [])).1

open World in
theorem annals_astray :
    ∃ era, Annals system [gone] era astray ∧ era.issued = [⟨"Giver", 2⟩] := by
  have hwaiter : World.empty.create system.catalog "Waiter" none
      = .ok (gone, waiting.world) := rfl
  have hgiver : failed.reset.create system.catalog "Giver"
      (some (MachineId.toPayload gone)) = .ok (⟨"Giver", 2⟩, late.world) := rfl
  have hwaiting : Annals system [] _ waiting.world := .advance .begin (.create rfl hwaiter)
  have hfailed : Annals system [] _ failed := hwaiting.advance (.fail rfl interruptedByFailure)
  have hreset : Annals system [gone] {} failed.reset := hfailed.reset rfl
  have hlate : Annals system [gone] _ late.world := hreset.advance (.create rfl hgiver)
  have hturn : Annals system [gone] _ (late.world.beginTurn 0) :=
    hlate.advance (.step rfl .step)
  have hastray : Annals system [gone] _ astray := hturn.advance (.next .step)
  exact ⟨_, hastray, rfl⟩

end Rendezvous

namespace World

/-! ## Results -/

section Results

variable {w : World σ} {earlier : List MachineId} {era : Era}

/-- Whenever a session is seen, its world has annals. -/
theorem exists_annals_of_moment [ChoiceSource τ] {s : Session σ τ}
    (hserial : sys.config.serial = true) (h : Session.Moment sys s) :
    ∃ earlier era, Annals sys earlier era s.world := by
  obtain ⟨log, hrun⟩ := h.reached hserial
  obtain ⟨earlier, era, hannals, -⟩ := hrun.annals
  exact ⟨earlier, era, hannals⟩

/-- As long as the counter of identities has not come round, over any number of resets no
identity is given out twice, and a world shows nothing but what has come about since the
last reset. -/
theorem Annals.isolated (hserial : sys.config.serial = true) (h : Annals sys earlier era w)
    (hfew : (earlier ++ era.issued).length < UInt64.size) :
    (earlier ++ era.issued).Nodup ∧ Isolated sys earlier era w := by
  have hrecorded := h.recorded hserial
  have hdistinct := hrecorded.numbered.nodup hfew
  obtain ⟨lost, haccounted, hkeeping⟩ := h.run.keeping hserial
  have hissued {place : Place} {m : Machine σ} (hm : w.machineAt? place = some m) :
      m.id ∈ era.issued :=
    hrecorded.ids ▸ List.mem_map_of_mem (List.mem_of_getElem? hm)
  refine ⟨hdistinct, hrecorded.ids, ?_, hkeeping.consumed_prefix, ?_, hrecorded.failure,
    hrecorded.steps, ?_, ?_⟩
  · refine ⟨lost ++ w.runs, haccounted.nodup, haccounted.count, ?_, ?_⟩
    · exact fun place hplace => List.mem_append_right lost hplace
    · intro place hplace
      obtain ⟨m, hm, -⟩ := (haccounted.mem_iff place).mp hplace
      exact ⟨m, hm, hissued hm⟩
  · intro type hunused
    have hnone := h.uses.typed.unnotified hunused
    refine ⟨hnone, ?_⟩
    intro e hsendable
    simp only [notify, hsendable, hnone]
  · intro hbounded
    obtain ⟨bound, hbound, hreached⟩ := h.run.honest hserial hbounded
    exact ⟨bound, hbound, hrecorded.steps ▸ hreached⟩
  · intro id hid e hsendable
    have hgone : id ∉ w.machines.map (·.id) := by
      intro hmem
      simp only [hrecorded.ids] at hmem
      exact (List.nodup_append.mp hdistinct).2.2 id hid id hmem rfl
    have hdeliver := deliver_of_locate?_none hsendable (locate?_eq_none hgone)
    refine ⟨hdeliver, ?_⟩
    intro place self p c next rest hframes
    -- A run in progress has a machine.
    have hplace : place ∈ lost ++ w.runs := by
      simp [runs, running_of_frames hframes, Frame.place?, Actor.place?]
    obtain ⟨m, hm, -⟩ := (haccounted.mem_iff place).mp hplace
    exact next_of_deliver_error hm hframes hdeliver

theorem Annals.isolated_rendezvous :
    ∃ era, Annals Rendezvous.system [Rendezvous.gone] era Rendezvous.astray ∧
      ([Rendezvous.gone] ++ era.issued).length < UInt64.size ∧
      ([Rendezvous.gone] ++ era.issued).Nodup ∧
      Isolated Rendezvous.system [Rendezvous.gone] era Rendezvous.astray ∧
      ∃ frames, Rendezvous.astray.next Rendezvous.system
        = .step { Rendezvous.astray with frames } := by
  obtain ⟨era, h, hissued⟩ := Rendezvous.annals_astray
  have hfew : ([Rendezvous.gone] ++ era.issued).length < UInt64.size := by
    simp only [hissued]
    decide
  obtain ⟨hdistinct, hisolated⟩ := Annals.isolated rfl h hfew
  have hsends := hisolated.sends Rendezvous.gone (List.mem_singleton_self _)
    (.message Rendezvous.later none) rfl
  exact ⟨era, h, hfew, hdistinct, hisolated, _, hsends.2 0 ⟨"Giver", 2⟩ _ _ _ _ rfl⟩

end Results

end World

end PushdownActors
