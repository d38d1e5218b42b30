-- SUMMARY: What a receive and the search for the next event take out of a mailbox, and what they leave in it.
import PushdownActors.Proofs.Traffic

/-!
# Mailboxes

Events are taken out of a mailbox from the middle: a receive takes the first of its
types, and the search for the next event passes over those that the current state
defers. But whatever is taken was the first of its type, and a search that finds
nothing leaves only what is deferred.
-/

namespace PushdownActors

/-- The events of one type, in their order. -/
def ofType (t : EventType) (events : List Event) : List Event :=
  events.filter fun e => e.type == t

section OfType

variable {t : EventType} {e : Event} {events more : List Event}

@[simp] theorem ofType_nil : ofType t [] = [] := rfl

@[simp] theorem ofType_append : ofType t (events ++ more) = ofType t events ++ ofType t more :=
  List.filter_append ..

theorem ofType_cons_self (h : e.type = t) : ofType t (e :: events) = e :: ofType t events := by
  simp [ofType, h]

theorem ofType_cons_of_ne (h : e.type ≠ t) : ofType t (e :: events) = ofType t events := by
  simp [ofType, h]

theorem ofType_eq_nil (h : ∀ e ∈ events, e.type ≠ t) : ofType t events = [] := by
  simpa [ofType] using h

end OfType

/-! ## What leaves a mailbox -/

theorem contains_of_removeFirst {types : List EventType} {mailbox left : List Event} {e : Event}
    (h : removeFirst types mailbox = some (e, left)) : types.contains e.type = true := by
  induction mailbox generalizing left with
  | nil => contradiction
  | cons first rest ih =>
    unfold removeFirst at h
    split at h
    · rename_i hfirst
      cases h
      exact hfirst
    · obtain ⟨⟨taken, kept⟩, htaken, heq⟩ := Option.map_eq_some_iff.mp h
      cases heq
      exact ih htaken

/-- What a receive takes was the first of its type. -/
theorem ofType_removeFirst {types : List EventType} {mailbox left : List Event} {e : Event}
    (h : removeFirst types mailbox = some (e, left)) (t : EventType) :
    ofType t mailbox = ofType t (e :: left) := by
  induction mailbox generalizing left with
  | nil => contradiction
  | cons first rest ih =>
    unfold removeFirst at h
    split at h
    · cases h
      rfl
    · rename_i hfirst
      obtain ⟨⟨taken, kept⟩, htaken, heq⟩ := Option.map_eq_some_iff.mp h
      cases heq
      have hrest := ih htaken
      by_cases hfirstType : first.type = t
      · -- The event that is passed has the type, so the one that is taken has not.
        have htakenType : e.type ≠ t := by
          intro htype
          have hcontains := contains_of_removeFirst htaken
          rw [htype, ← hfirstType] at hcontains
          exact hfirst hcontains
        rw [ofType_cons_self hfirstType, hrest, ofType_cons_of_ne htakenType,
          ofType_cons_of_ne htakenType, ofType_cons_self hfirstType]
      · rw [ofType_cons_of_ne hfirstType, hrest]
        by_cases htakenType : e.type = t
        · rw [ofType_cons_self htakenType, ofType_cons_self htakenType,
            ofType_cons_of_ne hfirstType]
        · rw [ofType_cons_of_ne htakenType, ofType_cons_of_ne htakenType,
            ofType_cons_of_ne hfirstType]

theorem not_contains_of_removeFirst {types : List EventType} {mailbox : List Event}
    (h : removeFirst types mailbox = none) : ∀ e ∈ mailbox, types.contains e.type = false := by
  induction mailbox with
  | nil => simp
  | cons first rest ih =>
    unfold removeFirst at h
    split at h
    · contradiction
    · rename_i hfirst
      rw [Option.map_eq_none_iff] at h
      exact List.forall_mem_cons.mpr ⟨Bool.eq_false_iff.mpr hfirst, ih h⟩

namespace State

variable {s : State} {mailbox : List Event}

theorem ignores_of_mem_skipped {e : Event} (h : e ∈ s.skipped mailbox) :
    s.ignores e.type = true := by
  induction mailbox with
  | nil => contradiction
  | cons first rest ih =>
    unfold skipped at h
    split at h
    · rename_i hignores
      rcases List.mem_cons.mp h with rfl | h
      · exact hignores
      · exact ih h
    · split at h
      · exact ih h
      · contradiction

theorem not_defers_of_take {e : Event} (h : (s.take mailbox).1 = some e) :
    s.defers e.type = false := by
  induction mailbox with
  | nil => contradiction
  | cons first rest ih =>
    unfold take at h
    split at h
    · exact ih h
    · split at h
      · exact ih h
      · rename_i hdefers
        cases h
        exact Bool.eq_false_iff.mpr hdefers

/-- A scan drops and takes events of each type before those that it leaves. -/
theorem ofType_take (t : EventType) : ofType t mailbox
    = ofType t (s.skipped mailbox ++ (s.take mailbox).1.toList ++ (s.take mailbox).2) := by
  induction mailbox with
  | nil => rfl
  | cons first rest ih =>
    unfold skipped take
    split
    · by_cases htype : first.type = t
      · simp only [List.cons_append, ofType_cons_self htype, ih]
      · simp only [List.cons_append, ofType_cons_of_ne htype, ih]
    · rename_i hignores
      split
      · rename_i hdefers
        by_cases htype : first.type = t
        · -- The state defers the type, so it neither drops nor takes an event of it.
          have hskipped : ofType t (s.skipped rest) = [] := by
            refine ofType_eq_nil fun e he heq => hignores ?_
            rw [htype, ← heq]
            exact ignores_of_mem_skipped he
          have htaken : ofType t (s.take rest).1.toList = [] := by
            refine ofType_eq_nil fun e he heq => ?_
            have hnot := not_defers_of_take (Option.mem_toList.mp he)
            rw [heq, ← htype, hdefers] at hnot
            contradiction
          simp only [ofType_append, hskipped, htaken, List.nil_append] at ih ⊢
          rw [ofType_cons_self htype, ofType_cons_self htype, ih]
        · simp only [ofType_append, ofType_cons_of_ne htype] at ih ⊢
          exact ih
      · rfl

/-- What a scan takes is selected. -/
theorem select_of_take {e : Event} (h : (s.take mailbox).1 = some e) :
    (s.select mailbox).1 = some e := by
  unfold select
  split
  · rename_i taken left htake
    rw [htake] at h
    exact h
  · rename_i left htake
    rw [htake] at h
    contradiction

theorem select_left : (s.select mailbox).2 = (s.take mailbox).2 := by
  unfold select
  split <;> rename_i htake <;> rw [htake]

/-- A scan that takes nothing leaves only what the state defers. -/
theorem defers_of_take_eq_none {left : List Event}
    (h : s.take mailbox = (none, left)) : ∀ e ∈ left, s.defers e.type = true := by
  induction mailbox generalizing left with
  | nil =>
    cases h
    exact nofun
  | cons e rest ih =>
    unfold take at h
    split at h
    · exact ih h
    · split at h
      · rename_i hdefers
        rcases htake : s.take rest with ⟨taken, kept⟩
        simp only [htake] at h
        cases h
        exact List.forall_mem_cons.mpr ⟨hdefers, ih htake⟩
      · cases h

/-- A selection that gives nothing leaves only deferred events, and no `Default` event
could be made up instead. -/
theorem defers_of_select_eq_none {left : List Event}
    (h : s.select mailbox = (none, left)) :
    (∀ e ∈ left, s.defers e.type = true) ∧ s.handlesDefault = false := by
  unfold select at h
  split at h
  · cases h
  · rename_i kept htake
    split at h
    · cases h
    · rename_i hdefault
      cases h
      exact ⟨s.defers_of_take_eq_none htake, by simpa using hdefault⟩

end State

/-! ## Logs -/

section Logs

variable {log seen : List Traffic} {place : Place}

@[simp] theorem acceptedAt_append :
    acceptedAt (log ++ seen) place = acceptedAt log place ++ acceptedAt seen place :=
  List.filterMap_append

@[simp] theorem consumedAt_append :
    consumedAt (log ++ seen) place = consumedAt log place ++ consumedAt seen place :=
  List.filterMap_append

@[simp] theorem acceptedAt_accepted {e : Event} :
    acceptedAt [.accepted place e] place = [e] := by simp [acceptedAt, Traffic.accepted?]

@[simp] theorem consumedAt_accepted {e : Event} :
    consumedAt [.accepted place e] place = [] := rfl

@[simp] theorem acceptedAt_received {e : Event} :
    acceptedAt [.received place e] place = [] := rfl

@[simp] theorem consumedAt_received {e : Event} :
    consumedAt [.received place e] place = [e] := by simp [consumedAt, Traffic.consumed?]

/-- What happens elsewhere is not accepted here, -/
theorem acceptedAt_eq_nil (h : ∀ entry ∈ seen, entry.place ≠ place) :
    acceptedAt seen place = [] := by
  refine List.filterMap_eq_nil_iff.mpr fun entry hentry => ?_
  have hplace := h entry hentry
  cases entry <;> simp_all [Traffic.accepted?, Traffic.place]

/-- nor is it consumed here. -/
theorem consumedAt_eq_nil (h : ∀ entry ∈ seen, entry.place ≠ place) :
    consumedAt seen place = [] := by
  refine List.filterMap_eq_nil_iff.mpr fun entry hentry => ?_
  have hplace := h entry hentry
  cases entry <;> simp_all [Traffic.consumed?, Traffic.place]

end Logs

namespace Machine

variable {m : Machine σ} {place : Place}

/-- A scan drops what its state ignores, and picks at most one event. -/
theorem mem_scan {entry : Traffic} (h : entry ∈ m.scan place) :
    ∃ state, m.cell.state? = some state ∧
      ((∃ e ∈ state.skipped m.mailbox, entry = .dropped place e) ∨
        ∃ e, (state.take m.mailbox).1 = some e ∧ entry = .dispatched place e) := by
  unfold scan at h
  split at h
  · rename_i state hstate
    simp only [List.mem_append, List.mem_map, Option.mem_toList, Option.map_eq_some_iff] at h
    refine ⟨state, hstate, ?_⟩
    rcases h with ⟨e, he, rfl⟩ | ⟨e, he, rfl⟩
    · exact .inl ⟨e, he, rfl⟩
    · exact .inr ⟨e, he, rfl⟩
  · contradiction

theorem place_of_mem_scan {entry : Traffic} (h : entry ∈ m.scan place) :
    entry.place = place := by
  obtain ⟨_, _, ⟨e, _, rfl⟩ | ⟨e, _, rfl⟩⟩ := mem_scan h <;> rfl

theorem acceptedAt_scan : acceptedAt (m.scan place) place = [] := by
  refine List.filterMap_eq_nil_iff.mpr fun entry hentry => ?_
  obtain ⟨_, _, ⟨e, _, rfl⟩ | ⟨e, _, rfl⟩⟩ := mem_scan hentry <;> rfl

theorem consumedAt_scan {state : State} (h : m.cell.state? = some state) :
    consumedAt (m.scan place) place
      = state.skipped m.mailbox ++ (state.take m.mailbox).1.toList := by
  have hdropped : (state.skipped m.mailbox).filterMap
      (Traffic.consumed? place ∘ Traffic.dropped place) = state.skipped m.mailbox := by
    have hsome : Traffic.consumed? place ∘ Traffic.dropped place = some := by
      funext e
      simp [Traffic.consumed?]
    rw [hsome, List.filterMap_some]
  simp only [scan, h, consumedAt, List.filterMap_append, List.filterMap_map, hdropped]
  cases (state.take m.mailbox).1 <;> simp [Traffic.consumed?]

/-- A selection is made by the current state. -/
theorem select_eq_ok {taken : Option Event} {left : List Event}
    (h : ((Actor.machine place m.id).engine m.cell).select m.cell.stack m.mailbox
      = .ok (taken, left)) :
    ∃ state, m.cell.state? = some state ∧ state.select m.mailbox = (taken, left) := by
  obtain ⟨top, state, htop, hstate, hselect⟩ := Engine.select_eq_ok h
  refine ⟨state, ?_, hselect⟩
  rw [Cell.state?, htop]
  exact hstate

/-- What a selection leaves is what the scan leaves. -/
theorem ofType_select {taken : Option Event} {left : List Event}
    (h : ((Actor.machine place m.id).engine m.cell).select m.cell.stack m.mailbox
      = .ok (taken, left)) (t : EventType) :
    ofType t m.mailbox = ofType t (consumedAt (m.scan place) place ++ left) := by
  obtain ⟨state, hstate, hselect⟩ := select_eq_ok h
  have hleft : left = (state.take m.mailbox).2 := by rw [← State.select_left, hselect]
  rw [consumedAt_scan hstate, hleft]
  exact State.ofType_take t

/-- The event that a scan picks is the one selected. -/
theorem selected_of_dispatched {taken : Option Event} {left : List Event} {e : Event}
    (h : ((Actor.machine place m.id).engine m.cell).select m.cell.stack m.mailbox
      = .ok (taken, left)) (hentry : .dispatched place e ∈ m.scan place) : taken = some e := by
  obtain ⟨state, hstate, hselect⟩ := select_eq_ok h
  obtain ⟨state', hstate', ⟨e', _, heq⟩ | ⟨e', htake, heq⟩⟩ := mem_scan hentry
  · cases heq
  · cases heq
    cases hstate.symm.trans hstate'
    have hselected := State.select_of_take htake
    rw [hselect] at hselected
    exact hselected

end Machine

end PushdownActors
