-- SUMMARY: Which event comes next: the first that the current state neither ignores nor defers, and what stays behind.
import PushdownActors.Proofs.FallThrough

/-!
# Selection

The search for the next event passes over the events that the current state does not want
now. Those that it ignores are dropped as they are passed, those that it defers stay where
they are, and what comes after the selected event is not looked at. So the selected event
has overtaken deferred events only. With nothing to select the whole mailbox has been
passed, and a `Default` event is made up if the state handles one.
-/

namespace PushdownActors

namespace State

variable {s : State} {t : EventType} {mailbox before rest : List Event}

/-- The state does not want events of the type now: it drops them or leaves them waiting. -/
def passesOver (s : State) (t : EventType) : Bool := s.ignores t || s.defers t

theorem not_defers_of_ignores (h : s.ignores t = true) : s.defers t = false := by
  have hreaction : s.reaction? t = some .ignore := by simpa [ignores] using h
  simp [defers, hreaction]

/-- What is passed over is dropped or left, and the search goes on behind it. -/
theorem take_append (hbefore : ∀ e ∈ before, s.passesOver e.type = true) :
    s.take (before ++ rest)
      = ((s.take rest).1, before.filter (fun e => s.defers e.type) ++ (s.take rest).2) := by
  induction before with
  | nil => rfl
  | cons e before ih =>
    obtain ⟨hpassed, hbefore⟩ := List.forall_mem_cons.mp hbefore
    have hlater := ih hbefore
    cases hignores : s.ignores e.type with
    | true =>
      have hdefers := not_defers_of_ignores hignores
      simpa [take, hignores, hdefers] using hlater
    | false =>
      have hdefers : s.defers e.type = true := by simpa [passesOver, hignores] using hpassed
      simp [take, hignores, hdefers, hlater]

/-- The first event that is not passed over is selected. -/
theorem select_append {e : Event} {after : List Event}
    (hbefore : ∀ earlier ∈ before, s.passesOver earlier.type = true)
    (he : s.passesOver e.type = false) :
    s.select (before ++ e :: after)
      = (some e, before.filter (fun earlier => s.defers earlier.type) ++ after) := by
  obtain ⟨hignores, hdefers⟩ : s.ignores e.type = false ∧ s.defers e.type = false := by
    simpa [passesOver] using he
  have htake : s.take (e :: after) = (some e, after) := by simp [take, hignores, hdefers]
  simp [select, take_append hbefore, htake]

/-- Of what is passed over, the state leaves what it does not ignore. -/
theorem filter_defers (hpassed : ∀ e ∈ mailbox, s.passesOver e.type = true) :
    mailbox.filter (fun e => s.defers e.type) = mailbox.filter (fun e => !s.ignores e.type) := by
  apply List.filter_congr
  intro e he
  cases hignores : s.ignores e.type with
  | true => exact not_defers_of_ignores hignores
  | false => simpa [passesOver, hignores] using hpassed e he

/-- If all events are passed over, only a `Default` event may be selected. -/
theorem select_of_passed (hpassed : ∀ e ∈ mailbox, s.passesOver e.type = true) :
    s.select mailbox
      = (if s.handles .default then some .default else none,
          mailbox.filter fun e => !s.ignores e.type) := by
  have htake : s.take mailbox = (none, mailbox.filter (fun e => s.defers e.type)) := by
    have hend : s.take (mailbox ++ []) = _ := take_append hpassed
    simpa [take] using hend
  simp only [select, htake, filter_defers hpassed]
  rfl

/-- There is a first event that is not passed over, if there is one at all. -/
theorem exists_first (h : ∃ e ∈ mailbox, s.passesOver e.type = false) :
    ∃ before e after, mailbox = before ++ e :: after ∧
      (∀ earlier ∈ before, s.passesOver earlier.type = true) ∧ s.passesOver e.type = false := by
  induction mailbox with
  | nil => simp at h
  | cons first rest ih =>
    cases hfirst : s.passesOver first.type with
    | false => exact ⟨[], first, rest, rfl, nofun, hfirst⟩
    | true =>
      obtain ⟨before, e, after, rfl, hbefore, he⟩ := ih (by simpa [hfirst] using h)
      exact ⟨first :: before, e, after, rfl, List.forall_mem_cons.mpr ⟨hfirst, hbefore⟩, he⟩

end State

/-! ## Mail for the ground -/

/-- A noise, an event that is put off, one that is handled, and a noise behind it. -/
def Loft.mail : List Event := [noise, later, .message ⟨"Climb"⟩ none, noise]

/-! ## Results -/

namespace Engine

variable {en : Engine} {stack : Stack} {top : StateId} {s : State}

/-- What is selected for the state on top. If the mailbox holds an event that the state
neither ignores nor defers, the first such event is; of those before it, which it overtakes,
the deferred ones stay, and those behind it are as they were. Otherwise everything stays
that is not ignored, and all of it is deferred; then a `Default` event without a payload is
selected exactly if the state handles such events, and nothing if it does not. -/
theorem select_exact (htop : stack.top? = some top) (hs : en.automaton.state? top = some s)
    (mailbox : List Event) :
    ((∃ e ∈ mailbox, s.ignores e.type = false ∧ s.defers e.type = false) →
      ∃ before e after, mailbox = before ++ e :: after ∧
        (∀ earlier ∈ before, s.ignores earlier.type = true ∨ s.defers earlier.type = true) ∧
        s.ignores e.type = false ∧ s.defers e.type = false ∧
        en.select stack mailbox
          = .ok (some e, before.filter (fun earlier => s.defers earlier.type) ++ after)) ∧
      ((∀ e ∈ mailbox, s.ignores e.type = true ∨ s.defers e.type = true) →
        en.select stack mailbox
          = .ok (if s.handles .default then some (.message .default none) else none,
              mailbox.filter fun e => !s.ignores e.type) ∧
        ∀ e ∈ mailbox.filter fun e => !s.ignores e.type, s.defers e.type = true) := by
  have hselect : en.select stack mailbox = .ok (s.select mailbox) := by simp [select, htop, hs]
  refine ⟨?_, ?_⟩
  · rintro ⟨wanted, hmem, hwanted⟩
    have hpresent : s.passesOver wanted.type = false := by simpa [State.passesOver] using hwanted
    obtain ⟨before, e, after, rfl, hbefore, he⟩ := State.exists_first ⟨wanted, hmem, hpresent⟩
    obtain ⟨hignores, hdefers⟩ : s.ignores e.type = false ∧ s.defers e.type = false := by
      simpa [State.passesOver] using he
    refine ⟨before, e, after, rfl, ?_, hignores, hdefers, ?_⟩
    · simpa [State.passesOver] using hbefore
    · simp only [hselect, State.select_append hbefore he]
  · intro hall
    have hpassed : ∀ e ∈ mailbox, s.passesOver e.type = true := by
      simpa [State.passesOver] using hall
    refine ⟨by simp only [hselect, State.select_of_passed hpassed, Event.default], ?_⟩
    intro e he
    obtain ⟨hmem, hkept⟩ := List.mem_filter.mp he
    have hignores : s.ignores e.type = false := by simpa using hkept
    exact (hall e hmem).resolve_left (by simp [hignores])

theorem select_exact_loft :
    ∃ s, Stack.top? ⟨[⟨"Ground"⟩]⟩ = some ⟨"Ground"⟩ ∧
      Loft.engine.automaton.state? ⟨"Ground"⟩ = some s ∧
      (∃ e ∈ Loft.mail, s.ignores e.type = false ∧ s.defers e.type = false) ∧
      (∃ before e after, Loft.mail = before ++ e :: after ∧
        Loft.engine.select ⟨[⟨"Ground"⟩]⟩ Loft.mail
          = .ok (some e, before.filter (fun earlier => s.defers earlier.type) ++ after)) ∧
      (∀ e ∈ [Loft.later, Loft.noise], s.ignores e.type = true ∨ s.defers e.type = true) ∧
      Loft.engine.select ⟨[⟨"Ground"⟩]⟩ [Loft.later, Loft.noise] = .ok (none, [Loft.later]) := by
  let s : State :=
    { id := ⟨"Ground"⟩, entry := none, exit := none,
      reactions := [(⟨"Climb"⟩, .push ⟨"Loft"⟩), (⟨"Noise"⟩, .ignore), (⟨"Later"⟩, .defer)],
      hot := false, cold := false }
  have htop : Stack.top? ⟨[⟨"Ground"⟩]⟩ = some ⟨"Ground"⟩ := rfl
  have hs : Loft.engine.automaton.state? ⟨"Ground"⟩ = some s := rfl
  have hwanted : ∃ e ∈ Loft.mail, s.ignores e.type = false ∧ s.defers e.type = false :=
    ⟨.message ⟨"Climb"⟩ none, by simp [Loft.mail], rfl, rfl⟩
  have hpassed : ∀ e ∈ [Loft.later, Loft.noise],
      s.ignores e.type = true ∨ s.defers e.type = true := by decide
  obtain ⟨before, e, after, hsplit, _, _, _, hselect⟩ := (select_exact htop hs Loft.mail).1 hwanted
  exact ⟨s, htop, hs, hwanted, ⟨before, e, after, hsplit, hselect⟩, hpassed,
    ((select_exact htop hs _).2 hpassed).1⟩

end Engine

end PushdownActors
