-- SUMMARY: What an action answers its dispatch, whatever it asks for on its way and whatever it makes of the replies.
import PushdownActors.Proofs.Delivery
import PushdownActors.Proofs.Layers
import PushdownActors.Proofs.Passage

/-!
# Requests of an action

An action makes requests, one after the other, and is free to overlook that one of them
has failed. Its answer does not overlook it. The first failure of a request is what the
dispatch is told, and only if there is none does it matter how the action has ended. An
action that has ended well and without such a failure has asked for one transition or for
none, since no second request for a transition is granted, and none at all where states are
left.

This is proved of all programs, at all sites, for machines and monitors, and in serial and
production systems. While an action waits, others may do what they like above its frame, and
in a production system beside it.
-/

namespace PushdownActors

/-! ## Histories -/

/-- The transition that a request is for. -/
def Request.transition? : Request → Option Transition
  | raise event => some (.raise event)
  | goto state => some (.goto state)
  | push state => some (.push state)
  | pop => some .pop
  | id | send .. | create .. | notify .. | choose _ | assert .. | receive _ | remark _ => none

/-- The failure in an answer, if there is one. -/
def failureIn? : Except Failure α → Option Failure
  | .ok _ => none
  | .error f => some f

/-- A request, and what it was answered with. -/
structure Answered where
  request : Request
  reply : request.Reply

namespace Answered

/-- The transition that was asked for. -/
def transition? (x : Answered) : Option Transition := x.request.transition?

/-- The failure of the request, if it has failed. -/
def failure? : Answered → Option Failure
  | ⟨.raise _, reply⟩ | ⟨.goto _, reply⟩ | ⟨.push _, reply⟩ | ⟨.pop, reply⟩ | ⟨.id, reply⟩
  | ⟨.send .., reply⟩ | ⟨.create .., reply⟩ | ⟨.notify .., reply⟩ | ⟨.assert .., reply⟩
  | ⟨.receive _, reply⟩ => failureIn? reply
  | ⟨.choose _, _⟩ | ⟨.remark _, _⟩ => none

/-- The transition that was asked for, if it was granted. -/
def granted? (x : Answered) : Option Transition :=
  if x.failure?.isSome then none else x.transition?

end Answered

/-- The violation of raising an event that cannot be sent. -/
def Transition.unsendable? : Transition → Option Violation
  | raise event =>
    match event.checkSendable with
    | .error violation => some violation
    | .ok () => none
  | stay | goto _ | push _ | pop => none

/-- What a request for a transition is answered with, after what has been asked before: it
is granted if it can be done at the site, and if none has been granted before. -/
def Transition.permission (t : Transition) (site : Site) (history : List Answered) :
    Except Failure Unit :=
  match t.unsendable? <|> site.forbids with
  | some violation => .error violation.toFailure
  | none =>
    if (history.findSome? Answered.granted?).isSome then
      .error Violation.doubleTransition.toFailure
    else .ok ()

/-- What a request may be answered with, after what has been asked before. -/
def Request.Answers (actor : Actor) (site : Site) (history : List Answered) :
    (r : Request) → r.Reply → Prop
  | raise event, reply => reply = (Transition.raise event).permission site history
  | goto state, reply => reply = (Transition.goto state).permission site history
  | push state, reply => reply = (Transition.push state).permission site history
  | pop, reply => reply = Transition.pop.permission site history
  | id, reply =>
    match actor with
    | .machine _ self => reply = .ok self
    | .monitor _ => reply = World.refuse "id"
  | send .., reply => ∀ type, actor = .monitor type → reply = World.refuse "send"
  | create .., reply => ∀ type, actor = .monitor type → reply = World.refuse "create_machine"
  | notify .., reply => ∀ type, actor = .monitor type → reply = World.refuse "monitor"
  | receive _, reply => ∀ type, actor = .monitor type → reply = World.refuse "receive"
  | assert holds message, reply =>
    reply = if holds then .ok () else .error (.assertion message)
  | choose _, _ | remark _, _ => True

/-- A program comes to be another one, with this history of requests. -/
inductive Program.Hears (actor : Actor) (site : Site) (body : Program σ Verdict) :
    List Answered → Program σ Verdict → Prop
  | begin : Hears actor site body [] body
  | load {history : List Answered} {next : σ → Program σ Verdict}
      (h : Hears actor site body history (.load next)) (memory : σ) :
      Hears actor site body history (next memory)
  | store {history : List Answered} {memory : σ} {next : Program σ Verdict}
      (h : Hears actor site body history (.store memory next)) :
      Hears actor site body history next
  | request {history : List Answered} {r : Request} {next : r.Reply → Program σ Verdict}
      (h : Hears actor site body history (.request r next)) {reply : r.Reply}
      (hreply : r.Answers actor site history reply) :
      Hears actor site body (history ++ [⟨r, reply⟩]) (next reply)

/-- What an action answers its dispatch that has ended like this: the first failure of a
request, or else the error or the panic with which it has ended, or else the one transition
that it has asked for, or that it stays. -/
inductive Replies (history : List Answered) : Verdict → Except Failure Transition → Prop
  | refused {v : Verdict} {f : Failure} (hfirst : history.findSome? Answered.failure? = some f) :
      Replies history v (.error f)
  | other {typeName message : String} (hclean : history.findSome? Answered.failure? = none) :
      Replies history (.error (.other typeName message)) (.error (.action typeName message))
  | failure {f : Failure} (hclean : history.findSome? Answered.failure? = none) :
      Replies history (.error (.failure f)) (.error f)
  | panicked {message : Option String} (hclean : history.findSome? Answered.failure? = none) :
      Replies history (.panicked message)
        (.error (.action "panic" (message.getD "action panicked")))
  | asked {t : Transition} (hclean : history.findSome? Answered.failure? = none)
      (honly : history.filterMap Answered.transition? = [t]) : Replies history .ok (.ok t)
  | stays (hclean : history.findSome? Answered.failure? = none)
      (hnone : history.filterMap Answered.transition? = []) : Replies history .ok (.ok .stay)

/-! ## What is known of a history -/

namespace Answered

variable {history : List Answered} {x : Answered}

theorem granted?_of_other (h : x.transition? = none) : x.granted? = none := by
  simp [granted?, h]

theorem granted?_of_failure? {f : Failure} (h : x.failure? = some f) : x.granted? = none := by
  simp [granted?, h]

theorem granted?_of_clean (h : x.failure? = none) : x.granted? = x.transition? := by
  simp [granted?, h]

/-- No request of the history has failed, and neither has the one after it. -/
theorem clean_append :
    (history ++ [x]).findSome? failure? = none ↔
      history.findSome? failure? = none ∧ x.failure? = none := by
  simp

end Answered

section Hears

variable {actor : Actor} {site : Site} {body program : Program σ Verdict}
  {history : List Answered}

/-- A request for a transition is answered as it is permitted. -/
theorem Request.Answers.permission {r : Request} {reply : r.Reply} {t : Transition}
    (h : r.Answers actor site history reply) (ht : r.transition? = some t) :
    (Answered.mk r reply).failure? = failureIn? (t.permission site history) := by
  cases r with
  | raise | goto | push | pop =>
    cases ht
    exact congrArg failureIn? h
  | _ => contradiction

/-- A transition that is permitted is the first one, at a site that allows it. -/
theorem Transition.of_permission {t : Transition} (h : t.permission site history = .ok ()) :
    site.forbids = none ∧ history.findSome? Answered.granted? = none := by
  unfold permission at h
  split at h
  · contradiction
  · rename_i hallowed
    split at h
    · contradiction
    · rename_i hfirst
      exact ⟨(Option.or_eq_none_iff.mp (by simpa using hallowed)).2, by simpa using hfirst⟩

/-- If no request has failed, then at most one was for a transition: the one that was
granted, at a site that allows it. -/
theorem Program.Hears.requested (h : body.Hears actor site history program)
    (hclean : history.findSome? Answered.failure? = none) :
    history.filterMap Answered.transition? = (history.findSome? Answered.granted?).toList ∧
      (site.forbids ≠ none → history.filterMap Answered.transition? = []) := by
  induction h with
  | begin => exact ⟨rfl, fun _ => rfl⟩
  | load _ _ ih => exact ih hclean
  | store _ ih => exact ih hclean
  | @request history r next _ reply hreply ih =>
    obtain ⟨hbefore, hlast⟩ := Answered.clean_append.mp hclean
    obtain ⟨hone, hnone⟩ := ih hbefore
    have hgranted := Answered.granted?_of_clean hlast
    cases ht : r.transition? with
    | none =>
      have hlater : (Answered.mk r reply).transition? = none := ht
      have hsame : (history ++ [Answered.mk r reply]).filterMap Answered.transition?
          = history.filterMap Answered.transition? := by simp [hlater]
      rw [hsame, List.findSome?_append]
      exact ⟨by simpa [hgranted, hlater] using hone, hnone⟩
    | some t =>
      have hlater : (Answered.mk r reply).transition? = some t := ht
      have hpermitted : t.permission site history = .ok () := by
        have hfailure := hreply.permission ht
        rw [hlast] at hfailure
        cases hpermission : t.permission site history with
        | ok => rfl
        | error f => simp [hpermission, failureIn?] at hfailure
      obtain ⟨hallowed, hfirst⟩ := t.of_permission hpermitted
      rw [hfirst] at hone
      rw [hlater] at hgranted
      simp [hone, hfirst, hgranted, hlater, hallowed]

end Hears

/-! ## What a context keeps -/

/-- The context has kept from the history what decides the answer. -/
structure Context.Keeps (c : Context) (history : List Answered) : Prop where
  transition : c.transition = history.findSome? Answered.granted?
  violation : c.violation = history.findSome? Answered.failure?

namespace Context

variable {c : Context} {actor : Actor} {site : Site} {history : List Answered}

theorem Keeps.append {c' : Context} {x : Answered} (h : c.Keeps history)
    (htransition : c'.transition = c.transition.or x.granted?)
    (hviolation : c'.violation = c.violation.or x.failure?) : c'.Keeps (history ++ [x]) := by
  refine ⟨htransition.trans ?_, hviolation.trans ?_⟩
  · simp [h.transition]
  · simp [h.violation]

/-- A question or a remark leaves nothing in the context. -/
theorem Keeps.same {x : Answered} (h : c.Keeps history) (hother : x.transition? = none)
    (hclean : x.failure? = none) : c.Keeps (history ++ [x]) :=
  h.append (by simp [Answered.granted?_of_other hother]) (by simp [hclean])

/-- A request that is granted no transition leaves no more in the context than its failure. -/
theorem Keeps.ungranted {α : Type} {x : Answered} {answer : Except Failure α} (h : c.Keeps history)
    (hgranted : x.granted? = none) (hanswer : x.failure? = failureIn? answer) :
    (c.note answer).Keeps (history ++ [x]) := by
  cases answer with
  | ok a =>
    exact h.append (by simp [Context.note, hgranted])
      (by simp [Context.note, hanswer, failureIn?])
  | error f =>
    exact h.append (by simp [Context.note, record, hgranted])
      (by simp [Context.note, record, hanswer, failureIn?])

/-- So it is with every request for something else. -/
theorem Keeps.note {α : Type} {x : Answered} {answer : Except Failure α} (h : c.Keeps history)
    (hother : x.transition? = none) (hanswer : x.failure? = failureIn? answer) :
    (c.note answer).Keeps (history ++ [x]) :=
  h.ungranted (Answered.granted?_of_other hother) hanswer

theorem demand_fst {t : Transition} : (c.demand site t).1 = c.permits site := by
  unfold demand
  split <;> simp_all

/-- A transition that can be asked for is demanded as it is permitted. -/
theorem Keeps.permission (h : c.Keeps history) {t : Transition} (hsendable : t.unsendable? = none) :
    (c.demand site t).1 = t.permission site history := by
  rw [demand_fst]
  simp only [Context.permits, Transition.permission, hsendable, h.transition]
  cases site.forbids <;> rfl

theorem Keeps.demand {t : Transition} {x : Answered} (h : c.Keeps history)
    (hx : x.transition? = some t) (hanswer : x.failure? = failureIn? (c.demand site t).1) :
    (c.demand site t).2.Keeps (history ++ [x]) := by
  rw [demand_fst] at hanswer
  cases hpermits : c.permits site with
  | ok =>
    rw [hpermits] at hanswer
    have hgranted : x.granted? = some t := (Answered.granted?_of_clean hanswer).trans hx
    have hfirst : c.transition = none := by
      unfold Context.permits at hpermits
      split at hpermits
      · contradiction
      · split at hpermits
        · contradiction
        · simp_all
    exact h.append (by simp [Context.demand, hpermits, hgranted, hfirst])
      (by simp [Context.demand, hpermits, hanswer, failureIn?])
  | error f =>
    rw [hpermits] at hanswer
    have hgranted : x.granted? = none := Answered.granted?_of_failure? hanswer
    exact h.append (by simp [Context.demand, hpermits, hgranted, record])
      (by simp [Context.demand, hpermits, hanswer, record, failureIn?])

/-- The answer to the dispatch is told by the history. -/
theorem Keeps.replies {body : Program σ Verdict} {v : Verdict} (h : c.Keeps history)
    (hhears : body.Hears actor site history (.done v)) : Replies history v (c.answer v) := by
  cases hfirst : history.findSome? Answered.failure? with
  | some f =>
    have hanswer : c.answer v = .error f := by simp [answer, h.violation, hfirst]
    exact hanswer ▸ .refused hfirst
  | none =>
    have hviolation : c.violation = none := h.violation.trans hfirst
    unfold answer
    rw [hviolation]
    match v with
    | .error (.other typeName message) => exact .other hfirst
    | .error (.failure f) => exact .failure hfirst
    | .panicked message => exact .panicked hfirst
    | .ok =>
      have hone := (hhears.requested hfirst).1
      rw [← h.transition] at hone
      cases ht : c.transition with
      | none =>
        rw [ht] at hone
        exact .stays hfirst hone
      | some t =>
        rw [ht] at hone
        exact .asked hfirst hone

end Context

section Replies

variable {history : List Answered} {v : Verdict} {reply : Except Failure Transition}

/-- An action that has asked twice fails. -/
theorem Replies.failed_of_two (h : Replies history v reply)
    (htwo : 2 ≤ (history.filterMap Answered.transition?).length) : ∃ f, reply = .error f := by
  cases h with
  | refused | other | failure | panicked => exact ⟨_, rfl⟩
  | asked _ honly => simp [honly] at htwo
  | stays _ hnone => simp [hnone] at htwo

theorem Replies.failed {f : Failure} (h : Replies history v reply)
    (hfirst : history.findSome? Answered.failure? = some f) : ∃ f, reply = .error f := by
  cases h with
  | refused | other | failure | panicked => exact ⟨_, rfl⟩
  | asked hclean | stays hclean => simp [hfirst] at hclean

/-- An action that has asked for nothing fails or stays. -/
theorem Replies.stays_of_none (h : Replies history v reply)
    (hnone : history.findSome? Answered.failure? = none →
      history.filterMap Answered.transition? = []) :
    (∃ f, reply = .error f) ∨ reply = .ok .stay := by
  cases h with
  | refused | other | failure | panicked => exact .inl ⟨_, rfl⟩
  | asked hclean honly => simp [hnone hclean] at honly
  | stays => exact .inr rfl

end Replies

/-! ## The action among the frames -/

/-- An action that is there has this program to go on with. A call that takes time is still
to be answered. Monitors do not make one. -/
inductive Stage.Stands : Actor → Stage σ → Program σ Verdict → Prop
  | running {actor : Actor} {program : Program σ Verdict} : Stands actor (.running program) program
  | receiving {place : Place} {id : MachineId} {types : List EventType}
      {next : Except Failure Event → Program σ Verdict} :
      Stands (.machine place id) (.receiving types next) (.request (.receive types) next)
  | notifying {place : Place} {id : MachineId} {type : String} {e : Event}
      {next : Except Failure Unit → Program σ Verdict} :
      Stands (.machine place id) (.notifying next) (.request (.notify type e) next)

namespace World

section Performs

variable (sys : System σ) (actor : Actor) (p : Paused) (body : Program σ Verdict)
  (rest : List (Frame σ))

/-- The action is performed: it has been started above the other frames and has not ended
before. Its frame goes on by small steps, which may be those of other frames above it. In a
production system others may change all but the frames meanwhile. -/
inductive Performs : World σ → Prop
  | start {w : World σ} (hframes : w.frames = .acting actor p {} (.running body) :: rest) :
      Performs w
  | next {w w' : World σ} (h : Performs w)
      (hlasts : ∀ c v, w.frames ≠ .acting actor p c (.running (.done v)) :: rest)
      (hnext : (w.next sys).LeadsTo w') : Performs w'
  | elsewhere {w w' : World σ} (h : Performs w) (hframes : w'.frames = w.frames) : Performs w'

/-- The action has its frame, with a context for this history, and this program to go on
with. -/
def Acting (history : List Answered) (program : Program σ Verdict) (w : World σ) : Prop :=
  ∃ above c stage, w.frames = above ++ .acting actor p c stage :: rest ∧
    stage.Stands actor program ∧ c.Keeps history

/-- However the steps go on, the action comes to its end or to a call that takes time: it
receives an event that is not there yet, or notifies a monitor. -/
inductive Settles : World σ → Prop
  | ended {w : World σ} {c : Context} {v : Verdict}
      (hframes : w.frames = .acting actor p c (.running (.done v)) :: rest) : Settles w
  | receives {w : World σ} {c : Context} {place : Place} {id : MachineId} {types : List EventType}
      {next : Except Failure Event → Program σ Verdict} (hactor : actor = .machine place id)
      (hframes : w.frames = .acting actor p c (.receiving types next) :: rest) : Settles w
  | notifies {w : World σ} {c : Context} {place : Place} {id : MachineId} {type : String}
      {e : Event} {next : Except Failure Unit → Program σ Verdict}
      (hactor : actor = .machine place id)
      (hframes : w.frames = .acting actor p c (.running (.request (.notify type e) next)) :: rest) :
      Settles w
  | next {w w' : World σ} (hnext : (w.next sys).LeadsTo w')
      (h : ∀ w', (w.next sys).LeadsTo w' → Settles w') : Settles w

end Performs

section Steps

variable {sys : System σ} {actor : Actor} {p : Paused} {body program : Program σ Verdict}
  {rest : List (Frame σ)} {c : Context} {history : List Answered} {w w' : World σ}

theorem acting_goOn (h : (w.goOn rest actor p c program).LeadsTo w') (hkeeps : c.Keeps history) :
    Acting actor p rest history program w' :=
  ⟨[], c, _, congrArg World.frames (goOn_leadsTo.mp h), .running, hkeeps⟩

/-- A machine is under none of the rules for a monitor. -/
theorem of_not_monitor {place : Place} {id : MachineId} {rule : Prop} :
    ∀ type, Actor.machine place id = .monitor type → rule := by
  simp

/-- A request takes time, or it is answered. -/
def Attends (actor : Actor) (p : Paused) (rest : List (Frame σ)) (history : List Answered)
    (r : Request) (next : r.Reply → Program σ Verdict) (w : World σ) : Prop :=
  Acting actor p rest history (.request r next) w ∨
    ∃ reply, r.Answers actor p.invocation.site history reply ∧
      Acting actor p rest (history ++ [⟨r, reply⟩]) (next reply) w

/-- A request that concerns nobody else is answered by the rules for the action. -/
theorem serve_inward_attends {r : Request} {next : r.Reply → Program σ Verdict}
    (hinward : r.isInward actor = true) (hkeeps : c.Keeps history)
    (h : (w.serve sys rest actor p c r next).LeadsTo w') :
    Attends actor p rest history r next w' := by
  cases r with
  | raise e =>
    simp only [serve] at h
    split at h
    · rename_i violation hsendable
      refine .inr ⟨_, ?_, acting_goOn h (hkeeps.ungranted (Answered.granted?_of_failure? rfl) rfl)⟩
      simp [Request.Answers, Transition.permission, Transition.unsendable?, hsendable]
    · rename_i hsendable
      have hunsendable : (Transition.raise e).unsendable? = none := by
        simp [Transition.unsendable?, hsendable]
      exact .inr ⟨_, hkeeps.permission hunsendable, acting_goOn h (hkeeps.demand rfl rfl)⟩
  | goto | push | pop =>
    exact .inr ⟨_, hkeeps.permission rfl, acting_goOn h (hkeeps.demand rfl rfl)⟩
  | assert holds message =>
    exact .inr ⟨_, rfl, acting_goOn h (hkeeps.note rfl rfl)⟩
  | choose q =>
    obtain ⟨answer, rfl⟩ := Move.leadsTo_ask.mp h
    exact .inr ⟨answer, trivial, [], c, _, rfl, .running, hkeeps.same rfl rfl⟩
  | id =>
    cases actor with
    | machine | monitor =>
      exact .inr ⟨_, rfl, acting_goOn h (hkeeps.note rfl rfl)⟩
  | send | create | notify | receive =>
    cases actor with
    | machine => contradiction
    | monitor => exact .inr ⟨_, fun _ _ => rfl, acting_goOn h (hkeeps.note rfl rfl)⟩
  | remark => contradiction

theorem serve_attends {r : Request} {next : r.Reply → Program σ Verdict}
    (hkeeps : c.Keeps history) (h : (w.serve sys rest actor p c r next).LeadsTo w') :
    Attends actor p rest history r next w' := by
  by_cases hinward : r.isInward actor = true
  · exact serve_inward_attends hinward hkeeps h
  · cases actor with
    | monitor type =>
      cases r with
      | remark => exact .inr ⟨(), trivial, acting_goOn h (hkeeps.same rfl rfl)⟩
      | _ => exact absurd rfl hinward
    | machine place id =>
      cases r with
      | remark => exact .inr ⟨(), trivial, acting_goOn h (hkeeps.same rfl rfl)⟩
      | send | create =>
        simp only [serve] at h
        split at h <;> exact .inr ⟨_, of_not_monitor, acting_goOn h (hkeeps.note rfl rfl)⟩
      | notify type e =>
        have hlayered := layered_notify h rfl
        cases hlayered with
        | beneath above hframes => exact .inl ⟨above, c, _, hframes, .notifying, hkeeps⟩
        | given hbelow result hframes =>
          cases hbelow
          exact .inr ⟨result, of_not_monitor, [], _, _, hframes, .running, hkeeps.note rfl rfl⟩
      | receive types =>
        simp only [serve] at h
        split at h
        · exact absurd h Move.not_leadsTo_idle
        · split at h
          · exact .inr ⟨_, of_not_monitor, acting_goOn h (hkeeps.note rfl rfl)⟩
          · obtain rfl := Move.leadsTo_step.mp h
            exact .inl ⟨[], c, _, rfl, .receiving, hkeeps⟩
      | raise | goto | push | pop | id | choose | assert => exact absurd rfl hinward

theorem await_attends {place : Place} {id : MachineId} {types : List EventType}
    {next : Except Failure Event → Program σ Verdict} {m : Machine σ} (hkeeps : c.Keeps history)
    (hframes : w.frames = .acting (.machine place id) p c (.receiving types next) :: rest)
    (h : (w.await sys rest (.machine place id) p c types next place m).LeadsTo w') :
    Attends (.machine place id) p rest history (.receive types) next w' := by
  have hreply {answer : Except Failure Event} {v : World σ}
      (h : (v.reply rest (.machine place id) p c answer next).LeadsTo w') :
      Attends (.machine place id) p rest history (.receive types) next w' :=
    .inr ⟨answer, of_not_monitor, acting_goOn h (hkeeps.note rfl rfl)⟩
  unfold await at h
  split at h
  · exact hreply h
  · split at h
    · exact hreply h
    · split at h
      · exact absurd h Move.not_leadsTo_parked
      · dsimp only at h
        split at h
        · exact hreply h
        · split at h
          · exact hreply h
          · obtain ⟨index, _, rfl⟩ := schedulePending_leadsTo h
            refine .inl ?_
            simp only [beginTurn, beginRun]
            split
            · exact ⟨[_], c, _, congrArg (_ :: ·) ((markBound_frames ..).trans hframes),
                .receiving, hkeeps⟩
            · exact ⟨[], c, _, (markBound_frames ..).trans hframes, .receiving, hkeeps⟩

/-- The action goes on as the program that it performs, unless a panic has ended every run. -/
def Going (actor : Actor) (p : Paused) (body : Program σ Verdict) (rest : List (Frame σ))
    (w : World σ) : Prop :=
  w.frames = [] ∨ ∃ history program, body.Hears actor p.invocation.site history program ∧
    Acting actor p rest history program w

theorem Attends.going {r : Request} {next : r.Reply → Program σ Verdict}
    (h : Attends actor p rest history r next w)
    (hhears : body.Hears actor p.invocation.site history (.request r next)) :
    Going actor p body rest w := by
  rcases h with hacting | ⟨reply, hanswers, hacting⟩
  · exact .inr ⟨_, _, hhears, hacting⟩
  · exact .inr ⟨_, _, hhears.request hanswers, hacting⟩

/-- A step of the action itself. -/
theorem next_going {stage : Stage σ} (hframes : w.frames = .acting actor p c stage :: rest)
    (hlasts : ∀ v, stage ≠ .running (.done v)) (hstands : stage.Stands actor program)
    (hkeeps : c.Keeps history) (hhears : body.Hears actor p.invocation.site history program)
    (h : (w.next sys).LeadsTo w') : Going actor p body rest w' := by
  unfold World.next at h
  rw [hframes] at h
  cases hstands with
  | running =>
    dsimp only at h
    split at h
    · cases program with
      | done v => exact absurd rfl (hlasts v)
      | load next => exact .inr ⟨_, _, hhears.load _, acting_goOn h hkeeps⟩
      | store memory next => exact .inr ⟨_, _, hhears.store, acting_goOn h hkeeps⟩
      | request r next => exact (serve_attends hkeeps h).going hhears
    · exact absurd h Move.not_leadsTo_idle
  | receiving =>
    dsimp only at h
    split at h
    · exact (await_attends hkeeps hframes h).going hhears
    · exact absurd h Move.not_leadsTo_idle
  | notifying => exact absurd h Move.not_leadsTo_idle

/-- A step of a frame above the action. If it ends the dispatch of the monitor that the
action waits for, the action has its answer. -/
theorem next_above_going {above : List (Frame σ)} {top : Frame σ} {stage : Stage σ}
    (hframes : w.frames = top :: (above ++ .acting actor p c stage :: rest))
    (hstands : stage.Stands actor program) (hkeeps : c.Keeps history)
    (hhears : body.Hears actor p.invocation.site history program)
    (h : (w.next sys).LeadsTo w') : Going actor p body rest w' := by
  rcases next_layered hframes h with (⟨new, hnew⟩ | ⟨hbelow, result, hgiven⟩) | ⟨_, hnone⟩
  · exact .inr ⟨_, _, hhears, new ++ above, c, stage, by simp [hnew], hstands, hkeeps⟩
  · cases above with
    | nil =>
      cases hbelow
      cases hstands with
      | @notifying place id type e next =>
        have hanswers : (Request.notify type e).Answers (.machine place id) p.invocation.site
            history result := of_not_monitor
        exact .inr ⟨_, _, hhears.request hanswers, [], _, _, hgiven, .running,
          hkeeps.note rfl rfl⟩
    | cons first above =>
      cases hbelow
      exact .inr ⟨_, _, hhears, _ :: above, c, stage, hgiven, hstands, hkeeps⟩
  · exact .inl hnone

/-- While it is performed the action has its frame, and a context for what it has asked. -/
theorem Performs.going (h : Performs sys actor p body rest w) : Going actor p body rest w := by
  induction h with
  | start hframes => exact .inr ⟨[], body, .begin, [], {}, _, hframes, .running, rfl, rfl⟩
  | elsewhere _ hsame ih =>
    rcases ih with hnone | ⟨history, program, hhears, above, c, stage, hframes, hacting⟩
    · exact .inl (hsame.trans hnone)
    · exact .inr ⟨_, _, hhears, above, c, stage, hsame.trans hframes, hacting⟩
  | @next w w' _ hlasts hnext ih =>
    rcases ih with hnone | ⟨history, program, hhears, above, c, stage, hframes, hstands, hkeeps⟩
    · simp [World.next, hnone] at hnext
    · cases above with
      | nil =>
        refine next_going hframes ?_ hstands hkeeps hhears hnext
        rintro v rfl
        exact hlasts c v hframes
      | cons top above => exact next_above_going hframes hstands hkeeps hhears hnext

/-- When the action has ended, its context tells its answer. -/
theorem Performs.ended {v : Verdict} (h : Performs sys actor p body rest w)
    (hframes : w.frames = .acting actor p c (.running (.done v)) :: rest) :
    ∃ history, body.Hears actor p.invocation.site history (.done v) ∧ c.Keeps history := by
  rcases h.going with hnone | ⟨history, program, hhears, above, c', stage, hacting, hstands, hkeeps⟩
  · simp [hnone] at hframes
  · have hsame := hacting.symm.trans hframes
    have habove : above = [] := by
      have hlength := congrArg List.length hsame
      simpa using hlength
    subst habove
    cases hsame
    cases hstands
    exact ⟨history, hhears, hkeeps⟩

end Steps

/-! ## The action comes to its end -/

section Settles

variable {sys : System σ} {actor : Actor} {p : Paused} {program : Program σ Verdict}
  {rest : List (Frame σ)} {c : Context} {w v : World σ}

theorem Settles.step (hnext : w.next sys = .step v) (h : Settles sys actor p rest v) :
    Settles sys actor p rest w := by
  have hstep : (w.next sys).LeadsTo v := by
    rw [hnext]
    exact .step
  refine .next hstep ?_
  intro w' hw'
  rw [hnext] at hw'
  obtain rfl := Move.leadsTo_step.mp hw'
  exact h

/-- Machines are not lost, so their cells are not. -/
theorem isSome_cell?_machine {place : Place} {id : MachineId}
    (hlength : w.machines.length ≤ v.machines.length)
    (h : (w.cell? (.machine place id)).isSome) : (v.cell? (.machine place id)).isSome := by
  simp only [cell?, machineAt?, Option.isSome_map, isSome_getElem?] at h ⊢
  exact Nat.lt_of_lt_of_le h hlength

theorem Delivered.length {e : Event} {seen : List Traffic} (h : Delivered w e seen v) :
    v.machines.length = w.machines.length := by
  cases h <;> simp [setMachine, schedule]

/-- Wherever it goes on with an answer to its request, the action settles. -/
def SettlesOn (sys : System σ) (actor : Actor) (p : Paused) (rest : List (Frame σ))
    {r : Request} (next : r.Reply → Program σ Verdict) : Prop :=
  ∀ (reply : r.Reply) {c : Context} {w : World σ},
    w.frames = .acting actor p c (.running (next reply)) :: rest → (w.cell? actor).isSome →
      Settles sys actor p rest w

section Answers

variable {r : Request} {next : r.Reply → Program σ Verdict}

/-- The answer is there in the next step. -/
theorem SettlesOn.goOn (hsettles : SettlesOn sys actor p rest next) {reply : r.Reply}
    (hnext : w.next sys = v.goOn rest actor p c (next reply)) (hcell : (v.cell? actor).isSome) :
    Settles sys actor p rest w := by
  refine .step hnext (hsettles reply rfl ?_)
  cases actor <;> exact hcell

theorem SettlesOn.inward (hsettles : SettlesOn sys actor p rest next)
    (hinward : r.isInward actor = true) (hnext : w.next sys = w.serve sys rest actor p c r next)
    (hcell : (w.cell? actor).isSome) : Settles sys actor p rest w := by
  cases r with
  | raise e =>
    cases hsendable : e.checkSendable with
    | error | ok => exact hsettles.goOn (hnext.trans (by simp only [serve, hsendable]; rfl)) hcell
  | goto | push | pop | assert => exact hsettles.goOn hnext hcell
  | choose q =>
    have hanswered (answer : q.Answer) : Settles sys actor p rest
        { w with frames := .acting actor p c (.running (next answer)) :: rest } := by
      refine hsettles answer rfl ?_
      cases actor <;> exact hcell
    obtain ⟨answer⟩ : Nonempty q.Answer := by cases q <;> exact ⟨default⟩
    have hasked : (w.next sys).LeadsTo
        { w with frames := .acting actor p c (.running (next answer)) :: rest } := by
      rw [hnext]
      exact .ask answer
    refine .next hasked ?_
    intro w' hw'
    rw [hnext] at hw'
    obtain ⟨answer, rfl⟩ := Move.leadsTo_ask.mp hw'
    exact hanswered answer
  | id => cases actor <;> exact hsettles.goOn hnext hcell
  | send | create | notify | receive =>
    cases actor with
    | machine => contradiction
    | monitor => exact hsettles.goOn hnext hcell
  | remark => contradiction

end Answers

section Machines

variable {place : Place} {id : MachineId}

theorem SettlesOn.send {target : MachineId} {e : Event}
    {next : (Request.send target e).Reply → Program σ Verdict}
    (hsettles : SettlesOn sys (.machine place id) p rest next)
    (hnext : w.next sys = w.serve sys rest (.machine place id) p c (.send target e) next)
    (hcell : (w.cell? (.machine place id)).isSome) : Settles sys (.machine place id) p rest w := by
  cases hdeliver : w.deliver target e with
  | error f => exact hsettles.goOn (hnext.trans (by simp only [serve, hdeliver]; rfl)) hcell
  | ok v =>
    have hlength := (delivered_of_deliver hdeliver).length
    exact hsettles.goOn (hnext.trans (by simp only [serve, hdeliver]; rfl))
      (isSome_cell?_machine (Nat.le_of_eq hlength.symm) hcell)

theorem SettlesOn.create {type : String} {payload : Option Value}
    {next : (Request.create type payload).Reply → Program σ Verdict}
    (hsettles : SettlesOn sys (.machine place id) p rest next)
    (hnext : w.next sys = w.serve sys rest (.machine place id) p c (.create type payload) next)
    (hcell : (w.cell? (.machine place id)).isSome) : Settles sys (.machine place id) p rest w := by
  cases hcreate : w.create sys.catalog type payload with
  | error f => exact hsettles.goOn (hnext.trans (by simp only [serve, hcreate]; rfl)) hcell
  | ok made =>
    obtain ⟨made, v⟩ := made
    have hlength : w.machines.length ≤ v.machines.length := by
      obtain ⟨blueprint, registry, rfl⟩ := create_eq_ok hcreate
      simp
    exact hsettles.goOn (hnext.trans (by simp only [serve, hcreate]; rfl))
      (isSome_cell?_machine hlength hcell)

/-- An event is taken from the mailbox, or the call takes time. -/
theorem SettlesOn.receive {types : List EventType}
    {next : (Request.receive types).Reply → Program σ Verdict}
    (hsettles : SettlesOn sys (.machine place id) p rest next)
    (hnext : w.next sys = w.serve sys rest (.machine place id) p c (.receive types) next)
    (hcell : (w.cell? (.machine place id)).isSome) : Settles sys (.machine place id) p rest w := by
  obtain ⟨cell, hfound⟩ := Option.isSome_iff_exists.mp hcell
  obtain ⟨m, hm, _⟩ := Option.map_eq_some_iff.mp hfound
  have hset (m' : Machine σ) : ((w.setMachine place m').cell? (.machine place id)).isSome :=
    isSome_cell?_machine (by simp [setMachine]) hcell
  cases htake : removeFirst types m.mailbox with
  | some taken => exact hsettles.goOn (hnext.trans (by simp only [serve, hm, htake]; rfl)) (hset _)
  | none =>
    have hwaits : w.next sys = .step { w.setMachine place { m with waiting := some types } with
        frames := .acting (.machine place id) p c (.receiving types next) :: rest } := by
      simp only [hnext, serve, hm, htake]
    exact .step hwaits (.receives rfl rfl)

end Machines

/-- A request takes time, or it is answered and the action settles after it. -/
theorem settles_of_request {r : Request} {next : r.Reply → Program σ Verdict}
    (hframes : w.frames = .acting actor p c (.running (.request r next)) :: rest)
    (hsettles : SettlesOn sys actor p rest next)
    (hnext : w.next sys = w.serve sys rest actor p c r next) (hcell : (w.cell? actor).isSome) :
    Settles sys actor p rest w := by
  by_cases hinward : r.isInward actor = true
  · exact hsettles.inward hinward hnext hcell
  · cases r with
    | remark remark =>
      have hwritten : ((w.write (.remarked actor.owner remark)).cell? actor).isSome := by
        cases actor <;> exact hcell
      exact hsettles.goOn hnext hwritten
    | send target e =>
      cases actor with
      | machine => exact hsettles.send hnext hcell
      | monitor => exact absurd rfl hinward
    | create type payload =>
      cases actor with
      | machine => exact hsettles.create hnext hcell
      | monitor => exact absurd rfl hinward
    | notify type e =>
      cases actor with
      | machine => exact .notifies rfl hframes
      | monitor => exact absurd rfl hinward
    | receive types =>
      cases actor with
      | machine => exact hsettles.receive hnext hcell
      | monitor => exact absurd rfl hinward
    | raise | goto | push | pop | id | choose | assert => exact absurd rfl hinward

/-- Every program settles that has its machine or monitor. -/
theorem settles_of_running
    (hframes : w.frames = .acting actor p c (.running program) :: rest)
    (hcell : (w.cell? actor).isSome) : Settles sys actor p rest w := by
  induction program generalizing w c with
  | done v => exact .ended hframes
  | load next ih =>
    obtain ⟨cell, hfound⟩ := Option.isSome_iff_exists.mp hcell
    have hnext : w.next sys = w.goOn rest actor p c (next cell.memory) := by
      simp only [World.next, hframes, hfound, execute]
    refine .step hnext (ih _ rfl ?_)
    cases actor <;> exact hcell
  | store memory next ih =>
    obtain ⟨cell, hfound⟩ := Option.isSome_iff_exists.mp hcell
    have hnext : w.next sys = (w.setCell actor { cell with memory }).goOn rest actor p c next := by
      simp only [World.next, hframes, hfound, execute]
    have hset := isSome_cell?_setCell hcell { cell with memory }
    refine .step hnext (ih rfl ?_)
    cases actor <;> exact hset
  | request r next ih =>
    obtain ⟨cell, hfound⟩ := Option.isSome_iff_exists.mp hcell
    have hnext : w.next sys = w.serve sys rest actor p c r next := by
      simp only [World.next, hframes, hfound, execute]
    exact settles_of_request hframes ih hnext hcell

end Settles

end World

/-! ## What a dispatch waits for -/

/-- A dispatch applies the transition of an action where it may ask for one. -/
theorem Engine.Stands.resume_iff {en : Engine}
    {invoke : ι → Invocation → Except Failure Transition × ι} {i : ι} {stack₀ stack : Stack}
    {call : Engine.Call} {calls : List Invocation} {p : Paused}
    (h : en.Stands invoke i stack₀ call calls ⟨stack, .paused p⟩) :
    p.resume = .apply ↔ p.invocation.site.forbids = none := by
  cases h with
  | asking hsite => rcases hsite with rfl | rfl <;> simp [Site.forbids]
  | falling _ _ _ _ hx =>
    obtain ⟨action, rfl⟩ := Automaton.eq_of_exits hx
    simp [Site.forbids]
  | @departing _ _ _ _ d _ _ hdeparts =>
    cases hdeparts with
    | exit hx =>
      obtain ⟨action, rfl⟩ := Automaton.eq_of_exits hx
      cases d <;> simp [Site.forbids, Departure.resume]
    | override => simp [Site.forbids]

/-! ## A waverer

It asks for two transitions, and takes no notice of what it is told. -/

namespace Waverer

def waver : Action Unit := fun _ => Body.toProgram do
  let _ ← Body.attempt (Body.goto ⟨"North"⟩)
  let _ ← Body.attempt (Body.goto ⟨"South"⟩)

def description : Description Unit :=
  let start := ({ name := "Crossing" } : StateSpec).asStart.withEntry "waver"
  let north : StateSpec := { name := "North" }
  let south : StateSpec := { name := "South" }
  (((({} : Description Unit).state start).state north).state south).action "waver" waver

def system : System Unit where
  catalog := fun _ => { fresh := (), describe := fun _ => description }
  config := .bugFinding 0

/-- It has been made, and its turn has begun. -/
def begun : World Unit :=
  let s : Session Unit CyclicChoice := { source := { numbers := [] } }
  (s.perform system 0 (.create "Waverer" none)).2.world.beginTurn 0

/-- After so many steps of its turn. -/
def after (steps : Nat) : World Unit := (World.trail system steps (begun, [])).1

def self : Actor := .machine 0 ⟨"Waverer", 1⟩

/-- The entry action of its start. -/
def entry : Paused := ⟨⟨"waver", .entry, ⟨"Crossing"⟩, .start none⟩, .apply⟩

/-- The engine of the machine. -/
def engine : Engine := self.engine (((after 1).machineAt? 0).get rfl).cell

/-- Its second request is refused, and it ends well all the same. -/
theorem performs_waver :
    World.Performs system self entry (waver entry.invocation) [] (after 3) := by
  have hstart : World.Performs system self entry (waver entry.invocation) [] (after 1) := .start rfl
  have hfirst : World.Performs system self entry (waver entry.invocation) [] (after 2) :=
    hstart.next (fun c v h => by cases h) .step
  exact hfirst.next (fun c v h => by cases h) .step

end Waverer

/-! ## Results -/

namespace World

section Results

variable {sys : System σ} {actor : Actor} {p : Paused} {body : Program σ Verdict}
  {rest : List (Frame σ)} {w : World σ} {en : Engine}
  {invoke : ι → Invocation → Except Failure PushdownActors.Transition × ι} {i j : ι}
  {stack₀ stack : Stack} {call : Engine.Call} {calls : List Invocation}

/-- The action that a dispatch waits for comes to its end, apart from calls that take time.
Its dispatch goes on with an answer that is told by its requests and its end: a failure of a
request comes before the failure that it has ended with, and that before the transition that
it has asked for. So an action that has asked twice fails, and so does one that has asked for
a transition where a state is left. Nothing is applied when it has failed, and where it may
not ask for a transition the engine is never told one. -/
theorem Performs.first_failure_decides (h : Performs sys actor p body rest w)
    (hpaused : en.Reaches invoke i (en.call stack₀ call) calls j ⟨stack, .paused p⟩) :
    (∀ c program, w.frames = .acting actor p c (.running program) :: rest →
      (w.cell? actor).isSome → Settles sys actor p rest w) ∧
    ∀ c v, w.frames = .acting actor p c (.running (.done v)) :: rest →
      (∀ message, v = .panicked message → sys.config.propagatePanics = false) →
        ∃ history reply, body.Hears actor p.invocation.site history (.done v) ∧
          Replies history v reply ∧
          (∀ cell, w.cell? actor = some cell →
            w.next sys = carry sys { w with frames := rest } actor
              ((actor.engine cell).answer cell.stack p reply)) ∧
          (2 ≤ (history.filterMap Answered.transition?).length → ∃ f, reply = .error f) ∧
          (p.invocation.site.forbids ≠ none → history.filterMap Answered.transition? ≠ [] →
            ∃ f, reply = .error f) ∧
          (∀ f, reply = .error f →
            ∀ (en : Engine) stack, en.answer stack p reply = .fail stack f) ∧
          ∀ t, reply = .ok t → p.resume ≠ .apply → t = .stay := by
  refine ⟨fun c program => settles_of_running, ?_⟩
  intro c v hframes hcaught
  obtain ⟨history, hhears, hkeeps⟩ := h.ended hframes
  have hreplies := hkeeps.replies hhears
  have hnone (hforbids : p.invocation.site.forbids ≠ none)
      (hclean : history.findSome? Answered.failure? = none) :
      history.filterMap Answered.transition? = [] := (hhears.requested hclean).2 hforbids
  refine ⟨history, c.answer v, hhears, hreplies, ?_, hreplies.failed_of_two, ?_, ?_, ?_⟩
  · intro cell hcell
    simp only [World.next, hframes, hcell, execute]
    split
    · rename_i message hthrough
      rw [hcaught message rfl] at hthrough
      contradiction
    · rfl
  · intro hforbids hasked
    cases hfirst : history.findSome? Answered.failure? with
    | some f => exact hreplies.failed hfirst
    | none => exact absurd (hnone hforbids hfirst) hasked
  · intro f hreply en stack
    rw [hreply]
    rfl
  · intro t hreply hresume
    have hforbids : p.invocation.site.forbids ≠ none :=
      fun hallowed => hresume (hpaused.stands.resume_iff.mpr hallowed)
    rcases hreplies.stays_of_none (hnone hforbids) with ⟨f, hfailed⟩ | hstays
    · simp [hfailed] at hreply
    · exact (Except.ok.inj (hstays.symm.trans hreply)).symm

/-- The waverer has ended well, and has failed. -/
theorem Performs.first_failure_decides_waverer :
    Performs Waverer.system Waverer.self Waverer.entry
        (Waverer.waver Waverer.entry.invocation) [] (Waverer.after 3) ∧
      Settles Waverer.system Waverer.self Waverer.entry [] (Waverer.after 3) ∧
      (∃ history reply,
        Program.Hears Waverer.self .entry (Waverer.waver Waverer.entry.invocation) history
          (.done .ok) ∧ Replies history .ok reply) ∧
      ∃ w, ((Waverer.after 3).next Waverer.system).LeadsTo w ∧
        (w.machineAt? 0).map (·.cell.stack) = some ⟨[⟨"Crossing"⟩]⟩ ∧
        w.failure.map (·.message) = some Violation.doubleTransition.message := by
  have hpaused : Waverer.engine.Reaches (fun (i : Unit) _ => (.ok .stay, i)) ()
      (Waverer.engine.call .empty (.start (.start none))) [] ()
      ⟨⟨[⟨"Crossing"⟩]⟩, .paused Waverer.entry⟩ := .refl
  have hreplies := Performs.first_failure_decides Waverer.performs_waver hpaused
  obtain ⟨history, reply, hhears, htold, _⟩ := hreplies.2 _ .ok rfl (by simp)
  exact ⟨Waverer.performs_waver, hreplies.1 _ _ rfl rfl, ⟨history, reply, hhears, htold⟩,
    _, .returned, rfl, rfl⟩

end Results

end World

end PushdownActors
