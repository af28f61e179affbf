import Laneway.Proofs.Broker.Delivery

set_option autoImplicit false

/-! # The handling of a delivery

A history tells of a delivery which settle calls were performed on it and which of them were passed
on, to which handler it was handed, and what the task that handles it has done step by step.
`Conducts` follows a handler through these steps by what the handler says alone: every step goes on
where the last one stopped, with what the task was told meanwhile, and when the handler has ended its
outcome calls for a settle call of one kind. -/

namespace Laneway.Broker

/-! ## What a history says about a delivery -/

namespace Moment

/-- The settle calls performed on the delivery in this moment, in order. -/
def settlements (delivery : DeliveryId) (m : Moment) : List Settlement :=
  match m.activity with
  | some activity => activity.settlements.filter fun x => x.delivery = delivery
  | none => []

/-- The settle call made on a session for the delivery in this moment: session, tag and kind. -/
def settleCall? (delivery : DeliveryId) (m : Moment) : Option (SessionId × Nat × Verdict) :=
  match m.activity with
  | some ⟨_, before, _, .ok next, _, _⟩ =>
    if before.settles? = some delivery then next.settleCall? else none
  | _ => none

/-- The handler that the delivery is handed to in this moment. -/
def invoked? (delivery : DeliveryId) (m : Moment) : Option (Delivery → Handler) :=
  match m.activity with
  | some ⟨_, .invoking d handler, _, _, _, _⟩ => if d = delivery then some handler else none
  | _ => none

/-- What the task that handles the delivery does in this moment. -/
def handled? (delivery : DeliveryId) (m : Moment) : Option Activity :=
  m.activity.filter fun activity => activity.before.dispatch? = some delivery

/-- In this moment the delivery of a message is taken from a stream of the session, for its
    consumer. -/
def Takes (m : Moment) (delivery : DeliveryId) (session : SessionId) (message : Delivery)
    (registration : Registration) : Prop :=
  ∃ id, m.move = .deliver id message ∧
    m.system.task? id = some (.streaming session registration) ∧
    delivery = m.system.client.deliveries.length

end Moment

/-- The settle calls performed on the delivery. -/
def settlements (delivery : DeliveryId) (history : List Moment) : List Settlement :=
  history.flatMap (Moment.settlements delivery)

/-- The settle calls made on sessions for the delivery. -/
def settleCalls (delivery : DeliveryId) (history : List Moment) :
    List (SessionId × Nat × Verdict) :=
  history.filterMap (Moment.settleCall? delivery)

/-- The handlers that the delivery was handed to. -/
def invocations (delivery : DeliveryId) (history : List Moment) : List (Delivery → Handler) :=
  history.filterMap (Moment.invoked? delivery)

/-- The steps of the task that handles the delivery. -/
def handling (delivery : DeliveryId) (history : List Moment) : List Activity :=
  history.filterMap (Moment.handled? delivery)

section Append

variable (delivery : DeliveryId) (history : List Moment) (m : Moment)

@[simp] theorem settlements_append :
    settlements delivery (history ++ [m]) = settlements delivery history ++ m.settlements delivery := by
  simp [settlements]

theorem settleCalls_append :
    settleCalls delivery (history ++ [m]) =
      settleCalls delivery history ++ (m.settleCall? delivery).toList := by
  rw [settleCalls, List.filterMap_append]
  cases h : m.settleCall? delivery <;> simp [h, settleCalls]

theorem invocations_append :
    invocations delivery (history ++ [m]) =
      invocations delivery history ++ (m.invoked? delivery).toList := by
  rw [invocations, List.filterMap_append]
  cases h : m.invoked? delivery <;> simp [h, invocations]

theorem handling_append :
    handling delivery (history ++ [m]) =
      handling delivery history ++ (m.handled? delivery).toList := by
  rw [handling, List.filterMap_append]
  cases h : m.handled? delivery <;> simp [h, handling]

variable {history}

theorem settlements_prefix {later : List Moment} (h : history <+: later) :
    settlements delivery history <+: settlements delivery later := by
  obtain ⟨more, rfl⟩ := h
  rw [settlements, settlements, List.flatMap_append]
  exact List.prefix_append _ _

theorem settleCalls_prefix {later : List Moment} (h : history <+: later) :
    settleCalls delivery history <+: settleCalls delivery later :=
  h.filterMap _

theorem invocations_prefix {later : List Moment} (h : history <+: later) :
    invocations delivery history <+: invocations delivery later :=
  h.filterMap _

end Append

/-! ## Deliveries that have not arrived -/

/-- Nothing is done about the delivery in the moment. -/
structure Moment.Still (m : Moment) (delivery : DeliveryId) : Prop where
  settlements : m.settlements delivery = []
  settleCall : m.settleCall? delivery = none
  invoked : m.invoked? delivery = none
  handled : m.handled? delivery = none

/-- Only deliveries that have come into being are settled and handled. -/
structure Known (history : List Moment) (s : System) : Prop where
  tasks : ∀ id t delivery, s.task? id = some t → t.settles? = some delivery →
    delivery < s.client.deliveries.length
  past : ∀ m ∈ history, ∀ delivery, s.client.deliveries.length ≤ delivery →
    m.Still delivery

namespace System

variable {s ready : System} {move : Move} {id : TaskId} {task : Task} {signal : Signal}

theorem Readies.turn (h : s.Readies move id task signal ready) :
    Client.Turn ready.client ready.now task signal
      (ready.client.resume ready.now id task signal) :=
  Client.turn_of_transition (Client.transition_of_readies h)

theorem Readies.length_le (h : s.Readies move id task signal ready) :
    s.client.deliveries.length ≤ ready.client.deliveries.length := by
  cases h with
  | deliver message found => exact List.length_append ▸ Nat.le_add_right _ _
  | _ => exact Nat.le_refl _

/-- What a move readies for does not touch the deliveries there are. -/
theorem Readies.deliveries (h : s.Readies move id task signal ready) {delivery : DeliveryId}
    {held : Held} (found : s.client.deliveries[delivery]? = some held) :
    ready.client.deliveries[delivery]? = some held := by
  cases h with
  | deliver message _ =>
    exact (List.getElem?_append_left (List.getElem?_eq_some_iff.1 found).1).trans found
  | _ => exact found

/-- A delivery that arrives is the next one. -/
theorem Readies.arrived (h : s.Readies move id task signal ready) {delivery : DeliveryId}
    (arrives : signal = .arrived delivery) :
    delivery = s.client.deliveries.length ∧
      ready.client.deliveries.length = s.client.deliveries.length + 1 := by
  cases h with
  | deliver message _ =>
    cases arrives
    exact ⟨rfl, List.length_append⟩
  | connect => exact nomatch arrives
  | resume _ admitted =>
    subst arrives
    cases task <;> exact nomatch admitted

theorem Readies.invoked? (_ : s.Readies move id task signal ready) {delivery : DeliveryId}
    (elsewhere : ∀ handler, task ≠ .invoking delivery handler) :
    Moment.invoked? delivery ⟨s, move, some (ready.activity id task signal)⟩ = none := by
  unfold Moment.invoked?
  split
  · next d handler _ _ _ _ hactivity =>
    have : task = .invoking d handler := congrArg Activity.before (Option.some.inj hactivity)
    refine if_neg fun hd => elsewhere handler ?_
    rw [this, hd]
  · rfl

theorem handled?_of_dispatch? {delivery : DeliveryId} (on : task.dispatch? = some delivery) :
    Moment.handled? delivery ⟨s, move, some (ready.activity id task signal)⟩ =
      some (ready.activity id task signal) :=
  Option.filter_eq_some_iff.2 ⟨rfl, decide_eq_true on⟩

theorem handled?_of_apart {delivery : DeliveryId} (apart : task.dispatch? ≠ some delivery) :
    Moment.handled? delivery ⟨s, move, some (ready.activity id task signal)⟩ = none := by
  refine Option.filter_eq_none_iff.2 fun activity same on => apart ?_
  cases Option.some.inj same
  exact of_decide_eq_true on

/-- What the moment of a move says about a delivery that its task does not settle. -/
theorem Readies.apart (h : s.Readies move id task signal ready) {delivery : DeliveryId}
    (apart : task.settles? ≠ some delivery) :
    Moment.Still ⟨s, move, some (ready.activity id task signal)⟩ delivery := by
  refine ⟨?_, ?_, ?_, ?_⟩
  · refine List.filter_eq_nil_iff.2 fun x hx on => apart ?_
    rw [h.turn.settlements hx, of_decide_eq_true on]
  · unfold Moment.settleCall?
    split
    · next before _ _ _ _ hactivity =>
      have : task = before := congrArg Activity.before (Option.some.inj hactivity)
      rw [if_neg (this ▸ apart)]
    · rfl
  · refine h.invoked? fun handler same => apart ?_
    rw [same]
    rfl
  · exact handled?_of_apart fun on => apart (Task.settles?_of_dispatch? on)

/-- The moment of a move without any task going on says nothing about deliveries. -/
theorem still_moment (s : System) (move : Move) (delivery : DeliveryId) :
    Moment.Still ⟨s, move, none⟩ delivery :=
  ⟨rfl, rfl, rfl, rfl⟩

/-- A move without any task going on keeps the deliveries there are, and starts no handling. -/
theorem Drifts.keeps {s' : System} (drift : s.Drifts move s') (numbered : s.Numbered) :
    (∃ more, s'.client.deliveries = s.client.deliveries ++ more) ∧
      (∀ id t, s'.task? id = some t → s.task? id = some t ∨
        t.dispatch? = none ∧ ∀ d, t.settles? = some d → d < s.client.deliveries.length) ∧
      ∀ id t d, s.task? id = some t → t.dispatch? = some d → s'.task? id = some t := by
  refine ⟨?_, ?_, ?_⟩
  · cases drift with
    | forge => exact ⟨_, rfl⟩
    | _ => exact ⟨[], (List.append_nil _).symm⟩
  · intro id t ht
    rcases drift.origin numbered ht with old | ⟨-, operation, allowed, rfl⟩
    · exact .inl old
    · refine .inr ⟨rfl, ?_⟩
      intro d hd
      cases operation with
      | settle delivery verdict =>
        cases hd
        exact of_decide_eq_true allowed
      | _ => exact nomatch hd
  · intro id t d ht hd
    exact drift.stays numbered ht (Task.isOperation_of_dispatch? hd)

end System

theorem Run.known {settings : Settings} {history : List Moment} {s : System}
    (run : Run settings history s) : Known history s := by
  induction run with
  | start => exact ⟨fun _ _ _ ht => (nomatch ht), fun _ hm => nomatch hm⟩
  | @next history s s' move activity run step ih =>
    rcases System.step_cases step with ⟨rfl, drift⟩ | ⟨id, task, signal, ready, h, rfl, rfl⟩
    · obtain ⟨⟨more, grows⟩, back, -⟩ := drift.keeps run.numbered
      have le : s.client.deliveries.length ≤ s'.client.deliveries.length := by
        rw [grows, List.length_append]
        exact Nat.le_add_right _ _
      refine ⟨?_, ?_⟩
      · intro other t d ht hd
        rcases back other t ht with old | ⟨-, allowed⟩
        · exact Nat.lt_of_lt_of_le (ih.tasks other t d old hd) le
        · exact Nat.lt_of_lt_of_le (allowed d hd) le
      · intro m hm d hd
        rcases List.mem_append.1 hm with old | new
        · exact ih.past m old d (Nat.le_trans le hd)
        · rw [List.mem_singleton.1 new]
          exact System.still_moment s move d
    · -- only an arrival makes the list longer, and the task it starts is on that delivery
      have grown := h.length_le
      have same := h.turn.length
      have le : s.client.deliveries.length ≤
          (ready.absorb id (ready.client.resume ready.now id task signal)).client.deliveries.length :=
        Nat.le_trans grown (Nat.le_of_eq same.symm)
      refine ⟨?_, ?_⟩
      · intro other t d ht hd
        rcases (h.follows run.numbered _).origin other t ht with
          ⟨-, old⟩ | ⟨-, goesOn⟩ | ⟨k, -, starts⟩
        · exact Nat.lt_of_lt_of_le (ih.tasks other t d old hd) le
        · have before := Task.settles?_of_dispatch? (h.turn.next goesOn hd).1
          exact Nat.lt_of_lt_of_le (ih.tasks id task d h.found before) le
        · obtain ⟨arrives, -⟩ := h.turn.started (List.mem_of_getElem? starts) hd
          obtain ⟨rfl, one_more⟩ := h.arrived arrives
          show _ < (ready.client.resume ready.now id task signal).client.deliveries.length
          rw [same, one_more]
          exact Nat.lt_succ_self _
      · intro m hm d hd
        have before : s.client.deliveries.length ≤ d := Nat.le_trans le hd
        rcases List.mem_append.1 hm with old | new
        · exact ih.past m old d before
        · rw [List.mem_singleton.1 new]
          exact h.apart fun on => Nat.not_lt_of_le before (ih.tasks id task d h.found on)

theorem Known.nothing {history : List Moment} {s : System} (known : Known history s)
    {delivery : DeliveryId} (later : s.client.deliveries.length ≤ delivery) :
    settlements delivery history = [] ∧ settleCalls delivery history = [] ∧
      invocations delivery history = [] ∧ handling delivery history = [] := by
  refine ⟨?_, ?_, ?_, ?_⟩
  · exact List.flatMap_eq_nil_iff.2 fun m hm => (known.past m hm delivery later).settlements
  · exact List.filterMap_eq_nil_iff.2 fun m hm => (known.past m hm delivery later).settleCall
  · exact List.filterMap_eq_nil_iff.2 fun m hm => (known.past m hm delivery later).invoked
  · exact List.filterMap_eq_nil_iff.2 fun m hm => (known.past m hm delivery later).handled

/-! ## The course of a handler -/

/-- What is left of the handler of a delivery when its task goes on with a signal. -/
inductive Handler.Resumes (delivery : DeliveryId) (d : Delivery) : Task → Signal → Handler → Prop
  | invoked {handler : Delivery → Handler} :
      Resumes delivery d (.invoking delivery handler) .turn (handler d)
  | slept {due : Duration} {next : Handler} :
      Resumes delivery d (.sleeping delivery due next) .elapsed next
  | released {next : Bool → Handler} {fail : Bool} :
      Resumes delivery d (.holding delivery next) (.released fail) (next fail)
  | told {session : SessionId} {call : Call} {next : Except Fault Unit → Handler}
      {result : Except Fault Unit} :
      Resumes delivery d (.calling session call (.handled delivery next)) (.answered result)
        (next result)

/-- The kind of settle call that an outcome calls for: a success is acknowledged; after a failure or
    a crash the delivery is refused for good. -/
inductive HandlerOutcome.CallsFor : HandlerOutcome → Verdict → Prop
  | succeeded : CallsFor .ok .ack
  | failed : CallsFor .failed (.nack false)
  | crashed : CallsFor .crashed (.nack false)

/-- The settle calls on a delivery after its handler has ended: one of the kind that the outcome calls
    for, or none when the handler has succeeded and the delivery was settled before. -/
inductive HandlerOutcome.Judges (outcome : HandlerOutcome) (delivery : DeliveryId) :
    List Settlement → Prop
  | performs {verdict : Verdict} {result : Except Fault SessionId} (kind : outcome.CallsFor verdict) :
      Judges outcome delivery [⟨delivery, verdict, result⟩]
  | leaves (succeeded : outcome = .ok) : Judges outcome delivery []

/-- The steps of the task that handles a delivery are those of its handler so far, and the task waits
    at a point now; `none` once the delivery has been judged. -/
inductive Conducts (delivery : DeliveryId) (d : Delivery) (handler : Delivery → Handler) :
    List Activity → Option Task → Prop
  | start : Conducts delivery d handler [] (some (.invoking delivery handler))
  | goesOn {steps : List Activity} {step : Activity} {rest : Handler} {t : Task}
      (past : Conducts delivery d handler steps (some step.before))
      (resumes : Handler.Resumes delivery d step.before step.signal rest)
      (runs : rest.Runs delivery step.settlements t) (waits : step.next = .ok t) :
      Conducts delivery d handler (steps ++ [step]) (some t)
  | judged {steps : List Activity} {step : Activity} {outcome : HandlerOutcome}
      (past : Conducts delivery d handler steps (some step.before))
      (ended : step.before = .judging delivery outcome)
      (judges : outcome.Judges delivery step.settlements) :
      Conducts delivery d handler (steps ++ [step]) none

/-- Who performs the first settle call of a step on a delivery, whose handler has come to where
    `steps` have led: a caller asks for it, or the handler does, or it is by the outcome that the
    handler has ended with. -/
inductive Chooses (delivery : DeliveryId) (d : Delivery) (handler : Delivery → Handler)
    (steps : List Activity) (step : Activity) : Verdict → Prop
  | caller {verdict : Verdict} (asks : step.before = .begin (.settle delivery verdict)) :
      Chooses delivery d handler steps step verdict
  | handler {rest : Handler} {verdict : Verdict} {result : Except Fault SessionId}
      {more : List Settlement} {t : Task}
      (past : Conducts delivery d handler steps (some step.before))
      (resumes : Handler.Resumes delivery d step.before step.signal rest)
      (runs : rest.Runs delivery (⟨delivery, verdict, result⟩ :: more) t) :
      Chooses delivery d handler steps step verdict
  | outcome {outcome : HandlerOutcome} {verdict : Verdict}
      (past : Conducts delivery d handler steps (some step.before))
      (ended : step.before = .judging delivery outcome) (kind : outcome.CallsFor verdict) :
      Chooses delivery d handler steps step verdict

/-- The kind of the first settle call performed on a delivery, and who chose it. -/
def Decided (delivery : DeliveryId) (d : Delivery) (handler : Delivery → Handler)
    (history : List Moment) (verdict : Verdict) : Prop :=
  ∃ earlier m later step result more, history = earlier ++ m :: later ∧
    settlements delivery earlier = [] ∧ m.activity = some step ∧
    step.settlements = ⟨delivery, verdict, result⟩ :: more ∧
    Chooses delivery d handler (handling delivery earlier) step verdict

section Course

variable {delivery : DeliveryId} {d : Delivery} {handler : Delivery → Handler}

/-- Later moments do not change which settle call was the first. -/
theorem Decided.append {history : List Moment} {verdict : Verdict}
    (decided : Decided delivery d handler history verdict) (m : Moment) :
    Decided delivery d handler (history ++ [m]) verdict := by
  obtain ⟨earlier, first, later, step, result, more, rfl, decided⟩ := decided
  exact ⟨earlier, first, later ++ [m], step, result, more, by simp, decided⟩

theorem HandlerOutcome.callsFor_verdict (outcome : HandlerOutcome) :
    outcome.CallsFor outcome.verdict := by
  cases outcome with
  | ok => exact .succeeded
  | failed => exact .failed
  | crashed => exact .crashed

namespace Client

variable {c : Client} {now : Duration} {held : Held}

theorem GoesOn.resumes {before : Task} {signal : Signal} {rest : Handler}
    (h : GoesOn c before signal delivery rest) (found : c.deliveries[delivery]? = some held) :
    Handler.Resumes delivery held.delivery before signal rest := by
  cases h with
  | invoked found' =>
    cases Option.some.inj (found'.symm.trans found)
    exact .invoked
  | slept => exact .slept
  | released => exact .released
  | told => exact .told

theorem judges_judge (found : c.deliveries[delivery]? = some held) (outcome : HandlerOutcome) :
    outcome.Judges delivery (c.judge delivery outcome).settlements := by
  have kind := outcome.callsFor_verdict
  refine judge_cases (P := fun r => outcome.Judges delivery r.settlements) ?_ ?_ ?_ ?_
  · exact fun missing => nomatch missing.symm.trans found
  · exact fun _ _ _ _ _ _ => .performs kind
  · exact fun _ _ _ _ succeeded => .leaves succeeded
  · exact fun _ _ _ _ _ => .performs kind

/-- The settle call of a caller is of the kind asked for, and when it is refused the caller is told
    why. -/
theorem settlements_settle (found : c.deliveries[delivery]? = some held) (verdict : Verdict) :
    ∃ result, (c.settle delivery verdict).settlements = [⟨delivery, verdict, result⟩] ∧
      ∀ fault, result = .error fault →
        (c.settle delivery verdict).next = .error (.answered (.error fault)) := by
  refine settle_cases (P := fun r => ∃ result, r.settlements = [⟨delivery, verdict, result⟩] ∧
    ∀ fault, result = .error fault → r.next = .error (.answered (.error fault))) ?_ ?_ ?_
  · exact fun missing => nomatch missing.symm.trans found
  · exact fun _ _ _ _ _ _ => ⟨_, rfl, nofun⟩
  · intro _ fault _ _
    refine ⟨.error fault, rfl, ?_⟩
    rintro _ ⟨⟩
    rfl

/-- A step of the task that handles a delivery. -/
inductive Steps (delivery : DeliveryId) (d : Delivery) (before : Task) (signal : Signal)
    (reaction : Reaction) : Prop
  | goesOn {rest : Handler} {t : Task} (resumes : Handler.Resumes delivery d before signal rest)
      (runs : rest.Runs delivery reaction.settlements t) (waits : reaction.next = .ok t) :
      Steps delivery d before signal reaction
  | judged {outcome : HandlerOutcome} (ended : before = .judging delivery outcome)
      (judges : outcome.Judges delivery reaction.settlements)
      (idle : ∀ t, reaction.next = .ok t → t.dispatch? = none) :
      Steps delivery d before signal reaction

theorem Turn.steps {before : Task} {signal : Signal} {reaction : Reaction}
    (turn : Turn c now before signal reaction) (on : before.dispatch? = some delivery)
    (found : c.deliveries[delivery]? = some held) :
    Steps delivery held.delivery before signal reaction := by
  cases turn with
  | rests apart => exact nomatch apart.symm.trans (Task.settles?_of_dispatch? on)
  | streams | settles => exact nomatch on
  | @handles _ _ _ rest goesOn =>
    cases Option.some.inj (goesOn.dispatch?.symm.trans on)
    obtain ⟨t, waits, runs⟩ := runs_handle found rest
    exact .goesOn (goesOn.resumes found) runs waits
  | misses unknown =>
    cases Option.some.inj on
    exact nomatch unknown.symm.trans found
  | judges =>
    cases Option.some.inj on
    refine .judged rfl (judges_judge found _) fun t ht => ?_
    exact Option.eq_none_iff_forall_ne_some.2 fun d hd =>
      nomatch (settles?_judge _ _ t ht).symm.trans (Task.settles?_of_dispatch? hd)

/-- Whoever performs the first settle call of a step has chosen its kind. -/
theorem Turn.chooses {before : Task} {signal : Signal} {reaction : Reaction}
    (turn : Turn c now before signal reaction) (on : before.settles? = some delivery)
    (found : c.deliveries[delivery]? = some held) {first : Settlement} {more : List Settlement}
    (performed : reaction.settlements = first :: more) {steps : List Activity} {step : Activity}
    (same : step.before = before ∧ step.signal = signal)
    (past : before.dispatch? = some delivery →
      Conducts delivery held.delivery handler steps (some before)) :
    Chooses delivery held.delivery handler steps step first.verdict := by
  obtain ⟨hbefore, hsignal⟩ := same
  obtain ⟨on_delivery, kind, result⟩ := first
  obtain rfl : on_delivery = delivery :=
    (turn.minds on).settlements _ (performed ▸ List.mem_cons_self)
  by_cases dispatch : before.dispatch? = some on_delivery
  · subst hbefore hsignal
    cases turn.steps dispatch found with
    | goesOn resumes runs =>
      rw [performed] at runs
      exact .handler (past dispatch) resumes runs
    | judged ended judges =>
      rw [performed] at judges
      cases judges with
      | performs kind => exact .outcome (past dispatch) ended kind
  · cases turn with
    | rests apart => exact nomatch apart.symm.trans on
    | streams => exact nomatch on
    | settles =>
      cases Option.some.inj on
      obtain ⟨result, only, -⟩ := settlements_settle found _
      cases performed.symm.trans only
      exact .caller hbefore
    | handles goesOn =>
      cases Option.some.inj ((Task.settles?_of_dispatch? goesOn.dispatch?).symm.trans on)
      exact absurd goesOn.dispatch? dispatch
    | misses | judges => exact absurd on dispatch

end Client

end Course

end Laneway.Broker
