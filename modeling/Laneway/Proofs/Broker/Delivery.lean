import Laneway.Proofs.Broker.Transition

set_option autoImplicit false

/-! # Steps and deliveries

Only few tasks settle deliveries: an operation that a caller begins, the handler of a delivery, and
the judgement of a handler that has ended. `Client.Turn` is a step as seen from there. A delivery that
arrived on a session is settled by the first of these that tries, with one call on that session, and
every other attempt is refused. -/

namespace Laneway.Broker

/-- The delivery that a task hands to a handler, handles or judges. -/
def Task.dispatch? : Task → Option DeliveryId
  | .invoking delivery _ | .sleeping delivery _ _ | .holding delivery _ | .judging delivery _ =>
    some delivery
  | .calling _ _ (.handled delivery _) => some delivery
  | _ => none

/-- The delivery that a task may settle. -/
def Task.settles? : Task → Option DeliveryId
  | .begin (.settle delivery _) => some delivery
  | t => t.dispatch?

theorem Task.settles?_of_dispatch? {t : Task} {delivery : DeliveryId}
    (h : t.dispatch? = some delivery) : t.settles? = some delivery := by
  cases t with
  | begin => exact nomatch h
  | _ => exact h

/-- The task of a delivery is nobody's operation. -/
theorem Task.isOperation_of_dispatch? {t : Task} {delivery : DeliveryId}
    (h : t.dispatch? = some delivery) : t.isOperation = false := by
  cases t with
  | calling session call after => cases after <;> first | rfl | exact nomatch h
  | _ => first | rfl | exact nomatch h

/-- The settle call that a task waits for: its session, its tag and its kind. -/
def Task.settleCall? : Task → Option (SessionId × Nat × Verdict)
  | .calling session (.settle tag verdict) _ => some (session, tag, verdict)
  | _ => none

/-- What a handler does in one go, from where it goes on to its next wait: the settle calls it
    performs on its delivery, in order, and what its task waits for then. A call that fails at once
    is followed by more of the handler. -/
inductive Handler.Runs (delivery : DeliveryId) : Handler → List Settlement → Task → Prop
  | ends (outcome : HandlerOutcome) : Runs delivery (.done outcome) [] (.judging delivery outcome)
  | settles {verdict : Verdict} {next : Except Fault Unit → Handler} {session : SessionId}
      {tag : Nat} :
      Runs delivery (.settle verdict next) [⟨delivery, verdict, .ok session⟩]
        (.calling session (.settle tag verdict) (.handled delivery next))
  | refused {verdict : Verdict} {next : Except Fault Unit → Handler} {fault : Fault}
      {more : List Settlement} {t : Task} (rest : Runs delivery (next (.error fault)) more t) :
      Runs delivery (.settle verdict next) (⟨delivery, verdict, .error fault⟩ :: more) t
  | publishes {p : Publication} {next : Except Fault Unit → Handler} {session : SessionId}
      {exchange key : String} {message : Message} :
      Runs delivery (.publish p next) []
        (.calling session (.publish exchange key message) (.handled delivery next))
  | unpublished {p : Publication} {next : Except Fault Unit → Handler} {fault : Fault}
      {more : List Settlement} {t : Task} (rest : Runs delivery (next (.error fault)) more t) :
      Runs delivery (.publish p next) more t
  | sleeps {span due : Duration} {next : Handler} :
      Runs delivery (.sleep span next) [] (.sleeping delivery due next)
  | holds {next : Bool → Handler} : Runs delivery (.hold next) [] (.holding delivery next)

/-- The task goes on with the handler of a delivery that it has begun. -/
def Continues (delivery : DeliveryId) (reaction : Reaction) : Prop :=
  ∃ t, reaction.next = .ok t ∧ t.dispatch? = some delivery ∧ ∀ d h, t ≠ .invoking d h

/-- The delivery that arrives with a signal. -/
def Signal.arrived? : Signal → Option DeliveryId
  | .arrived delivery => some delivery
  | _ => none

namespace Client

/-- A step from the point of view of deliveries. -/
inductive Turn (c : Client) (now : Duration) : Task → Signal → Reaction → Prop
  | rests {before : Task} {signal : Signal} {reaction : Reaction} (apart : before.settles? = none)
      (still : signal.arrived? = none)
      (same : reaction.client.deliveries = c.deliveries) (quiet : reaction.settlements = [])
      (goesOn : ∀ t, reaction.next = .ok t → t.settles? = none ∧ t.settleCall? = none)
      (starts : ∀ t ∈ reaction.started, t.settles? = none) : Turn c now before signal reaction
  | streams {session : SessionId} {registration : Registration} {delivery : DeliveryId} :
      Turn c now (.streaming session registration) (.arrived delivery)
        ⟨c, .ok (.streaming session registration), [.invoking delivery registration.handler], []⟩
  | settles {delivery : DeliveryId} {verdict : Verdict} :
      Turn c now (.begin (.settle delivery verdict)) .turn (c.settle delivery verdict)
  | handles {before : Task} {signal : Signal} {delivery : DeliveryId} {handler : Handler}
      (h : GoesOn c before signal delivery handler) :
      Turn c now before signal (c.handle now delivery handler)
  | misses {delivery : DeliveryId} {handler : Delivery → Handler}
      (unknown : c.deliveries[delivery]? = none) :
      Turn c now (.invoking delivery handler) .turn (c.stop .quiet)
  | judges {delivery : DeliveryId} {outcome : HandlerOutcome} :
      Turn c now (.judging delivery outcome) .turn (c.judge delivery outcome)

variable {c : Client} {now : Duration} {id : TaskId}

theorem turn_wait {before : Task} {signal : Signal} (apart : before.settles? = none)
    (still : signal.arrived? = none) {c' : Client}
    (same : c'.deliveries = c.deliveries) {task : Task} (settles : task.settles? = none)
    (call : task.settleCall? = none) : Turn c now before signal (c'.wait task) :=
  .rests apart still same rfl (fun _ ht => Except.ok.inj ht ▸ ⟨settles, call⟩)
    fun _ ht => nomatch ht

theorem turn_stop {before : Task} {signal : Signal} (apart : before.settles? = none)
    (still : signal.arrived? = none) {c' : Client}
    (same : c'.deliveries = c.deliveries) (ending : Ending) :
    Turn c now before signal (c'.stop ending) :=
  .rests apart still same rfl (fun _ ht => nomatch ht) fun _ ht => nomatch ht

theorem turn_concluded {before : Task} {signal : Signal} (apart : before.settles? = none)
    (still : signal.arrived? = none) {c' : Client}
    (same : c'.deliveries = c.deliveries) (owner : Owner) (result : Except Fault Unit)
    {started : List Task} (starts : ∀ t ∈ started, t.settles? = none) :
    Turn c now before signal { c'.concluded now owner result with started } := by
  refine .rests apart still same rfl ?_ starts
  intro t ht
  cases owner with
  | caller => exact nomatch ht
  | loop =>
    cases result with
    | ok u => exact nomatch ht
    | error fault =>
      cases ht
      exact ⟨rfl, rfl⟩

theorem Takes.turn {owner : Owner} {before : Task} {signal : Signal} {held : Client}
    (h : Takes c id owner before signal held) :
    before.settles? = none ∧ signal.arrived? = none ∧ held.deliveries = c.deliveries := by
  cases h <;> exact ⟨rfl, rfl, rfl⟩

theorem Completes.turn {before : Task} {signal : Signal} {owner : Owner} {channel : Channel}
    {ready : Client} {started : List Task} (h : Completes c before signal owner channel ready started) :
    before.settles? = none ∧ signal.arrived? = none ∧ ready.deliveries = c.deliveries ∧
      ∀ t ∈ started, t.settles? = none := by
  cases h with
  | limited | attached =>
    refine ⟨rfl, rfl, rfl, ?_⟩
    intro t ht
    rw [List.mem_singleton.1 ht]
    rfl
  | restored => exact ⟨rfl, rfl, rfl, fun _ ht => nomatch ht⟩

theorem Restores.settles? {owner : Owner} {after : After} (h : Restores owner after)
    (session : SessionId) (call : Call) : (Task.calling session call after).settles? = none := by
  cases h <;> rfl

theorem Answers.turn {before : Task} {signal : Signal} {result : Except Fault Unit}
    (h : Answers c before signal result) :
    before.settles? = none ∧ signal.arrived? = none := by
  cases h with
  | @detached operation fault missing kind =>
    cases operation <;> first | exact ⟨rfl, rfl⟩ | exact nomatch kind
  | _ => exact ⟨rfl, rfl⟩

theorem publishCall_settles {p : Publication} {session : SessionId} {call : Call}
    (h : c.publishCall p = .ok (session, call)) (after : After) :
    (Task.calling session call after).settleCall? = none := by
  obtain ⟨-, _, _, _, rfl⟩ := publishCall_makes h
  rfl

theorem turn_of_transition {before : Task} {signal : Signal} {reaction : Reaction}
    (h : Transition c now id before signal reaction) : Turn c now before signal reaction := by
  cases h with
  | queues queues _ => cases queues <;> refine turn_wait ?_ ?_ ?_ ?_ ?_ <;> rfl
  | finds takes | unconfigured takes =>
    obtain ⟨apart, still, same⟩ := takes.turn
    exact turn_concluded apart still same _ _ fun _ ht => nomatch ht
  | connects takes | reconnects takes =>
    obtain ⟨apart, still, same⟩ := takes.turn
    refine turn_wait apart still ?_ ?_ ?_
    · exact same
    · rfl
    · rfl
  | limits | declares | attaches | continues | closes | plans | consumes =>
    refine turn_wait ?_ ?_ ?_ ?_ ?_ <;> rfl
  | unopened | fails =>
    refine turn_concluded ?_ ?_ ?_ _ _ fun _ ht => nomatch ht
    all_goals rfl
  | restores =>
    refine .rests rfl rfl rfl rfl ?_ ?_
    · intro t ht
      cases ht
      exact ⟨rfl, rfl⟩
    · intro t ht
      rw [List.mem_singleton.1 ht]
      rfl
  | reattaches =>
    refine .rests rfl rfl rfl rfl ?_ ?_
    · intro t ht
      cases ht
      exact ⟨rfl, rfl⟩
    · intro t ht
      rw [List.mem_singleton.1 ht]
      rfl
  | installs completes =>
    obtain ⟨apart, still, same, starts⟩ := completes.turn
    refine turn_concluded apart still ?_ _ _ starts
    exact same
  | abandons restores =>
    refine turn_wait (restores.settles? _ _) ?_ ?_ ?_ ?_ <;> rfl
  | retires | ignores | shuts | closed | streamEnds =>
    refine turn_stop ?_ ?_ ?_ _ <;> rfl
  | loses =>
    refine .rests rfl rfl rfl rfl (fun t ht => nomatch ht) ?_
    intro t ht
    split at ht
    · exact nomatch ht
    · rw [List.mem_singleton.1 ht]
      rfl
  | publishes _ made =>
    refine turn_wait ?_ ?_ ?_ ?_ (publishCall_settles made _) <;> rfl
  | registers =>
    refine .rests rfl rfl rfl rfl (fun t ht => nomatch ht) ?_
    intro t ht
    rw [List.mem_singleton.1 ht]
    rfl
  | settles => exact .settles
  | answers answers =>
    obtain ⟨apart, still⟩ := answers.turn
    exact turn_stop apart still rfl _
  | observes waits seen =>
    have apart : before.settles? = none := by
      rcases waits with rfl | rfl <;> rfl
    rcases seen with rfl | rfl
    · exact turn_stop apart rfl rfl _
    · exact turn_wait apart rfl rfl rfl rfl
  | streams => exact .streams
  | handles goesOn => exact .handles goesOn
  | misses unknown => exact .misses unknown
  | judges => exact .judges

/-! ## Settle calls leave other deliveries alone -/

theorem getElem?_marking (c : Client) (delivery other : DeliveryId) :
    (c.marking delivery).deliveries[other]? =
      (c.deliveries[other]?).map fun held =>
        if delivery = other then { held with settled := true } else held := by
  simp only [marking, List.getElem?_modify]
  rfl

theorem getElem?_marking_ne {delivery other : DeliveryId} (ne : other ≠ delivery) :
    (c.marking delivery).deliveries[other]? = c.deliveries[other]? := by
  rw [getElem?_marking]
  cases c.deliveries[other]? with
  | none => rfl
  | some held => rw [Option.map_some, if_neg (Ne.symm ne)]

theorem getElem?_marking_self {delivery : DeliveryId} {held : Held}
    (found : c.deliveries[delivery]? = some held) :
    (c.marking delivery).deliveries[delivery]? = some { held with settled := true } := by
  rw [getElem?_marking, found, Option.map_some, if_pos rfl]

/-- Only the mark of a delivery ever changes. -/
theorem delivery_marking (delivery other : DeliveryId) :
    ((c.marking delivery).deliveries[other]?).map Held.delivery =
      (c.deliveries[other]?).map Held.delivery := by
  rw [getElem?_marking, Option.map_map]
  refine congrArg (Option.map · _) (funext ?_)
  intro held
  show (if delivery = other then _ else held).delivery = held.delivery
  split <;> rfl

/-- What the task of a delivery leaves behind: its settle calls are on that delivery, and it starts
    nothing. -/
structure Minds (c : Client) (delivery : DeliveryId) (reaction : Reaction) : Prop where
  others : ∀ other, other ≠ delivery →
    reaction.client.deliveries[other]? = c.deliveries[other]?
  length : reaction.client.deliveries.length = c.deliveries.length
  same : ∀ other : DeliveryId, (reaction.client.deliveries[other]?).map Held.delivery =
    (c.deliveries[other]?).map Held.delivery
  settlements : ∀ x ∈ reaction.settlements, x.delivery = delivery
  started : reaction.started = []

theorem Minds.noting {delivery : DeliveryId} {reaction : Reaction} (h : c.Minds delivery reaction)
    {settlement : Settlement} (on : settlement.delivery = delivery) :
    c.Minds delivery (reaction.noting settlement) where
  others := h.others
  length := h.length
  same := h.same
  settlements x hx := by
    rcases List.mem_cons.1 hx with rfl | old
    · exact on
    · exact h.settlements x old
  started := h.started

theorem minds_wait (delivery : DeliveryId) (task : Task) : c.Minds delivery (c.wait task) :=
  ⟨fun _ _ => rfl, rfl, fun _ => rfl, fun _ hx => (nomatch hx), rfl⟩

theorem minds_stop (delivery : DeliveryId) (ending : Ending) : c.Minds delivery (c.stop ending) :=
  ⟨fun _ _ => rfl, rfl, fun _ => rfl, fun _ hx => (nomatch hx), rfl⟩

theorem minds_call {delivery : DeliveryId} {held : Held} {verdict : Verdict} {marked : Client}
    {session : SessionId} {call : Call}
    (h : c.settleCall delivery held verdict = .ok (marked, session, call)) (after : After) :
    c.Minds delivery (marked.call session call after) := by
  obtain ⟨-, -, rfl, -⟩ := settleCall_eq_ok h
  exact ⟨fun _ ne => getElem?_marking_ne ne, List.length_modify .., delivery_marking delivery,
    fun _ hx => (nomatch hx), rfl⟩

theorem Attends.minds {delivery : DeliveryId} {reaction : Reaction}
    (h : Attends c delivery reaction) : c.Minds delivery reaction := by
  induction h with
  | stops => exact minds_stop _ _
  | judging | sleeping | holding | publishing => exact minds_wait _ _
  | passed _ h => exact (minds_call h _).noting rfl
  | refused _ _ _ ih => exact ih.noting rfl

/-- Where a handler waits its task still handles the delivery. -/
theorem next_handle (delivery : DeliveryId) (handler : Handler) :
    ∀ t, (c.handle now delivery handler).next = .ok t →
      t.dispatch? = some delivery ∧ ∀ d h, t ≠ .invoking d h := by
  refine handle_induction (P := fun r => ∀ t, r.next = .ok t →
    t.dispatch? = some delivery ∧ ∀ d h, t ≠ .invoking d h) ?_ ?_ ?_ ?_ ?_ ?_ ?_ handler
  · exact fun _ _ ht => nomatch ht
  · rintro outcome _ ⟨⟩
    exact ⟨rfl, nofun⟩
  · rintro verdict next held marked session call - - _ ⟨⟩
    exact ⟨rfl, nofun⟩
  · exact fun _ _ _ _ _ _ h => h
  · rintro p next session call - _ ⟨⟩
    exact ⟨rfl, nofun⟩
  · rintro due next _ ⟨⟩
    exact ⟨rfl, nofun⟩
  · rintro next _ ⟨⟩
    exact ⟨rfl, nofun⟩

/-- What the code of a handler does is what the handler says. -/
theorem runs_handle {delivery : DeliveryId} {held : Held}
    (found : c.deliveries[delivery]? = some held) (handler : Handler) :
    ∃ t, (c.handle now delivery handler).next = .ok t ∧
      handler.Runs delivery (c.handle now delivery handler).settlements t := by
  induction handler with
  | done outcome => exact ⟨_, rfl, .ends outcome⟩
  | settle verdict next ih =>
    rw [handle, withHeld_of_found found]
    split
    · next marked session call h =>
      obtain ⟨-, -, -, rfl⟩ := settleCall_eq_ok h
      exact ⟨_, rfl, .settles⟩
    · next fault _ =>
      obtain ⟨t, ht, runs⟩ := ih (.error fault)
      exact ⟨t, ht, .refused runs⟩
  | publish p next ih =>
    rw [handle]
    split
    · next session call h =>
      obtain ⟨-, _, _, _, rfl⟩ := publishCall_makes h
      exact ⟨_, rfl, .publishes⟩
    · next fault _ =>
      obtain ⟨t, ht, runs⟩ := ih (.error fault)
      exact ⟨t, ht, .unpublished runs⟩
  | sleep span next _ => exact ⟨_, rfl, .sleeps⟩
  | hold next _ => exact ⟨_, rfl, .holds⟩

/-- A handler goes on until it is judged. -/
theorem handle_continues {delivery : DeliveryId} {held : Held}
    (found : c.deliveries[delivery]? = some held) (handler : Handler) :
    Continues delivery (c.handle now delivery handler) := by
  obtain ⟨t, ht, -⟩ := runs_handle found handler
  exact ⟨t, ht, next_handle delivery handler t ht⟩

theorem GoesOn.dispatch? {before : Task} {signal : Signal} {delivery : DeliveryId}
    {handler : Handler} (h : GoesOn c before signal delivery handler) :
    before.dispatch? = some delivery := by
  cases h <;> rfl

/-- The settle call that a task is left waiting for is on the delivery, under its tag, and goes where
    the delivery is to be settled. -/
def Makes (c : Client) (delivery : DeliveryId) (reaction : Reaction) : Prop :=
  ∀ t session tag verdict, reaction.next = .ok t → t.settleCall? = some (session, tag, verdict) →
    ∃ held, c.deliveries[delivery]? = some held ∧ held.delivery.tag = tag ∧
      c.target held = .ok session

theorem makes_call {delivery : DeliveryId} {held : Held} {verdict : Verdict} {marked : Client}
    {session : SessionId} {call : Call} (found : c.deliveries[delivery]? = some held)
    (h : c.settleCall delivery held verdict = .ok (marked, session, call)) (after : After) :
    c.Makes delivery (marked.call session call after) := by
  obtain ⟨-, target, -, rfl⟩ := settleCall_eq_ok h
  intro t n tag kind ht hcall
  cases ht
  cases hcall
  exact ⟨held, found, rfl, target⟩

theorem makes_wait (delivery : DeliveryId) {task : Task} (quiet : task.settleCall? = none) :
    c.Makes delivery (c.wait task) := by
  intro t n tag kind ht hcall
  cases ht
  exact nomatch quiet.symm.trans hcall

theorem makes_stop (delivery : DeliveryId) (ending : Ending) : c.Makes delivery (c.stop ending) :=
  fun _ _ _ _ ht _ => nomatch ht

theorem Attends.makes {delivery : DeliveryId} {reaction : Reaction}
    (h : Attends c delivery reaction) : c.Makes delivery reaction := by
  induction h with
  | stops => exact makes_stop _ _
  | judging | sleeping | holding => exact makes_wait _ rfl
  | publishing made => exact makes_wait _ (publishCall_settles made _)
  | passed found h => exact makes_call found h _
  | refused _ _ _ ih => exact ih

/-! ## Settle calls on a delivery that arrived on a session -/

/-- What a step does about such a delivery: it leaves it, and its settle calls are refused because
    of the mark; or it marks it and passes one call on to the session. -/
inductive Treats (delivery : DeliveryId) (held : Held) (session : SessionId) :
    Reaction → Prop
  | leaves {reaction : Reaction} (same : reaction.client.deliveries[delivery]? = some held)
      (refused : ∀ x ∈ reaction.settlements, held.settled = true ∧ x.delivery = delivery ∧
        x.result = .error (.alreadySettled held.delivery.tag))
      (quiet : ∀ t, reaction.next = .ok t → t.settleCall? = none) :
      Treats delivery held session reaction
  | passes {reaction : Reaction} {verdict : Verdict} {t : Task} (unmarked : held.settled = false)
      (marks : reaction.client.deliveries[delivery]? = some { held with settled := true })
      (one : reaction.settlements = [⟨delivery, verdict, .ok session⟩])
      (goesOn : reaction.next = .ok t)
      (calls : t.settleCall? = some (session, held.delivery.tag, verdict)) :
      Treats delivery held session reaction

section Bound

variable {delivery : DeliveryId} {held : Held} {session : SessionId}

theorem treats_call (found : c.deliveries[delivery]? = some held)
    (bound : held.delivery.session = some session) {verdict : Verdict} {held' : Held}
    {marked : Client} {n : SessionId} {call : Call}
    (found' : c.deliveries[delivery]? = some held')
    (h : c.settleCall delivery held' verdict = .ok (marked, n, call)) (after : After) :
    Treats delivery held session
      ((marked.call n call after).noting ⟨delivery, verdict, .ok n⟩) := by
  cases Option.some.inj (found'.symm.trans found)
  rw [settleCall_of_session bound] at h
  split at h
  · exact nomatch h
  · next unmarked =>
    cases h
    exact .passes (Bool.not_eq_true _ ▸ unmarked) (getElem?_marking_self found) rfl rfl rfl

theorem refused_of_session (found : c.deliveries[delivery]? = some held)
    (bound : held.delivery.session = some session) {verdict : Verdict} {held' : Held}
    {fault : Fault} (found' : c.deliveries[delivery]? = some held')
    (h : c.settleCall delivery held' verdict = .error fault) :
    held.settled = true ∧ fault = .alreadySettled held.delivery.tag := by
  cases Option.some.inj (found'.symm.trans found)
  rw [settleCall_of_session bound] at h
  split at h
  · next marked =>
    cases h
    exact ⟨marked, rfl⟩
  · exact nomatch h

theorem treats_wait (found : c.deliveries[delivery]? = some held) {task : Task}
    (quiet : task.settleCall? = none) : Treats delivery held session (c.wait task) :=
  .leaves found (fun _ hx => nomatch hx) fun _ ht => Except.ok.inj ht ▸ quiet

theorem treats_stop (found : c.deliveries[delivery]? = some held) (ending : Ending) :
    Treats delivery held session (c.stop ending) :=
  .leaves found (fun _ hx => nomatch hx) fun _ ht => nomatch ht

/-- A refused settle call comes on top of what the step does after it. -/
theorem Treats.refusing {reaction : Reaction} (h : Treats delivery held session reaction)
    {verdict : Verdict} {fault : Fault}
    (refused : held.settled = true ∧ fault = .alreadySettled held.delivery.tag) :
    Treats delivery held session (reaction.noting ⟨delivery, verdict, .error fault⟩) := by
  obtain ⟨marked, rfl⟩ := refused
  cases h with
  | leaves same refused quiet =>
    refine .leaves same ?_ quiet
    intro x hx
    rcases List.mem_cons.1 hx with rfl | old
    · exact ⟨marked, rfl, rfl⟩
    · exact refused x old
  | passes unmarked => exact absurd (unmarked.symm.trans marked) Bool.noConfusion

theorem Attends.treats {reaction : Reaction} (h : Attends c delivery reaction)
    (found : c.deliveries[delivery]? = some held) (bound : held.delivery.session = some session) :
    Treats delivery held session reaction := by
  induction h with
  | stops => exact treats_stop found _
  | judging | sleeping | holding => exact treats_wait found rfl
  | publishing made => exact treats_wait found (publishCall_settles made _)
  | passed found' h => exact treats_call found bound found' h _
  | refused found' h _ ih => exact ih.refusing (refused_of_session found bound found' h)

/-- A delivery is marked once it has been judged. -/
theorem settled_judge (found : c.deliveries[delivery]? = some held)
    (bound : held.delivery.session = some session) (outcome : HandlerOutcome) :
    ∃ held', (c.judge delivery outcome).client.deliveries[delivery]? = some held' ∧
      held'.settled = true := by
  refine judge_cases (P := fun r => ∃ held', r.client.deliveries[delivery]? = some held' ∧
    held'.settled = true) ?_ ?_ ?_ ?_
  · exact fun missing => nomatch missing.symm.trans found
  · intro _ _ _ _ _ h
    obtain ⟨-, -, rfl, -⟩ := settleCall_eq_ok h
    exact ⟨_, getElem?_marking_self found, rfl⟩
  · exact fun _ _ found' h _ => ⟨held, found, (refused_of_session found bound found' h).1⟩
  · exact fun _ _ found' h _ => ⟨held, found, (refused_of_session found bound found' h).1⟩

end Bound

/-! ## Turns -/

theorem settles?_settle (delivery : DeliveryId) (verdict : Verdict) :
    ∀ t, (c.settle delivery verdict).next = .ok t → t.settles? = none := by
  refine settle_cases (P := fun r => ∀ t, r.next = .ok t → t.settles? = none) ?_ ?_ ?_
  · exact fun _ _ h => nomatch h
  · exact fun _ _ _ _ _ _ _ h => Except.ok.inj h ▸ rfl
  · exact fun _ _ _ _ _ h => nomatch h

theorem settles?_judge (delivery : DeliveryId) (outcome : HandlerOutcome) :
    ∀ t, (c.judge delivery outcome).next = .ok t → t.settles? = none := by
  refine judge_cases (P := fun r => ∀ t, r.next = .ok t → t.settles? = none) ?_ ?_ ?_ ?_
  · exact fun _ _ h => nomatch h
  · exact fun _ _ _ _ _ _ _ h => Except.ok.inj h ▸ rfl
  · exact fun _ _ _ _ _ _ h => nomatch h
  · exact fun _ _ _ _ _ _ h => nomatch h

variable {before : Task} {signal : Signal} {reaction : Reaction} {delivery : DeliveryId}

/-- A task that settles a delivery settles no other one. -/
theorem Turn.minds (turn : Turn c now before signal reaction)
    (on : before.settles? = some delivery) : c.Minds delivery reaction := by
  cases turn with
  | rests apart => exact nomatch apart.symm.trans on
  | streams => exact nomatch on
  | settles =>
    cases Option.some.inj on
    exact (attends_settle _ _).minds
  | handles goesOn =>
    cases Option.some.inj ((Task.settles?_of_dispatch? goesOn.dispatch?).symm.trans on)
    exact (attends_handle _ _).minds
  | misses => exact minds_stop _ _
  | judges =>
    cases Option.some.inj on
    exact (attends_judge _ _).minds

/-- A task that settles nothing leaves the deliveries as they are. -/
theorem Turn.quiet (turn : Turn c now before signal reaction) (apart : before.settles? = none) :
    reaction.client.deliveries = c.deliveries ∧ reaction.settlements = [] := by
  cases turn with
  | rests _ _ same quiet => exact ⟨same, quiet⟩
  | streams => exact ⟨rfl, rfl⟩
  | handles goesOn =>
    exact nomatch apart.symm.trans (Task.settles?_of_dispatch? goesOn.dispatch?)
  | settles | misses | judges => exact nomatch apart

theorem Turn.same (turn : Turn c now before signal reaction) (other : DeliveryId) :
    (reaction.client.deliveries[other]?).map Held.delivery =
      (c.deliveries[other]?).map Held.delivery := by
  cases hs : before.settles? with
  | none => rw [(turn.quiet hs).1]
  | some delivery => exact (turn.minds hs).same other

theorem Turn.length (turn : Turn c now before signal reaction) :
    reaction.client.deliveries.length = c.deliveries.length := by
  cases hs : before.settles? with
  | none => rw [(turn.quiet hs).1]
  | some delivery => exact (turn.minds hs).length

/-- Settle calls are on the delivery that the task settles. -/
theorem Turn.settlements (turn : Turn c now before signal reaction) {x : Settlement}
    (hx : x ∈ reaction.settlements) : before.settles? = some x.delivery := by
  cases hs : before.settles? with
  | none =>
    rw [(turn.quiet hs).2] at hx
    exact nomatch hx
  | some delivery => rw [(turn.minds hs).settlements x hx]

theorem Turn.makes (turn : Turn c now before signal reaction) {t : Task} {session : SessionId}
    {tag : Nat} {verdict : Verdict} (ht : reaction.next = .ok t)
    (call : t.settleCall? = some (session, tag, verdict)) :
    ∃ on held, before.settles? = some on ∧ c.deliveries[on]? = some held ∧
      held.delivery.tag = tag ∧ c.target held = .ok session := by
  cases turn with
  | rests _ _ _ _ goesOn => exact nomatch (goesOn t ht).2.symm.trans call
  | streams =>
    cases ht
    exact nomatch call
  | settles => exact ⟨_, ((attends_settle _ _).makes t _ _ _ ht call).imp fun _ h => ⟨rfl, h⟩⟩
  | handles goesOn =>
    have on := Task.settles?_of_dispatch? goesOn.dispatch?
    exact ⟨_, ((attends_handle _ _).makes t _ _ _ ht call).imp fun _ h => ⟨on, h⟩⟩
  | misses => exact nomatch ht
  | judges => exact ⟨_, ((attends_judge _ _).makes t _ _ _ ht call).imp fun _ h => ⟨rfl, h⟩⟩

theorem Turn.apart (turn : Turn c now before signal reaction)
    (apart : before.settles? ≠ some delivery) :
    reaction.client.deliveries[delivery]? = c.deliveries[delivery]? := by
  cases hs : before.settles? with
  | none => rw [(turn.quiet hs).1]
  | some other => exact (turn.minds hs).others delivery fun h => apart (h ▸ hs)

theorem Turn.treats (turn : Turn c now before signal reaction)
    (on : before.settles? = some delivery) {held : Held} {session : SessionId}
    (found : c.deliveries[delivery]? = some held)
    (bound : held.delivery.session = some session) : Treats delivery held session reaction := by
  cases turn with
  | rests apart => exact nomatch apart.symm.trans on
  | streams => exact nomatch on
  | settles =>
    cases Option.some.inj on
    exact (attends_settle _ _).treats found bound
  | handles goesOn =>
    cases Option.some.inj ((Task.settles?_of_dispatch? goesOn.dispatch?).symm.trans on)
    exact (attends_handle _ _).treats found bound
  | misses => exact treats_stop found _
  | judges =>
    cases Option.some.inj on
    exact (attends_judge _ _).treats found bound

/-- Only a stream starts the handling of a delivery: the one that arrives on it. -/
theorem Turn.started (turn : Turn c now before signal reaction) {t : Task}
    (ht : t ∈ reaction.started) (on : t.settles? = some delivery) :
    signal = .arrived delivery ∧ ∃ session registration,
      before = .streaming session registration ∧
        reaction.started = [.invoking delivery registration.handler] := by
  cases turn with
  | rests _ _ _ _ _ starts => exact nomatch (starts t ht).symm.trans on
  | streams =>
    rw [List.mem_singleton.1 ht] at on
    cases Option.some.inj on
    exact ⟨rfl, _, _, rfl, rfl⟩
  | settles =>
    rw [(attends_settle _ _).minds.started] at ht
    exact nomatch ht
  | handles =>
    rw [(attends_handle _ _).minds.started] at ht
    exact nomatch ht
  | misses => exact nomatch ht
  | judges =>
    rw [(attends_judge _ _).minds.started] at ht
    exact nomatch ht

/-- Where a task goes on to settle a delivery it has been handling it, and has begun to. -/
theorem Turn.next (turn : Turn c now before signal reaction) {t : Task}
    (ht : reaction.next = .ok t) (on : t.settles? = some delivery) :
    before.dispatch? = some delivery ∧ ∀ d h, t ≠ .invoking d h := by
  cases turn with
  | rests _ _ _ _ goesOn => exact nomatch (goesOn t ht).1.symm.trans on
  | streams =>
    cases ht
    exact nomatch on
  | settles => exact nomatch (settles?_settle _ _ t ht).symm.trans on
  | @handles _ _ other handler goesOn =>
    obtain ⟨dispatch, begun⟩ := next_handle other handler t ht
    cases Option.some.inj ((Task.settles?_of_dispatch? dispatch).symm.trans on)
    exact ⟨goesOn.dispatch?, begun⟩
  | misses => exact nomatch ht
  | judges => exact nomatch (settles?_judge _ _ t ht).symm.trans on

/-- The task of a delivery goes on until the delivery is marked. -/
theorem Turn.dispatch (turn : Turn c now before signal reaction)
    (on : before.dispatch? = some delivery) {held : Held} {session : SessionId}
    (found : c.deliveries[delivery]? = some held)
    (bound : held.delivery.session = some session) :
    Continues delivery reaction ∨
      ∃ held', reaction.client.deliveries[delivery]? = some held' ∧ held'.settled = true := by
  cases turn with
  | rests apart => exact nomatch apart.symm.trans (Task.settles?_of_dispatch? on)
  | streams | settles => exact nomatch on
  | handles goesOn =>
    cases Option.some.inj (goesOn.dispatch?.symm.trans on)
    exact .inl (handle_continues found _)
  | misses unknown =>
    cases Option.some.inj on
    exact nomatch unknown.symm.trans found
  | judges =>
    cases Option.some.inj on
    exact .inr (settled_judge found bound _)

end Client

end Laneway.Broker
