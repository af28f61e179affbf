import Laneway.Proofs.Broker.Run

set_option autoImplicit false

/-! # Everything a task can do in one step

`Client.Transition` lists, case by case, what the code of a task does between two points where it
waits: which state it leaves, where it waits next and what it starts. What a run preserves is proved
by going through these cases, without looking at the code again. -/

namespace Laneway.Broker

namespace Client

/-! ## The ends of an attempt -/

/-- The client after an attempt has ended: the lock has passed on, and a loop that has succeeded is
    over. -/
def released (c : Client) (owner : Owner) (result : Except Fault Unit) : Client :=
  { c with
    lock := c.lock.tail
    reconnecting := match owner, result with
      | .loop, .ok () => false
      | _, _ => c.reconnecting }

/-- Where the task of an attempt goes on after it, or how it ends. -/
def conclusion (c : Client) (now : Duration) : Owner → Except Fault Unit → Except Ending Task
  | .caller, result => .error (.answered result)
  | .loop, .ok () => .error .quiet
  | .loop, .error _ => .ok (.resting (c.wakeUp now))

/-- What the end of an attempt leaves behind. -/
def concluded (c : Client) (now : Duration) (owner : Owner) (result : Except Fault Unit) :
    Reaction :=
  ⟨c.released owner result, c.conclusion now owner result, [], []⟩

/-- An attempt only succeeds with a channel installed, so its loop starts no other one. -/
theorem endAttempt_eq_concluded (c : Client) (now : Duration) (owner : Owner)
    (result : Except Fault Unit) (installed : result = .ok () → c.channel.isSome) :
    c.endAttempt now owner result = c.concluded now owner result := by
  cases owner with
  | caller => rfl
  | loop =>
    cases result with
    | error fault => rfl
    | ok u =>
      have hsome : c.channel.isNone = false := by
        rw [← Option.not_isSome, installed rfl]
        rfl
      show endLoop { c with lock := c.lock.tail } now = _
      simp only [endLoop, hsome, Bool.false_and]
      rfl

/-- What the end of a failed attempt leaves behind. -/
def failed (c : Client) (now : Duration) (owner : Owner) (fault : Fault) : Reaction :=
  { c with state := .disconnected }.concluded now owner (.error fault)

theorem failAttempt_eq_failed (c : Client) (now : Duration) (owner : Owner) (fault : Fault) :
    c.failAttempt now owner fault = c.failed now owner fault :=
  endAttempt_eq_concluded _ now owner _ fun h => nomatch h

/-- The client with a channel installed. -/
def installing (c : Client) (channel : Channel) : Client :=
  { c with channel := some channel, everConnected := true, state := .connected }

theorem install_eq (c : Client) (now : Duration) (owner : Owner) (channel : Channel) :
    c.install now owner channel = (c.installing channel).concluded now owner (.ok ()) :=
  endAttempt_eq_concluded _ now owner _ fun _ => rfl

theorem plan_ne_nil (c : Client) : c.plan ≠ [] := by
  simp [Client.plan, Broker.plan, sharedDeclarations]

/-! ## Settle calls and handlers -/

variable {c : Client} {now : Duration} {id : TaskId}

theorem session_eq_ok_iff {session : SessionId} :
    c.session = .ok session ↔ ∃ channel, c.channel = some channel ∧ channel.session = session := by
  unfold Client.session
  cases c.channel <;> simp

/-- The call that publishes is made on the installed session. -/
theorem publishCall_makes {p : Publication} {session : SessionId} {call : Call}
    (h : c.publishCall p = .ok (session, call)) :
    c.session = .ok session ∧ ∃ exchange key message, call = .publish exchange key message := by
  unfold publishCall at h
  cases hs : c.session with
  | error fault =>
    rw [hs] at h
    exact nomatch h
  | ok found =>
    cases hb : p.body.encode.mapError Fault.serialization with
    | error fault =>
      rw [hs, hb] at h
      exact nomatch h
    | ok body =>
      rw [hs, hb] at h
      obtain ⟨rfl, rfl⟩ := Prod.mk.inj (Except.ok.inj h)
      exact ⟨rfl, _, _, _, rfl⟩

theorem publishCall_eq_ok {p : Publication} {session : SessionId} {call : Call}
    (h : c.publishCall p = .ok (session, call)) :
    ∃ channel, c.channel = some channel ∧ channel.session = session :=
  session_eq_ok_iff.1 (publishCall_makes h).1

/-- The client with a delivery marked as settled. -/
def marking (c : Client) (delivery : DeliveryId) : Client :=
  { c with
    deliveries := c.deliveries.modify delivery fun held => { held with settled := true } }

/-- The session a delivery is settled on: the one it arrived on, else the installed one. -/
def target (c : Client) (held : Held) : Except Fault SessionId :=
  match held.delivery.session with
  | some session => .ok session
  | none => c.session

theorem settleCall_eq {delivery : DeliveryId} {held : Held} {verdict : Verdict} :
    c.settleCall delivery held verdict =
      match c.target held with
      | .error fault => .error fault
      | .ok session =>
        if held.settled then .error (.alreadySettled held.delivery.tag)
        else .ok (c.marking delivery, session, .settle held.delivery.tag verdict) := by
  unfold settleCall target
  cases held.delivery.session with
  | some session => rfl
  | none => cases c.session <;> rfl

/-- A settle call that is passed on marks a delivery that was not marked, and goes to the session it
    arrived on; only one of no session goes to the installed session. -/
theorem settleCall_eq_ok {delivery : DeliveryId} {held : Held} {verdict : Verdict}
    {marked : Client} {session : SessionId} {call : Call}
    (h : c.settleCall delivery held verdict = .ok (marked, session, call)) :
    held.settled = false ∧ c.target held = .ok session ∧ marked = c.marking delivery ∧
      call = .settle held.delivery.tag verdict := by
  rw [settleCall_eq] at h
  cases ht : c.target held with
  | error fault =>
    rw [ht] at h
    exact nomatch h
  | ok found =>
    simp only [ht] at h
    split at h
    · exact nomatch h
    · next unmarked =>
      injection h with h
      injection h with hmarked h
      injection h with hsession hcall
      exact ⟨Bool.not_eq_true _ ▸ unmarked, congrArg _ hsession, hmarked.symm, hcall.symm⟩

/-- A settle call on a delivery that arrived on a session goes there, and does so once. -/
theorem settleCall_of_session {delivery : DeliveryId} {held : Held} {session : SessionId}
    (bound : held.delivery.session = some session) (verdict : Verdict) :
    c.settleCall delivery held verdict =
      if held.settled then .error (.alreadySettled held.delivery.tag)
      else .ok (c.marking delivery, session, .settle held.delivery.tag verdict) := by
  rw [settleCall_eq]
  simp only [target, bound]

section Settling

variable {delivery : DeliveryId} {verdict : Verdict} {outcome : HandlerOutcome} {P : Reaction → Prop}

theorem withHeld_of_found {held : Held} (found : c.deliveries[delivery]? = some held)
    (go : Held → Reaction) : c.withHeld delivery go = go held := by
  unfold withHeld
  rw [found]

theorem withHeld_cases {go : Held → Reaction}
    (missing : c.deliveries[delivery]? = none → P (c.stop .quiet))
    (found : ∀ held, c.deliveries[delivery]? = some held → P (go held)) :
    P (c.withHeld delivery go) := by
  unfold withHeld
  split
  · next held h => exact found held h
  · next h => exact missing h

/-- What holds of the settle call of a caller. -/
theorem settle_cases (missing : c.deliveries[delivery]? = none → P (c.stop .quiet))
    (passed : ∀ held marked session call, c.deliveries[delivery]? = some held →
      c.settleCall delivery held verdict = .ok (marked, session, call) →
      P ((marked.call session call .passed).noting ⟨delivery, verdict, .ok session⟩))
    (refused : ∀ held fault, c.deliveries[delivery]? = some held →
      c.settleCall delivery held verdict = .error fault →
      P ((c.answer (.error fault)).noting ⟨delivery, verdict, .error fault⟩)) :
    P (c.settle delivery verdict) := by
  refine withHeld_cases missing fun held found => ?_
  split
  · next marked session call h => exact passed held marked session call found h
  · next fault h => exact refused held fault found h

/-- What holds of the settle call by the outcome of a handler. -/
theorem judge_cases (missing : c.deliveries[delivery]? = none → P (c.stop .quiet))
    (passed : ∀ held marked session call, c.deliveries[delivery]? = some held →
      c.settleCall delivery held outcome.verdict = .ok (marked, session, call) →
      P ((marked.call session call .passed).noting ⟨delivery, outcome.verdict, .ok session⟩))
    (silent : ∀ held fault, c.deliveries[delivery]? = some held →
      c.settleCall delivery held outcome.verdict = .error fault → outcome = .ok →
      P (c.stop .quiet))
    (refused : ∀ held fault, c.deliveries[delivery]? = some held →
      c.settleCall delivery held outcome.verdict = .error fault → outcome ≠ .ok →
      P ((c.stop .quiet).noting ⟨delivery, outcome.verdict, .error fault⟩)) :
    P (c.judge delivery outcome) := by
  refine withHeld_cases missing fun held found => ?_
  split
  · next marked session call h => exact passed held marked session call found h
  · next fault h =>
    split
    · next well => exact silent held fault found h well
    · next ill => exact refused held fault found h ill

/-- What holds of the steps of a handler: the induction is on what is left of the handler, since a
    call that fails at once is followed by more of it in the same step. -/
theorem handle_induction (missing : c.deliveries[delivery]? = none → P (c.stop .quiet))
    (done : ∀ outcome, P (c.wait (.judging delivery outcome)))
    (settles : ∀ verdict next held marked session call, c.deliveries[delivery]? = some held →
      c.settleCall delivery held verdict = .ok (marked, session, call) →
      P ((marked.call session call (.handled delivery next)).noting
        ⟨delivery, verdict, .ok session⟩))
    (refused : ∀ verdict held fault reaction, c.deliveries[delivery]? = some held →
      c.settleCall delivery held verdict = .error fault →
      P reaction → P (reaction.noting ⟨delivery, verdict, .error fault⟩))
    (publishes : ∀ p next session call, c.publishCall p = .ok (session, call) →
      P (c.call session call (.handled delivery next)))
    (sleeps : ∀ due next, P (c.wait (.sleeping delivery due next)))
    (holds : ∀ next, P (c.wait (.holding delivery next))) (handler : Handler) :
    P (c.handle now delivery handler) := by
  induction handler with
  | done outcome => exact done outcome
  | settle verdict next ih =>
    unfold handle
    refine withHeld_cases missing fun held found => ?_
    split
    · next marked session call h => exact settles verdict next held marked session call found h
    · next fault h => exact refused verdict held fault _ found h (ih _)
  | publish p next ih =>
    unfold handle
    split
    · next session call h => exact publishes p next session call h
    · next fault _ => exact ih _
  | sleep span next _ => exact sleeps _ next
  | hold next _ => exact holds next

end Settling

/-- What a step leaves behind that settles a delivery or goes on with its handler. -/
inductive Attends (c : Client) (delivery : DeliveryId) : Reaction → Prop
  | stops (ending : Ending) : Attends c delivery (c.stop ending)
  | judging (outcome : HandlerOutcome) : Attends c delivery (c.wait (.judging delivery outcome))
  | sleeping (due : Duration) (next : Handler) :
      Attends c delivery (c.wait (.sleeping delivery due next))
  | holding (next : Bool → Handler) : Attends c delivery (c.wait (.holding delivery next))
  | publishing {p : Publication} {session : SessionId} {call : Call}
      (made : c.publishCall p = .ok (session, call)) (next : Except Fault Unit → Handler) :
      Attends c delivery (c.call session call (.handled delivery next))
  | passed {held : Held} {verdict : Verdict} {marked : Client} {session : SessionId} {call : Call}
      (found : c.deliveries[delivery]? = some held)
      (h : c.settleCall delivery held verdict = .ok (marked, session, call)) {after : After}
      (teller : after = .passed ∨ ∃ next, after = .handled delivery next) :
      Attends c delivery ((marked.call session call after).noting ⟨delivery, verdict, .ok session⟩)
  | refused {held : Held} {verdict : Verdict} {fault : Fault}
      (found : c.deliveries[delivery]? = some held)
      (h : c.settleCall delivery held verdict = .error fault) {reaction : Reaction}
      (rest : Attends c delivery reaction) :
      Attends c delivery (reaction.noting ⟨delivery, verdict, .error fault⟩)

theorem attends_settle (delivery : DeliveryId) (verdict : Verdict) :
    Attends c delivery (c.settle delivery verdict) := by
  refine settle_cases ?_ ?_ ?_
  · exact fun _ => .stops _
  · exact fun _ _ _ _ found h => .passed found h (.inl rfl)
  · exact fun _ _ found h => .refused found h (.stops _)

theorem attends_judge (delivery : DeliveryId) (outcome : HandlerOutcome) :
    Attends c delivery (c.judge delivery outcome) := by
  refine judge_cases ?_ ?_ ?_ ?_
  · exact fun _ => .stops _
  · exact fun _ _ _ _ found h => .passed found h (.inl rfl)
  · exact fun _ _ _ _ _ => .stops _
  · exact fun _ _ found h _ => .refused found h (.stops _)

theorem attends_handle (delivery : DeliveryId) (handler : Handler) :
    Attends c delivery (c.handle now delivery handler) := by
  refine handle_induction ?_ ?_ ?_ ?_ ?_ ?_ ?_ handler
  · exact fun _ => .stops _
  · exact .judging
  · exact fun _ next _ _ _ _ found h => .passed found h (.inr ⟨next, rfl⟩)
  · exact fun _ _ _ _ found h rest => .refused found h rest
  · exact fun _ next _ _ made => .publishing made next
  · exact .sleeping
  · exact .holding

/-! ## The cases -/

/-- The task comes to hold the connect lock; `held` is the client then. -/
inductive Takes (c : Client) (id : TaskId) : Owner → Task → Signal → (held : Client) → Prop
  | free (empty : c.lock = []) :
      Takes c id .caller (.begin .connect) .turn { c with lock := [id] }
  | due {due : Duration} (running : c.shutdown = false) (empty : c.lock = []) :
      Takes c id .loop (.resting due) .elapsed { c with lock := [id] }
  | granted (owner : Owner) : Takes c id owner (.locking owner) .granted c

/-- The task finds the connect lock taken. -/
inductive Queues (c : Client) : Owner → Task → Signal → Prop
  | caller : Queues c .caller (.begin .connect) .turn
  | loop {due : Duration} (running : c.shutdown = false) : Queues c .loop (.resting due) .elapsed

/-- The last call of an attempt has succeeded, and the session is ready to be installed; `ready` is
    the client then. -/
inductive Completes (c : Client) :
    Task → Signal → Owner → Channel → (ready : Client) → (started : List Task) → Prop
  | limited {session : SessionId} {call : Call} {owner : Owner} :
      Completes c (.calling session call (.limited owner false)) (.answered (.ok ())) owner
        ⟨session, c.generation + 1⟩ { c with generation := c.generation + 1 }
        [.watching ⟨session, c.generation + 1⟩]
  | restored {session : SessionId} {call : Call} {owner : Owner} {channel : Channel}
      (missing : c.registrations = []) :
      Completes c (.calling session call (.restored owner channel [])) (.answered (.ok ())) owner
        channel c []
  | attached {session : SessionId} {call : Call} {owner : Owner} {channel : Channel}
      {current : Registration} :
      Completes c (.calling session call (.attached owner channel current [])) (.answered (.ok ()))
        owner channel c [.streaming session current]

/-- A call of an attempt that is given up when it fails. -/
inductive Restores : Owner → After → Prop
  | limited (owner : Owner) (restoring : Bool) : Restores owner (.limited owner restoring)
  | restored (owner : Owner) (channel : Channel) (rest : List Declaration) :
      Restores owner (.restored owner channel rest)
  | attached (owner : Owner) (channel : Channel) (current : Registration)
      (rest : List Registration) : Restores owner (.attached owner channel current rest)

/-- An operation or the last call of one ends with an answer and nothing else. -/
inductive Answers (c : Client) : Task → Signal → Except Fault Unit → Prop
  | detached {operation : Operation} {fault : Fault} (missing : c.session = .error fault) :
      (operation matches .declareTopology | .consume _) →
      Answers c (.begin operation) .turn (.error fault)
  | unpublished {p : Publication} {fault : Fault} (missing : c.publishCall p = .error fault) :
      Answers c (.begin (.publish p)) .turn (.error fault)
  | declared {session n : SessionId} {call : Call} :
      Answers c (.calling n call (.declared session [])) (.answered (.ok ())) (.ok ())
  | undeclared {session n : SessionId} {call : Call} {rest : List Declaration} {fault : Fault} :
      Answers c (.calling n call (.declared session rest)) (.answered (.error fault)) (.error fault)
  | unconsumed {session n : SessionId} {call : Call} {registration : Registration}
      {fault : Fault} :
      Answers c (.calling n call (.consumed session registration)) (.answered (.error fault))
        (.error fault)
  | passed {n : SessionId} {call : Call} {result : Except Fault Unit} :
      Answers c (.calling n call .passed) (.answered result) result

/-- A handler goes on, and `handler` is what is left of it. -/
inductive GoesOn (c : Client) : Task → Signal → DeliveryId → (handler : Handler) → Prop
  | invoked {delivery : DeliveryId} {handler : Delivery → Handler} {held : Held}
      (found : c.deliveries[delivery]? = some held) :
      GoesOn c (.invoking delivery handler) .turn delivery (handler held.delivery)
  | slept {delivery : DeliveryId} {due : Duration} {next : Handler} :
      GoesOn c (.sleeping delivery due next) .elapsed delivery next
  | released {delivery : DeliveryId} {next : Bool → Handler} {fail : Bool} :
      GoesOn c (.holding delivery next) (.released fail) delivery (next fail)
  | told {n : SessionId} {call : Call} {delivery : DeliveryId}
      {next : Except Fault Unit → Handler} {result : Except Fault Unit} :
      GoesOn c (.calling n call (.handled delivery next)) (.answered result) delivery (next result)

/-- What a task can do in one step: from where it waited and what it was resumed with to what the
    step leaves behind. -/
inductive Transition (c : Client) (now : Duration) (id : TaskId) : Task → Signal → Reaction → Prop
  -- connection attempts
  | queues {owner : Owner} {before : Task} {signal : Signal} (h : Queues c owner before signal)
      (taken : c.lock ≠ []) :
      Transition c now id before signal
        ({ c with lock := c.lock ++ [id] }.wait (.locking owner))
  | finds {owner : Owner} {before : Task} {signal : Signal} {held : Client}
      (h : Takes c id owner before signal held) (installed : c.channel.isSome) :
      Transition c now id before signal (held.concluded now owner (.ok ()))
  | unconfigured {owner : Owner} {before : Task} {signal : Signal} {held : Client}
      (h : Takes c id owner before signal held) (missing : c.channel = none)
      (unset : c.settings.url = none) :
      Transition c now id before signal (held.concluded now owner (.error .notConfigured))
  | connects {before : Task} {signal : Signal} {held : Client}
      (h : Takes c id .caller before signal held) (missing : c.channel = none) :
      Transition c now id before signal
        ({ held with shutdown := false, state := .connecting }.wait
          (.opening .caller c.everConnected))
  | reconnects {before : Task} {signal : Signal} {held : Client}
      (h : Takes c id .loop before signal held) (missing : c.channel = none) :
      Transition c now id before signal
        ({ held with state := .connecting }.wait (.opening .loop true))
  | limits {owner : Owner} {restoring : Bool} {session : SessionId} :
      Transition c now id (.opening owner restoring) (.opened (.ok session))
        (c.call session (.prefetch c.settings.prefetch) (.limited owner restoring))
  | unopened {owner : Owner} {restoring : Bool} {fault : Fault} :
      Transition c now id (.opening owner restoring) (.opened (.error fault))
        (c.failed now owner fault)
  | restores {session : SessionId} {call : Call} {owner : Owner} {first : Declaration}
      {rest : List Declaration} (plan : c.plan = first :: rest) :
      Transition c now id (.calling session call (.limited owner true)) (.answered (.ok ()))
        ⟨{ c with generation := c.generation + 1 },
          .ok (.calling session (.declare first)
            (.restored owner ⟨session, c.generation + 1⟩ rest)),
          [.watching ⟨session, c.generation + 1⟩], []⟩
  | declares {session : SessionId} {call : Call} {owner : Owner} {channel : Channel}
      {step : Declaration} {rest : List Declaration} :
      Transition c now id (.calling session call (.restored owner channel (step :: rest)))
        (.answered (.ok ()))
        (c.call channel.session (.declare step) (.restored owner channel rest))
  | attaches {session : SessionId} {call : Call} {owner : Owner} {channel : Channel}
      {current : Registration} {rest : List Registration}
      (cloned : c.registrations = current :: rest) :
      Transition c now id (.calling session call (.restored owner channel [])) (.answered (.ok ()))
        (c.call channel.session (.consume current.queue) (.attached owner channel current rest))
  | reattaches {session : SessionId} {call : Call} {owner : Owner} {channel : Channel}
      {current next : Registration} {rest : List Registration} :
      Transition c now id (.calling session call (.attached owner channel current (next :: rest)))
        (.answered (.ok ()))
        ⟨c, .ok (.calling channel.session (.consume next.queue) (.attached owner channel next rest)),
          [.streaming session current], []⟩
  | installs {owner : Owner} {channel : Channel} {before : Task} {signal : Signal} {ready : Client}
      {started : List Task} (h : Completes c before signal owner channel ready started) :
      Transition c now id before signal
        { (ready.installing channel).concluded now owner (.ok ()) with started }
  | abandons {session : SessionId} {call : Call} {owner : Owner} {after : After} {fault : Fault}
      (h : Restores owner after) :
      Transition c now id (.calling session call after) (.answered (.error fault))
        (c.call session .close (.abandoned owner fault))
  | fails {session : SessionId} {call : Call} {owner : Owner} {fault : Fault}
      {result : Except Fault Unit} :
      Transition c now id (.calling session call (.abandoned owner fault)) (.answered result)
        (c.failed now owner fault)
  -- the reconnect loop and the loss of a session
  | retires {due : Duration} (down : c.shutdown = true) :
      Transition c now id (.resting due) .elapsed
        ({ c with reconnecting := false }.stop .quiet)
  | ignores {channel : Channel} (h : c.shutdown = true ∨ channel.generation ≠ c.generation) :
      Transition c now id (.watching channel) .lost (c.stop .quiet)
  | loses {channel : Channel} (running : c.shutdown = false)
      (newest : channel.generation = c.generation) :
      Transition c now id (.watching channel) .lost
        ⟨{ c with
            channel := c.channel.filter fun current => current.generation ≠ channel.generation
            state := .disconnected
            reconnecting := true },
          .error .quiet, if c.reconnecting then [] else [.resting (c.wakeUp now)], []⟩
  -- closing
  | closes {channel : Channel} (installed : c.channel = some channel) :
      Transition c now id (.begin .close) .turn
        ({ c with shutdown := true, everConnected := false, registrations := [],
                  channel := none }.call channel.session .close .closed)
  | shuts (missing : c.channel = none) :
      Transition c now id (.begin .close) .turn
        ({ c with shutdown := true, everConnected := false, registrations := [], channel := none,
                  state := .disconnected }.answer (.ok ()))
  | closed {session : SessionId} {call : Call} {result : Except Fault Unit} :
      Transition c now id (.calling session call .closed) (.answered result)
        ({ c with state := .disconnected }.answer (.ok ()))
  -- other operations
  | plans {channel : Channel} {first : Declaration} {rest : List Declaration}
      (installed : c.channel = some channel) (plan : c.plan = first :: rest) :
      Transition c now id (.begin .declareTopology) .turn
        (c.call channel.session (.declare first) (.declared channel.session rest))
  | continues {n session : SessionId} {call : Call} {step : Declaration}
      {rest : List Declaration} :
      Transition c now id (.calling n call (.declared session (step :: rest))) (.answered (.ok ()))
        (c.call session (.declare step) (.declared session rest))
  | publishes {p : Publication} {channel : Channel} {call : Call}
      (installed : c.channel = some channel) (made : c.publishCall p = .ok (channel.session, call)) :
      Transition c now id (.begin (.publish p)) .turn (c.call channel.session call .passed)
  | consumes {registration : Registration} {channel : Channel}
      (installed : c.channel = some channel) :
      Transition c now id (.begin (.consume registration)) .turn
        (c.call channel.session (.consume registration.queue)
          (.consumed channel.session registration))
  | registers {n session : SessionId} {call : Call} {registration : Registration} :
      Transition c now id (.calling n call (.consumed session registration)) (.answered (.ok ()))
        ⟨{ c with registrations := c.registrations ++ [registration] },
          .error (.answered (.ok ())), [.streaming session registration], []⟩
  | settles {delivery : DeliveryId} {verdict : Verdict} :
      Transition c now id (.begin (.settle delivery verdict)) .turn (c.settle delivery verdict)
  | answers {before : Task} {signal : Signal} {result : Except Fault Unit}
      (h : Answers c before signal result) : Transition c now id before signal (c.answer result)
  | observes {before : Task} {target : ConnectionState} {reaction : Reaction}
      (h : before = .begin (.awaitState target) ∨ before = .observing target)
      (seen : reaction = c.stop (.observed target) ∨ reaction = c.wait (.observing target)) :
      Transition c now id before .turn reaction
  -- deliveries
  | streams {session : SessionId} {registration : Registration} {delivery : DeliveryId} :
      Transition c now id (.streaming session registration) (.arrived delivery)
        ⟨c, .ok (.streaming session registration), [.invoking delivery registration.handler], []⟩
  | streamEnds {session : SessionId} {registration : Registration} :
      Transition c now id (.streaming session registration) .streamEnded (c.stop .quiet)
  | handles {before : Task} {signal : Signal} {delivery : DeliveryId} {handler : Handler}
      (h : GoesOn c before signal delivery handler) :
      Transition c now id before signal (c.handle now delivery handler)
  | misses {delivery : DeliveryId} {handler : Delivery → Handler}
      (unknown : c.deliveries[delivery]? = none) :
      Transition c now id (.invoking delivery handler) .turn (c.stop .quiet)
  | judges {delivery : DeliveryId} {outcome : HandlerOutcome} :
      Transition c now id (.judging delivery outcome) .turn (c.judge delivery outcome)

/-! ## Every step is one of the cases -/

theorem transition_attempt {owner : Owner} {before : Task} {signal : Signal} {held : Client}
    (h : Takes c id owner before signal held) :
    Transition c now id before signal (held.attempt now owner) := by
  have hchannel : held.channel = c.channel := by cases h <;> rfl
  have hsettings : held.settings = c.settings := by cases h <;> rfl
  have hever : held.everConnected = c.everConnected := by cases h <;> rfl
  unfold attempt
  split
  · next installed =>
    rw [endAttempt_eq_concluded _ _ _ _ fun _ => installed]
    exact .finds h (hchannel ▸ installed)
  · next missing =>
    rw [hchannel, Option.not_isSome_iff_eq_none] at missing
    split
    · next unset =>
      rw [endAttempt_eq_concluded held now owner (.error .notConfigured) (fun h => nomatch h)]
      exact .unconfigured h missing (hsettings ▸ Option.isNone_iff_eq_none.1 unset)
    · cases owner with
      | caller =>
        have hconnects : Transition c now id before signal _ := .connects h missing
        rwa [← hever] at hconnects
      | loop => exact .reconnects h missing

theorem transition_begin (operation : Operation) :
    Transition c now id (.begin operation) .turn (c.begin now id operation) := by
  cases operation with
  | connect =>
    simp only [begin, acquire]
    by_cases hl : c.lock = []
    · simp only [hl, List.isEmpty_nil, List.nil_append, if_true]
      exact transition_attempt (.free hl)
    · simp only [List.isEmpty_iff, hl, if_false]
      exact .queues .caller hl
  | declareTopology =>
    simp only [begin]
    split
    · next session hs =>
      obtain ⟨channel, installed, rfl⟩ := session_eq_ok_iff.1 hs
      obtain ⟨first, rest, plan⟩ := List.exists_cons_of_ne_nil c.plan_ne_nil
      rw [plan]
      exact .plans installed plan
    · next fault hs => exact .answers (.detached hs rfl)
  | publish p =>
    simp only [begin]
    split
    · next session call made =>
      obtain ⟨channel, installed, rfl⟩ := publishCall_eq_ok made
      exact .publishes installed made
    · next fault missing => exact .answers (.unpublished missing)
  | consume registration =>
    simp only [begin]
    split
    · next session hs =>
      obtain ⟨channel, installed, rfl⟩ := session_eq_ok_iff.1 hs
      exact .consumes installed
    · next fault hs => exact .answers (.detached hs rfl)
  | settle delivery verdict => exact .settles
  | close =>
    simp only [begin, close]
    cases h : c.channel with
    | some channel => exact .closes h
    | none => exact .shuts h
  | awaitState target =>
    simp only [begin]
    split
    · exact .observes (.inl rfl) (.inl rfl)
    · exact .observes (.inl rfl) (.inr rfl)

theorem transition_attach {owner : Owner} {channel : Channel} {session : SessionId} {call : Call}
    (registrations : List Registration) (h : c.registrations = registrations) :
    Transition c now id (.calling session call (.restored owner channel [])) (.answered (.ok ()))
      (c.attach now owner channel registrations) := by
  cases registrations with
  | nil =>
    rw [attach, install_eq]
    exact .installs (.restored h)
  | cons current rest => exact .attaches h

theorem transition_proceed (session : SessionId) (call : Call) (after : After)
    (result : Except Fault Unit) :
    Transition c now id (.calling session call after) (.answered result)
      (c.proceed now session result after) := by
  cases after with
  | limited owner restoring =>
    cases result with
    | error fault => exact .abandons (.limited owner restoring)
    | ok u =>
      simp only [proceed, enroll]
      cases restoring with
      | false =>
        simp only [Bool.false_eq_true, if_false, install_eq]
        exact .installs .limited
      | true =>
        obtain ⟨first, rest, plan⟩ := List.exists_cons_of_ne_nil c.plan_ne_nil
        have hplan : { c with generation := c.generation + 1 }.plan = first :: rest := plan
        simp only [if_true, hplan]
        exact .restores plan
  | restored owner channel rest =>
    cases result with
    | error fault => exact .abandons (.restored owner channel rest)
    | ok u =>
      cases rest with
      | nil => exact transition_attach _ rfl
      | cons step rest => exact .declares
  | attached owner channel current rest =>
    cases result with
    | error fault => exact .abandons (.attached owner channel current rest)
    | ok u =>
      cases rest with
      | nil =>
        simp only [proceed, attach, install_eq]
        exact .installs .attached
      | cons next rest => exact .reattaches
  | abandoned owner fault =>
    simp only [proceed, failAttempt_eq_failed]
    exact .fails
  | declared n rest =>
    cases result with
    | error fault => exact .answers .undeclared
    | ok u =>
      cases rest with
      | nil => exact .answers .declared
      | cons step rest => exact .continues
  | consumed n registration =>
    cases result with
    | error fault => exact .answers .unconsumed
    | ok u => exact .registers
  | closed => exact .closed
  | passed => exact .answers .passed
  | handled delivery next => exact .handles .told

theorem transition_connectionLost (channel : Channel) :
    Transition c now id (.watching channel) .lost (c.connectionLost now channel) := by
  unfold connectionLost
  split
  · next h =>
    simp only [Bool.or_eq_true, decide_eq_true_eq] at h
    exact .ignores h
  · next h =>
    simp only [Bool.or_eq_true, decide_eq_true_eq, not_or, Bool.not_eq_true, ne_eq,
      Decidable.not_not] at h
    obtain ⟨running, newest⟩ := h
    have hloses : Transition c now id (.watching channel) .lost _ := .loses running newest
    cases hr : c.reconnecting with
    | false => simpa [scheduleReconnect, hr, wakeUp] using hloses
    | true =>
      have hsame : { c with
          channel := c.channel.filter fun current => current.generation ≠ channel.generation
          state := .disconnected
          reconnecting := true } = { c with
          channel := c.channel.filter fun current => current.generation ≠ channel.generation
          state := .disconnected } := by rw [← hr]
      simpa [scheduleReconnect, hr, hsame] using hloses

/-- Whenever a move lets a task go on, its step is one of the cases. -/
theorem transition_of_readies {s ready : System} {move : Move} {id : TaskId} {task : Task}
    {signal : Signal} (h : s.Readies move id task signal ready) :
    Transition ready.client ready.now id task signal
      (ready.client.resume ready.now id task signal) := by
  cases h with
  | connect _ => exact .limits
  | deliver _ _ => exact .streams
  | resume _ admitted =>
    cases task <;> cases signal <;> try exact absurd admitted Bool.false_ne_true
    case begin.turn => exact transition_begin _
    case locking.granted => exact transition_attempt (.granted _)
    case opening.opened result =>
      cases result with
      | ok session => exact nomatch admitted
      | error fault =>
        simp only [resume, failAttempt_eq_failed]
        exact .unopened
    case calling.answered => exact transition_proceed _ _ _ _
    case resting.elapsed =>
      simp only [resume]
      split
      · next down =>
        have hdown : s.client.shutdown = true := down
        have : s.client.endLoop s.now = ({ s.client with reconnecting := false }.stop .quiet) := by
          simp [endLoop, hdown]
        rw [this]
        exact .retires down
      · next running =>
        simp only [acquire]
        by_cases hl : s.client.lock = []
        · simp only [hl, List.isEmpty_nil, List.nil_append, if_true]
          exact transition_attempt (.due (Bool.not_eq_true _ ▸ running) hl)
        · simp only [List.isEmpty_iff, hl, if_false]
          exact .queues (.loop (Bool.not_eq_true _ ▸ running)) hl
    case watching.lost => exact transition_connectionLost _
    case streaming.streamEnded => exact .streamEnds
    case invoking.turn =>
      exact withHeld_cases (fun unknown => .misses unknown)
        fun held found => .handles (.invoked found)
    case sleeping.elapsed => exact .handles .slept
    case holding.released => exact .handles .released
    case judging.turn => exact .judges
    case observing.turn =>
      simp only [resume]
      split
      · exact .observes (.inr rfl) (.inl rfl)
      · exact .observes (.inr rfl) (.inr rfl)

end Client

end Laneway.Broker
