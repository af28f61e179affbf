import Laneway.Proofs.Broker.Consumers

set_option autoImplicit false

/-! # Operations that find no channel

An operation that needs the channel in use looks for it before it does anything else. When there is
none, the operation fails then and there: it makes no call, registers nothing and marks no delivery.
The fault tells two situations apart by what has happened since the last close began, or ever: a
client that has not had a channel in use since is asked too early, and one that has had one has lost
it and may get another. -/

namespace Laneway.Broker

/-! ## What a history says about channels -/

/-- In this moment a channel comes into use that was not in use before. -/
def Moment.Installs (m : Moment) : Prop :=
  ∃ s' channel, m.system.step m.move = some (s', m.activity) ∧
    s'.client.channel = some channel ∧ m.system.client.channel ≠ some channel

/-- A channel has come into use since the last `close()` began, or ever when there was none. -/
def Opened (history : List Moment) : Prop :=
  ∃ m ∈ sinceLast Moment.clears history, m.Installs

/-- Why there is no channel in use, as a fault: it has been asked for too early, or it is lost. -/
inductive Absence (history : List Moment) : Fault → Prop
  | untimely (unopened : ¬ Opened history) : Absence history .notConnected
  | lost (opened : Opened history) : Absence history .disconnected

/-- Only an outage passes: asking too early is a fault of the caller. -/
theorem Absence.isTransient_iff {history : List Moment} {fault : Fault}
    (outage : Absence history fault) : fault.isTransient = true ↔ Opened history := by
  cases outage with
  | untimely unopened => exact iff_of_false Bool.noConfusion unopened
  | lost opened => exact iff_of_true rfl opened

theorem not_opened_nil : ¬ Opened [] := by
  rintro ⟨m, hm, -⟩
  exact nomatch hm

theorem opened_concat {history : List Moment} {m : Moment} : Opened (history ++ [m]) ↔
    m.clears = false ∧ (Opened history ∨ m.Installs) := by
  unfold Opened
  rw [sinceLast_concat]
  cases m.clears with
  | true => simp
  | false => simp [or_and_right, exists_or]

/-! ## The mark of a channel -/

namespace Client

variable {c : Client} {now : Duration} {id : TaskId} {before : Task} {signal : Signal}
  {reaction : Reaction}

/-- What a step does to the channel in use, and to the mark that there has been one. -/
inductive Marks (c : Client) (before : Task) (after : Client) : Prop
  | clears (close : before.clears) (gone : after.channel = none)
      (unmarked : after.everConnected = false) : Marks c before after
  | installs (other : before.clears = false) (installed : after.channel.isSome)
      (marked : after.everConnected = true) : Marks c before after
  | keeps (other : before.clears = false) (same : after.everConnected = c.everConnected)
      (old : ∀ channel, after.channel = some channel → c.channel = some channel) :
      Marks c before after

theorem Aside.marks (h : c.Aside reaction) (other : before.clears = false) :
    Marks c before reaction.client :=
  .keeps other (congrArg Link.everConnected h.link) fun _ installed =>
    (congrArg Link.channel h.link).symm.trans installed

theorem Transition.marks (h : Transition c now id before signal reaction) :
    Marks c before reaction.client := by
  cases h with
  | closes | shuts => exact .clears rfl rfl rfl
  | installs completes => cases completes <;> exact .installs rfl rfl rfl
  | loses => exact .keeps rfl rfl fun _ installed => (Option.filter_eq_some_iff.1 installed).1
  | queues queues => cases queues <;> exact .keeps rfl rfl fun _ old => old
  | finds takes | unconfigured takes | connects takes | reconnects takes =>
    cases takes <;> exact .keeps rfl rfl fun _ old => old
  | abandons restores => cases restores <;> exact .keeps rfl rfl fun _ old => old
  | answers answers =>
    cases answers with
    | @detached operation _ _ kind =>
      cases operation <;> first | exact .keeps rfl rfl fun _ old => old | exact nomatch kind
    | _ => exact .keeps rfl rfl fun _ old => old
  | observes waits seen =>
    rcases waits with rfl | rfl <;> rcases seen with rfl | rfl <;>
      exact .keeps rfl rfl fun _ old => old
  | settles => exact (attends_settle _ _).aside.marks rfl
  | judges => exact (attends_judge _ _).aside.marks rfl
  | handles goesOn => cases goesOn <;> exact (attends_handle _ _).aside.marks rfl
  | _ => exact .keeps rfl rfl fun _ old => old

end Client

/-- The mark says whether a channel has come into use since the last close began, and a client with
    a channel in use has the mark. -/
structure Client.Marked (c : Client) (history : List Moment) : Prop where
  mark : c.everConnected = true ↔ Opened history
  held : c.channel.isSome → c.everConnected = true

section Marked

variable {settings : Settings} {history : List Moment} {s s' : System} {move : Move}
  {activity : Option Activity} {c after : Client} {m : Moment}

theorem Moment.not_installs (step : s.step move = some (s', activity))
    (old : ∀ channel, s'.client.channel = some channel → s.client.channel = some channel) :
    ¬ Moment.Installs ⟨s, move, activity⟩ := by
  rintro ⟨_, channel, step', installed, new⟩
  cases step.symm.trans step'
  exact new (old channel installed)

theorem Client.Marked.keep (marked : c.Marked history)
    (same : after.everConnected = c.everConnected)
    (old : ∀ channel, after.channel = some channel → c.channel = some channel)
    (other : m.clears = false) (none : ¬ m.Installs) : after.Marked (history ++ [m]) where
  mark := by simp [opened_concat, same, marked.mark, other, none]
  held installed := by
    obtain ⟨channel, installed⟩ := Option.isSome_iff_exists.1 installed
    exact same.trans (marked.held (old channel installed ▸ rfl))

/-- A channel that comes into use in place of itself was in use before, so it has the mark. -/
theorem Client.Marked.install (marked : s.client.Marked history)
    (step : s.step move = some (s', activity))
    (other : Moment.clears ⟨s, move, activity⟩ = false)
    (installed : s'.client.channel.isSome) (mark : s'.client.everConnected = true) :
    s'.client.Marked (history ++ [⟨s, move, activity⟩]) := by
  refine ⟨iff_of_true mark (opened_concat.2 ⟨other, ?_⟩), fun _ => mark⟩
  obtain ⟨channel, installed⟩ := Option.isSome_iff_exists.1 installed
  by_cases old : s.client.channel = some channel
  · exact .inl (marked.mark.1 (marked.held (old ▸ rfl)))
  · exact .inr ⟨s', channel, step, installed, old⟩

theorem Run.marked (run : Run settings history s) : s.client.Marked history := by
  induction run with
  | start => exact ⟨iff_of_false Bool.noConfusion not_opened_nil, fun h => nomatch h⟩
  | next run step ih =>
    rcases System.step_cases step with ⟨rfl, drift⟩ | ⟨id, task, signal, ready, h, rfl, rfl⟩
    · have channel := congrArg Link.channel drift.link.1
      have old := fun found (installed : _ = some found) => channel.symm.trans installed
      exact ih.keep (congrArg Link.everConnected drift.link.1) old rfl
        (Moment.not_installs step old)
    · have channel : ready.client.channel = _ := congrArg Link.channel h.link
      have mark : ready.client.everConnected = _ := congrArg Link.everConnected h.link
      cases (Client.transition_of_readies h).marks with
      | clears close gone unmarked =>
        refine ⟨iff_of_false (Bool.eq_false_iff.1 unmarked) fun opened => ?_, fun installed => ?_⟩
        · exact nomatch close.symm.trans (opened_concat.1 opened).1
        · rw [System.absorb, gone] at installed
          exact nomatch installed
      | installs other installed mark => exact ih.install step other installed mark
      | keeps other same kept =>
        have old := fun found installed => channel ▸ kept found installed
        exact ih.keep (same.trans mark) old other (Moment.not_installs step old)

end Marked

/-! ## Operations that fail at once -/

/-- The operation needs the channel in use. -/
inductive Operation.NeedsChannel (c : Client) : Operation → Prop
  | declareTopology : NeedsChannel c .declareTopology
  | publish (p : Publication) : NeedsChannel c (.publish p)
  | consume (registration : Registration) : NeedsChannel c (.consume registration)
  | settle {delivery : DeliveryId} {held : Held} (found : c.deliveries[delivery]? = some held)
      (unbound : held.delivery.session = none) (verdict : Verdict) :
      NeedsChannel c (.settle delivery verdict)

namespace Client

variable {c : Client} {now : Duration} {id : TaskId} {fault : Fault}

theorem session_of_none (missing : c.channel = none) :
    c.session = .error (if c.everConnected then .disconnected else .notConnected) := by
  unfold session
  rw [missing]

theorem publishCall_of_missing (missing : c.session = .error fault) (p : Publication) :
    c.publishCall p = .error fault := by
  unfold publishCall
  rw [missing]
  rfl

theorem publishCall_of_encode {channel : Channel} (installed : c.channel = some channel)
    {p : Publication} {reason : String} (unwritten : p.body.encode = .error reason) :
    c.publishCall p = .error (.serialization reason) := by
  unfold publishCall
  rw [session_eq_ok_iff.2 ⟨channel, installed, rfl⟩, unwritten]
  rfl

/-- The channel is looked for before the mark of the delivery is, and before it is set. -/
theorem settleCall_of_unbound (missing : c.session = .error fault) {delivery : DeliveryId}
    {held : Held} (unbound : held.delivery.session = none) (verdict : Verdict) :
    c.settleCall delivery held verdict = .error fault := by
  rw [settleCall_eq, target, unbound]
  simp only [missing]

/-- A step that leaves the client as it is, starts nothing and makes the task wait at `next` or end
    with it. -/
def Only (c : Client) (next : Except Ending Task) (reaction : Reaction) : Prop :=
  reaction.client = c ∧ reaction.next = next ∧ reaction.started = []

/-- An operation that needs a channel and finds none. -/
theorem begin_of_missing (missing : c.session = .error fault) {operation : Operation}
    (needs : operation.NeedsChannel c) :
    c.Only (.error (.answered (.error fault))) (c.begin now id operation) := by
  cases needs with
  | declareTopology | consume => simp [begin, missing, Only, answer, stop]
  | publish p => simp [begin, publishCall_of_missing missing, Only, answer, stop]
  | settle found unbound verdict =>
    simp [begin, settle, withHeld_of_found found, settleCall_of_unbound missing unbound, Only,
      answer, stop, Reaction.noting]

end Client

namespace System

variable {s : System} {id : TaskId} {signal : Signal} {fault : Fault}

/-- Resumed with the signal, the task goes on to wait at `next` or ends with it, and that is all:
    the client stays as it is and no task is started. -/
def Only (s : System) (id : TaskId) (signal : Signal) (next : Except Ending Task) : Prop :=
  ∃ activity, s.step (.resume id signal) =
      some ({ s with tasks := replace s.tasks id next }, some activity) ∧
    activity.next = next ∧ activity.started = []

/-- Resumed with the signal, the operation ends with the fault, and that is all. -/
def Fails (s : System) (id : TaskId) (signal : Signal) (fault : Fault) : Prop :=
  s.Only id signal (.error (.answered (.error fault)))

theorem only_of_client {task : Task} {next : Except Ending Task} (found : s.task? id = some task)
    (admitted : s.admits id task signal)
    (only : s.client.Only next (s.client.resume s.now id task signal)) :
    s.Only id signal next := by
  obtain ⟨same, goesOn, nothing⟩ := only
  refine ⟨s.activity id task signal, ?_, goesOn, ?_⟩
  · simp only [step, found, Option.any_some, admitted, if_true, resume_of_task? found,
      Option.map_some, absorb, same, goesOn, nothing]
    simp [number]
  · simp [activity, nothing, number]

end System

/-- What an operation that fails before its only call or in it leaves behind: nothing. -/
structure System.FailsCleanly (s : System) (history : List Moment) : Prop where
  /-- Without a channel in use, whatever needs one fails as the history says, at once. -/
  channelless : s.client.channel = none → ∃ fault, Absence history fault ∧
    (fault.isTransient = true ↔ Opened history) ∧
    (∀ id operation, s.task? id = some (.begin operation) → operation.NeedsChannel s.client →
      s.Fails id .turn fault) ∧
    (∀ delivery p next, s.client.handle s.now delivery (.publish p next) =
      s.client.handle s.now delivery (next (.error fault))) ∧
    ∀ delivery held verdict next, s.client.deliveries[delivery]? = some held →
      held.delivery.session = none →
      s.client.handle s.now delivery (.settle verdict next) =
        (s.client.handle s.now delivery (next (.error fault))).noting
          ⟨delivery, verdict, .error fault⟩
  /-- A body that cannot be written is found out before the call. -/
  unwritten : s.client.channel.isSome → ∀ p reason, p.body.encode = .error reason →
    (∀ id, s.task? id = some (.begin (.publish p)) →
      s.Fails id .turn (.serialization reason)) ∧
    ∀ delivery next, s.client.handle s.now delivery (.publish p next) =
      s.client.handle s.now delivery (next (.error (.serialization reason)))
  /-- A consumer is not registered before its call has succeeded. -/
  consuming : ∀ id registration channel, s.client.channel = some channel →
    s.task? id = some (.begin (.consume registration)) →
    s.Only id .turn (.ok (.calling channel.session (.consume registration.queue)
      (.consumed channel.session registration)))
  /-- Nor is it when its call has failed. -/
  unconsumed : ∀ id session call n registration fault,
    s.task? id = some (.calling session call (.consumed n registration)) →
    s.Fails id (.answered (.error fault)) fault

/-- In every state of a run, an operation that finds no channel fails and changes nothing, with a
    fault that tells being asked too early from an outage; so does a publish whose body cannot be
    written and a consume that the broker refuses. -/
theorem fails_cleanly {settings : Settings} {history : List Moment} {s : System}
    (run : Run settings history s) : s.FailsCleanly history where
  channelless missing := by
    have outage : Absence history
        (if s.client.everConnected then .disconnected else .notConnected) := by
      cases mark : s.client.everConnected with
      | true => exact .lost (run.marked.mark.1 mark)
      | false => exact .untimely fun opened => nomatch mark.symm.trans (run.marked.mark.2 opened)
    have session := Client.session_of_none missing
    refine ⟨_, outage, outage.isTransient_iff, ?_, ?_, ?_⟩
    · intro id operation found needs
      exact System.only_of_client found rfl (Client.begin_of_missing session needs)
    · intro delivery p next
      rw [Client.handle, Client.publishCall_of_missing session]
    · intro delivery held verdict next found unbound
      rw [Client.handle, Client.withHeld_of_found found,
        Client.settleCall_of_unbound session unbound]
  unwritten installed p reason unwritten := by
    obtain ⟨channel, installed⟩ := Option.isSome_iff_exists.1 installed
    have refused := Client.publishCall_of_encode installed unwritten
    refine ⟨fun id found => System.only_of_client found rfl ?_, fun delivery next => ?_⟩
    · simp [Client.resume, Client.begin, refused, Client.Only, Client.answer, Client.stop]
    · rw [Client.handle, refused]
  consuming id registration channel installed found := by
    refine System.only_of_client found rfl ?_
    have session := Client.session_eq_ok_iff.2 ⟨channel, installed, rfl⟩
    simp [Client.resume, Client.begin, session, Client.Only, Client.call, Client.wait]
  unconsumed id session call n registration fault found :=
    System.only_of_client found rfl ⟨rfl, rfl, rfl⟩

/-- A client connects and loses its session, and is asked for the topology before it reconnects. -/
def askedAfterLoss : List Move :=
  [.begin .connect, .resume 0 .turn, .connect 0, .resume 0 (.answered (.ok ())), .lose 1,
    .resume 1 .lost, .begin .declareTopology]

theorem fails_cleanly_askedAfterLoss : ∃ history s, Run bareSettings history s ∧
    s.FailsCleanly history ∧ s.client.channel = none ∧ Opened history ∧
      s.task? 3 = some (.begin .declareTopology) ∧ s.Fails 3 .turn .disconnected := by
  let e : Execution bareSettings := .ofMoves bareSettings askedAfterLoss rfl
  have clean := fails_cleanly (e.run 7)
  have missing : (e.system 7).client.channel = none := rfl
  have asked : (e.system 7).task? 3 = some (.begin .declareTopology) := rfl
  have opened : Opened (e.history 7) := (e.run 7).marked.mark.1 rfl
  obtain ⟨fault, outage, -, fails, -⟩ := clean.channelless missing
  cases outage with
  | untimely unopened => exact absurd opened unopened
  | lost _ =>
    have fails := fails 3 _ asked .declareTopology
    exact ⟨_, _, e.run 7, clean, missing, opened, asked, fails⟩

end Laneway.Broker
