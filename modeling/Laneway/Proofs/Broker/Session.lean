import Laneway.Proofs.Broker.Delivery
import Laneway.Proofs.Broker.Link

set_option autoImplicit false

/-! # Steps and sessions

Before a session is installed only its own attempt calls it, apart from settle calls on what has
arrived on it. `Client.Serves` is a step from the point of view of one session that is not installed:
the attempt sets it up, call by call, and everything else passes it by. -/

namespace Laneway.Broker

/-- The session whose set-up a task is in the middle of. -/
def Task.setsUp? : Task → Option SessionId
  | .calling session _ (.limited _ _) | .calling session _ (.abandoned _ _) => some session
  | .calling _ _ (.restored _ channel _) | .calling _ _ (.attached _ channel _ _) =>
    some channel.session
  | _ => none

/-- The session that an operation of a caller goes on to use. -/
def Task.uses? : Task → Option SessionId
  | .calling _ _ (.declared session _) | .calling _ _ (.consumed session _) => some session
  | _ => none

/-- The session that a consumer streams from. -/
def Task.streams? : Task → Option SessionId
  | .streaming session _ => some session
  | _ => none

/-- The call whose answer a task waits for, and its session. -/
def Task.call? : Task → Option (SessionId × Call)
  | .calling session call _ => some (session, call)
  | _ => none

/-- A call that sets up a session is made on that session. -/
def Task.Consistent : Task → Prop
  | .calling session _ (.restored _ channel _) | .calling session _ (.attached _ channel _ _) =>
    channel.session = session
  | _ => True

/-- The call is a settle call. -/
def Call.isSettle : Call → Bool
  | .settle _ _ => true
  | _ => false

theorem Task.owner?_of_setsUp? {t : Task} {session : SessionId} (h : t.setsUp? = some session) :
    t.owner?.isSome := by
  cases t with
  | calling n call after => cases after <;> first | rfl | exact nomatch h
  | _ => exact nomatch h

namespace Client

variable {c : Client} {now : Duration} {id : TaskId}

/-- The reaction leaves the session alone: at most a settle call is made on it, and no task comes to
    set it up, to use it or to stream from it. -/
structure Spares (session : SessionId) (before : Task) (reaction : Reaction) : Prop where
  call : ∀ t call, reaction.next = .ok t → t.call? = some (session, call) → call.isSettle
  setsUp : ∀ t, reaction.next = .ok t → t.setsUp? ≠ some session
  uses : ∀ t, reaction.next = .ok t → t.uses? ≠ some session
  streams : ∀ t, reaction.next = .ok t → t.streams? = some session → t = before
  starts : ∀ t ∈ reaction.started,
    t.call? = none ∧ t.setsUp? = none ∧ t.uses? = none ∧ t.streams? ≠ some session
  channel : ∀ channel, reaction.client.channel = some channel → channel.session ≠ session

/-- A step from the point of view of a session that is not installed. -/
inductive Serves (c : Client) (now : Duration) (session : SessionId) :
    Task → Signal → Reaction → Prop
  | spares {before : Task} {signal : Signal} {reaction : Reaction}
      (other : before.setsUp? ≠ some session) (h : Spares session before reaction) :
      Serves c now session before signal reaction
  | limits {owner : Owner} {restoring : Bool} :
      Serves c now session (.opening owner restoring) (.opened (.ok session))
        (c.call session (.prefetch c.settings.prefetch) (.limited owner restoring))
  | restores {call : Call} {owner : Owner} {first : Declaration} {rest : List Declaration}
      (plan : c.plan = first :: rest) :
      Serves c now session (.calling session call (.limited owner true)) (.answered (.ok ()))
        ⟨{ c with generation := c.generation + 1 },
          .ok (.calling session (.declare first)
            (.restored owner ⟨session, c.generation + 1⟩ rest)),
          [.watching ⟨session, c.generation + 1⟩], []⟩
  | declares {call : Call} {owner : Owner} {channel : Channel} {step : Declaration}
      {rest : List Declaration} (same : channel.session = session) :
      Serves c now session (.calling session call (.restored owner channel (step :: rest)))
        (.answered (.ok ()))
        (c.call session (.declare step) (.restored owner channel rest))
  | attaches {call : Call} {owner : Owner} {channel : Channel} {current : Registration}
      {rest : List Registration} (same : channel.session = session)
      (cloned : c.registrations = current :: rest) :
      Serves c now session (.calling session call (.restored owner channel [])) (.answered (.ok ()))
        (c.call session (.consume current.queue) (.attached owner channel current rest))
  | reattaches {call : Call} {owner : Owner} {channel : Channel} {current next : Registration}
      {rest : List Registration} (same : channel.session = session) :
      Serves c now session
        (.calling session call (.attached owner channel current (next :: rest)))
        (.answered (.ok ()))
        ⟨c, .ok (.calling session (.consume next.queue) (.attached owner channel next rest)),
          [.streaming session current], []⟩
  | installs {before : Task} {signal : Signal} {owner : Owner} {channel : Channel} {ready : Client}
      {started : List Task} (h : Completes c before signal owner channel ready started)
      (on : before.setsUp? = some session) (consistent : before.Consistent) :
      Serves c now session before signal
        { (ready.installing channel).concluded now owner (.ok ()) with started }
  | abandons {call : Call} {owner : Owner} {after : After} {fault : Fault}
      (h : Restores owner after)
      (on : (Task.calling session call after).setsUp? = some session) :
      Serves c now session (.calling session call after) (.answered (.error fault))
        (c.call session .close (.abandoned owner fault))
  | fails {call : Call} {owner : Owner} {fault : Fault} {result : Except Fault Unit} :
      Serves c now session (.calling session call (.abandoned owner fault)) (.answered result)
        (c.failed now owner fault)

/-! ## Reactions that leave a session alone -/

section Spares

variable {session : SessionId} {before : Task}

theorem spares_wait {called : Client} {task : Task}
    (channel : ∀ channel, called.channel = some channel → channel.session ≠ session)
    (quiet : ∀ call, task.call? = some (session, call) → call.isSettle)
    (setsUp : task.setsUp? ≠ some session) (uses : task.uses? ≠ some session)
    (streams : task.streams? ≠ some session) :
    Spares session before (called.wait task) where
  call _ call ht := Except.ok.inj ht ▸ quiet call
  setsUp _ ht := Except.ok.inj ht ▸ setsUp
  uses _ ht := Except.ok.inj ht ▸ uses
  streams _ ht on := absurd (Except.ok.inj ht ▸ on) streams
  starts _ ht := nomatch ht
  channel := channel

/-- A task that waits for no call and has no part in any session. -/
theorem spares_pause {called : Client} {task : Task}
    (channel : ∀ channel, called.channel = some channel → channel.session ≠ session)
    (calls : task.call? = none) (setsUp : task.setsUp? = none) (uses : task.uses? = none)
    (streams : task.streams? = none) : Spares session before (called.wait task) := by
  refine spares_wait channel ?_ ?_ ?_ ?_
  · intro call on
    exact nomatch calls.symm.trans on
  · exact setsUp ▸ nofun
  · exact uses ▸ nofun
  · exact streams ▸ nofun

theorem spares_stop {stopped : Client} (ending : Ending)
    (channel : ∀ channel, stopped.channel = some channel → channel.session ≠ session) :
    Spares session before (stopped.stop ending) where
  call _ _ ht := nomatch ht
  setsUp _ ht := nomatch ht
  uses _ ht := nomatch ht
  streams _ ht := nomatch ht
  starts _ ht := nomatch ht
  channel := channel

theorem spares_concluded {ended : Client} (owner : Owner) (result : Except Fault Unit)
    (channel : ∀ channel, ended.channel = some channel → channel.session ≠ session) :
    Spares session before (ended.concluded now owner result) := by
  cases owner with
  | caller => exact { spares_stop (.answered result) channel with }
  | loop =>
    cases result with
    | ok u => exact { spares_stop .quiet channel with }
    | error fault =>
      have rests : Spares session before (ended.wait (.resting (ended.wakeUp now))) :=
        spares_pause channel rfl rfl rfl rfl
      exact { rests with }

theorem Spares.noting {reaction : Reaction} (h : Spares session before reaction)
    (settlement : Settlement) : Spares session before (reaction.noting settlement) :=
  ⟨h.call, h.setsUp, h.uses, h.streams, h.starts, h.channel⟩

theorem spares_call {called : Client} {n : SessionId} {call : Call} {after : After}
    (channel : ∀ channel, called.channel = some channel → channel.session ≠ session)
    (elsewhere : n ≠ session)
    (setsUp : (Task.calling n call after).setsUp? ≠ some session)
    (uses : (Task.calling n call after).uses? ≠ some session) :
    Spares session before (called.call n call after) := by
  refine spares_wait channel ?_ setsUp uses fun h => nomatch h
  intro other same
  exact absurd (Prod.mk.inj (Option.some.inj same)).1 elsewhere

/-- A reaction that starts a task with no part in the session leaves the session alone. -/
theorem Spares.starting {reaction : Reaction} (h : Spares session before reaction) {task : Task}
    (calls : task.call? = none) (setsUp : task.setsUp? = none) (uses : task.uses? = none)
    (streams : task.streams? ≠ some session) :
    Spares session before { reaction with started := [task] } := by
  refine { h with starts := ?_ }
  intro t ht
  rw [List.mem_singleton.1 ht]
  exact ⟨calls, setsUp, uses, streams⟩

/-- Settle calls and handlers leave every session alone, also the one that a call is made on. -/
theorem Attends.spares {called : Client} {delivery : DeliveryId} {reaction : Reaction}
    (h : Attends called delivery reaction)
    (channel : ∀ channel, called.channel = some channel → channel.session ≠ session) :
    Spares session before reaction := by
  induction h with
  | stops => exact spares_stop _ channel
  | judging | sleeping | holding => exact spares_pause channel rfl rfl rfl rfl
  | publishing made =>
    obtain ⟨installed, found, rfl⟩ := publishCall_eq_ok made
    exact spares_call channel (channel installed found) nofun nofun
  | passed _ h teller =>
    obtain ⟨-, -, rfl, rfl⟩ := settleCall_eq_ok h
    have marked : ∀ installed, (called.marking delivery).channel = some installed →
        installed.session ≠ session := channel
    refine (spares_wait marked ?_ ?_ ?_ ?_).noting _
    · rintro other ⟨⟩
      rfl
    · rcases teller with rfl | ⟨next, rfl⟩ <;> exact nofun
    · rcases teller with rfl | ⟨next, rfl⟩ <;> exact nofun
    · exact nofun
  | refused _ _ _ ih => exact ih.noting _

end Spares

/-! ## Every step spares a session or serves it -/

theorem Takes.channel {owner : Owner} {before : Task} {signal : Signal} {held : Client}
    (h : Takes c id owner before signal held) :
    held.channel = c.channel ∧ before.setsUp? = none := by
  cases h <;> exact ⟨rfl, rfl⟩

theorem Answers.setsUp? {before : Task} {signal : Signal} {result : Except Fault Unit}
    (h : Answers c before signal result) : before.setsUp? = none := by
  cases h <;> rfl

theorem GoesOn.setsUp? {before : Task} {signal : Signal} {delivery : DeliveryId}
    {handler : Handler} (h : GoesOn c before signal delivery handler) : before.setsUp? = none := by
  cases h <;> rfl

theorem Restores.setsUp? {owner : Owner} {session : SessionId} {call : Call} {after : After}
    (h : Restores owner after) (consistent : (Task.calling session call after).Consistent) :
    (Task.calling session call after).setsUp? = some session := by
  cases h with
  | limited => rfl
  | restored | attached => exact congrArg some consistent

theorem Completes.spares {before : Task} {signal : Signal} {owner : Owner} {channel : Channel}
    {ready : Client} {started : List Task} {n : SessionId}
    (h : Completes c before signal owner channel ready started) (other : before.setsUp? ≠ some n)
    (consistent : before.Consistent) :
    channel.session ≠ n ∧ ∀ t ∈ started,
      t.call? = none ∧ t.setsUp? = none ∧ t.uses? = none ∧ t.streams? ≠ some n := by
  cases h with
  | limited =>
    refine ⟨fun same => other (congrArg some same), ?_⟩
    intro t ht
    rw [List.mem_singleton.1 ht]
    exact ⟨rfl, rfl, rfl, nofun⟩
  | restored => exact ⟨fun same => other (congrArg some same), fun _ ht => nomatch ht⟩
  | attached =>
    refine ⟨fun same => other (congrArg some same), ?_⟩
    intro t ht
    rw [List.mem_singleton.1 ht]
    refine ⟨rfl, rfl, rfl, fun same => other ?_⟩
    exact (congrArg some consistent).trans same

theorem serves_of_transition {before : Task} {signal : Signal} {reaction : Reaction}
    {n : SessionId} (h : Transition c now id before signal reaction)
    (apart : ∀ channel, c.channel = some channel → channel.session ≠ n)
    (unused : before.uses? ≠ some n) (consistent : before.Consistent) :
    Serves c now n before signal reaction := by
  -- a call of an attempt is on this session and serves it, or on another one and passes it by
  cases h with
  | queues h =>
    have other : before.setsUp? ≠ some n := by cases h <;> exact nofun
    exact .spares other (spares_pause apart rfl rfl rfl rfl)
  | finds takes | unconfigured takes =>
    obtain ⟨same, none⟩ := takes.channel
    exact .spares (none ▸ nofun) (spares_concluded _ _ (same ▸ apart))
  | connects takes | reconnects takes =>
    obtain ⟨same, none⟩ := takes.channel
    exact .spares (none ▸ nofun) (spares_pause (same ▸ apart) rfl rfl rfl rfl)
  | @limits owner restoring session =>
    by_cases same : session = n
    · subst same
      exact .limits
    · refine .spares nofun (spares_call apart same ?_ nofun)
      exact fun h => same (Option.some.inj h)
  | unopened => exact .spares nofun (spares_concluded _ _ apart)
  | @restores session call owner first rest plan =>
    by_cases same : session = n
    · subst same
      exact .restores plan
    · have elsewhere : some session ≠ some n := fun h => same (Option.some.inj h)
      have spared := @spares_call n (.calling session call (.limited owner true))
        { c with generation := c.generation + 1 } session (.declare first)
        (.restored owner ⟨session, c.generation + 1⟩ rest) apart same elsewhere nofun
      exact .spares elsewhere (spared.starting rfl rfl rfl nofun)
  | @declares session call owner channel step rest =>
    by_cases same : channel.session = n
    · obtain rfl : channel.session = session := consistent
      subst same
      exact .declares rfl
    · have elsewhere : some channel.session ≠ some n := fun h => same (Option.some.inj h)
      exact .spares elsewhere (spares_call apart same elsewhere nofun)
  | @attaches session call owner channel current rest cloned =>
    by_cases same : channel.session = n
    · obtain rfl : channel.session = session := consistent
      subst same
      exact .attaches rfl cloned
    · have elsewhere : some channel.session ≠ some n := fun h => same (Option.some.inj h)
      exact .spares elsewhere (spares_call apart same elsewhere nofun)
  | @reattaches session call owner channel current next rest =>
    obtain rfl : channel.session = session := consistent
    by_cases same : channel.session = n
    · subst same
      exact .reattaches rfl
    · have elsewhere : some channel.session ≠ some n := fun h => same (Option.some.inj h)
      have spared := @spares_call n
        (.calling channel.session call (.attached owner channel current (next :: rest))) c
        channel.session (.consume next.queue) (.attached owner channel next rest) apart same
        elsewhere nofun
      exact .spares elsewhere (spared.starting rfl rfl rfl elsewhere)
  | installs completes =>
    by_cases on : before.setsUp? = some n
    · exact .installs completes on consistent
    · obtain ⟨elsewhere, starts⟩ := completes.spares on consistent
      refine .spares on { spares_concluded _ _ ?_ with starts }
      rintro channel ⟨⟩
      exact elsewhere
  | @abandons session call owner after fault restores =>
    have sets := restores.setsUp? consistent
    by_cases same : session = n
    · subst same
      exact .abandons restores sets
    · have elsewhere : some session ≠ some n := fun h => same (Option.some.inj h)
      exact .spares (sets ▸ elsewhere) (spares_call apart same elsewhere nofun)
  | @fails session call owner fault result =>
    by_cases same : session = n
    · subst same
      exact .fails
    · exact .spares (fun h => same (Option.some.inj h)) (spares_concluded _ _ apart)
  | retires | ignores | closed | streamEnds | misses => exact .spares nofun (spares_stop _ apart)
  | loses =>
    -- a loss can only take a channel away
    refine .spares nofun { spares_stop .quiet ?_ with starts := ?_ }
    · intro channel kept
      exact apart channel (Option.filter_eq_some_iff.1 kept).1
    · intro t ht
      split at ht
      · exact nomatch ht
      · rw [List.mem_singleton.1 ht]
        exact ⟨rfl, rfl, rfl, nofun⟩
  | closes installed =>
    exact .spares nofun (spares_call nofun (apart _ installed) nofun nofun)
  | shuts => exact .spares nofun (spares_stop _ nofun)
  | @plans channel first rest installed =>
    have elsewhere := apart channel installed
    refine .spares nofun (spares_call apart elsewhere nofun ?_)
    exact fun same => elsewhere (Option.some.inj same)
  | continues =>
    exact .spares nofun (spares_call apart (fun same => unused (congrArg some same)) nofun unused)
  | publishes installed =>
    exact .spares nofun (spares_call apart (apart _ installed) nofun nofun)
  | @consumes registration channel installed =>
    have elsewhere := apart channel installed
    refine .spares nofun (spares_call apart elsewhere nofun ?_)
    exact fun same => elsewhere (Option.some.inj same)
  | @registers last session call registration =>
    have spared := @spares_stop n (.calling last call (.consumed session registration))
      { c with registrations := c.registrations ++ [registration] } (.answered (.ok ())) apart
    exact .spares nofun (spared.starting rfl rfl rfl unused)
  | settles => exact .spares nofun ((attends_settle _ _).spares apart)
  | answers answers => exact .spares (answers.setsUp? ▸ nofun) (spares_stop _ apart)
  | observes waits seen =>
    have other : before.setsUp? ≠ some n := by
      rcases waits with rfl | rfl <;> exact nofun
    rcases seen with rfl | rfl
    · exact .spares other (spares_stop _ apart)
    · exact .spares other (spares_pause apart rfl rfl rfl rfl)
  | streams =>
    refine .spares nofun ⟨?_, ?_, ?_, ?_, ?_, apart⟩
    · intro t call ht on
      cases ht
      exact nomatch on
    · intro t ht
      exact Except.ok.inj ht ▸ nofun
    · intro t ht
      exact Except.ok.inj ht ▸ nofun
    · intro t ht _
      exact (Except.ok.inj ht).symm
    · intro t ht
      rw [List.mem_singleton.1 ht]
      exact ⟨rfl, rfl, rfl, nofun⟩
  | handles goesOn => exact .spares (goesOn.setsUp? ▸ nofun) ((attends_handle _ _).spares apart)
  | judges => exact .spares nofun ((attends_judge _ _).spares apart)

section Serves

variable {before : Task} {signal : Signal} {reaction : Reaction} {n : SessionId}

/-- All calls on the session but settle calls are those of its attempt, which closes it only after a
    failure. -/
theorem Serves.next (h : Serves c now n before signal reaction) {call : Call} {after : After}
    (ht : reaction.next = .ok (.calling n call after)) :
    call.isSettle ∨ (after.owner?.isSome ∧ (call = .close →
      ∃ last goesOn fault, before = .calling n last goesOn ∧ signal = .answered (.error fault))) := by
  cases h with
  | spares _ spares => exact .inl (spares.call _ call ht rfl)
  | limits | restores | declares | attaches | reattaches =>
    cases ht
    exact .inr ⟨rfl, fun h => nomatch h⟩
  | installs | fails => exact nomatch (concludes_conclusion _ _).resting ht
  | abandons =>
    cases ht
    exact .inr ⟨rfl, fun _ => ⟨_, _, _, rfl, rfl⟩⟩

/-- No operation of a caller comes to use the session, and only its stream goes on streaming. -/
theorem Serves.apart (h : Serves c now n before signal reaction) {t : Task}
    (ht : reaction.next = .ok t) :
    t.uses? ≠ some n ∧ (t.streams? = some n → t = before) := by
  cases h with
  | spares _ spares => exact ⟨spares.uses t ht, spares.streams t ht⟩
  | limits | restores | declares | attaches | reattaches | abandons =>
    cases ht
    exact ⟨nofun, nofun⟩
  | installs | fails =>
    rw [(concludes_conclusion _ _).resting ht]
    exact ⟨nofun, nofun⟩

/-- A task that is started on the session is the stream of the consumer that has just been
    attached. -/
theorem Serves.starts (h : Serves c now n before signal reaction) {t : Task}
    (ht : t ∈ reaction.started) :
    t.call? = none ∧ t.setsUp? = none ∧ t.uses? = none ∧ (t.streams? = some n →
      ∃ call owner channel current rest, t = .streaming n current ∧
        before = .calling n call (.attached owner channel current rest)) := by
  cases h with
  | spares _ spares =>
    obtain ⟨calls, setsUp, uses, streams⟩ := spares.starts t ht
    exact ⟨calls, setsUp, uses, fun on => absurd on streams⟩
  | limits | declares | attaches | abandons => exact nomatch ht
  | @fails _ owner fault => cases owner <;> exact nomatch ht
  | restores =>
    rw [List.mem_singleton.1 ht]
    exact ⟨rfl, rfl, rfl, nofun⟩
  | reattaches =>
    rw [List.mem_singleton.1 ht]
    exact ⟨rfl, rfl, rfl, fun _ => ⟨_, _, _, _, _, rfl, rfl⟩⟩
  | installs completes =>
    cases completes with
    | limited =>
      rw [List.mem_singleton.1 ht]
      exact ⟨rfl, rfl, rfl, nofun⟩
    | restored => exact nomatch ht
    | attached =>
      rw [List.mem_singleton.1 ht]
      refine ⟨rfl, rfl, rfl, ?_⟩
      intro same
      cases same
      exact ⟨_, _, _, _, _, rfl, rfl⟩

/-- The attempt of a session goes on with a call on it. -/
theorem Serves.calls (h : Serves c now n before signal reaction) (own : before.setsUp? = some n)
    {t : Task} (ht : reaction.next = .ok t) (on : t.setsUp? = some n) :
    ∃ call after, t = .calling n call after := by
  cases h with
  | spares other => exact absurd own other
  | limits | restores | declares | attaches | reattaches | abandons =>
    cases ht
    exact ⟨_, _, rfl⟩
  | installs | fails =>
    rw [(concludes_conclusion _ _).resting ht] at on
    exact nomatch on

/-- The session is only installed by the last step of its attempt. -/
theorem Serves.installs? (h : Serves c now n before signal reaction) {channel : Channel}
    (installed : reaction.client.channel = some channel) (on : channel.session = n) :
    c.channel = some channel ∨ (∀ t, reaction.next = .ok t → t.call? = none) ∧
      ∃ owner ready, Completes c before signal owner channel ready reaction.started := by
  cases h with
  | spares _ spares => exact absurd on (spares.channel channel installed)
  | installs completes =>
    cases installed
    refine .inr ⟨?_, _, _, completes⟩
    intro t ht
    rw [(concludes_conclusion _ _).resting ht]
    rfl
  | _ => exact .inl installed

/-- The three ways in which a step serves a session: not at all, as the first step of its attempt, or
    as a later one. -/
theorem Serves.kinds (h : Serves c now n before signal reaction) :
    before.setsUp? ≠ some n ∧ Spares n before reaction ∨
    (∃ owner restoring, before = .opening owner restoring ∧ signal = .opened (.ok n) ∧
      reaction = c.call n (.prefetch c.settings.prefetch) (.limited owner restoring)) ∨
    before.setsUp? = some n := by
  cases h with
  | spares other spares => exact .inl ⟨other, spares⟩
  | limits => exact .inr (.inl ⟨_, _, rfl, rfl, rfl⟩)
  | restores | fails => exact .inr (.inr rfl)
  | declares same | attaches same | reattaches same => exact .inr (.inr (congrArg some same))
  | installs _ on | abandons _ on => exact .inr (.inr on)

end Serves

/-! ## Attempts -/

/-- Whether an attempt that begins now restores what was there before. -/
def reopens (c : Client) : Owner → Bool
  | .caller => c.everConnected
  | .loop => true

/-- How a task comes to be in the middle of an attempt, or goes on with it. -/
inductive Attempts (c : Client) (before : Task) : Task → Prop
  | opens {owner : Owner} (seeks : before.Seeks owner) :
      Attempts c before (.opening owner (c.reopens owner))
  | calls {owner : Owner} {session : SessionId} {call : Call} {after : After}
      (attempt : before.owner? = some owner) (goesOn : after.owner? = some owner)
      (consistent : (Task.calling session call after).Consistent) :
      Attempts c before (.calling session call after)

theorem Takes.seeks {owner : Owner} {before : Task} {signal : Signal} {held : Client}
    (h : Takes c id owner before signal held) : before.Seeks owner := by
  cases h with
  | free => exact .connect
  | due => exact .resting _
  | granted => exact .locking owner

theorem Rests.no_attempt {reaction : Reaction} (h : c.Rests reaction) {t : Task}
    (ht : reaction.next = .ok t) : ¬ t.owner?.isSome := by
  rw [Task.owner?_of_isPlain (h.next t ht)]
  exact nofun

theorem no_attempt_conclusion {owner : Owner} {result : Except Fault Unit} {t : Task}
    (ht : c.conclusion now owner result = .ok t) : ¬ t.owner?.isSome := by
  rw [(concludes_conclusion owner result).resting ht]
  exact nofun

theorem attempts_of_transition {before : Task} {signal : Signal} {reaction : Reaction}
    (h : Transition c now id before signal reaction) {t : Task} (ht : reaction.next = .ok t)
    (attempt : t.owner?.isSome) : Attempts c before t := by
  cases h with
  | connects takes | reconnects takes =>
    cases ht
    exact .opens takes.seeks
  | limits | restores | declares | attaches | reattaches =>
    cases ht
    exact .calls rfl rfl (by trivial)
  | abandons restores =>
    cases ht
    refine .calls ?_ rfl (by trivial)
    cases restores <;> rfl
  | finds | unconfigured | unopened | installs | fails =>
    exact absurd attempt (no_attempt_conclusion ht)
  | settles => exact absurd attempt ((attends_settle _ _).rests.no_attempt ht)
  | handles => exact absurd attempt ((attends_handle _ _).rests.no_attempt ht)
  | judges => exact absurd attempt ((attends_judge _ _).rests.no_attempt ht)
  | observes _ seen =>
    rcases seen with rfl | rfl
    · exact nomatch ht
    · cases ht
      exact nomatch attempt
  | queues | closes | plans | continues | publishes | consumes | streams =>
    cases ht
    exact nomatch attempt
  | _ => exact nomatch ht

/-! ## What no step or no handler changes -/

/-- Settle calls change the marks of deliveries only. -/
theorem Attends.client {delivery : DeliveryId} {reaction : Reaction}
    (h : Attends c delivery reaction) :
    reaction.client = { c with deliveries := reaction.client.deliveries } := by
  induction h with
  | stops | judging | sleeping | holding | publishing => rfl
  | passed _ h =>
    obtain ⟨-, -, rfl, -⟩ := settleCall_eq_ok h
    rfl
  | refused _ _ _ ih => exact ih

theorem settings_of_transition {before : Task} {signal : Signal} {reaction : Reaction}
    (h : Transition c now id before signal reaction) : reaction.client.settings = c.settings := by
  cases h with
  | finds takes | unconfigured takes | connects takes | reconnects takes => cases takes <;> rfl
  | installs completes => cases completes <;> rfl
  | settles => rw [(attends_settle _ _).client]
  | handles => rw [(attends_handle _ _).client]
  | judges => rw [(attends_judge _ _).client]
  | observes _ seen => rcases seen with rfl | rfl <;> rfl
  | _ => rfl

end Client

end Laneway.Broker
