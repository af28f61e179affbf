import Laneway.Proofs.Broker.Loss
import Laneway.Proofs.Broker.Session
import Laneway.Proofs.Broker.Settlement

set_option autoImplicit false

/-! # Sessions are restored before they are used

What is called on a session before it is installed is its set-up and nothing else: the prefetch limit
first, on a recovery then the whole plan and one consumer for every registration, each call made after
the one before has succeeded, and a close after a failure. Publishers, callers and other attempts may
run at any point in between; only settle calls on what has arrived on the new consumers come among
these calls. -/

namespace Laneway.Broker

/-! ## What a history says about a session -/

/-- The session is the installed one. -/
def System.installed (s : System) (n : SessionId) : Bool :=
  s.client.channel.any fun channel => channel.session = n

namespace Moment

/-- The call made on the session in this moment. -/
def call? (n : SessionId) (m : Moment) : Option Call :=
  match m.activity with
  | some ⟨_, _, _, .ok (.calling session call _), _, _⟩ => if session = n then some call else none
  | _ => none

/-- In this moment a prefetch call on the session has succeeded. -/
def Limits (m : Moment) (n : SessionId) : Prop :=
  ∃ activity count after, m.activity = some activity ∧
    activity.before = .calling n (.prefetch count) after ∧ activity.signal = .answered (.ok ())

/-- In this moment the last declaration on a recovery session has succeeded, and the registrations
    are cloned. -/
def Clones (m : Moment) (n : SessionId) : Prop :=
  ∃ activity call owner channel, m.activity = some activity ∧
    activity.before = .calling n call (.restored owner channel []) ∧
    activity.signal = .answered (.ok ())

/-- In this moment the connector answers the attempt with the session. -/
def Opens (m : Moment) (n : SessionId) (id : TaskId) (owner : Owner) (restoring : Bool) : Prop :=
  m.move = .connect id ∧ m.system.task? id = some (.opening owner restoring) ∧
    m.system.sessions + 1 = n

/-- In this moment the task takes the connect lock for an attempt of a caller. -/
def Locks (m : Moment) (id : TaskId) : Prop :=
  ∃ activity restoring, m.activity = some activity ∧ activity.id = id ∧
    activity.next = .ok (.opening .caller restoring)

end Moment

/-- The calls made on the session. -/
def calls (n : SessionId) (history : List Moment) : List Call :=
  history.filterMap (Moment.call? n)

/-- The calls made on the session but for settle calls. -/
def setUpCalls (n : SessionId) (history : List Moment) : List Call :=
  (calls n history).filter fun call => !call.isSettle

/-- The session was opened as a recovery: for the reconnect loop, or for a caller that took the lock
    when a session had been installed before. -/
def Recovers (history : List Moment) (n : SessionId) : Prop :=
  ∃ earlier m later id owner restoring, history = earlier ++ m :: later ∧
    m.Opens n id owner restoring ∧
    (owner = .loop ∨ ∃ took ∈ earlier, took.Locks id ∧ took.system.client.everConnected)

/-- What is called on every recovery session first: the prefetch limit and the plan. -/
def declarations (settings : Settings) : List Call :=
  .prefetch settings.prefetch ::
    (plan (Lane.normalize settings.lane) settings.queues).map .declare

/-- All that is called on a recovery session, with the consumers registered by then. -/
def restoration (settings : Settings) (registrations : List Registration) : List Call :=
  declarations settings ++ registrations.map fun registration => .consume registration.queue

/-- The calls are the first ones of a restoration: the plan is only begun once the prefetch limit has
    been taken, and the consumers once the registrations have been cloned. -/
inductive Begins (settings : Settings) (history : List Moment) (n : SessionId) :
    (made : List Call) → Prop
  | limit : Begins settings history n [.prefetch settings.prefetch]
  | plan {made : List Call} {m : Moment} (mem : m ∈ history) (limits : m.Limits n)
      (first : made <+: declarations settings) : Begins settings history n made
  | consumers {made : List Call} {m : Moment} (mem : m ∈ history) (clones : m.Clones n)
      (first : made <+: restoration settings m.system.client.registrations) :
      Begins settings history n made

/-- The registration was among those cloned for the session. -/
def Attached (history : List Moment) (n : SessionId) (registration : Registration) : Prop :=
  ∃ clone ∈ history, clone.Clones n ∧ registration ∈ clone.system.client.registrations

/-- The delivery was taken under the tag from one of the consumers attached to the session. -/
def Arrived (history : List Moment) (n : SessionId) (delivery : DeliveryId) (tag : Nat) : Prop :=
  ∃ m ∈ history, ∃ message registration, m.Takes delivery n message registration ∧
    message.tag = tag ∧ Attached history n registration

/-! ## Appending a moment -/

section Append

variable {settings : Settings} {n : SessionId} {history : List Moment} {m : Moment}

theorem calls_append (more : List Moment) :
    calls n (history ++ more) = calls n history ++ calls n more := by
  rw [calls, List.filterMap_append]
  rfl

theorem setUpCalls_append (more : List Moment) :
    setUpCalls n (history ++ more) = setUpCalls n history ++ setUpCalls n more := by
  rw [setUpCalls, calls_append, List.filter_append]
  rfl

theorem Begins.append {made : List Call} (h : Begins settings history n made)
    (more : List Moment) : Begins settings (history ++ more) n made := by
  cases h with
  | limit => exact .limit
  | plan mem limits first => exact .plan (List.mem_append_left more mem) limits first
  | consumers mem clones first => exact .consumers (List.mem_append_left more mem) clones first

theorem Attached.append {registration : Registration} (h : Attached history n registration)
    (more : List Moment) : Attached (history ++ more) n registration := by
  obtain ⟨clone, mem, attached⟩ := h
  exact ⟨clone, List.mem_append_left more mem, attached⟩

theorem Arrived.append {delivery : DeliveryId} {tag : Nat} (h : Arrived history n delivery tag)
    (more : List Moment) : Arrived (history ++ more) n delivery tag := by
  obtain ⟨m, mem, message, registration, takes, htag, attached⟩ := h
  exact ⟨m, List.mem_append_left more mem, message, registration, takes, htag,
    attached.append more⟩

theorem call?_eq_some_iff {call : Call} : m.call? n = some call ↔
    ∃ activity after, m.activity = some activity ∧
      activity.next = .ok (.calling n call after) := by
  constructor
  · intro h
    unfold Moment.call? at h
    split at h
    · next session call' after started settlements hactivity =>
      split at h
      · next same =>
        cases h
        subst same
        exact ⟨_, after, hactivity, rfl⟩
      · exact nomatch h
    · exact nomatch h
  · rintro ⟨⟨id, before, signal, next, started, settlements⟩, after, hactivity, rfl⟩
    simp only [Moment.call?, hactivity, if_true]

theorem setUpCalls_of_call {call : Call} (h : m.call? n = some call) (plain : ¬ call.isSettle) :
    setUpCalls n [m] = [call] := by
  simp only [setUpCalls, calls, List.filterMap_cons, h, List.filterMap_nil, List.filter_cons]
  simp [plain]

theorem setUpCalls_of_settle (h : ∀ call, m.call? n = some call → call.isSettle) :
    setUpCalls n [m] = [] := by
  cases hc : m.call? n with
  | none => simp [setUpCalls, calls, hc]
  | some call => simp [setUpCalls, calls, hc, h call hc]

end Append

/-! ## Attempts of callers and of the loop -/

theorem Run.settings {settings : Settings} {history : List Moment} {s : System}
    (run : Run settings history s) : s.client.settings = settings := by
  induction run with
  | start => rfl
  | next run step ih =>
    rcases System.step_cases step with ⟨-, drift⟩ | ⟨id, task, signal, ready, h, rfl, -⟩
    · cases drift <;> exact ih
    · have kept := Client.settings_of_transition (Client.transition_of_readies h)
      exact kept.trans ((congrArg Client.settings h.client).trans ih)

theorem Task.consistent_of_owner? {t : Task} (h : t.owner? = none) : t.Consistent := by
  cases t with
  | calling session call after => cases after <;> first | exact trivial | exact nomatch h
  | _ => trivial

theorem Run.consistent {settings : Settings} {history : List Moment} {s : System}
    (run : Run settings history s) : ∀ id t, s.task? id = some t → t.Consistent := by
  induction run with
  | start => exact fun _ _ ht => nomatch ht
  | next run step ih =>
    intro id t ht
    rcases System.step_cases step with ⟨-, drift⟩ | ⟨other, task, signal, ready, h, rfl, -⟩
    · rcases drift.origin run.numbered ht with old | ⟨-, operation, -, rfl⟩
      · exact ih id t old
      · trivial
    · rcases (h.follows run.numbered _).origin id t ht with ⟨-, old⟩ | ⟨-, goesOn⟩ | ⟨k, -, starts⟩
      · exact ih id t old
      · by_cases attempt : t.owner?.isSome
        · cases Client.attempts_of_transition (Client.transition_of_readies h) goesOn attempt with
          | opens => trivial
          | calls _ _ consistent => exact consistent
        · exact Task.consistent_of_owner? (Option.not_isSome_iff_eq_none.1 attempt)
      · have started := (shift_of_readies h).owner?_started (List.mem_of_getElem? starts)
        exact Task.consistent_of_owner? started

/-- The attempt of a caller goes on until its task ends. -/
theorem Link.Shift.caller {l l' : Link} {wake : Duration} {id : TaskId} {before : Task}
    {next : Except Ending Task} {started : List Task}
    (h : Link.Shift l wake id before l' next started) (attempt : before.owner? = some .caller)
    {t : Task} (ht : next = .ok t) : t.owner? = some .caller := by
  cases h with
  | rests plain | closes plain | closed plain =>
    exact nomatch (Task.owner?_of_isPlain plain).symm.trans attempt
  | queues seeks | finds seeks | unconfigured seeks | connects seeks | reconnects seeks =>
    exact nomatch seeks.owner.symm.trans attempt
  | advances own goesOn | counts own goesOn =>
    cases ht
    exact goesOn.trans (own.symm.trans attempt)
  | opens own ends | installs own _ ends | fails own ends =>
    cases Option.some.inj (own.symm.trans attempt)
    cases ends
    exact nomatch ht
  | _ => exact nomatch attempt

/-- What the attempts under way restore: an attempt of the loop always does, and one of a caller if
    a session had been installed when its task took the lock. -/
structure Flagged (history : List Moment) (s : System) : Prop where
  loop : ∀ id restoring, s.task? id = some (.opening .loop restoring) → restoring = true
  caller : ∀ took ∈ history, ∀ id, took.Locks id → id < s.nextTask ∧
    ∀ t, s.task? id = some t → t.owner? = some .caller ∧
      ∀ restoring, t = .opening .caller restoring → restoring = took.system.client.everConnected

section Flagged

variable {settings : Settings} {history : List Moment} {s s' ready : System} {move : Move}
  {id : TaskId} {task : Task} {signal : Signal}

theorem Flagged.drift (flagged : Flagged history s) (numbered : s.Numbered)
    (drift : s.Drifts move s') : Flagged (history ++ [⟨s, move, none⟩]) s' := by
  have le : s.nextTask ≤ s'.nextTask := by
    cases drift with
    | begin => exact Nat.le_succ _
    | _ => exact Nat.le_refl _
  refine ⟨?_, ?_⟩
  · intro id restoring ht
    rcases drift.origin numbered ht with old | ⟨-, operation, -, new⟩
    · exact flagged.loop id restoring old
    · exact nomatch new
  · intro took mem id locks
    rcases List.mem_append.1 mem with old | new
    · obtain ⟨lt, kept⟩ := flagged.caller took old id locks
      refine ⟨Nat.lt_of_lt_of_le lt le, ?_⟩
      intro t ht
      rcases drift.origin numbered ht with there | ⟨fresh, -⟩
      · exact kept t there
      · exact absurd fresh (Nat.ne_of_lt lt)
    · obtain ⟨activity, restoring, none, -⟩ := locks
      rw [List.mem_singleton.1 new] at none
      exact nomatch none

/-- A task that takes the lock for a caller notes whether a session has been installed before. -/
theorem Flagged.locks (numbered : s.Numbered) (h : s.Readies move id task signal ready)
    {restoring : Bool}
    (locks : (ready.client.resume ready.now id task signal).next = .ok (.opening .caller restoring)) :
    (ready.absorb id (ready.client.resume ready.now id task signal)).task? id =
      some (.opening .caller s.client.everConnected) := by
  have same : ready.client.everConnected = s.client.everConnected := by rw [h.client]
  have here := (h.follows numbered _).goesOn _ locks
  cases Client.attempts_of_transition (Client.transition_of_readies h) locks rfl
  rw [here]
  exact congrArg (fun connected => some (Task.opening .caller connected)) same

theorem Flagged.absorb (flagged : Flagged history s) (numbered : s.Numbered)
    (h : s.Readies move id task signal ready) :
    Flagged (history ++ [⟨s, move, some (ready.activity id task signal)⟩])
      (ready.absorb id (ready.client.resume ready.now id task signal)) := by
  have transition := Client.transition_of_readies h
  have shift := shift_of_readies h
  have follows := h.follows numbered (ready.client.resume ready.now id task signal)
  have le : s.nextTask ≤ (ready.absorb id
      (ready.client.resume ready.now id task signal)).nextTask :=
    Nat.le_add_right_of_le (Nat.le_of_eq h.nextTask.symm)
  refine ⟨?_, ?_⟩
  · intro other restoring ht
    rcases follows.origin other _ ht with ⟨-, old⟩ | ⟨-, goesOn⟩ | ⟨k, -, starts⟩
    · exact flagged.loop other restoring old
    · cases Client.attempts_of_transition transition goesOn rfl
      rfl
    · exact nomatch shift.owner?_started (List.mem_of_getElem? starts)
  · intro took mem other locks
    rcases List.mem_append.1 mem with old | new
    · obtain ⟨lt, kept⟩ := flagged.caller took old other locks
      refine ⟨Nat.lt_of_lt_of_le lt le, ?_⟩
      intro t ht
      rcases follows.origin other t ht with ⟨-, there⟩ | ⟨rfl, goesOn⟩ | ⟨k, rfl, -⟩
      · exact kept t there
      · obtain ⟨own, -⟩ := kept task h.found
        refine ⟨shift.caller own goesOn, ?_⟩
        intro restoring opening
        subst opening
        -- an attempt under way never comes back to asking for a session
        cases Client.attempts_of_transition transition goesOn rfl with
        | opens seeks => exact nomatch seeks.owner.symm.trans own
      · exact absurd lt (Nat.not_lt_of_le (Nat.le_add_right _ _))
    · cases List.mem_singleton.1 new
      obtain ⟨activity, restoring, hactivity, rfl, goesOn⟩ := locks
      cases Option.some.inj hactivity
      refine ⟨Nat.lt_of_lt_of_le (numbered.lt h.found) le, ?_⟩
      intro t ht
      cases Option.some.inj ((Flagged.locks numbered h goesOn).symm.trans ht)
      refine ⟨rfl, ?_⟩
      rintro restoring ⟨⟩
      rfl

end Flagged

theorem Run.flagged {settings : Settings} {history : List Moment} {s : System}
    (run : Run settings history s) : Flagged history s := by
  induction run with
  | start => exact ⟨fun _ _ ht => (nomatch ht), fun _ hm => nomatch hm⟩
  | next run step ih =>
    rcases System.step_cases step with ⟨rfl, drift⟩ | ⟨id, task, signal, ready, h, rfl, rfl⟩
    · exact ih.drift run.numbered drift
    · exact ih.absorb run.numbered h

/-- The attempt that a recovery session is opened for restores. -/
theorem Run.opens_of_recovers {settings : Settings} {history : List Moment} {s : System}
    (run : Run settings history s) {n : SessionId} (recovers : Recovers history n) :
    ∃ m ∈ history, ∃ id owner, m.Opens n id owner true := by
  obtain ⟨earlier, m, later, id, owner, restoring, rfl, opens, why⟩ := recovers
  have flagged := run.split.1.flagged
  have found := opens.2.1
  have restores : restoring = true := by
    cases owner with
    | loop => exact flagged.loop id restoring found
    | caller =>
      rcases why with loop | ⟨took, mem, locks, connected⟩
      · exact nomatch loop
      · obtain ⟨-, kept⟩ := flagged.caller took mem id locks
        rw [← connected]
        exact (kept _ found).2 restoring rfl
  rw [restores] at opens
  exact ⟨m, List.mem_append_right _ List.mem_cons_self, id, owner, opens⟩

/-! ## Up to the installation -/

/-- Where the attempt of a session stands: what it has called and what it has still to call. -/
inductive Stands (settings : Settings) (history : List Moment) (n : SessionId) : Task → Prop
  | limited {owner : Owner} {restoring : Bool}
      (log : setUpCalls n history = [.prefetch settings.prefetch])
      (flag : ∀ m ∈ history, ∀ id other r, m.Opens n id other r → r = restoring) :
      Stands settings history n
        (.calling n (.prefetch settings.prefetch) (.limited owner restoring))
  | restored {call : Call} {owner : Owner} {channel : Channel} {rest : List Declaration}
      {m : Moment} (mem : m ∈ history) (limits : m.Limits n)
      (log : setUpCalls n history ++ rest.map .declare = declarations settings) :
      Stands settings history n (.calling n call (.restored owner channel rest))
  | attached {call : Call} {owner : Owner} {channel : Channel} {current : Registration}
      {rest : List Registration} {m : Moment} (mem : m ∈ history) (clones : m.Clones n)
      (left : current :: rest <:+ m.system.client.registrations)
      (log : setUpCalls n history ++ rest.map (fun registration => .consume registration.queue) =
        restoration settings m.system.client.registrations) :
      Stands settings history n (.calling n call (.attached owner channel current rest))
  | abandoned {call : Call} {owner : Owner} {fault : Fault} {made : List Call}
      (begins : Begins settings history n made) (log : setUpCalls n history = made ++ [.close]) :
      Stands settings history n (.calling n call (.abandoned owner fault))

/-- All that a recovery has to call has been called; a session that is no recovery is let off. -/
def Complete (settings : Settings) (history : List Moment) (n : SessionId) : Prop :=
  (∃ m ∈ history, m.Clones n ∧
    setUpCalls n history = restoration settings m.system.client.registrations) ∨
  ∀ m ∈ history, ∀ id owner restoring, m.Opens n id owner restoring → restoring = false

/-- Some task waits for the answer to a call on the session. -/
def System.Calls (s : System) (n : SessionId) : Prop :=
  ∃ id t call, s.task? id = some t ∧ t.call? = some (n, call)

/-- What is true of the attempt of a session until the session is installed. -/
structure Underway (settings : Settings) (history : List Moment) (s : System) (n : SessionId) :
    Prop where
  stands : ∀ id t, s.task? id = some t → t.setsUp? = some n → Stands settings history n t
  unopened : ¬ (0 < n ∧ n ≤ s.sessions) → calls n history = [] ∧ (∀ m ∈ history, ¬ m.Limits n) ∧
    ¬ s.Calls n ∧ ∀ id t, s.task? id = some t → t.setsUp? ≠ some n
  opened : 0 < n → n ≤ s.sessions →
    (calls n history).head? = some (.prefetch settings.prefetch) ∧
      ∃ made, Begins settings history n made ∧
        (setUpCalls n history = made ∨ setUpCalls n history = made ++ [.close])
  installed : s.installed n → (0 < n ∧ n ≤ s.sessions) ∧ (∃ m ∈ history, m.Limits n) ∧
    Complete settings history n

/-- What is true of a session until it is installed. -/
structure Prepared (settings : Settings) (history : List Moment) (s : System) (n : SessionId) :
    Prop where
  underway : Underway settings history s n
  unused : ∀ id t, s.task? id = some t → t.uses? ≠ some n
  streams : ∀ id registration, s.task? id = some (.streaming n registration) →
    Attached history n registration
  arrived : ∀ (delivery : DeliveryId) held, s.client.deliveries[delivery]? = some held →
    held.delivery.session = some n → Arrived history n delivery held.delivery.tag
  limited : ∀ m ∈ history, m.Clones n → ∃ m' ∈ history, m'.Limits n
  unsettled : (∀ m ∈ history, ¬ m.Limits n) → calls n history = setUpCalls n history

section Stands

variable {settings : Settings} {n : SessionId} {history : List Moment} {t : Task}

/-- A moment without a set-up call on the session leaves its attempt where it stands. -/
theorem Stands.append (h : Stands settings history n t) {m : Moment}
    (quiet : setUpCalls n [m] = []) (old : ∀ id owner restoring, ¬ m.Opens n id owner restoring) :
    Stands settings (history ++ [m]) n t := by
  have log : setUpCalls n (history ++ [m]) = setUpCalls n history := by
    rw [setUpCalls_append, quiet, List.append_nil]
  cases h with
  | limited made flag =>
    refine .limited (log.trans made) ?_
    intro m' hm id other r opens
    rcases List.mem_append.1 hm with before | new
    · exact flag m' before id other r opens
    · rw [List.mem_singleton.1 new] at opens
      exact absurd opens (old id other r)
  | restored mem limits made =>
    exact .restored (List.mem_append_left _ mem) limits (log.symm ▸ made)
  | attached mem clones left made =>
    exact .attached (List.mem_append_left _ mem) clones left (log.symm ▸ made)
  | abandoned begins made => exact .abandoned (begins.append _) (log.trans made)

theorem Stands.begins (h : Stands settings history n t) :
    ∃ made, Begins settings history n made ∧
      (setUpCalls n history = made ∨ setUpCalls n history = made ++ [.close]) := by
  cases h with
  | limited log => exact ⟨_, .limit, .inl log⟩
  | restored mem limits log => exact ⟨_, .plan mem limits ⟨_, log⟩, .inl rfl⟩
  | attached mem clones left log => exact ⟨_, .consumers mem clones ⟨_, log⟩, .inl rfl⟩
  | abandoned begins log => exact ⟨_, begins, .inr log⟩

/-- The attempt of a session makes its calls one by one: every one of them is the next of the
    restoration, or the close that ends it. -/
theorem Stands.advance {c : Client} {now : Duration} {before : Task} {signal : Signal}
    {reaction : Reaction} (stands : Stands settings history n before)
    (serves : Client.Serves c now n before signal reaction) (own : before.setsUp? = some n)
    {m : Moment} {activity : Activity} (made : m.activity = some activity)
    (hbefore : activity.before = before) (hsignal : activity.signal = signal)
    (hnext : activity.next = reaction.next)
    (cloned : m.system.client.registrations = c.registrations) (set : c.settings = settings)
    {call : Call} {after : After} (ht : reaction.next = .ok (.calling n call after)) :
    Stands settings (history ++ [m]) n (.calling n call after) := by
  have called : m.call? n = some call :=
    call?_eq_some_iff.2 ⟨activity, after, made, hnext.trans ht⟩
  have here : m ∈ history ++ [m] := List.mem_append_right _ (List.mem_singleton.2 rfl)
  have log : ¬ call.isSettle →
      setUpCalls n (history ++ [m]) = setUpCalls n history ++ [call] := by
    intro plain
    rw [setUpCalls_append, setUpCalls_of_call called plain]
  -- what is left to call stands in the task, what has been called in the log: each step moves one
  -- call from the one to the other
  cases serves with
  | spares other => exact absurd own other
  | limits => exact nomatch own
  | @restores last owner first rest plan =>
    cases ht
    cases stands with
    | limited start =>
      refine .restored here ⟨activity, _, _, made, hbefore, hsignal⟩ ?_
      have planned : declarations settings =
          .prefetch settings.prefetch :: (first :: rest).map .declare := by
        rw [← plan, ← set]
        rfl
      rw [log nofun, start, planned]
      rfl
  | declares =>
    cases ht
    cases stands with
    | restored mem limits so_far =>
      refine .restored (List.mem_append_left _ mem) limits ?_
      rw [log nofun, List.append_assoc, ← so_far]
      rfl
  | @attaches last owner channel current rest same clone =>
    cases ht
    cases stands with
    | restored mem limits so_far =>
      -- the registrations are cloned in this moment, those registered later are not restored
      have clones : m.Clones n := ⟨activity, _, _, _, made, hbefore, hsignal⟩
      rw [List.map_nil, List.append_nil] at so_far
      refine .attached here clones ?_ ?_
      · exact (cloned.trans clone).symm ▸ List.suffix_rfl
      · simp [log, Call.isSettle, so_far, restoration, cloned, clone]
  | reattaches =>
    cases ht
    cases stands with
    | attached mem clones left so_far =>
      refine .attached (List.mem_append_left _ mem) clones ?_ ?_
      · exact (List.suffix_cons _ _).trans left
      · rw [log nofun, List.append_assoc, ← so_far]
        rfl
  | installs | fails => exact nomatch (Client.concludes_conclusion _ _).resting ht
  | abandons restores =>
    cases ht
    refine .abandoned ?_ (log nofun)
    cases restores with
    | limited =>
      cases stands with
      | limited so_far => exact so_far ▸ .limit
    | restored =>
      cases stands with
      | restored mem limits so_far =>
        exact .plan (List.mem_append_left _ mem) limits ⟨_, so_far⟩
    | attached =>
      cases stands with
      | attached mem clones _ so_far =>
        exact .consumers (List.mem_append_left _ mem) clones ⟨_, so_far⟩

/-- A session is complete when its attempt installs it. -/
theorem Stands.complete {c : Client} {before : Task} {signal : Signal} {owner : Owner}
    {channel : Channel} {ready : Client} {started : List Task}
    (stands : Stands settings history n before)
    (completes : Client.Completes c before signal owner channel ready started)
    {m : Moment} {activity : Activity} (made : m.activity = some activity)
    (hbefore : activity.before = before) (hsignal : activity.signal = signal)
    (cloned : m.system.client.registrations = c.registrations) (quiet : setUpCalls n [m] = [])
    (old : ∀ id owner restoring, ¬ m.Opens n id owner restoring)
    (limited : ∀ m ∈ history, m.Clones n → ∃ m' ∈ history, m'.Limits n) :
    (∃ m' ∈ history ++ [m], m'.Limits n) ∧ Complete settings (history ++ [m]) n := by
  have log : setUpCalls n (history ++ [m]) = setUpCalls n history := by
    rw [setUpCalls_append, quiet, List.append_nil]
  have here : m ∈ history ++ [m] := List.mem_append_right _ (List.mem_singleton.2 rfl)
  cases completes with
  | limited =>
    cases stands.append quiet old with
    | limited _ flag =>
      exact ⟨⟨m, here, activity, _, _, made, hbefore, hsignal⟩, .inr flag⟩
  | restored missing =>
    cases stands with
    | restored mem limits so_far =>
      refine ⟨⟨_, List.mem_append_left _ mem, limits⟩,
        .inl ⟨m, here, ⟨activity, _, _, _, made, hbefore, hsignal⟩, ?_⟩⟩
      rw [List.map_nil, List.append_nil] at so_far
      rw [log, so_far, cloned, missing]
      exact (List.append_nil _).symm
  | attached =>
    cases stands with
    | attached mem clones left so_far =>
      rw [List.map_nil, List.append_nil] at so_far
      obtain ⟨m', hm', limits⟩ := limited _ mem clones
      exact ⟨⟨m', List.mem_append_left _ hm', limits⟩,
        .inl ⟨_, List.mem_append_left _ mem, clones, log.trans so_far⟩⟩

end Stands

/-! ### Moves that do not set up the session -/

section Underway

variable {settings : Settings} {n : SessionId} {history : List Moment} {s s' : System} {m : Moment}

/-- A moment without a set-up call on the session keeps its attempt under way as it is. -/
theorem Underway.quiet (underway : Underway settings history s n) (hs : m.system = s)
    (silent : setUpCalls n [m] = [])
    (unsettled : (∀ m ∈ history, ¬ m.Limits n) → calls n [m] = [] ∧ (s'.Calls n → s.Calls n))
    (limits : m.Limits n → s.Calls n)
    (tasks : ∀ id t, s'.task? id = some t → t.setsUp? = some n → s.task? id = some t)
    (later : s.sessions ≤ s'.sessions ∧ ∀ id, m.move = .connect id → s'.sessions = s.sessions + 1)
    (old : n ≤ s'.sessions → n ≤ s.sessions) (uninstalled : ¬ s'.installed n) :
    Underway settings (history ++ [m]) s' n := by
  have log : setUpCalls n (history ++ [m]) = setUpCalls n history := by
    rw [setUpCalls_append, silent, List.append_nil]
  have no_opens : ∀ id owner restoring, ¬ m.Opens n id owner restoring := by
    rintro id owner restoring ⟨hmove, -, rfl⟩
    rw [hs, later.2 id hmove] at old
    exact Nat.not_succ_le_self _ (old (Nat.le_refl _))
  refine ⟨?_, ?_, ?_, fun on => absurd on uninstalled⟩
  · intro id t ht on
    exact (underway.stands id t (tasks id t ht on) on).append silent no_opens
  · intro no
    obtain ⟨none, unlimited, no_call, no_task⟩ :=
      underway.unopened fun yes => no ⟨yes.1, Nat.le_trans yes.2 later.1⟩
    obtain ⟨still, back⟩ := unsettled unlimited
    refine ⟨?_, ?_, fun called => no_call (back called), ?_⟩
    · rw [calls_append, none, still]
      rfl
    · intro m' hm
      rcases List.mem_append.1 hm with before | new
      · exact unlimited m' before
      · rw [List.mem_singleton.1 new]
        exact fun limited => no_call (limits limited)
    · intro id t ht on
      exact no_task id t (tasks id t ht on) on
  · intro pos le
    obtain ⟨first, made, begins, shape⟩ := underway.opened pos (old le)
    refine ⟨?_, made, begins.append _, log.symm ▸ shape⟩
    rw [calls_append, List.head?_append, first, Option.some_or]

end Underway

/-! ### Steps of tasks -/

section Step

variable {settings : Settings} {n : SessionId} {history : List Moment} {s ready : System}
  {move : Move} {id : TaskId} {task : Task} {signal : Signal}

/-- A step on a session that is not installed. -/
theorem Prepared.serves (prepared : Prepared settings history s n) (run : Run settings history s)
    (h : s.Readies move id task signal ready) (uninstalled : ¬ s.installed n) :
    Client.Serves ready.client ready.now n task signal
      (ready.client.resume ready.now id task signal) := by
  refine Client.serves_of_transition (Client.transition_of_readies h) ?_
    (prepared.unused id task h.found) (run.consistent id task h.found)
  intro channel installed same
  apply uninstalled
  have here : s.client.channel = some channel := (congrArg Client.channel h.client).symm.trans installed
  simp [System.installed, here, same]

/-- A settle call on a session that is not installed is on a delivery that has arrived on one of its
    new consumers. -/
theorem Prepared.settles (prepared : Prepared settings history s n)
    (h : s.Readies move id task signal ready) (uninstalled : ¬ s.installed n) {tag : Nat}
    {verdict : Verdict} {after : After}
    (ht : (ready.client.resume ready.now id task signal).next =
      .ok (.calling n (.settle tag verdict) after)) :
    ∃ delivery, task.settles? = some delivery ∧ Arrived history n delivery tag := by
  obtain ⟨delivery, held, settles, found, rfl, target⟩ := h.turn.makes ht rfl
  refine ⟨delivery, settles, ?_⟩
  have same : ready = s := by
    cases h with
    | resume => rfl
    | connect | deliver => exact nomatch settles
  subst same
  unfold Client.target at target
  split at target
  · next session bound =>
    cases target
    exact prepared.arrived delivery held found bound
  · obtain ⟨channel, installed, same⟩ := Client.session_eq_ok_iff.1 target
    exact absurd (by simp [System.installed, installed, same]) uninstalled

/-- Before the prefetch limit has been taken, nothing is settled on the session. -/
theorem Prepared.no_settle (prepared : Prepared settings history s n)
    (h : s.Readies move id task signal ready) (uninstalled : ¬ s.installed n)
    (unlimited : ∀ m ∈ history, ¬ m.Limits n) {call : Call} {after : After}
    (ht : (ready.client.resume ready.now id task signal).next = .ok (.calling n call after)) :
    ¬ call.isSettle := by
  intro settle
  cases call with
  | settle tag verdict =>
    obtain ⟨-, -, -, -, -, -, -, -, clone, mem, clones, -⟩ := prepared.settles h uninstalled ht
    obtain ⟨m, hm, limits⟩ := prepared.limited clone mem clones
    exact unlimited m hm limits
  | _ => exact nomatch settle

theorem mem_calls_of_limits {m : Moment} (found : s.task? id = some task)
    (before : ∀ activity, m.activity = some activity → activity.before = task)
    (limits : m.Limits n) : s.Calls n := by
  obtain ⟨activity, count, after, hactivity, hbefore, -⟩ := limits
  rw [before activity hactivity] at hbefore
  exact ⟨id, task, .prefetch count, found, by rw [hbefore]; rfl⟩

theorem Underway.spares (prepared : Prepared settings history s n) (run : Run settings history s)
    (h : s.Readies move id task signal ready) (uninstalled : ¬ s.installed n)
    (spares : Client.Spares n task (ready.client.resume ready.now id task signal)) :
    Underway settings (history ++ [⟨s, move, some (ready.activity id task signal)⟩])
      (ready.absorb id (ready.client.resume ready.now id task signal)) n := by
  have follows := h.follows run.numbered (ready.client.resume ready.now id task signal)
  have settles : ∀ call, Moment.call? n ⟨s, move, some (ready.activity id task signal)⟩ = some call →
      call.isSettle := by
    intro call called
    obtain ⟨activity, after, hactivity, hnext⟩ := call?_eq_some_iff.1 called
    cases hactivity
    exact spares.call _ call hnext rfl
  refine prepared.underway.quiet rfl (setUpCalls_of_settle settles) (fun unlimited => ⟨?_, ?_⟩)
    (mem_calls_of_limits h.found fun _ h => (Option.some.inj h) ▸ rfl) ?_ h.sessions ?_ ?_
  · refine List.filterMap_eq_nil_iff.2 ?_
    intro m hm
    rw [List.mem_singleton.1 hm]
    cases called : Moment.call? n ⟨s, move, some (ready.activity id task signal)⟩ with
    | none => rfl
    | some call =>
      obtain ⟨activity, after, hactivity, hnext⟩ := call?_eq_some_iff.1 called
      cases hactivity
      exact absurd (settles call called) (prepared.no_settle h uninstalled unlimited hnext)
  · rintro ⟨other, t, call, ht, on⟩
    rcases follows.origin other t ht with ⟨-, old⟩ | ⟨-, goesOn⟩ | ⟨k, -, starts⟩
    · exact ⟨other, t, call, old, on⟩
    · have settle := spares.call t call goesOn on
      cases t with
      | calling session last after =>
        cases on
        exact absurd settle (prepared.no_settle h uninstalled unlimited goesOn)
      | _ => exact nomatch on
    · exact nomatch (spares.starts t (List.mem_of_getElem? starts)).1.symm.trans on
  · intro other t ht on
    rcases follows.origin other t ht with ⟨-, old⟩ | ⟨-, goesOn⟩ | ⟨k, -, starts⟩
    · exact old
    · exact absurd on (spares.setsUp t goesOn)
    · exact nomatch (spares.starts t (List.mem_of_getElem? starts)).2.1.symm.trans on
  · intro le
    cases h with
    | resume | deliver => exact le
    | connect found =>
      -- had the step opened this session, it would have called on it
      refine Nat.le_of_lt_succ (Nat.lt_of_le_of_ne le ?_)
      intro same
      subst same
      exact nomatch spares.call _ _ rfl rfl
  · intro on
    obtain ⟨channel, installed, same⟩ := (Option.any_eq_true _ _).1 on
    exact spares.channel channel installed (of_decide_eq_true same)

/-- The first call on a session limits what may be unsettled on it. -/
theorem Underway.limits (prepared : Prepared settings history s n) (run : Run settings history s)
    (h : s.Readies move id task signal ready) (uninstalled : ¬ s.installed n) {owner : Owner}
    {restoring : Bool} (before : task = .opening owner restoring)
    (answer : signal = .opened (.ok n)) :
    Underway settings (history ++ [⟨s, move, some (ready.activity id task signal)⟩])
      (ready.absorb id (ready.client.resume ready.now id task signal)) n := by
  have follows := h.follows run.numbered (ready.client.resume ready.now id task signal)
  subst before
  subst answer
  cases h with
  | resume _ admitted => exact nomatch admitted
  | connect found =>
    have fresh : ¬ (0 < s.sessions + 1 ∧ s.sessions + 1 ≤ s.sessions) :=
      fun le => Nat.not_succ_le_self _ le.2
    obtain ⟨empty, -, -, no_task⟩ := prepared.underway.unopened fresh
    let m : Moment := ⟨s, .connect id,
      some (s.openSession.1.activity id (.opening owner restoring) (.opened (.ok (s.sessions + 1))))⟩
    have called : m.call? (s.sessions + 1) = some (.prefetch settings.prefetch) := by
      refine call?_eq_some_iff.2 ⟨_, .limited owner restoring, rfl, ?_⟩
      rw [← run.settings]
      rfl
    have log : calls (s.sessions + 1) (history ++ [m]) = [.prefetch settings.prefetch] := by
      rw [calls_append, empty]
      simp [calls, called]
    have plain : setUpCalls (s.sessions + 1) (history ++ [m]) = [.prefetch settings.prefetch] := by
      rw [setUpCalls, log]
      rfl
    refine ⟨?_, ?_, fun _ _ => ⟨?_, _, .limit, .inl plain⟩, fun on => absurd on uninstalled⟩
    · intro other t ht on
      rcases follows.origin other t ht with ⟨-, old⟩ | ⟨-, goesOn⟩ | ⟨k, -, starts⟩
      · exact absurd on (no_task other t old)
      · cases goesOn
        show Stands _ _ _ (.calling _ (.prefetch s.client.settings.prefetch) _)
        rw [run.settings]
        refine .limited plain ?_
        intro m' hm other' owner' r opens
        -- no earlier moment has opened a session of this number
        rcases List.mem_append.1 hm with old | new
        · have le := (run.sessions_le m' old).2 other' opens.1
          rw [opens.2.2] at le
          exact absurd le (Nat.not_succ_le_self _)
        · rw [List.mem_singleton.1 new] at opens
          obtain ⟨hmove, found', -⟩ := opens
          cases hmove
          cases Option.some.inj (found.symm.trans found')
          rfl
      · exact nomatch starts
    · intro no
      exact absurd ⟨Nat.succ_pos _, Nat.le_refl _⟩ no
    · exact congrArg List.head? log

/-- A later step of the attempt of the session. -/
theorem Underway.advances (prepared : Prepared settings history s n) (run : Run settings history s)
    (h : s.Readies move id task signal ready) (uninstalled : ¬ s.installed n)
    (own : task.setsUp? = some n) :
    Underway settings (history ++ [⟨s, move, some (ready.activity id task signal)⟩])
      (ready.absorb id (ready.client.resume ready.now id task signal)) n := by
  have follows := h.follows run.numbered (ready.client.resume ready.now id task signal)
  have serves := prepared.serves run h uninstalled
  have stands := prepared.underway.stands id task h.found own
  have registrations : s.client.registrations = ready.client.registrations :=
    (congrArg Client.registrations h.client).symm
  have set : ready.client.settings = settings :=
    (congrArg Client.settings h.client).trans run.settings
  let m : Moment := ⟨s, move, some (ready.activity id task signal)⟩
  have advance : ∀ call after, (ready.client.resume ready.now id task signal).next =
      .ok (.calling n call after) →
      Stands settings (history ++ [m]) n (.calling n call after) := fun call after ht =>
    stands.advance serves own rfl rfl rfl rfl registrations set ht
  have quiet : (∀ call after, (ready.client.resume ready.now id task signal).next ≠
      .ok (.calling n call after)) → setUpCalls n [m] = [] := by
    intro silent
    refine setUpCalls_of_settle ?_
    intro call called
    obtain ⟨activity, after, hactivity, hnext⟩ := call?_eq_some_iff.1 called
    cases hactivity
    exact absurd hnext (silent call after)
  have opened : 0 < n ∧ n ≤ s.sessions :=
    Decidable.byContradiction fun no => (prepared.underway.unopened no).2.2.2 id task h.found own
  refine ⟨?_, ?_, fun pos le => ⟨?_, ?_⟩, ?_⟩
  · intro other t ht on
    rcases follows.origin other t ht with ⟨ne, old⟩ | ⟨-, goesOn⟩ | ⟨k, -, starts⟩
    · exact absurd (run.sound.same_attempt old (Task.owner?_of_setsUp? on) h.found
        (Task.owner?_of_setsUp? own)) ne
    · obtain ⟨call, after, rfl⟩ := serves.calls own goesOn on
      exact advance call after goesOn
    · exact nomatch (serves.starts (List.mem_of_getElem? starts)).2.1.symm.trans on
  · -- the session has been opened
    intro no
    exact absurd ⟨opened.1, Nat.le_trans opened.2 h.sessions.1⟩ no
  · rw [calls_append, List.head?_append, (prepared.underway.opened opened.1 opened.2).1]
    rfl
  · -- the log grows by the next call, or stays as it was
    by_cases called : ∃ call after, (ready.client.resume ready.now id task signal).next =
        .ok (.calling n call after)
    · obtain ⟨call, after, hnext⟩ := called
      exact (advance call after hnext).begins
    · obtain ⟨-, made, begins, shape⟩ := prepared.underway.opened opened.1 opened.2
      refine ⟨made, begins.append _, ?_⟩
      rw [setUpCalls_append, quiet fun call after hnext => called ⟨call, after, hnext⟩]
      simpa using shape
  · -- the session is only installed with everything called
    intro on
    obtain ⟨channel, here, same⟩ := (Option.any_eq_true _ _).1 on
    rcases serves.installs? here (of_decide_eq_true same) with before | ⟨silent, _, _, completes⟩
    · have was : s.client.channel = some channel :=
        (congrArg Client.channel h.client).symm.trans before
      exact absurd (by simp [System.installed, was, of_decide_eq_true same]) uninstalled
    · refine ⟨⟨opened.1, Nat.le_trans opened.2 h.sessions.1⟩, ?_⟩
      refine stands.complete completes rfl rfl rfl registrations
        (quiet fun call after hnext => nomatch silent _ hnext) ?_
        prepared.limited
      intro other owner r opens
      exact absurd (opens.2.2 ▸ opened.2) (Nat.not_succ_le_self _)

theorem Underway.absorb (prepared : Prepared settings history s n) (run : Run settings history s)
    (h : s.Readies move id task signal ready) (uninstalled : ¬ s.installed n) :
    Underway settings (history ++ [⟨s, move, some (ready.activity id task signal)⟩])
      (ready.absorb id (ready.client.resume ready.now id task signal)) n := by
  rcases (prepared.serves run h uninstalled).kinds with
    ⟨-, spares⟩ | ⟨owner, restoring, before, answer, -⟩ | own
  · exact .spares prepared run h uninstalled spares
  · exact .limits prepared run h uninstalled before answer
  · exact .advances prepared run h uninstalled own

/-- A delivery that a step finds was there before, or it arrives with the step. -/
theorem System.Readies.arrives (h : s.Readies move id task signal ready) {delivery : DeliveryId}
    {held : Held} (found : ready.client.deliveries[delivery]? = some held) :
    s.client.deliveries[delivery]? = some held ∨
      ∃ session registration message, move = .deliver id message ∧
        s.task? id = some (.streaming session registration) ∧
        delivery = s.client.deliveries.length ∧
        held = ⟨{ message with session := some session }, false⟩ := by
  cases h with
  | resume | connect => exact .inl found
  | @deliver _ session registration message streams =>
    change (s.client.deliveries ++ [_])[delivery]? = some held at found
    rw [List.getElem?_append] at found
    split at found
    · exact .inl found
    · next ge =>
      rw [List.getElem?_singleton] at found
      split at found
      · next last =>
        refine .inr ⟨session, registration, message, rfl, streams, ?_, (Option.some.inj found).symm⟩
        exact Nat.le_antisymm (Nat.le_of_sub_eq_zero last) (Nat.le_of_not_lt ge)
      · exact nomatch found

/-- The consumers that come to stream from the session are those whose registrations were cloned. -/
theorem Prepared.streams_absorb (prepared : Prepared settings history s n)
    (run : Run settings history s) (h : s.Readies move id task signal ready)
    (uninstalled : ¬ s.installed n) {other : TaskId} {registration : Registration}
    (ht : (ready.absorb id (ready.client.resume ready.now id task signal)).task? other =
      some (.streaming n registration)) : Attached history n registration := by
  have serves := prepared.serves run h uninstalled
  rcases (h.follows run.numbered _).origin other _ ht with
    ⟨-, old⟩ | ⟨-, goesOn⟩ | ⟨k, -, starts⟩
  · exact prepared.streams other registration old
  · have before := (serves.apart goesOn).2 rfl
    exact prepared.streams id registration (before ▸ h.found)
  · obtain ⟨-, -, -, streams⟩ := serves.starts (List.mem_of_getElem? starts)
    obtain ⟨call, owner, channel, current, rest, same, before⟩ := streams rfl
    cases same
    subst before
    have on : channel.session = n := run.consistent id _ h.found
    cases prepared.underway.stands id _ h.found (congrArg some on) with
    | attached mem clones left => exact ⟨_, mem, clones, left.subset List.mem_cons_self⟩

/-- A delivery that belongs to the session has arrived on one of these consumers. -/
theorem Prepared.arrived_absorb (prepared : Prepared settings history s n)
    (h : s.Readies move id task signal ready) {delivery : DeliveryId} {held : Held}
    (found : (ready.client.resume ready.now id task signal).client.deliveries[delivery]? = some held)
    (bound : held.delivery.session = some n) :
    Arrived (history ++ [⟨s, move, some (ready.activity id task signal)⟩]) n delivery
      held.delivery.tag := by
  have same := h.turn.same delivery
  rw [found] at same
  obtain ⟨held', found', hdelivery⟩ := Option.map_eq_some_iff.1 same.symm
  rw [← hdelivery] at bound ⊢
  rcases h.arrives found' with old | ⟨session, registration, message, rfl, streams, rfl, rfl⟩
  · exact (prepared.arrived delivery held' old bound).append _
  · cases bound
    exact ⟨_, List.mem_append_right _ (List.mem_singleton.2 rfl), message, registration,
      ⟨id, rfl, streams, rfl⟩, rfl, (prepared.streams id registration streams).append _⟩

/-- Registrations are only cloned for a session that has taken its prefetch limit. -/
theorem Prepared.limited_absorb (prepared : Prepared settings history s n)
    (run : Run settings history s) (h : s.Readies move id task signal ready)
    (clones : Moment.Clones ⟨s, move, some (ready.activity id task signal)⟩ n) :
    ∃ m ∈ history, m.Limits n := by
  obtain ⟨activity, call, owner, channel, hactivity, hbefore, -⟩ := clones
  cases hactivity
  obtain rfl : task = .calling n call (.restored owner channel []) := hbefore
  have on : channel.session = n := run.consistent id _ h.found
  -- the clone follows the last declaration, and the first declaration the limit
  cases prepared.underway.stands id _ h.found (congrArg some on) with
  | restored mem limits => exact ⟨_, mem, limits⟩

theorem Prepared.absorb (prepared : Prepared settings history s n) (run : Run settings history s)
    (h : s.Readies move id task signal ready) (uninstalled : ¬ s.installed n) :
    Prepared settings (history ++ [⟨s, move, some (ready.activity id task signal)⟩])
      (ready.absorb id (ready.client.resume ready.now id task signal)) n := by
  have serves := prepared.serves run h uninstalled
  refine ⟨.absorb prepared run h uninstalled, ?_, ?_, ?_, ?_, ?_⟩
  · -- no operation of a caller uses the session
    intro other t ht
    rcases (h.follows run.numbered _).origin other t ht with
      ⟨-, old⟩ | ⟨-, goesOn⟩ | ⟨k, -, starts⟩
    · exact prepared.unused other t old
    · exact (serves.apart goesOn).1
    · rw [(serves.starts (List.mem_of_getElem? starts)).2.2.1]
      exact nofun
  · -- only what was cloned for the session streams from it
    intro other registration ht
    exact (prepared.streams_absorb run h uninstalled ht).append _
  · -- its deliveries arrived there
    intro delivery held found bound
    exact prepared.arrived_absorb h found bound
  · -- the limit comes before the clone
    intro m hm clones
    have limited : ∃ m ∈ history, m.Limits n := by
      rcases List.mem_append.1 hm with old | new
      · exact prepared.limited m old clones
      · exact prepared.limited_absorb run h (List.mem_singleton.1 new ▸ clones)
    obtain ⟨m', hm', limits⟩ := limited
    exact ⟨m', List.mem_append_left _ hm', limits⟩
  · -- until the limit is taken nothing is settled
    intro unlimited
    have before : ∀ m ∈ history, ¬ m.Limits n := fun m hm =>
      unlimited m (List.mem_append_left _ hm)
    rw [calls_append, setUpCalls_append, prepared.unsettled before]
    refine congrArg (setUpCalls n history ++ ·) (Eq.symm (List.filter_eq_self.2 ?_))
    intro call called
    obtain ⟨m, hm, called⟩ := List.mem_filterMap.1 called
    rw [List.mem_singleton.1 hm] at called
    obtain ⟨activity, after, hactivity, hnext⟩ := call?_eq_some_iff.1 called
    cases hactivity
    simp [prepared.no_settle h uninstalled before hnext]

theorem Underway.drift {s' : System} (underway : Underway settings history s n)
    (numbered : s.Numbered) (drift : s.Drifts move s') (uninstalled : ¬ s.installed n) :
    Underway settings (history ++ [⟨s, move, none⟩]) s' n := by
  have channel : s'.client.channel = s.client.channel := by cases drift <;> rfl
  have sessions : s'.sessions = s.sessions := by cases drift <;> rfl
  refine underway.quiet rfl ?_ (fun _ => ⟨rfl, ?_⟩) ?_ ?_ ?_ ?_ ?_
  · exact setUpCalls_of_settle fun call called => nomatch called
  · rintro ⟨id, t, call, ht, on⟩
    rcases drift.origin numbered ht with old | ⟨-, operation, -, rfl⟩
    · exact ⟨id, t, call, old, on⟩
    · exact nomatch on
  · rintro ⟨activity, -, -, none, -⟩
    exact nomatch none
  · intro id t ht on
    rcases drift.origin numbered ht with old | ⟨-, operation, -, rfl⟩
    · exact old
    · exact nomatch on
  · refine ⟨Nat.le_of_eq sessions.symm, ?_⟩
    rintro id rfl
    exact nomatch drift
  · exact fun le => sessions ▸ le
  · rw [System.installed, channel]
    exact uninstalled

/-- A move without any task going on brings no delivery that belongs to a session. -/
theorem System.Drifts.arrives {s' : System} (drift : s.Drifts move s') {delivery : DeliveryId}
    {held : Held} (found : s'.client.deliveries[delivery]? = some held)
    (bound : held.delivery.session = some n) : s.client.deliveries[delivery]? = some held := by
  cases drift with
  | forge message =>
    change (s.client.deliveries ++ [_])[delivery]? = some held at found
    rw [List.getElem?_append] at found
    split at found
    · exact found
    · rw [List.getElem?_singleton] at found
      split at found
      · rw [← Option.some.inj found] at bound
        exact nomatch bound
      · exact nomatch found
  | _ => exact found

/-- A move without any task going on does nothing to a session. -/
theorem Prepared.drift {s' : System} (prepared : Prepared settings history s n)
    (numbered : s.Numbered) (drift : s.Drifts move s') (uninstalled : ¬ s.installed n) :
    Prepared settings (history ++ [⟨s, move, none⟩]) s' n := by
  refine ⟨prepared.underway.drift numbered drift uninstalled, ?_, ?_, ?_, ?_, ?_⟩
  · intro id t ht
    rcases drift.origin numbered ht with old | ⟨-, operation, -, rfl⟩
    · exact prepared.unused id t old
    · exact nofun
  · intro id registration ht
    rcases drift.origin numbered ht with old | ⟨-, operation, -, new⟩
    · exact (prepared.streams id registration old).append _
    · exact nomatch new
  · intro delivery held found bound
    exact (prepared.arrived delivery held (drift.arrives found bound) bound).append _
  · intro m hm clones
    rcases List.mem_append.1 hm with old | new
    · obtain ⟨m', hm', limits⟩ := prepared.limited m old clones
      exact ⟨m', List.mem_append_left _ hm', limits⟩
    · rw [List.mem_singleton.1 new] at clones
      obtain ⟨activity, -, -, -, none, -⟩ := clones
      exact nomatch none
  · intro unlimited
    rw [calls_append, setUpCalls_append,
      prepared.unsettled fun m hm => unlimited m (List.mem_append_left _ hm)]
    rfl

end Step

/-- Every session is prepared for its installation until it is installed. -/
theorem Run.prepared {settings : Settings} {history : List Moment} {s : System}
    (run : Run settings history s) (n : SessionId)
    (uninstalled : ∀ m ∈ history, ¬ m.system.installed n) : Prepared settings history s n := by
  induction run with
  | start =>
    refine ⟨⟨fun _ _ ht => (nomatch ht), fun _ => ⟨rfl, fun _ hm => (nomatch hm), ?_, ?_⟩, ?_,
      fun on => (nomatch on)⟩, fun _ _ ht => (nomatch ht), fun _ _ ht => (nomatch ht),
      fun _ _ found => (nomatch found), fun _ hm => (nomatch hm), fun _ => rfl⟩
    · rintro ⟨_, _, _, ht, _⟩
      exact nomatch ht
    · exact fun _ _ ht => nomatch ht
    · exact fun pos le => absurd pos (Nat.not_lt_of_le le)
  | @next history s s' move activity run step ih =>
    have here : ¬ s.installed n := uninstalled _ (List.mem_append_right _ (List.mem_singleton.2 rfl))
    have before := ih fun m hm => uninstalled m (List.mem_append_left _ hm)
    rcases System.step_cases step with ⟨rfl, drift⟩ | ⟨id, task, signal, ready, h, rfl, rfl⟩
    · exact before.drift run.numbered drift here
    · exact before.absorb run h here

/-! ## Every call up to the installation -/

/-- Why a call is made on a session that is not installed: its attempt goes on, or a delivery that
    came in on one of its consumers is settled. -/
inductive Sanctioned (earlier : List Moment) (m : Moment) (n : SessionId) : Call → Prop
  | attempt {activity : Activity} {call : Call} {after : After} (did : m.activity = some activity)
      (goesOn : activity.next = .ok (.calling n call after)) (attempt : after.owner?.isSome)
      (plain : ¬ call.isSettle)
      (closes : call = .close → ∃ last next fault,
        activity.before = .calling n last next ∧ activity.signal = .answered (.error fault)) :
      Sanctioned earlier m n call
  | settle {activity : Activity} {delivery : DeliveryId} {tag : Nat} {verdict : Verdict}
      (did : m.activity = some activity) (settles : activity.before.settles? = some delivery)
      (arrived : Arrived earlier n delivery tag) : Sanctioned earlier m n (.settle tag verdict)

theorem Prepared.sanctioned {settings : Settings} {n : SessionId} {history : List Moment}
    {s : System} (prepared : Prepared settings history s n) (run : Run settings history s)
    (uninstalled : ¬ s.installed n) {s' : System} {move : Move} {activity : Option Activity}
    (step : s.step move = some (s', activity)) {call : Call}
    (called : Moment.call? n ⟨s, move, activity⟩ = some call) :
    Sanctioned history ⟨s, move, activity⟩ n call := by
  obtain ⟨did, after, hdid, goesOn⟩ := call?_eq_some_iff.1 called
  rcases System.step_cases step with ⟨rfl, -⟩ | ⟨id, task, signal, ready, h, -, rfl⟩
  · exact nomatch hdid
  · cases hdid
    by_cases settle : call.isSettle
    · cases call with
      | settle tag verdict =>
        obtain ⟨delivery, settles, arrived⟩ := prepared.settles h uninstalled goesOn
        exact .settle rfl settles arrived
      | _ => exact nomatch settle
    · rcases (prepared.serves run h uninstalled).next goesOn with other | ⟨attempt, closes⟩
      · exact absurd other settle
      · exact .attempt rfl goesOn attempt settle closes

/-- The moments up to the one that leads to the installation of the session. -/
def beforeInstall (n : SessionId) (history : List Moment) : List Moment :=
  history.takeWhile fun m => !m.system.installed n

theorem uninstalled_beforeInstall (n : SessionId) (history : List Moment) :
    ∀ m ∈ beforeInstall n history, ¬ m.system.installed n := by
  intro m hm
  have all : (beforeInstall n history).all fun m => !m.system.installed n := List.all_takeWhile
  simpa using List.all_eq_true.1 all m hm

theorem beforeInstall_cases (n : SessionId) (history : List Moment) :
    beforeInstall n history = history ∨
      ∃ m later, history = beforeInstall n history ++ m :: later ∧ m.system.installed n := by
  have parts : beforeInstall n history ++ history.dropWhile (fun m => !m.system.installed n) =
      history := List.takeWhile_append_dropWhile
  have first := List.head?_dropWhile_not (fun m : Moment => !m.system.installed n) history
  cases rest : history.dropWhile fun m => !m.system.installed n with
  | nil =>
    rw [rest, List.append_nil] at parts
    exact .inl parts
  | cons m later =>
    rw [rest] at parts first
    exact .inr ⟨m, later, parts.symm, by simpa using first⟩

/-- A session is opened before any moment that knows of it. -/
theorem Run.mem_of_opens {settings : Settings} {earlier later : List Moment} {m : Moment}
    {s : System} (run : Run settings (earlier ++ m :: later) s) {n : SessionId}
    (le : n ≤ m.system.sessions) {m' : Moment} (mem : m' ∈ earlier ++ m :: later) {id : TaskId}
    {owner : Owner} {restoring : Bool} (opens : m'.Opens n id owner restoring) : m' ∈ earlier := by
  obtain ⟨-, -, rfl⟩ := opens
  rcases List.mem_append.1 mem with before | after
  · exact before
  · rcases List.mem_cons.1 after with rfl | after
    · exact absurd le (Nat.not_succ_le_self _)
    · obtain ⟨between, last, rfl⟩ := List.append_of_mem after
      rw [← List.cons_append, ← List.append_assoc] at run
      have here : m ∈ earlier ++ m :: between := List.mem_append_right _ List.mem_cons_self
      have grown := (run.split.1.sessions_le m here).1
      exact absurd (Nat.le_trans le grown) (Nat.not_succ_le_self _)

/-- The run up to the installation of a session: all of it, or up to the moment that finds the
    session installed. -/
theorem Run.upTo {settings : Settings} {history : List Moment} {s : System}
    (run : Run settings history s) {n : SessionId} (le : n ≤ s.sessions) :
    ∃ s₁, Run settings (beforeInstall n history) s₁ ∧ n ≤ s₁.sessions ∧
      (beforeInstall n history = history ∧ s₁ = s ∨ s₁.installed n ∧
        ∃ m later, history = beforeInstall n history ++ m :: later ∧ m.system = s₁) := by
  rcases beforeInstall_cases n history with whole | ⟨m, later, parts, installed⟩
  · exact ⟨s, whole.symm ▸ run, le, .inl ⟨whole, rfl⟩⟩
  · have run₁ := (parts ▸ run).split.1
    have prepared := run₁.prepared n (uninstalled_beforeInstall n history)
    have opened := (prepared.underway.installed installed).1
    exact ⟨_, run₁, opened.2, .inr ⟨installed, m, later, parts, rfl⟩⟩

/-- Until the prefetch limit has been taken there is the call for it, and at most a close. -/
theorem Prepared.calls_prefix {settings : Settings} {n : SessionId} {history : List Moment}
    {s : System} (prepared : Prepared settings history s n) (pos : 0 < n) (le : n ≤ s.sessions)
    (unlimited : ∀ m ∈ history, ¬ m.Limits n) :
    calls n history <+: [.prefetch settings.prefetch, .close] := by
  obtain ⟨-, made, begins, shape⟩ := prepared.underway.opened pos le
  rw [prepared.unsettled unlimited]
  cases begins with
  | limit => rcases shape with shape | shape <;> simp [shape]
  | plan mem limits => exact absurd limits (unlimited _ mem)
  | consumers mem clones =>
    obtain ⟨m, hm, limits⟩ := prepared.limited _ mem clones
    exact absurd limits (unlimited m hm)

/-- On every session the prefetch limit comes first, and nothing but a close follows until it has
    been taken. Up to the installation of the session the calls on it are, but for settle calls on
    deliveries that came in on its new consumers, the first ones of a restoration, each made by its
    attempt, and at last a close after a failure; a recovery is installed with all of them made. -/
theorem restored_before_use {settings : Settings} {history : List Moment} {s : System}
    (run : Run settings history s) {n : SessionId} (pos : 0 < n) (le : n ≤ s.sessions) :
    (calls n history).head? = some (.prefetch settings.prefetch) ∧
      ((∀ m ∈ history, ¬ m.Limits n) →
        calls n history <+: [.prefetch settings.prefetch, .close]) ∧
      (∃ made, Begins settings (beforeInstall n history) n made ∧
        (setUpCalls n (beforeInstall n history) = made ∨
          setUpCalls n (beforeInstall n history) = made ++ [.close])) ∧
      (Recovers history n → (s.installed n ∨ ∃ m ∈ history, m.system.installed n) →
        ∃ m ∈ beforeInstall n history, m.Clones n ∧
          setUpCalls n (beforeInstall n history) =
            restoration settings m.system.client.registrations) ∧
      ∀ earlier m later call, beforeInstall n history = earlier ++ m :: later →
        m.call? n = some call → Sanctioned earlier m n call := by
  obtain ⟨s₁, run₁, opened, cut⟩ := run.upTo le
  have uninstalled := uninstalled_beforeInstall n history
  have prepared := run₁.prepared n uninstalled
  obtain ⟨first, made, begins, shape⟩ := prepared.underway.opened pos opened
  refine ⟨?_, ?_, ⟨made, begins, shape⟩, ?_, ?_⟩
  · -- the first call
    have grown : ∃ rest, history = beforeInstall n history ++ rest := by
      rcases cut with ⟨whole, -⟩ | ⟨-, m, later, parts, -⟩
      · exact ⟨[], by rw [whole, List.append_nil]⟩
      · exact ⟨_, parts⟩
    obtain ⟨rest, parts⟩ := grown
    rw [parts, calls_append, List.head?_append, first]
    rfl
  · -- the calls until the limit has been taken
    intro unlimited
    have before : ∀ m ∈ beforeInstall n history, ¬ m.Limits n := fun m hm =>
      unlimited m ((List.takeWhile_prefix _).subset hm)
    rcases cut with ⟨whole, -⟩ | ⟨installed, -⟩
    · have start := prepared.calls_prefix pos opened before
      rwa [whole] at start
    · -- a session is not installed without its limit
      obtain ⟨m, hm, limits⟩ := (prepared.underway.installed installed).2.1
      exact absurd limits (before m hm)
  · -- the calls of a recovery that gets installed
    intro recovers installed
    have here : s₁.installed n := by
      rcases cut with ⟨whole, rfl⟩ | ⟨here, -⟩
      · rcases installed with now | ⟨m, hm, past⟩
        · exact now
        · exact absurd past (uninstalled m (whole.symm ▸ hm))
      · exact here
    rcases (prepared.underway.installed here).2.2 with complete | let_off
    · exact complete
    · -- a session opened as a recovery is never let off
      obtain ⟨m, hm, id, owner, opens⟩ := run.opens_of_recovers recovers
      have mem : m ∈ beforeInstall n history := by
        rcases cut with ⟨whole, -⟩ | ⟨-, m', later, parts, rfl⟩
        · exact whole.symm ▸ hm
        · exact (parts ▸ run).mem_of_opens opened (parts ▸ hm) opens
      exact nomatch let_off m mem id owner true opens
  · -- who makes each call
    intro earlier m later call parts called
    rw [parts] at run₁ uninstalled
    obtain ⟨run₂, s', step⟩ := run₁.split
    have now : ¬ m.system.installed n :=
      uninstalled m (List.mem_append_right _ List.mem_cons_self)
    have prepared := run₂.prepared n fun m hm => uninstalled m (List.mem_append_left _ hm)
    exact prepared.sanctioned run₂ now step called

/-- A client with a consumer loses its session, and its reconnect loop restores everything on the
    next one. -/
def reconnection : List Move :=
  [.begin .connect, .resume 0 .turn, .connect 0, .resume 0 (.answered (.ok ())),
    .begin (.consume ⟨"recall", fun _ => .done .ok⟩), .resume 2 .turn,
    .resume 2 (.answered (.ok ())), .lose 1, .resume 1 .lost, .pass (.ofSeconds 1),
    .resume 4 .elapsed, .connect 4, .resume 4 (.answered (.ok ())),
    .resume 4 (.answered (.ok ())), .resume 4 (.answered (.ok ())),
    .resume 4 (.answered (.ok ())), .resume 4 (.answered (.ok ())),
    .resume 4 (.answered (.ok ()))]

theorem restored_before_use_reconnection : ∃ history s, Run bareSettings history s ∧
    Recovers history 2 ∧ 0 < 2 ∧ 2 ≤ s.sessions ∧ s.installed 2 ∧
      ∃ m ∈ beforeInstall 2 history, m.Clones 2 ∧
        setUpCalls 2 (beforeInstall 2 history) =
          restoration bareSettings m.system.client.registrations := by
  let e : Execution bareSettings := .ofMoves bareSettings reconnection rfl
  have recovers : Recovers (e.history 18) 2 :=
    ⟨e.history 11, ⟨e.system 11, e.move 11, e.activity 11⟩, _, 4, .loop, true, rfl,
      ⟨rfl, rfl, rfl⟩, .inl rfl⟩
  have le : 2 ≤ (e.system 18).sessions := by decide +kernel
  have installed : (e.system 18).installed 2 := rfl
  exact ⟨_, _, e.run 18, recovers, Nat.two_pos, le, installed,
    (restored_before_use (e.run 18) Nat.two_pos le).2.2.2.1 recovers (.inl installed)⟩

end Laneway.Broker
