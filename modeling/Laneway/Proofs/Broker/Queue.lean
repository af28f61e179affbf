import Laneway.Proofs.Broker.Restoration

set_option autoImplicit false

/-! # The queue for the connect lock

The connect lock is a queue of tasks: the first one holds the lock and runs an attempt, the others
wait. Nobody is forgotten in it and nobody stays in it after its attempt, so whenever somebody waits,
the head of the queue is a task that can go on. Only a client with a broker to connect to ever has
such a queue, a loop or a watcher. -/

namespace Laneway.Broker

/-- The task waits for the connect lock, or it holds it. -/
def Task.inLine : Task → Bool
  | .locking _ => true
  | t => t.owner?.isSome

/-- A loop sleeps or is in line. -/
theorem Task.resting_or_inLine {t : Task} (h : t.isLoop) :
    (∃ due, t = .resting due) ∨ t.inLine := by
  cases t with
  | resting due => exact .inl ⟨due, rfl⟩
  | locking => exact .inr rfl
  | opening => exact .inr rfl
  | calling session call after =>
    have own : after.owner? = some .loop := of_decide_eq_true h
    exact .inr (Option.isSome_of_eq_some own)
  | _ => exact nomatch h

namespace Client

variable {c : Client} {now : Duration} {id : TaskId} {before : Task} {signal : Signal}
  {reaction : Reaction}

/-- What a step does to the queue for the connect lock. -/
inductive Lines (c : Client) (id : TaskId) (before : Task) (reaction : Reaction) : Prop
  | stays (lock : reaction.client.lock = c.lock)
      (same : before.inLine ↔ ∃ t, reaction.next = .ok t ∧ t.inLine)
  | joins {t : Task} (outside : before.inLine = false) (lock : reaction.client.lock = c.lock ++ [id])
      (goesOn : reaction.next = .ok t) (waits : t.inLine)
      (why : c.lock ≠ [] ∨ ∃ owner restoring, t = .opening owner restoring)
  | leaves (head : c.lock.head? = some id) (lock : reaction.client.lock = c.lock.tail)
      (gone : ∀ t, reaction.next = .ok t → t.inLine = false)

/-- A step outside the queue. -/
theorem lines_aside (lock : reaction.client.lock = c.lock) (outside : before.inLine = false)
    (gone : ∀ t, reaction.next = .ok t → t.inLine = false) : Lines c id before reaction := by
  refine .stays lock ?_
  rw [outside]
  constructor
  · exact nofun
  · rintro ⟨t, goesOn, waits⟩
    exact absurd (waits.symm.trans (gone t goesOn)) Bool.noConfusion

theorem inLine_conclusion {owner : Owner} {result : Except Fault Unit} {t : Task}
    (ht : c.conclusion now owner result = .ok t) : t.inLine = false := by
  rw [(concludes_conclusion owner result).resting ht]
  rfl

/-- The reaction has no part in connecting: a settle call or a handler goes on, or ends. -/
structure Aside (c : Client) (reaction : Reaction) : Prop where
  client : reaction.client = { c with deliveries := reaction.client.deliveries }
  next : ∀ t, reaction.next = .ok t → t.isPlain ∧ t.inLine = false ∧ t.streams? = none
  started : reaction.started = []

theorem Aside.link (h : c.Aside reaction) : reaction.client.link = c.link := by
  rw [h.client]
  rfl

theorem Attends.aside {delivery : DeliveryId} {reaction : Reaction}
    (h : Attends c delivery reaction) : c.Aside reaction where
  client := h.client
  next t ht := by
    induction h with
    | stops => exact nomatch ht
    | judging | sleeping | holding | publishing =>
      cases ht
      exact ⟨rfl, rfl, rfl⟩
    | passed _ _ teller =>
      cases ht
      rcases teller with rfl | ⟨next, rfl⟩ <;> exact ⟨rfl, rfl, rfl⟩
    | refused _ _ _ ih => exact ih ht
  started := by
    induction h with
    | refused _ _ _ ih => exact ih
    | _ => rfl

theorem Aside.lines (h : c.Aside reaction) (outside : before.inLine = false) :
    Lines c id before reaction :=
  lines_aside (congrArg Link.lock h.link) outside fun t ht => (h.next t ht).2.1

theorem Queues.inLine {owner : Owner} (h : Queues c owner before signal) :
    before.inLine = false := by
  cases h <;> rfl

theorem Answers.inLine {result : Except Fault Unit} (h : Answers c before signal result) :
    before.inLine = false := by
  cases h <;> rfl

theorem GoesOn.inLine {delivery : DeliveryId} {handler : Handler}
    (h : GoesOn c before signal delivery handler) : before.inLine = false := by
  cases h <;> rfl

theorem Completes.inLine {owner : Owner} {channel : Channel} {ready : Client} {started : List Task}
    (h : Completes c before signal owner channel ready started) :
    before.inLine ∧ ready.lock = c.lock := by
  cases h <;> exact ⟨rfl, rfl⟩

/-- Whoever takes the lock and ends its attempt at once leaves the queue as if it had not come, or
    leaves the place it had. -/
theorem lines_concluded {owner : Owner} {held : Client} {result : Except Fault Unit}
    (h : Takes c id owner before signal held) (head : signal = .granted → c.lock.head? = some id) :
    Lines c id before (held.concluded now owner result) := by
  have gone : ∀ t, (held.concluded now owner result).next = .ok t → t.inLine = false := fun _ ht =>
    inLine_conclusion ht
  cases h with
  | free empty | due _ empty => exact lines_aside empty.symm rfl gone
  | granted => exact .leaves (head rfl) rfl gone

theorem lines_opening {owner : Owner} {held opening : Client} {restoring : Bool}
    (h : Takes c id owner before signal held) (same : opening.lock = held.lock) :
    Lines c id before (opening.wait (.opening owner restoring)) := by
  cases h with
  | free empty | due _ empty =>
    exact .joins rfl (same.trans (by rw [empty]; rfl)) rfl rfl (.inr ⟨_, _, rfl⟩)
  | granted => exact .stays same ⟨fun _ => ⟨_, rfl, rfl⟩, fun _ => rfl⟩

theorem lines_of_transition (h : Transition c now id before signal reaction)
    (own : before.owner?.isSome → c.lock.head? = some id)
    (head : signal = .granted → c.lock.head? = some id) : Lines c id before reaction := by
  cases h with
  | queues queues taken => exact .joins queues.inLine rfl rfl rfl (.inl taken)
  | finds takes | unconfigured takes => exact lines_concluded takes head
  | connects takes | reconnects takes => exact lines_opening takes rfl
  | limits | restores | declares | attaches | reattaches =>
    exact .stays rfl ⟨fun _ => ⟨_, rfl, rfl⟩, fun _ => rfl⟩
  | abandons restores =>
    refine .stays rfl ⟨fun _ => ⟨_, rfl, rfl⟩, fun _ => ?_⟩
    cases restores <;> rfl
  | unopened | fails => exact .leaves (own rfl) rfl fun _ ht => inLine_conclusion ht
  | installs completes =>
    obtain ⟨waits, same⟩ := completes.inLine
    refine .leaves (own ?_) (congrArg List.tail same) fun _ ht => inLine_conclusion ht
    cases completes <;> rfl
  | settles => exact (attends_settle _ _).aside.lines rfl
  | handles goesOn => exact (attends_handle _ _).aside.lines goesOn.inLine
  | judges => exact (attends_judge _ _).aside.lines rfl
  | answers answers => exact lines_aside rfl answers.inLine fun _ ht => nomatch ht
  | observes waits seen =>
    have outside : before.inLine = false := by rcases waits with rfl | rfl <;> rfl
    rcases seen with rfl | rfl
    · exact lines_aside rfl outside fun _ ht => nomatch ht
    · exact lines_aside rfl outside fun _ ht => Except.ok.inj ht ▸ rfl
  | closes | plans | continues | publishes | consumes | streams =>
    exact lines_aside rfl rfl fun _ ht => Except.ok.inj ht ▸ rfl
  | _ => exact lines_aside rfl rfl fun _ ht => nomatch ht

/-- A task is started outside the queue. -/
theorem inLine_started (h : Transition c now id before signal reaction) {t : Task}
    (ht : t ∈ reaction.started) : t.inLine = false := by
  cases h with
  | restores | reattaches | registers | streams =>
    rw [List.mem_singleton.1 ht]
    rfl
  | installs completes =>
    cases completes with
    | restored => exact nomatch ht
    | limited | attached =>
      rw [List.mem_singleton.1 ht]
      rfl
  | loses =>
    split at ht
    · exact nomatch ht
    · rw [List.mem_singleton.1 ht]
      rfl
  | settles =>
    rw [(attends_settle _ _).aside.started] at ht
    exact nomatch ht
  | handles =>
    rw [(attends_handle _ _).aside.started] at ht
    exact nomatch ht
  | judges =>
    rw [(attends_judge _ _).aside.started] at ht
    exact nomatch ht
  | observes _ seen => rcases seen with rfl | rfl <;> exact nomatch ht
  | _ => exact nomatch ht

/-- A step moves its own task in the queue and no other. -/
theorem Lines.line (h : Lines c id before reaction) (here : before.inLine ↔ id ∈ c.lock)
    (nodup : c.lock.Nodup) :
    (∀ other, other ≠ id → (other ∈ reaction.client.lock ↔ other ∈ c.lock)) ∧
      (id ∈ reaction.client.lock ↔ ∃ t, reaction.next = .ok t ∧ t.inLine) ∧
      reaction.client.lock.Nodup := by
  cases h with
  | stays lock same =>
    rw [lock]
    exact ⟨fun _ _ => Iff.rfl, here.symm.trans same, nodup⟩
  | joins outside lock goesOn waits =>
    have fresh : id ∉ c.lock := by
      rw [← here, outside]
      exact nofun
    rw [lock]
    refine ⟨?_, ?_, ?_⟩
    · intro other ne
      simp [ne]
    · simp only [List.mem_append, List.mem_singleton, or_true, true_iff]
      exact ⟨_, goesOn, waits⟩
    · simp only [List.nodup_append, nodup, List.mem_singleton, true_and]
      refine ⟨by simp, ?_⟩
      rintro other mem _ rfl rfl
      exact fresh mem
  | leaves head lock gone =>
    obtain ⟨rest, parts⟩ := List.head?_eq_some_iff.1 head
    rw [parts, List.nodup_cons] at nodup
    rw [lock, parts, List.tail_cons]
    refine ⟨?_, ?_, nodup.2⟩
    · intro other ne
      simp [ne]
    · refine ⟨fun mem => absurd mem nodup.1, ?_⟩
      rintro ⟨t, goesOn, waits⟩
      exact absurd (waits.symm.trans (gone t goesOn)) Bool.noConfusion

end Client

/-! ## The queue of a run -/

/-- The lock is only granted to the head of the queue. -/
theorem System.Readies.granted {s ready : System} {move : Move} {id : TaskId} {task : Task}
    {signal : Signal} (h : s.Readies move id task signal ready) (granted : signal = .granted) :
    ready.client.lock.head? = some id := by
  subst granted
  cases h with
  | resume found admitted =>
    cases task with
    | locking owner => exact of_decide_eq_true admitted
    | _ => exact nomatch admitted

/-- Only the connector answers with a session, and it numbers them one after another. -/
theorem System.Readies.opened {s ready : System} {move : Move} {id : TaskId} {task : Task}
    {signal : Signal} (h : s.Readies move id task signal ready) {n : SessionId}
    (answer : signal = .opened (.ok n)) : n = s.sessions + 1 ∧ ready.sessions = n := by
  subst answer
  cases h with
  | resume _ admitted => cases task <;> exact nomatch admitted
  | connect => exact ⟨rfl, rfl⟩

/-- The queue for the connect lock has everybody in it who waits for it or holds it, once, and
    nobody else. -/
structure System.Queued (s : System) : Prop where
  mem_iff : ∀ id, id ∈ s.client.lock ↔ ∃ t, s.task? id = some t ∧ t.inLine
  nodup : s.client.lock.Nodup

section Step

variable {settings : Settings} {history : List Moment} {s s' ready : System} {move : Move}
  {id : TaskId} {task : Task} {signal : Signal}

theorem System.Queued.drift (queued : s.Queued) (numbered : s.Numbered)
    (drift : s.Drifts move s') : s'.Queued := by
  cases drift with
  | begin operation =>
    refine ⟨fun id => (queued.mem_iff id).trans ?_, queued.nodup⟩
    rw [System.task?_start numbered]
    split
    · next fresh =>
      rw [fresh, numbered _ (Nat.le_refl _)]
      constructor
      · rintro ⟨t, none, -⟩
        exact nomatch none
      · rintro ⟨t, ⟨⟩, waits⟩
        exact nomatch waits
    · exact Iff.rfl
  | @cancel given =>
    refine ⟨fun id => ?_, queued.nodup.filter _⟩
    show id ∈ s.client.lock.filter (· ≠ given) ↔ _
    rw [List.mem_filter, queued.mem_iff, System.task?_cancel]
    by_cases same : id = given <;> simp [same]
  | forge | lose | pass => exact ⟨queued.mem_iff, queued.nodup⟩

theorem System.Queued.absorb (queued : s.Queued) (numbered : s.Numbered) (sound : s.Sound)
    (h : s.Readies move id task signal ready) :
    (ready.absorb id (ready.client.resume ready.now id task signal)).Queued := by
  have transition := Client.transition_of_readies h
  have follows := h.follows numbered (ready.client.resume ready.now id task signal)
  have lock : ready.client.lock = s.client.lock := by rw [h.client]
  have here : task.inLine ↔ id ∈ s.client.lock := by
    rw [queued.mem_iff, h.found]
    simp
  have own : task.owner?.isSome → ready.client.lock.head? = some id := fun attempt =>
    lock ▸ (sound.locked id task h.found attempt).1
  have line := Client.lines_of_transition transition own h.granted
  obtain ⟨others, self, nodup⟩ := line.line (lock ▸ here) (lock ▸ queued.nodup)
  refine ⟨fun other => ?_, nodup⟩
  by_cases ne : other = id
  · subst ne
    refine self.trans ⟨?_, ?_⟩
    · rintro ⟨t, goesOn, waits⟩
      exact ⟨t, follows.goesOn t goesOn, waits⟩
    · rintro ⟨t, ht, waits⟩
      rcases follows.origin other t ht with ⟨ne, -⟩ | ⟨-, goesOn⟩ | ⟨k, -, starts⟩
      · exact absurd rfl ne
      · exact ⟨t, goesOn, waits⟩
      · have aside := Client.inLine_started transition (List.mem_of_getElem? starts)
        exact absurd (waits.symm.trans aside) Bool.noConfusion
  · refine (others other ne).trans ?_
    rw [lock, queued.mem_iff]
    refine ⟨?_, ?_⟩
    · rintro ⟨t, ht, waits⟩
      exact ⟨t, follows.others other t ne ht, waits⟩
    · rintro ⟨t, ht, waits⟩
      rcases follows.origin other t ht with ⟨-, old⟩ | ⟨same, -⟩ | ⟨k, -, starts⟩
      · exact ⟨t, old, waits⟩
      · exact absurd same ne
      · have aside := Client.inLine_started transition (List.mem_of_getElem? starts)
        exact absurd (waits.symm.trans aside) Bool.noConfusion

end Step

theorem Run.queued {settings : Settings} {history : List Moment} {s : System}
    (run : Run settings history s) : s.Queued := by
  induction run with
  | start =>
    refine ⟨fun id => ⟨fun mem => (nomatch mem), ?_⟩, List.nodup_nil⟩
    rintro ⟨t, found, -⟩
    exact nomatch found
  | next run step ih =>
    rcases System.step_cases step with ⟨-, drift⟩ | ⟨id, task, signal, ready, h, rfl, -⟩
    · exact ih.drift run.numbered drift
    · exact ih.absorb run.numbered run.sound h

/-! ## A broker to connect to -/

namespace Client

variable {c : Client} {now : Duration} {id : TaskId} {before : Task} {signal : Signal}
  {reaction : Reaction}

/-- Whoever takes the lock begins an attempt at once. -/
theorem Takes.resume {owner : Owner} {held : Client} (h : Takes c id owner before signal held) :
    c.resume now id before signal = held.attempt now owner := by
  cases h with
  | free empty => simp [Client.resume, begin, acquire, empty]
  | due running empty => simp [Client.resume, acquire, running, empty]
  | granted owner => cases owner <;> rfl

theorem configured_of_attempt {owner other : Owner} {restoring : Bool}
    (h : (c.attempt now owner).next = .ok (.opening other restoring)) : c.settings.url ≠ none := by
  intro unset
  unfold attempt at h
  split at h
  · next installed =>
    rw [endAttempt_eq_concluded _ _ _ _ fun _ => installed] at h
    exact nomatch inLine_conclusion h
  · simp only [unset, Option.isNone_none, if_true] at h
    rw [endAttempt_eq_concluded c now owner (.error .notConfigured) fun h => nomatch h] at h
    exact nomatch inLine_conclusion h

/-- The connector is only asked for a session when there is a broker to connect to. -/
theorem configured_of_opening (h : Transition c now id before signal reaction)
    (same : reaction = c.resume now id before signal) {owner : Owner} {restoring : Bool}
    (ht : reaction.next = .ok (.opening owner restoring)) : c.settings.url ≠ none := by
  cases h with
  | connects takes | reconnects takes =>
    rw [same, takes.resume] at ht
    have configured := configured_of_attempt ht
    cases takes <;> exact configured
  | finds | unconfigured | unopened | installs | fails => exact nomatch inLine_conclusion ht
  | settles => exact nomatch ((attends_settle _ _).aside.next _ ht).2.1
  | handles => exact nomatch ((attends_handle _ _).aside.next _ ht).2.1
  | judges => exact nomatch ((attends_judge _ _).aside.next _ ht).2.1
  | observes _ seen => rcases seen with rfl | rfl <;> exact nomatch ht
  | _ => exact nomatch ht

end Client

namespace Link.Shift

variable {l l' : Link} {wake : Duration} {id : TaskId} {before : Task}
  {next : Except Ending Task} {started : List Task}

/-- A loop only goes on from where it was. -/
theorem isLoop_before (h : Shift l wake id before l' next started) {t : Task} (ht : next = .ok t)
    (loop : t.isLoop) : before.isLoop := by
  cases h with
  | rests _ goesOn | closes _ goesOn =>
    exact absurd ((Task.isLoop_of_isPlain (goesOn t ht)).symm.trans loop) Bool.noConfusion
  | queues seeks =>
    cases ht
    exact seeks.isLoop.trans loop
  | finds _ _ _ ends | opens _ ends | installs _ _ ends => cases ends <;> exact nomatch ht
  | unconfigured seeks _ _ ends =>
    cases ends with
    | again => exact seeks.isLoop
    | caller => exact nomatch ht
  | connects =>
    cases ht
    exact nomatch loop
  | reconnects seeks => exact seeks.isLoop
  | advances attempt goesOn | counts attempt goesOn =>
    cases ht
    exact (Task.isLoop_of_owner? attempt).trans ((Task.isLoop_of_owner? goesOn).symm.trans loop)
  | fails attempt ends =>
    cases ends with
    | again => exact Task.isLoop_of_owner? attempt
    | caller => exact nomatch ht
  | _ => exact nomatch ht

/-- A loop is only started by a watcher, and a watcher by an attempt. -/
theorem isPlain_started (h : Shift l wake id before l' next started) {t : Task} (ht : t ∈ started) :
    t.isPlain ∨ before.owner?.isSome ∨ ∃ channel, before = .watching channel := by
  cases h with
  | rests _ _ starts | advances _ _ _ starts | installs _ _ _ starts => exact .inl (starts t ht)
  | counts attempt | opens attempt => exact .inr (.inl (Option.isSome_of_eq_some attempt))
  | loses => exact .inr (.inr ⟨_, rfl⟩)
  | _ => exact nomatch ht

end Link.Shift

/-- Somebody is in line for the connect lock, or a loop or a watcher is there. -/
def System.Busy (s : System) : Prop :=
  s.client.lock ≠ [] ∨
    ∃ id t, s.task? id = some t ∧ (t.isLoop ∨ ∃ channel, t = .watching channel)

theorem System.Busy.drift {s s' : System} {move : Move} (numbered : s.Numbered)
    (drift : s.Drifts move s') (busy : s'.Busy) : s.Busy := by
  rcases busy with taken | ⟨id, t, ht, kind⟩
  · refine .inl ?_
    cases drift with
    | cancel =>
      intro empty
      exact taken (by show s.client.lock.filter _ = []; rw [empty]; rfl)
    | _ => exact taken
  · have part : t.isPlain = false := by
      rcases kind with loop | ⟨channel, rfl⟩
      · exact Task.isPlain_of_isLoop loop
      · rfl
    exact .inr ⟨id, t, drift.was numbered part ht, kind⟩

theorem System.Busy.absorb {s ready : System} {move : Move} {id : TaskId} {task : Task}
    {signal : Signal} (numbered : s.Numbered) (sound : s.Sound)
    (h : s.Readies move id task signal ready)
    (busy : (ready.absorb id (ready.client.resume ready.now id task signal)).Busy) :
    s.Busy ∨ s.client.settings.url ≠ none := by
  have transition := Client.transition_of_readies h
  have shift := h.link ▸ shift_of_readies h
  have follows := h.follows numbered (ready.client.resume ready.now id task signal)
  have lock : ready.client.lock = s.client.lock := by rw [h.client]
  have own : task.owner?.isSome → s.client.lock.head? = some id := fun attempt =>
    (sound.locked id task h.found attempt).1
  have attempts : task.owner?.isSome → s.Busy := by
    intro attempt
    refine .inl ?_
    intro empty
    have head := own attempt
    rw [empty] at head
    exact nomatch head
  rcases busy with taken | ⟨other, t, ht, kind⟩
  · change (ready.client.resume ready.now id task signal).client.lock ≠ [] at taken
    cases Client.lines_of_transition transition (fun attempt => lock ▸ own attempt) h.granted with
    | stays same => exact .inl (.inl (lock ▸ same ▸ taken))
    | joins _ _ goesOn _ why =>
      rcases why with before | ⟨owner, restoring, rfl⟩
      · exact .inl (.inl (lock ▸ before))
      · refine .inr ?_
        have configured := Client.configured_of_opening transition rfl goesOn
        rwa [h.client] at configured
    | leaves _ same =>
      refine .inl (.inl ?_)
      intro empty
      rw [same, lock, empty] at taken
      exact taken rfl
  · rcases follows.origin other t ht with ⟨-, old⟩ | ⟨-, goesOn⟩ | ⟨k, -, starts⟩
    · exact .inl (.inr ⟨other, t, old, kind⟩)
    · rcases kind with loop | ⟨channel, rfl⟩
      · exact .inl (.inr ⟨id, task, h.found, .inl (shift.isLoop_before goesOn loop)⟩)
      · exact absurd goesOn (shift.watching_next channel)
    · rcases shift.isPlain_started (List.mem_of_getElem? starts) with plain | attempt | watching
      · rcases kind with loop | ⟨channel, rfl⟩
        · exact absurd ((Task.isLoop_of_isPlain plain).symm.trans loop) Bool.noConfusion
        · exact nomatch plain
      · exact .inl (attempts attempt)
      · exact .inl (.inr ⟨id, task, h.found, .inr watching⟩)

theorem Run.configured {settings : Settings} {history : List Moment} {s : System}
    (run : Run settings history s) (busy : s.Busy) : settings.url ≠ none := by
  induction run with
  | start =>
    rcases busy with taken | ⟨id, t, ht, -⟩
    · exact absurd rfl taken
    · exact nomatch ht
  | next run step ih =>
    rcases System.step_cases step with ⟨-, drift⟩ | ⟨id, task, signal, ready, h, rfl, -⟩
    · exact ih (busy.drift run.numbered drift)
    · rcases busy.absorb run.numbered run.sound h with before | configured
      · exact ih before
      · exact run.settings ▸ configured

/-! ## Sessions that tasks know of -/

/-- The session that a task sets up or watches. -/
def Task.knows? : Task → Option SessionId
  | .watching channel => some channel.session
  | t => t.setsUp?

theorem Task.knows?_of_isPlain {t : Task} (h : t.isPlain) : t.knows? = none := by
  cases t with
  | watching => exact nomatch h
  | calling session call after => cases after <;> first | rfl | exact nomatch h
  | _ => rfl

namespace Client

variable {c : Client} {now : Duration} {id : TaskId} {before : Task} {signal : Signal}
  {reaction : Reaction} {n : SessionId}

theorem knows?_conclusion {owner : Owner} {result : Except Fault Unit} {t : Task}
    (ht : c.conclusion now owner result = .ok t) : t.knows? = none := by
  rw [(concludes_conclusion owner result).resting ht]
  rfl

theorem Aside.knows? (h : c.Aside reaction) {t : Task}
    (ht : reaction.next = .ok t ∨ t ∈ reaction.started) : t.knows? = none := by
  rcases ht with ht | ht
  · exact Task.knows?_of_isPlain (h.next t ht).1
  · rw [h.started] at ht
    exact nomatch ht

/-- A task comes to know of a session from the connector or from the task that started it. -/
theorem Transition.knows? (h : Transition c now id before signal reaction)
    (consistent : before.Consistent) {t : Task}
    (ht : reaction.next = .ok t ∨ t ∈ reaction.started) (knows : t.knows? = some n) :
    before.knows? = some n ∨ signal = .opened (.ok n) := by
  cases h with
  | limits =>
    rcases ht with ⟨⟨⟩⟩ | ht
    · cases knows
      exact .inr rfl
    · exact nomatch ht
  | restores =>
    rcases ht with ⟨⟨⟩⟩ | ht
    · exact .inl knows
    · rw [List.mem_singleton.1 ht] at knows
      exact .inl knows
  | declares | attaches =>
    rcases ht with ⟨⟨⟩⟩ | ht
    · exact .inl knows
    · exact nomatch ht
  | reattaches =>
    rcases ht with ⟨⟨⟩⟩ | ht
    · exact .inl knows
    · rw [List.mem_singleton.1 ht] at knows
      exact nomatch knows
  | installs completes =>
    rcases ht with ht | ht
    · exact nomatch (knows?_conclusion ht).symm.trans knows
    · cases completes with
      | limited =>
        rw [List.mem_singleton.1 ht] at knows
        exact .inl knows
      | restored => exact nomatch ht
      | attached =>
        rw [List.mem_singleton.1 ht] at knows
        exact nomatch knows
  | abandons restores =>
    rcases ht with ⟨⟨⟩⟩ | ht
    · have own := restores.setsUp? consistent
      exact .inl (own.trans knows)
    · exact nomatch ht
  | finds | unconfigured | unopened | fails =>
    rcases ht with ht | ht
    · exact nomatch (knows?_conclusion ht).symm.trans knows
    · exact nomatch ht
  | loses =>
    rcases ht with ht | ht
    · exact nomatch ht
    · split at ht
      · exact nomatch ht
      · rw [List.mem_singleton.1 ht] at knows
        exact nomatch knows
  | registers =>
    rcases ht with ht | ht
    · exact nomatch ht
    · rw [List.mem_singleton.1 ht] at knows
      exact nomatch knows
  | streams =>
    rcases ht with ⟨⟨⟩⟩ | ht
    · exact nomatch knows
    · rw [List.mem_singleton.1 ht] at knows
      exact nomatch knows
  | settles => exact nomatch ((attends_settle _ _).aside.knows? ht).symm.trans knows
  | handles => exact nomatch ((attends_handle _ _).aside.knows? ht).symm.trans knows
  | judges => exact nomatch ((attends_judge _ _).aside.knows? ht).symm.trans knows
  | observes _ seen =>
    rcases seen with rfl | rfl
    · rcases ht with ht | ht <;> exact nomatch ht
    · rcases ht with ⟨⟨⟩⟩ | ht
      · exact nomatch knows
      · exact nomatch ht
  | queues | connects | reconnects | closes | plans | continues | publishes | consumes =>
    rcases ht with ⟨⟨⟩⟩ | ht
    · exact nomatch knows
    · exact nomatch ht
  | _ => rcases ht with ht | ht <;> exact nomatch ht

end Client

/-- Tasks only know of sessions that the connector has returned. -/
theorem Run.opened {settings : Settings} {history : List Moment} {s : System}
    (run : Run settings history s) {id : TaskId} {t : Task} {n : SessionId}
    (found : s.task? id = some t) (knows : t.knows? = some n) : 0 < n ∧ n ≤ s.sessions := by
  induction run generalizing id t with
  | start => exact nomatch found
  | @next history s s' move activity run step ih =>
    rcases System.step_cases step with ⟨-, drift⟩ | ⟨other, task, signal, ready, h, rfl, -⟩
    · have sessions : s'.sessions = s.sessions := by cases drift <;> rfl
      rw [sessions]
      rcases drift.origin run.numbered found with old | ⟨-, operation, -, rfl⟩
      · exact ih old knows
      · exact nomatch knows
    · have grown : ∀ m, 0 < m ∧ m ≤ s.sessions → 0 < m ∧ m ≤ ready.sessions := fun _ known =>
        ⟨known.1, Nat.le_trans known.2 h.sessions.1⟩
      show 0 < n ∧ n ≤ ready.sessions
      have step : (ready.client.resume ready.now other task signal).next = .ok t ∨
          t ∈ (ready.client.resume ready.now other task signal).started →
            0 < n ∧ n ≤ ready.sessions := by
        intro origin
        have consistent := run.consistent other task h.found
        rcases (Client.transition_of_readies h).knows? consistent origin knows with old | answer
        · exact grown n (ih h.found old)
        · obtain ⟨rfl, opened⟩ := h.opened answer
          exact ⟨Nat.succ_pos _, Nat.le_of_eq opened.symm⟩
      rcases (h.follows run.numbered _).origin id t found with
        ⟨-, old⟩ | ⟨-, goesOn⟩ | ⟨k, -, starts⟩
      · exact grown n (ih old knows)
      · exact step (.inl goesOn)
      · exact step (.inr (List.mem_of_getElem? starts))

end Laneway.Broker
