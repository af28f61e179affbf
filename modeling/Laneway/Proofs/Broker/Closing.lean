import Laneway.Proofs.Broker.Queue

set_option autoImplicit false

/-! # After a close

`close` takes out the channel and marks the client as shut down, but it does not take the connect
lock: what is in an attempt, or waits for the lock, goes on behind its back. And a later attempt of a
caller takes the mark back before it has succeeded, so that a loop or a watcher that the mark was to
stop comes to life again even when that attempt fails. A close is final exactly when none of these is
left at its return. -/

namespace Laneway.Broker

/-- The task waits for the connect lock, or it is in an attempt that has not been given up. -/
def Task.strives : Task → Bool
  | .locking _ | .opening _ _ | .calling _ _ (.limited _ _) | .calling _ _ (.restored _ _ _)
  | .calling _ _ (.attached _ _ _ _) => true
  | _ => false

/-- Only the mark of a close keeps the task from reconnecting: it is a loop that has still to sleep, or
    the watcher of the newest session. -/
def Task.lingers (generation : Nat) : Task → Bool
  | .resting _ | .calling _ _ (.abandoned .loop _) => true
  | .watching channel => channel.generation = generation
  | _ => false

/-- The client is not connected, and no reconnect loop is at the connector. -/
structure System.Down (s : System) : Prop where
  channel : s.client.channel = none
  state : s.client.state ≠ .connected
  loop : ∀ id restoring, s.task? id ≠ some (.opening .loop restoring)

/-- Nothing is installed, and nothing is on its way there. -/
structure System.Idle (s : System) : Prop where
  channel : s.client.channel = none
  strives : ∀ id t, s.task? id = some t → ¬ t.strives

/-- No loop is left, and no watcher of the newest session. -/
def System.Spent (s : System) : Prop :=
  ∀ id t, s.task? id = some t → ¬ t.lingers s.client.generation

namespace Moment

/-- A `connect()` begins in this moment. -/
def Connects (m : Moment) (id : TaskId) : Prop :=
  ∃ activity, m.activity = some activity ∧ activity.id = id ∧ activity.before = .begin .connect

/-- The operation returns in this moment. -/
def Returns (m : Moment) (id : TaskId) (result : Except Fault Unit) : Prop :=
  ∃ activity, m.activity = some activity ∧ activity.id = id ∧
    activity.next = .error (.answered result)

/-- A `close()` returns in this moment. -/
def Closes (m : Moment) : Prop :=
  ∃ activity result, m.activity = some activity ∧ activity.next = .error (.answered result) ∧
    (activity.before = .begin .close ∨ ∃ session call, activity.before = .calling session call .closed)

end Moment

/-- Wherever the run goes from here, the client is down as long as what has happened since is as
    given. -/
def StaysDown (settings : Settings) (history : List Moment) (since : List Moment → Prop) : Prop :=
  ∀ more s, Run settings (history ++ more) s → since more → s.Down

/-- No `connect()` has begun. -/
def Unasked (more : List Moment) : Prop := ∀ m ∈ more, ∀ id, ¬ m.Connects id

/-- No `connect()` that has begun has succeeded. -/
def Unanswered (more : List Moment) : Prop :=
  ∀ id, (∃ m ∈ more, m.Connects id) → ∀ m ∈ more, ¬ m.Returns id (.ok ())

theorem Task.inLine_of_strives {t : Task} (h : t.strives) : t.inLine := by
  cases t with
  | calling session call after => cases after <;> first | rfl | exact nomatch h
  | locking | opening => rfl
  | _ => exact nomatch h

/-- Who is in line strives, or gives up its session. -/
theorem Task.strives_or_abandoned {t : Task} (h : t.inLine) :
    t.strives ∨ ∃ session call owner fault, t = .calling session call (.abandoned owner fault) := by
  cases t with
  | calling session call after =>
    cases after with
    | abandoned owner fault => exact .inr ⟨_, _, _, _, rfl⟩
    | limited | restored | attached => exact .inl rfl
    | _ => exact nomatch h
  | locking | opening => exact .inl rfl
  | _ => exact nomatch h

theorem Task.not_lingers_of_isPlain {t : Task} (h : t.isPlain) (generation : Nat) :
    ¬ t.lingers generation := by
  cases t with
  | calling session call after =>
    cases after with
    | abandoned => exact nomatch h
    | _ => exact nofun
  | resting | watching => exact nomatch h
  | _ => exact nofun

/-! ## Nothing comes back by itself -/

/-- The task is an attempt of a `connect()` that was begun on a closed client. -/
inductive Task.Anew : Task → Prop
  | locking : Anew (.locking .caller)
  | opening : Anew (.opening .caller false)
  | limited {session : SessionId} {call : Call} :
      Anew (.calling session call (.limited .caller false))

namespace Client

variable {c : Client} {now : Duration} {id : TaskId} {before : Task} {signal : Signal}
  {reaction : Reaction}

/-- The step leaves the client without a channel, and brings up nothing but the attempt of a
    `connect()`. -/
structure Subdues (c : Client) (before : Task) (reaction : Reaction) : Prop where
  channel : reaction.client.channel = none
  state : reaction.client.state ≠ .connected
  everConnected : reaction.client.everConnected = false
  generation : reaction.client.generation = c.generation
  strives : ∀ t, reaction.next = .ok t → t.strives →
    t.Anew ∧ (before.strives ∨ before = .begin .connect)
  lingers : ∀ t, reaction.next = .ok t → t.lingers c.generation → before.lingers c.generation
  started : ∀ t ∈ reaction.started, ¬ t.strives ∧ ¬ t.lingers c.generation
  shutdown : c.shutdown = true → ¬ before.strives → before ≠ .begin .connect →
    reaction.client.shutdown = true

/-- A step without any part in connecting. -/
theorem subdues_rest (same : reaction.client.link = c.link) (missing : c.channel = none)
    (down : c.state ≠ .connected) (fresh : c.everConnected = false)
    (goesOn : ∀ t, reaction.next = .ok t → ¬ t.strives ∧ ¬ t.lingers c.generation)
    (starts : ∀ t ∈ reaction.started, ¬ t.strives ∧ ¬ t.lingers c.generation) :
    Subdues c before reaction where
  channel := (congrArg Link.channel same).trans missing
  state := by
    have state : reaction.client.state = c.state := congrArg Link.state same
    rwa [state]
  everConnected := (congrArg Link.everConnected same).trans fresh
  generation := congrArg Link.generation same
  strives t ht on := absurd on (goesOn t ht).1
  lingers t ht on := absurd on (goesOn t ht).2
  started := starts
  shutdown held _ _ := (congrArg Link.shutdown same).trans held

/-- The task ends. -/
theorem subdues_stop {ended : Client} (ending : Ending) (missing : ended.channel = none)
    (down : ended.state ≠ .connected) (fresh : ended.everConnected = false)
    (generation : ended.generation = c.generation)
    (shutdown : c.shutdown = true → ended.shutdown = true) :
    Subdues c before (ended.stop ending) where
  channel := missing
  state := down
  everConnected := fresh
  generation := generation
  strives _ ht := nomatch ht
  lingers _ ht := nomatch ht
  started _ ht := nomatch ht
  shutdown held _ _ := shutdown held

theorem Aside.subdues (h : c.Aside reaction) (missing : c.channel = none)
    (down : c.state ≠ .connected) (fresh : c.everConnected = false) :
    Subdues c before reaction := by
  refine subdues_rest h.link missing down fresh ?_ ?_
  · intro t ht
    obtain ⟨plain, outside, -⟩ := h.next t ht
    refine ⟨?_, Task.not_lingers_of_isPlain plain _⟩
    intro strives
    exact absurd (outside.symm.trans (Task.inLine_of_strives strives)) Bool.noConfusion
  · intro t ht
    rw [h.started] at ht
    exact nomatch ht

/-- The attempt of a caller goes on. -/
theorem subdues_wait {waiting : Client} {t : Task} (anew : t.Anew)
    (asked : before.strives ∨ before = .begin .connect) (missing : waiting.channel = none)
    (down : waiting.state ≠ .connected) (fresh : waiting.everConnected = false)
    (generation : waiting.generation = c.generation) : Subdues c before (waiting.wait t) where
  channel := missing
  state := down
  everConnected := fresh
  generation := generation
  strives := by
    rintro t ⟨⟩ -
    exact ⟨anew, asked⟩
  lingers := by
    rintro t ⟨⟩ on
    cases anew <;> exact nomatch on
  started _ ht := nomatch ht
  shutdown _ idle unasked := by
    rcases asked with strives | begun
    · exact absurd strives idle
    · exact absurd begun unasked

/-- A step of a closed client leaves it closed, unless a `connect()` succeeds that has begun since:
    no attempt but of such calls goes on, and what only the close holds back stays held back. -/
theorem subdues_of_transition (h : Transition c now id before signal reaction)
    (missing : c.channel = none) (down : c.state ≠ .connected) (fresh : c.everConnected = false)
    (anew : before.strives → before.Anew)
    (held : c.shutdown = true ∨ ¬ before.lingers c.generation) :
    Subdues c before reaction ∨
      before.strives ∧ reaction.next = .error (.answered (.ok ())) := by
  have awake : ∀ due, before = .resting due → c.shutdown = true := by
    rintro due rfl
    exact held.resolve_right fun quiet => quiet rfl
  cases h with
  | queues queues =>
    cases queues with
    | caller => exact .inl (subdues_wait .locking (.inr rfl) missing down fresh rfl)
    | loop running => exact nomatch running.symm.trans (awake _ rfl)
  | finds _ installed =>
    rw [missing] at installed
    exact nomatch installed
  | unconfigured takes =>
    cases takes with
    | free => exact .inl (subdues_stop _ missing down fresh rfl fun held => held)
    | due running => exact nomatch running.symm.trans (awake _ rfl)
    | granted =>
      cases anew rfl
      exact .inl (subdues_stop _ missing down fresh rfl fun held => held)
  | connects takes =>
    rw [fresh]
    cases takes with
    | free => exact .inl (subdues_wait .opening (.inr rfl) missing nofun fresh rfl)
    | granted => exact .inl (subdues_wait .opening (.inl rfl) missing nofun fresh rfl)
  | reconnects takes =>
    cases takes with
    | due running => exact nomatch running.symm.trans (awake _ rfl)
    | granted => exact nomatch anew rfl
  | limits =>
    cases anew rfl
    exact .inl (subdues_wait .limited (.inl rfl) missing down fresh rfl)
  | unopened =>
    cases anew rfl
    exact .inl (subdues_stop _ missing nofun fresh rfl fun held => held)
  | restores | declares | attaches | reattaches => exact nomatch anew rfl
  | installs completes =>
    cases completes with
    | limited =>
      cases anew rfl
      exact .inr ⟨rfl, rfl⟩
    | restored | attached => exact nomatch anew rfl
  | abandons restores =>
    cases restores with
    | limited =>
      cases anew rfl
      refine .inl (subdues_rest rfl missing down fresh ?_ fun _ ht => nomatch ht)
      rintro t ⟨⟩
      exact ⟨nofun, nofun⟩
    | restored | attached => exact nomatch anew rfl
  | @fails session call owner fault =>
    cases owner with
    | caller => exact .inl (subdues_stop _ missing nofun fresh rfl fun held => held)
    | loop =>
      refine .inl ⟨missing, nofun, fresh, rfl, ?_, fun _ _ _ => rfl, fun _ ht => (nomatch ht),
        fun held _ _ => held⟩
      rintro t ⟨⟩ on
      exact nomatch on
  | retires => exact .inl (subdues_stop _ missing down fresh rfl fun held => held)
  | loses running newest =>
    rcases held with closed | quiet
    · exact nomatch running.symm.trans closed
    · exact absurd (decide_eq_true newest) quiet
  | closes installed | plans installed | publishes installed | consumes installed =>
    exact nomatch missing.symm.trans installed
  | shuts => exact .inl (subdues_stop _ rfl nofun rfl rfl fun _ => rfl)
  | closed => exact .inl (subdues_stop _ missing nofun fresh rfl fun held => held)
  | settles => exact .inl ((attends_settle _ _).aside.subdues missing down fresh)
  | handles => exact .inl ((attends_handle _ _).aside.subdues missing down fresh)
  | judges => exact .inl ((attends_judge _ _).aside.subdues missing down fresh)
  | continues =>
    refine .inl (subdues_rest rfl missing down fresh ?_ fun _ ht => nomatch ht)
    rintro t ⟨⟩
    exact ⟨nofun, nofun⟩
  | registers =>
    refine .inl (subdues_rest rfl missing down fresh (fun _ ht => nomatch ht) ?_)
    intro t ht
    rw [List.mem_singleton.1 ht]
    exact ⟨nofun, nofun⟩
  | streams =>
    refine .inl (subdues_rest rfl missing down fresh ?_ ?_)
    · rintro t ⟨⟩
      exact ⟨nofun, nofun⟩
    · intro t ht
      rw [List.mem_singleton.1 ht]
      exact ⟨nofun, nofun⟩
  | observes _ seen =>
    rcases seen with rfl | rfl
    · exact .inl (subdues_stop _ missing down fresh rfl fun held => held)
    · refine .inl (subdues_rest rfl missing down fresh ?_ fun _ ht => nomatch ht)
      rintro t ⟨⟩
      exact ⟨nofun, nofun⟩
  | ignores | answers | streamEnds | misses =>
    exact .inl (subdues_stop _ missing down fresh rfl fun held => held)

end Client

/-- A closed client with what has happened since: nothing is installed, and only attempts of a
    `connect()` that has begun since are on their way. -/
structure System.Shut (s : System) (more : List Moment) : Prop where
  channel : s.client.channel = none
  state : s.client.state ≠ .connected
  everConnected : s.client.everConnected = false
  anew : ∀ id t, s.task? id = some t → t.strives → t.Anew ∧ ∃ m ∈ more, m.Connects id

theorem System.Shut.down {s : System} {more : List Moment} (shut : s.Shut more) : s.Down where
  channel := shut.channel
  state := shut.state
  loop id _ ht := nomatch (shut.anew id _ ht rfl).1

/-- What a move leaves of a closed client. -/
structure System.Hushes (s s' : System) (more : List Moment) : Prop where
  shut : s'.Shut more
  spent : s.Spent → s'.Spent
  shutdown : s.client.shutdown = true → Unasked more → s'.client.shutdown = true

section Step

variable {settings : Settings} {more : List Moment} {s s' ready : System} {move : Move}
  {id : TaskId} {task : Task} {signal : Signal}

theorem System.Shut.drift (shut : s.Shut more) (numbered : s.Numbered)
    (drift : s.Drifts move s') : s.Hushes s' (more ++ [⟨s, move, none⟩]) := by
  have link := drift.link.1
  refine ⟨⟨?_, ?_, ?_, ?_⟩, ?_, ?_⟩
  · exact (congrArg Link.channel link).trans shut.channel
  · have state : s'.client.state = s.client.state := congrArg Link.state link
    exact state ▸ shut.state
  · exact (congrArg Link.everConnected link).trans shut.everConnected
  · intro id t ht strives
    rcases drift.origin numbered ht with old | ⟨-, operation, -, rfl⟩
    · obtain ⟨anew, m, hm, connects⟩ := shut.anew id t old strives
      exact ⟨anew, m, List.mem_append_left _ hm, connects⟩
    · exact nomatch strives
  · intro spent id t ht
    have generation : s'.client.generation = s.client.generation := congrArg Link.generation link
    rw [generation]
    rcases drift.origin numbered ht with old | ⟨-, operation, -, rfl⟩
    · exact spent id t old
    · exact nofun
  · intro held _
    exact (congrArg Link.shutdown link).trans held

theorem System.Shut.absorb (shut : s.Shut more) (numbered : s.Numbered)
    (h : s.Readies move id task signal ready) (held : s.client.shutdown = true ∨ s.Spent) :
    s.Hushes (ready.absorb id (ready.client.resume ready.now id task signal))
        (more ++ [⟨s, move, some (ready.activity id task signal)⟩]) ∨
      ¬ Unanswered (more ++ [⟨s, move, some (ready.activity id task signal)⟩]) := by
  have follows := h.follows numbered (ready.client.resume ready.now id task signal)
  have same : ready.client.link = s.client.link := h.link
  have shutdown : ready.client.shutdown = s.client.shutdown := congrArg Link.shutdown same
  have generation : ready.client.generation = s.client.generation := congrArg Link.generation same
  have state : ready.client.state = s.client.state := congrArg Link.state same
  have last : (⟨s, move, some (ready.activity id task signal)⟩ : Moment) ∈
      more ++ [⟨s, move, some (ready.activity id task signal)⟩] :=
    List.mem_append_right _ (List.mem_singleton.2 rfl)
  have quiet : ready.client.shutdown = true ∨ ¬ task.lingers ready.client.generation := by
    rw [shutdown, generation]
    exact held.imp_right fun spent => spent id task h.found
  rcases Client.subdues_of_transition (Client.transition_of_readies h)
      ((congrArg Link.channel same).trans shut.channel) (state ▸ shut.state)
      ((congrArg Link.everConnected same).trans shut.everConnected)
      (fun strives => (shut.anew id task h.found strives).1) quiet with subdues | ⟨strives, answer⟩
  · refine .inl ⟨⟨subdues.channel, subdues.state, subdues.everConnected, ?_⟩, ?_, ?_⟩
    · intro other t ht strives
      rcases follows.origin other t ht with ⟨-, old⟩ | ⟨rfl, goesOn⟩ | ⟨k, -, starts⟩
      · obtain ⟨anew, m, hm, connects⟩ := shut.anew other t old strives
        exact ⟨anew, m, List.mem_append_left _ hm, connects⟩
      · obtain ⟨anew, before | asked⟩ := subdues.strives t goesOn strives
        · obtain ⟨-, m, hm, connects⟩ := shut.anew other task h.found before
          exact ⟨anew, m, List.mem_append_left _ hm, connects⟩
        · exact ⟨anew, _, last, _, rfl, rfl, asked⟩
      · exact absurd strives (subdues.started t (List.mem_of_getElem? starts)).1
    · intro spent other t ht lingers
      have count : (ready.client.resume ready.now id task signal).client.generation =
          s.client.generation := subdues.generation.trans generation
      change t.lingers (ready.client.resume ready.now id task signal).client.generation at lingers
      rw [count] at lingers
      rcases follows.origin other t ht with ⟨-, old⟩ | ⟨rfl, goesOn⟩ | ⟨k, -, starts⟩
      · exact spent other t old lingers
      · exact spent other task h.found
          (generation ▸ subdues.lingers t goesOn (generation.symm ▸ lingers))
      · exact (subdues.started t (List.mem_of_getElem? starts)).2 (generation.symm ▸ lingers)
    · intro closed unasked
      refine subdues.shutdown (shutdown.trans closed) ?_ ?_
      · intro strives
        obtain ⟨-, m, hm, connects⟩ := shut.anew id task h.found strives
        exact unasked m (List.mem_append_left _ hm) id connects
      · intro asks
        exact unasked _ last id ⟨_, rfl, rfl, asks⟩
  · obtain ⟨-, m, hm, connects⟩ := shut.anew id task h.found strives
    exact .inr fun unanswered =>
      unanswered id ⟨m, List.mem_append_left _ hm, connects⟩ _ last ⟨_, rfl, rfl, answer⟩

end Step

theorem Unasked.of_append {more later : List Moment} (h : Unasked (more ++ later)) :
    Unasked more := fun m hm => h m (List.mem_append_left _ hm)

theorem Unanswered.of_append {more later : List Moment} (h : Unanswered (more ++ later)) :
    Unanswered more := by
  rintro id ⟨began, hb, connects⟩ m hm
  exact h id ⟨began, List.mem_append_left _ hb, connects⟩ m (List.mem_append_left _ hm)

theorem Unasked.unanswered {more : List Moment} (unasked : Unasked more) : Unanswered more := by
  rintro id ⟨m, hm, connects⟩
  exact absurd connects (unasked m hm id)

/-- A closed client stays closed as long as no `connect()` begins, and if no loop and no watcher is
    left as long as none succeeds. -/
theorem System.Shut.onwards {settings : Settings} {history : List Moment} {s₀ : System}
    (run₀ : Run settings history s₀) (shut₀ : s₀.Shut [])
    (held : s₀.client.shutdown = true ∨ s₀.Spent) {more : List Moment} {s : System}
    (run : Run settings (history ++ more) s) (unanswered : Unanswered more)
    (unasked : Unasked more ∨ s₀.Spent) : s.Shut more := by
  suffices h : Unanswered more → Unasked more ∨ s₀.Spent → s.Shut more ∧
      (s₀.Spent → s.Spent) ∧ (s₀.client.shutdown = true → Unasked more → s.client.shutdown = true) from
    (h unanswered unasked).1
  refine run₀.onwards (P := fun more s => Unanswered more → Unasked more ∨ s₀.Spent →
    s.Shut more ∧ (s₀.Spent → s.Spent) ∧
      (s₀.client.shutdown = true → Unasked more → s.client.shutdown = true)) ?_ ?_ run
  · exact fun _ _ => ⟨shut₀, id, fun closed _ => closed⟩
  · intro more s move s' activity run ih step unanswered unasked
    obtain ⟨shut, spent, closed⟩ := ih unanswered.of_append (unasked.imp_left Unasked.of_append)
    have held' : s.client.shutdown = true ∨ s.Spent := by
      rcases unasked with unasked | spent₀
      · exact held.imp (fun down => closed down unasked.of_append) spent
      · exact .inr (spent spent₀)
    have hushed : s.Hushes s' (more ++ [⟨s, move, activity⟩]) := by
      rcases System.step_cases step with ⟨rfl, drift⟩ | ⟨id, task, signal, ready, h, rfl, rfl⟩
      · exact shut.drift run.numbered drift
      · exact (shut.absorb run.numbered h held').resolve_right fun answered => answered unanswered
    refine ⟨hushed.shut, fun spent₀ => hushed.spent (spent spent₀), ?_⟩
    intro down unasked
    exact hushed.shutdown (closed down unasked.of_append) unasked

/-! ## What can come back does -/

/-- The run can go on, with moments of this kind only, to a state of that kind. -/
def Leads (settings : Settings) (history : List Moment) (P : Moment → Prop) (Q : System → Prop) :
    Prop :=
  ∃ more s, Run settings (history ++ more) s ∧ (∀ m ∈ more, P m) ∧ Q s

section Leads

variable {settings : Settings} {history : List Moment} {s : System} {P : Moment → Prop}
  {Q : System → Prop}

theorem Leads.here (run : Run settings history s) (holds : Q s) : Leads settings history P Q :=
  ⟨[], s, (List.append_nil history).symm ▸ run, fun _ hm => (nomatch hm), holds⟩

theorem Leads.after {m : Moment} (kind : P m) (h : Leads settings (history ++ [m]) P Q) :
    Leads settings history P Q := by
  obtain ⟨more, s, run, all, holds⟩ := h
  refine ⟨m :: more, s, by simpa using run, ?_, holds⟩
  intro m' hm
  rcases List.mem_cons.1 hm with rfl | later
  · exact kind
  · exact all m' later

theorem Leads.mono {P' : Moment → Prop} (h : Leads settings history P Q)
    (kinds : ∀ m, P m → P' m) : Leads settings history P' Q := by
  obtain ⟨more, s, run, all, holds⟩ := h
  exact ⟨more, s, run, fun m hm => kinds m (all m hm), holds⟩

theorem Leads.weaken {Q' : System → Prop} (h : Leads settings history P Q)
    (states : ∀ s, Q s → Q' s) : Leads settings history P Q' := by
  obtain ⟨more, s, run, all, holds⟩ := h
  exact ⟨more, s, run, all, states s holds⟩

theorem Leads.trans {Q' : System → Prop} (h : Leads settings history P Q)
    (onwards : ∀ history s, Run settings history s → Q s → Leads settings history P Q') :
    Leads settings history P Q' := by
  obtain ⟨more, s, run, all, holds⟩ := h
  obtain ⟨later, s', run', all', holds'⟩ := onwards _ s run holds
  refine ⟨more ++ later, s', by simpa using run', ?_, holds'⟩
  intro m hm
  rcases List.mem_append.1 hm with before | after
  · exact all m before
  · exact all' m after

/-- Any task can go on with a signal that it is waiting for. -/
theorem Run.resume (run : Run settings history s) {id : TaskId} {t : Task}
    (found : s.task? id = some t) (signal : Signal) (admitted : s.admits id t signal) :
    Run settings (history ++ [⟨s, .resume id signal, some (s.activity id t signal)⟩])
      (s.absorb id (s.client.resume s.now id t signal)) := by
  refine run.next ?_
  rw [System.step, found, Option.any_some, if_pos admitted, System.resume_of_task? found]
  rfl

/-- The connector can answer any attempt with a new session. -/
theorem Run.connects (run : Run settings history s) {id : TaskId} {owner : Owner} {restoring : Bool}
    (found : s.task? id = some (.opening owner restoring)) :
    Run settings
      (history ++ [⟨s, .connect id, some (s.openSession.1.activity id (.opening owner restoring)
        (.opened (.ok (s.sessions + 1))))⟩])
      (s.openSession.1.absorb id (s.openSession.1.client.resume s.now id (.opening owner restoring)
        (.opened (.ok (s.sessions + 1))))) := by
  refine run.next ?_
  have opened : s.openSession.1.task? id = some (.opening owner restoring) := found
  rw [System.step, found]
  change (s.openSession.1.resume id (.opened (.ok (s.sessions + 1)))).map _ = _
  rw [System.resume_of_task? opened]
  rfl

theorem not_connects {move : Move} {activity : Activity}
    (other : activity.before ≠ .begin .connect) (id : TaskId) :
    ¬ (⟨s, move, some activity⟩ : Moment).Connects id := by
  rintro ⟨_, ⟨⟩, -, asks⟩
  exact other asks

end Leads

section Attempts

variable {settings : Settings} {history : List Moment} {s : System} {id : TaskId}
  {session : SessionId} {call : Call} {owner : Owner} {channel : Channel} {Q : System → Prop}

/-- A task goes on, and the run from there. -/
theorem Leads.resume {P : Moment → Prop} (run : Run settings history s) {t : Task}
    (found : s.task? id = some t) (signal : Signal) (admitted : s.admits id t signal)
    (kind : P ⟨s, .resume id signal, some (s.activity id t signal)⟩)
    (onwards : Run settings (history ++ [⟨s, .resume id signal, some (s.activity id t signal)⟩])
        (s.absorb id (s.client.resume s.now id t signal)) →
      Leads settings (history ++ [⟨s, .resume id signal, some (s.activity id t signal)⟩]) P Q) :
    Leads settings history P Q :=
  .after kind (onwards (run.resume found signal admitted))

/-- An attempt that attaches consumers can install its session. -/
theorem Run.leads_of_attached (run : Run settings history s) {current : Registration}
    {rest : List Registration}
    (found : s.task? id = some (.calling session call (.attached owner channel current rest))) :
    Leads settings history (∀ id, ¬ ·.Connects id) (·.client.channel.isSome) := by
  induction rest generalizing history s session call current with
  | nil =>
    refine .resume run found (.answered (.ok ())) rfl (not_connects nofun) fun next => .here next ?_
    show ((s.client.install s.now owner channel).client.channel).isSome
    rw [Client.install_eq]
    rfl
  | cons first rest ih =>
    refine .resume run found (.answered (.ok ())) rfl (not_connects nofun) fun next => ?_
    exact ih next ((System.follows_absorb run.numbered found _).goesOn _ rfl)

/-- An attempt that declares the plan can install its session. -/
theorem Run.leads_of_restored (run : Run settings history s) {rest : List Declaration}
    (found : s.task? id = some (.calling session call (.restored owner channel rest))) :
    Leads settings history (∀ id, ¬ ·.Connects id) (·.client.channel.isSome) := by
  induction rest generalizing history s session call with
  | nil =>
    refine .resume run found (.answered (.ok ())) rfl (not_connects nofun) fun next => ?_
    cases hr : s.client.registrations with
    | nil =>
      refine .here next ?_
      show ((s.client.attach s.now owner channel s.client.registrations).client.channel).isSome
      rw [hr]
      show ((s.client.install s.now owner channel).client.channel).isSome
      rw [Client.install_eq]
      rfl
    | cons current rest =>
      have goesOn : (s.client.attach s.now owner channel s.client.registrations).next =
          .ok (.calling channel.session (.consume current.queue)
            (.attached owner channel current rest)) := by
        rw [hr]
        rfl
      exact next.leads_of_attached ((System.follows_absorb run.numbered found _).goesOn _ goesOn)
  | cons step rest ih =>
    refine .resume run found (.answered (.ok ())) rfl (not_connects nofun) fun next => ?_
    exact ih next ((System.follows_absorb run.numbered found _).goesOn _ rfl)

theorem Run.leads_of_limited (run : Run settings history s) {restoring : Bool}
    (found : s.task? id = some (.calling session call (.limited owner restoring))) :
    Leads settings history (∀ id, ¬ ·.Connects id) (·.client.channel.isSome) := by
  refine .resume run found (.answered (.ok ())) rfl (not_connects nofun) fun next => ?_
  cases restoring with
  | false =>
    refine .here next ?_
    show ((s.client.enroll s.now owner false session).client.channel).isSome
    simp only [Client.enroll, Bool.false_eq_true, if_false, Client.install_eq]
    rfl
  | true =>
    obtain ⟨first, rest, plan⟩ := List.exists_cons_of_ne_nil s.client.plan_ne_nil
    have same : { s.client with generation := s.client.generation + 1 }.plan = first :: rest := plan
    have goesOn : (s.client.enroll s.now owner true session).next =
        .ok (.calling session (.declare first)
          (.restored owner ⟨session, s.client.generation + 1⟩ rest)) := by
      simp only [Client.enroll, if_true, same]
      rfl
    exact next.leads_of_restored ((System.follows_absorb run.numbered found _).goesOn _ goesOn)

/-- An attempt that has not been given up can install a session. -/
theorem Run.leads_of_attempt (run : Run settings history s) {t : Task} (found : s.task? id = some t)
    (strives : t.strives) (attempt : t.owner?.isSome) :
    Leads settings history (∀ id, ¬ ·.Connects id) (·.client.channel.isSome) := by
  cases t with
  | opening owner restoring =>
    have opened : s.openSession.1.task? id = some (.opening owner restoring) := found
    have next := run.connects found
    have kind : ∀ other, ¬ (⟨s, .connect id, some (s.openSession.1.activity id
        (.opening owner restoring) (.opened (.ok (s.sessions + 1))))⟩ : Moment).Connects other :=
      not_connects nofun
    have follows := System.follows_absorb run.numbered opened
      (s.client.resume s.now id (.opening owner restoring) (.opened (.ok (s.sessions + 1))))
    exact .after kind (next.leads_of_limited (follows.goesOn _ rfl))
  | calling session call after =>
    cases after with
    | limited => exact run.leads_of_limited found
    | restored => exact run.leads_of_restored found
    | attached => exact run.leads_of_attached found
    | _ => exact nomatch strives
  | locking => exact nomatch attempt
  | _ => exact nomatch strives

/-- With a broker to connect to, an attempt asks the connector for a session. -/
theorem Client.attempt_next {c : Client} (now : Duration) (owner : Owner) (missing : c.channel = none)
    (configured : c.settings.url ≠ none) :
    (c.attempt now owner).next = .ok (.opening owner (c.reopens owner)) := by
  obtain ⟨url, set⟩ := Option.ne_none_iff_exists'.1 configured
  cases owner <;> simp [Client.attempt, missing, set, Client.reopens, Client.wait]

section Free

variable {c : Client} (now : Duration) (id : TaskId)

/-- With the lock free a `connect()` asks the connector for a session at once. -/
theorem Client.resume_connect (missing : c.channel = none) (free : c.lock = [])
    (configured : c.settings.url ≠ none) :
    c.resume now id (.begin .connect) .turn =
      { c with lock := [id], shutdown := false, state := .connecting }.wait
        (.opening .caller c.everConnected) := by
  obtain ⟨url, set⟩ := Option.ne_none_iff_exists'.1 configured
  simp [Client.resume, Client.begin, Client.acquire, Client.attempt, missing, free, set]

/-- With the lock free a loop that wakes up asks the connector for a session at once. -/
theorem Client.resume_elapsed_next (missing : c.channel = none) (running : c.shutdown = false)
    (free : c.lock = []) (configured : c.settings.url ≠ none) {due : Duration} :
    (c.resume now id (.resting due) .elapsed).next = .ok (.opening .loop true) := by
  have next : ({ c with lock := [id] }.attempt now .loop).next = .ok (.opening .loop true) :=
    Client.attempt_next now .loop missing configured
  simpa [Client.resume, Client.acquire, running, free] using next

/-- The watcher of the newest session starts a loop when there is none. -/
theorem Client.resume_lost (missing : c.channel = none) (running : c.shutdown = false)
    (unmarked : c.reconnecting = false) {channel : Channel}
    (newest : channel.generation = c.generation) :
    c.resume now id (.watching channel) .lost =
      ⟨{ c with channel := none, state := .disconnected, reconnecting := true }, .error .quiet,
        [.resting (c.wakeUp now)], []⟩ := by
  simp [Client.resume, Client.connectionLost, running, newest, Client.scheduleReconnect, unmarked,
    missing, Client.wakeUp]

end Free

/-- Who is in line without having given up its session can come to install one, or a loop comes to
    the connector. -/
theorem Run.leads_of_strives (run : Run settings history s) {t : Task} (found : s.task? id = some t)
    (strives : t.strives) : Leads settings history (∀ id, ¬ ·.Connects id) (¬ ·.Down) := by
  have up : ∀ s : System, s.client.channel.isSome → ¬ s.Down := by
    intro s installed down
    rw [down.channel] at installed
    exact nomatch installed
  -- whoever stands before the task in the queue goes first
  induction hl : s.client.lock generalizing history s with
  | nil =>
    have inLine := (run.queued.mem_iff id).2 ⟨t, found, Task.inLine_of_strives strives⟩
    rw [hl] at inLine
    exact nomatch inLine
  | cons head rest ih =>
    obtain ⟨first, there, inLine⟩ := (run.queued.mem_iff head).1 (hl ▸ List.mem_cons_self)
    rcases Task.strives_or_abandoned inLine with goes | ⟨session, call, owner, fault, rfl⟩
    · cases missing : s.client.channel with
      | some channel => exact .here run (up s (by rw [missing]; rfl))
      | none =>
        cases first with
        | locking owner =>
          have configured : s.client.settings.url ≠ none := by
            rw [run.settings]
            exact run.configured (.inl (by rw [hl]; exact nofun))
          have admitted : s.admits head (.locking owner) .granted :=
            decide_eq_true (by rw [hl]; rfl)
          have goesOn : (s.client.resume s.now head (.locking owner) .granted).next =
              .ok (.opening owner (s.client.reopens owner)) := by
            cases owner <;> exact Client.attempt_next s.now _ missing configured
          refine .resume run there .granted admitted (not_connects nofun) fun next => ?_
          have opening := (System.follows_absorb run.numbered there _).goesOn _ goesOn
          cases owner with
          | caller => exact (next.leads_of_attempt opening rfl rfl).weaken up
          | loop => exact .here next fun down => down.loop head _ opening
        | opening | calling => exact (run.leads_of_attempt there goes inLine).weaken up
        | _ => exact nomatch goes
    · refine .resume run there (.answered (.ok ())) rfl (not_connects nofun) fun next => ?_
      have apart : id ≠ head := by
        rintro rfl
        cases Option.some.inj (found.symm.trans there)
        exact nomatch strives
      refine ih next ((System.follows_absorb run.numbered there _).others id t apart found) ?_
      show ((s.client.failAttempt s.now owner fault).client).lock = rest
      rw [Client.failAttempt_eq_failed]
      exact congrArg List.tail hl

end Attempts

/-- In this moment no `connect()` begins, and no operation succeeds. -/
structure Moment.Quiet (m : Moment) : Prop where
  asks : ∀ id, ¬ m.Connects id
  returns : ∀ id, ¬ m.Returns id (.ok ())

/-- Something is left that only the mark of a close holds back. -/
def System.Lingers (s : System) : Prop :=
  ∃ id t, s.task? id = some t ∧ t.lingers s.client.generation

section Lingering

variable {settings : Settings} {history : List Moment} {s : System} {id : TaskId}

theorem quiet_resume {t : Task} {signal : Signal} (other : t ≠ .begin .connect)
    (silent : (s.client.resume s.now id t signal).next ≠ .error (.answered (.ok ()))) :
    Moment.Quiet ⟨s, .resume id signal, some (s.activity id t signal)⟩ := by
  refine ⟨not_connects other, ?_⟩
  rintro other ⟨_, ⟨⟩, -, answer⟩
  exact silent answer

theorem quiet_still (s : System) (move : Move) : Moment.Quiet ⟨s, move, none⟩ where
  asks := by
    rintro other ⟨_, none, -⟩
    exact nomatch none
  returns := by
    rintro other ⟨_, none, -⟩
    exact nomatch none

/-- The lock is free and nothing goes on, but something lingers. -/
structure System.Dormant (s : System) : Prop where
  idle : s.Idle
  free : s.client.lock = []
  lingers : s.Lingers

theorem System.Dormant.busy (dormant : s.Dormant) : s.Busy := by
  obtain ⟨id, t, found, lingers⟩ := dormant.lingers
  refine .inr ⟨id, t, found, ?_⟩
  cases t with
  | resting => exact .inl rfl
  | watching channel => exact .inr ⟨channel, rfl⟩
  | calling session call after =>
    cases after with
    | abandoned owner =>
      cases owner with
      | loop => exact .inl rfl
      | caller => exact nomatch lingers
    | _ => exact nomatch lingers
  | _ => exact nomatch lingers

/-- Whoever still gives up a session gets done with it. -/
theorem Run.leads_of_idle (run : Run settings history s) (idle : s.Idle) (lingers : s.Lingers) :
    Leads settings history Moment.Quiet
      fun s' => s'.Dormant ∧ s'.client.shutdown = s.client.shutdown := by
  induction hl : s.client.lock generalizing history s with
  | nil => exact .here run ⟨⟨idle, hl, lingers⟩, rfl⟩
  | cons head rest ih =>
    obtain ⟨first, there, inLine⟩ := (run.queued.mem_iff head).1 (hl ▸ List.mem_cons_self)
    rcases Task.strives_or_abandoned inLine with goes | ⟨session, call, owner, fault, rfl⟩
    · exact absurd goes (idle.strives head first there)
    · have ends : s.client.resume s.now head (.calling session call (.abandoned owner fault))
          (.answered (.ok ())) = s.client.failed s.now owner fault :=
        Client.failAttempt_eq_failed _ _ _ _
      have silent : (s.client.failed s.now owner fault).next ≠ .error (.answered (.ok ())) := by
        cases owner <;> exact nofun
      refine .resume run there (.answered (.ok ())) rfl (quiet_resume nofun (ends ▸ silent))
        fun next => ?_
      have follows := System.follows_absorb run.numbered there (s.client.failed s.now owner fault)
      rw [ends] at next
      refine (ih next ⟨idle.channel, ?_⟩ ?_ (congrArg List.tail hl)).weaken fun _ left => left
      · intro other t ht
        rcases follows.origin other t ht with ⟨-, old⟩ | ⟨-, goesOn⟩ | ⟨k, -, starts⟩
        · exact idle.strives other t old
        · rw [(Client.concludes_conclusion _ _).resting goesOn]
          exact nofun
        · exact nomatch starts
      · obtain ⟨id, t, found, on⟩ := lingers
        by_cases same : id = head
        · subst same
          cases Option.some.inj (found.symm.trans there)
          cases owner with
          | caller => exact nomatch on
          | loop => exact ⟨id, _, follows.goesOn _ rfl, rfl⟩
        · exact ⟨id, t, follows.others id t same found, on⟩

/-- A loop that nothing holds back comes to the connector when it wakes up. -/
theorem Run.leads_of_resting (run : Run settings history s) (missing : s.client.channel = none)
    (free : s.client.lock = []) (running : s.client.shutdown = false) {due : Duration}
    (found : s.task? id = some (.resting due)) :
    Leads settings history Moment.Quiet (¬ ·.Down) := by
  let later : System := { s with now := ⟨s.now.nanoseconds + due.nanoseconds⟩ }
  have run' : Run settings (history ++ [⟨s, .pass due, none⟩]) later := run.next rfl
  have configured : s.client.settings.url ≠ none := by
    rw [run.settings]
    exact run.configured (.inr ⟨id, _, found, .inl rfl⟩)
  have admitted : later.admits id (.resting due) .elapsed :=
    decide_eq_true (Nat.le_add_left _ _)
  have goesOn : (later.client.resume later.now id (.resting due) .elapsed).next =
      .ok (.opening .loop true) :=
    Client.resume_elapsed_next later.now id missing running free configured
  have silent : (later.client.resume later.now id (.resting due) .elapsed).next ≠
      .error (.answered (.ok ())) := by
    rw [goesOn]
    exact nofun
  refine .after (quiet_still s (.pass due)) ?_
  refine .resume run' found .elapsed admitted (quiet_resume nofun silent) fun next => .here next ?_
  have opening := (System.follows_absorb run'.numbered found _).goesOn _ goesOn
  exact fun down => down.loop id _ opening

/-- A watcher that nothing holds back starts a loop when its session is lost. -/
theorem Run.leads_of_watching (run : Run settings history s) (missing : s.client.channel = none)
    (free : s.client.lock = []) (running : s.client.shutdown = false)
    (unmarked : s.client.reconnecting = false) {channel : Channel}
    (found : s.task? id = some (.watching channel))
    (newest : channel.generation = s.client.generation) (lost : channel.session ∈ s.lost) :
    Leads settings history Moment.Quiet (¬ ·.Down) := by
  have admitted : s.admits id (.watching channel) .lost := List.contains_iff_mem.2 lost
  have reaction := Client.resume_lost s.now id missing running unmarked newest
  have silent : (s.client.resume s.now id (.watching channel) .lost).next ≠
      .error (.answered (.ok ())) := by
    rw [reaction]
    exact nofun
  refine .resume run found .lost admitted (quiet_resume nofun silent) fun next => ?_
  have follows := System.follows_absorb run.numbered found
    (s.client.resume s.now id (.watching channel) .lost)
  have rests := follows.starts 0 (.resting (s.client.wakeUp s.now)) (by rw [reaction]; rfl)
  refine next.leads_of_resting ?_ ?_ ?_ rests
  · exact congrArg (fun r => r.client.channel) reaction
  · exact (congrArg (fun r => r.client.lock) reaction).trans free
  · exact (congrArg (fun r => r.client.shutdown) reaction).trans running

/-- What the mark of a close has held back brings a loop to the connector once the mark is gone. -/
theorem Run.leads_of_dormant (run : Run settings history s) (dormant : s.Dormant)
    (running : s.client.shutdown = false) :
    Leads settings history Moment.Quiet (¬ ·.Down) := by
  have outside : ∀ id t, s.task? id = some t → ¬ t.inLine := by
    intro id t found inLine
    have mem := (run.queued.mem_iff id).2 ⟨t, found, inLine⟩
    rw [dormant.free] at mem
    exact nomatch mem
  obtain ⟨id, t, found, lingers⟩ := dormant.lingers
  cases t with
  | resting due => exact run.leads_of_resting dormant.idle.channel dormant.free running found
  | calling session call after =>
    cases after with
    | abandoned => exact absurd rfl (outside id _ found)
    | _ => exact nomatch lingers
  | watching channel =>
    have newest : channel.generation = s.client.generation := of_decide_eq_true lingers
    cases marked : s.client.reconnecting with
    | true =>
      obtain ⟨other, t, there, loop⟩ := run.sound.looping marked
      rcases Task.resting_or_inLine loop with ⟨due, rfl⟩ | inLine
      · exact run.leads_of_resting dormant.idle.channel dormant.free running there
      · exact absurd inLine (outside other t there)
    | false =>
      by_cases lost : channel.session ∈ s.lost
      · exact run.leads_of_watching dormant.idle.channel dormant.free running marked found newest
          lost
      · have lose : s.step (.lose channel.session) = some (s.lose channel.session, none) :=
          if_pos (run.opened found rfl)
        refine .after (quiet_still s (.lose channel.session)) ?_
        exact (run.next lose).leads_of_watching dormant.idle.channel dormant.free running marked
          found newest List.mem_cons_self
  | _ => exact nomatch lingers

/-- A `connect()` that fails takes the mark of a close away, and leaves everything else as it was. -/
theorem Run.leads_of_failing (run : Run settings history s) (missing : s.client.channel = none)
    (free : s.client.lock = []) (configured : s.client.settings.url ≠ none) :
    Leads settings history (∀ id, ¬ ·.Returns id (.ok ())) fun s' =>
      s'.client = { s.client with lock := [], shutdown := false, state := .disconnected } ∧
        s'.task? = s.task? := by
  -- the lock is free, so the attempt begins at once
  let asked : System := s.start [.begin .connect]
  have run₁ : Run settings (history ++ [⟨s, .begin .connect, none⟩]) asked := run.next rfl
  have found₁ : asked.task? s.nextTask = some (.begin .connect) := by
    rw [System.task?_start run.numbered, if_pos rfl]
  have begins := Client.resume_connect asked.now s.nextTask missing free configured
  let attempting : System := asked.absorb s.nextTask
    (s.client.resume asked.now s.nextTask (.begin .connect) .turn)
  have run₂ := run₁.resume found₁ .turn rfl
  have found₂ : attempting.task? s.nextTask = some (.opening .caller s.client.everConnected) := by
    rw [System.task?_absorb_self run₁.numbered found₁, begins]
    rfl
  have client₂ : attempting.client =
      { s.client with lock := [s.nextTask], shutdown := false, state := .connecting } :=
    congrArg Reaction.client begins
  -- the connector refuses
  have ends : attempting.client.resume attempting.now s.nextTask
      (.opening .caller s.client.everConnected) (.opened (.error .notConnected)) =
      attempting.client.failed attempting.now .caller .notConnected :=
    Client.failAttempt_eq_failed _ _ _ _
  have run₃ := run₂.resume found₂ (.opened (.error .notConnected)) rfl
  refine .after (quiet_still s (.begin .connect)).returns ?_
  refine .after (m := ⟨asked, .resume s.nextTask .turn,
    some (asked.activity s.nextTask (.begin .connect) .turn)⟩) ?_ ?_
  · rintro id ⟨_, ⟨⟩, -, answer⟩
    exact nomatch (congrArg Reaction.next begins).symm.trans answer
  refine .after (m := ⟨attempting, .resume s.nextTask (.opened (.error .notConnected)),
    some (attempting.activity s.nextTask (.opening .caller s.client.everConnected)
      (.opened (.error .notConnected)))⟩) ?_ ?_
  · rintro id ⟨_, ⟨⟩, -, answer⟩
    exact nomatch (congrArg Reaction.next ends).symm.trans answer
  refine .here run₃ ⟨?_, ?_⟩
  · refine (congrArg Reaction.client ends).trans ?_
    rw [Client.failed, client₂]
    rfl
  · funext id
    by_cases own : id = s.nextTask
    · subst own
      refine (System.task?_absorb_self run₂.numbered found₂ _).trans ?_
      have gone := congrArg (fun reaction => reaction.next.toOption) ends
      exact gone.trans (run.numbered s.nextTask (Nat.le_refl _)).symm
    · have first := System.task?_absorb_of_ne run₁.numbered found₁ (congrArg Reaction.started begins) own
      have second := System.task?_absorb_of_ne run₂.numbered found₂ (congrArg Reaction.started ends) own
      exact second.trans (first.trans ((System.task?_start run.numbered _ id).trans (if_neg own)))

/-- What a close holds back comes to the connector after a `connect()` that fails. -/
theorem Run.leads_of_held (run : Run settings history s) (dormant : s.Dormant) :
    Leads settings history (∀ id, ¬ ·.Returns id (.ok ())) (¬ ·.Down) := by
  have configured : s.client.settings.url ≠ none := by
    rw [run.settings]
    exact run.configured dormant.busy
  refine (run.leads_of_failing dormant.idle.channel dormant.free configured).trans ?_
  rintro history' s' run' ⟨client, tasks⟩
  have dormant' : s'.Dormant := by
    refine ⟨⟨?_, fun id t ht => dormant.idle.strives id t (tasks ▸ ht)⟩, ?_, ?_⟩
    · rw [client]
      exact dormant.idle.channel
    · rw [client]
    · obtain ⟨id, t, found, lingers⟩ := dormant.lingers
      refine ⟨id, t, tasks ▸ found, ?_⟩
      rw [client]
      exact lingers
  exact (run'.leads_of_dormant dormant' (by rw [client])).mono fun m quiet => quiet.returns

end Lingering

/-! ## When a close is final -/

theorem Client.state_of_close {c : Client} {ending : Ending} (ends : c.close.next = .error ending) :
    c.close.client.state = .disconnected := by
  cases hc : c.channel with
  | some channel => simp [Client.close, hc, Client.call, Client.wait] at ends
  | none => simp [Client.close, hc, Client.answer, Client.stop]

/-- A close returns with the client disconnected. -/
theorem Moment.Closes.disconnected {m : Moment} (closes : m.Closes) {s : System}
    (step : m.system.step m.move = some (s, m.activity)) : s.client.state = .disconnected := by
  obtain ⟨before, move, did⟩ := m
  obtain ⟨activity, result, did, ends, kind⟩ := closes
  rcases System.step_cases step with ⟨still, -⟩ | ⟨id, task, signal, ready, h, rfl, acts⟩
  · exact nomatch did.symm.trans still
  · obtain rfl : activity = ready.activity id task signal :=
      Option.some.inj (did.symm.trans acts)
    change (ready.client.resume ready.now id task signal).next = _ at ends
    change (ready.client.resume ready.now id task signal).client.state = _
    rcases kind with rfl | ⟨session, call, rfl⟩
    · cases h with
      | resume _ admitted =>
        cases signal with
        | turn => exact Client.state_of_close ends
        | _ => exact nomatch admitted
    · cases h with
      | resume _ admitted =>
        cases signal with
        | answered => rfl
        | _ => exact nomatch admitted

/-- Without a channel, a loop or an attempt a client has not connected since its last close. -/
theorem System.Idle.fresh {s : System} (idle : s.Idle) (sound : s.Sound)
    (held : s.client.shutdown = true ∨ s.Spent) : s.client.everConnected = false := by
  cases connected : s.client.everConnected with
  | false => rfl
  | true =>
    cases marked : s.client.shutdown with
    | true =>
      have installed := sound.reopened marked connected
      rw [show s.client.link.channel = none from idle.channel] at installed
      exact nomatch installed
    | false =>
      have spent := held.resolve_left (marked ▸ Bool.false_ne_true)
      obtain ⟨id, t, found, loop⟩ := sound.looping (sound.recovering marked connected idle.channel)
      rcases Task.resting_or_inLine loop with ⟨due, rfl⟩ | inLine
      · exact absurd rfl (spent id _ found)
      · rcases Task.strives_or_abandoned inLine with strives | ⟨session, call, owner, fault, rfl⟩
        · exact absurd strives (idle.strives id t found)
        · cases owner with
          | loop => exact absurd rfl (spent id _ found)
          | caller => exact nomatch loop

/-- After a `close()` has returned nothing comes back as long as no `connect()` begins, exactly if
    nothing is installed and nobody is in line for an attempt, and if it still has its mark or no
    loop and no watcher is left that the mark would have to stop. Nothing comes back as long as no
    `connect()` that has begun since succeeds, exactly if no such loop or watcher is left at all. -/
theorem stays_down_iff {settings : Settings} {earlier : List Moment} {m : Moment} {s : System}
    (run : Run settings (earlier ++ [m]) s) (closes : m.Closes) :
    (StaysDown settings (earlier ++ [m]) Unasked ↔
      s.Idle ∧ (s.client.shutdown = true ∨ s.Spent)) ∧
    (StaysDown settings (earlier ++ [m]) Unanswered ↔ s.Idle ∧ s.Spent) := by
  have state := closes.disconnected run.last.2
  have shut : s.Idle → s.client.shutdown = true ∨ s.Spent → s.Shut [] := by
    intro idle held
    refine ⟨idle.channel, state ▸ nofun, idle.fresh run.sound held, ?_⟩
    exact fun id t ht strives => absurd strives (idle.strives id t ht)
  have idle : StaysDown settings (earlier ++ [m]) Unasked → s.Idle := by
    intro stays
    refine ⟨(stays [] s (by rwa [List.append_nil]) (fun _ hm => nomatch hm)).channel, ?_⟩
    intro id t found strives
    obtain ⟨more, s', run', unasked, up⟩ := run.leads_of_strives found strives
    exact up (stays more s' run' unasked)
  refine ⟨⟨?_, ?_⟩, ⟨?_, ?_⟩⟩
  · intro stays
    refine ⟨idle stays, ?_⟩
    cases marked : s.client.shutdown with
    | true => exact .inl rfl
    | false =>
      refine .inr fun id t found lingers => ?_
      obtain ⟨more, s', run', quiet, up⟩ := (run.leads_of_idle (idle stays) ⟨id, t, found, lingers⟩).trans
        fun _ _ run' h => run'.leads_of_dormant h.1 (h.2.trans marked)
      exact up (stays more s' run' fun m hm => (quiet m hm).asks)
  · rintro ⟨idle, held⟩ more s' run' unasked
    exact ((shut idle held).onwards run held run' unasked.unanswered (.inl unasked)).down
  · intro stays
    have unasked : StaysDown settings (earlier ++ [m]) Unasked := fun more s' run' unasked =>
      stays more s' run' unasked.unanswered
    refine ⟨idle unasked, fun id t found lingers => ?_⟩
    have dormant := run.leads_of_idle (idle unasked) ⟨id, t, found, lingers⟩
    obtain ⟨more, s', run', silent, up⟩ := (dormant.mono fun _ quiet => quiet.returns).trans
      fun _ _ run' h => run'.leads_of_held h.1
    exact up (stays more s' run' fun id _ m hm => silent m hm id)
  · rintro ⟨idle, spent⟩ more s' run' unanswered
    exact ((shut idle (.inr spent)).onwards run (.inr spent) run' unanswered (.inr spent)).down

/-- A client connects and is closed, and the watcher of its session runs while the session is closed,
    so nothing is left that could come back. -/
def orderlyClose : List Move :=
  [.begin .connect, .resume 0 .turn, .connect 0, .resume 0 (.answered (.ok ())),
    .begin .close, .resume 2 .turn, .lose 1, .resume 1 .lost, .resume 2 (.answered (.ok ()))]

theorem stays_down_iff_orderlyClose : ∃ earlier m s, Run bareSettings (earlier ++ [m]) s ∧
    m.Closes ∧ s.tasks = [] ∧ StaysDown bareSettings (earlier ++ [m]) Unanswered := by
  let e : Execution bareSettings := .ofMoves bareSettings orderlyClose rfl
  have run := e.run 9
  rw [e.history_succ 8] at run
  have closes : Moment.Closes ⟨e.system 8, e.move 8, e.activity 8⟩ :=
    ⟨_, _, rfl, rfl, .inr ⟨_, _, rfl⟩⟩
  have empty : (e.system 9).tasks = [] := rfl
  have absent : ∀ id, (e.system 9).task? id = none := fun _ => rfl
  have gone : ∀ id t, (e.system 9).task? id ≠ some t := by
    intro id t ht
    rw [absent] at ht
    exact nomatch ht
  have idle : (e.system 9).Idle := ⟨rfl, fun id t ht => absurd ht (gone id t)⟩
  have spent : (e.system 9).Spent := fun id t ht => absurd ht (gone id t)
  exact ⟨_, _, _, run, closes, empty, (stays_down_iff run closes).2.2 ⟨idle, spent⟩⟩

/-- A client loses its session. A caller is connecting again, and the loop waits for it to be done,
    when the client is closed. -/
def closeWhileWaiting : List Move :=
  [.begin .connect, .resume 0 .turn, .connect 0, .resume 0 (.answered (.ok ())), .lose 1,
    .resume 1 .lost, .begin .connect, .resume 3 .turn, .pass (.ofSeconds 1), .resume 2 .elapsed,
    .begin .close, .resume 4 .turn]

/-- The caller fails to connect, and the loop connects instead. -/
def connectAfterFailure : List Move :=
  [.resume 3 (.opened (.error .notConnected)), .resume 2 .granted, .connect 2,
    .resume 2 (.answered (.ok ())), .resume 2 (.answered (.ok ())), .resume 2 (.answered (.ok ())),
    .resume 2 (.answered (.ok ())), .resume 2 (.answered (.ok ()))]

/-- A loop that waits for the lock does not look at the mark of a close again: the client is connected
    after a close though nobody has asked for it. -/
theorem reconnected_after_close : ∃ earlier m more s,
    Run bareSettings ((earlier ++ [m]) ++ more) s ∧ m.Closes ∧ Unasked more ∧
      s.client.state = .connected ∧ s.installed 2 := by
  let e : Execution bareSettings :=
    .ofMoves bareSettings (closeWhileWaiting ++ connectAfterFailure) rfl
  have run := e.run (12 + 8)
  rw [e.history_add 12 8, e.history_succ 11] at run
  have closes : Moment.Closes ⟨e.system 11, e.move 11, e.activity 11⟩ := ⟨_, _, rfl, rfl, .inl rfl⟩
  -- only tasks that are in line for the lock by then go on
  have unasked : ∀ i < 8, (e.activity (12 + i)).all fun activity => activity.before.inLine := by
    decide +kernel
  refine ⟨_, _, _, _, run, closes, ?_, rfl, rfl⟩
  rintro m hm id ⟨activity, did, -, asks⟩
  obtain ⟨i, hi, rfl⟩ := List.mem_map.1 hm
  have no := unasked i (List.mem_range.1 hi)
  rw [show e.activity (12 + i) = some activity from did] at no
  have inLine : activity.before.inLine := no
  rw [asks] at inLine
  exact nomatch inLine

end Laneway.Broker
