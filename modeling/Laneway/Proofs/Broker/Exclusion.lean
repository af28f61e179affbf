import Laneway.Proofs.Broker.Restoration

set_option autoImplicit false

/-! # One session at a time

A session is open from when the connector returns it until its connection is lost or its channel is
closed. Of all the sessions of a run one at most is open, whatever callers, loops and losses do at
once: an attempt holds the connect lock while nothing is installed, and whoever parts with a session
closes it or has seen it lost. Only an operation that is given up midway can leave a session behind,
so the runs here are those in which none is. -/

namespace Laneway.Broker

/-- The session that an attempt has opened and has neither installed nor given up. -/
def Task.holds? : Task → Option SessionId
  | .calling session _ (.limited _ _) => some session
  | .calling _ _ (.restored _ channel _) | .calling _ _ (.attached _ channel _ _) =>
    some channel.session
  | _ => none

theorem Task.owner?_of_holds? {t : Task} {n : SessionId} (h : t.holds? = some n) :
    t.owner?.isSome := by
  cases t with
  | calling session call after => cases after <;> first | rfl | exact nomatch h
  | _ => exact nomatch h

/-- The session is the one of the attempt that holds the connect lock. -/
def System.Attempting (s : System) (n : SessionId) : Prop :=
  ∃ id t, s.client.lock.head? = some id ∧ s.task? id = some t ∧ t.holds? = some n

/-- The channel of the session has been closed. -/
def Closed (history : List Moment) (n : SessionId) : Prop := .close ∈ calls n history

/-- The connector has returned the session, its connection has not been lost, and its channel has
    not been closed. -/
structure Open (history : List Moment) (s : System) (n : SessionId) : Prop where
  pos : 0 < n
  opened : n ≤ s.sessions
  alive : n ∉ s.lost
  unclosed : ¬ Closed history n

theorem Closed.append {history : List Moment} {n : SessionId} (h : Closed history n)
    (more : List Moment) : Closed (history ++ more) n := by
  rw [Closed, calls_append]
  exact List.mem_append_left _ h

theorem closed_concat {history : List Moment} {n : SessionId} {m : Moment}
    (h : m.call? n = some .close) : Closed (history ++ [m]) n := by
  rw [Closed, calls_append]
  exact List.mem_append_right _ (List.mem_filterMap.2 ⟨m, List.mem_singleton.2 rfl, h⟩)

/-! ## Generations tell channels apart -/

/-- The channel is installed, restored or watched. -/
def Link.Known (l : Link) (tasks : TaskId → Option Task) (channel : Channel) : Prop :=
  l.Current tasks channel ∨ ∃ id, tasks id = some (.watching channel)

theorem Link.Sound.known {l : Link} {tasks : TaskId → Option Task} (sound : l.Sound tasks)
    {channel : Channel} (known : l.Known tasks channel) : channel.generation ≤ l.generation := by
  rcases known with current | ⟨id, watching⟩
  · exact Nat.le_of_eq (sound.current current)
  · exact sound.counted id channel watching

/-- A channel becomes known when its session is counted, and not again. -/
theorem Link.Shift.known {l l' : Link} {wake : Duration} {id first : TaskId} {before : Task}
    {next : Except Ending Task} {started : List Task} {tasks tasks' : TaskId → Option Task}
    (shift : Link.Shift l wake id before l' next started) (found : tasks id = some before)
    (follows : System.Follows tasks first id next started tasks') {channel : Channel}
    (known : l'.Known tasks' channel) :
    l.Known tasks channel ∨
      started[0]? = some (.watching channel) ∧ channel.generation = l.generation + 1 := by
  have watched : ∀ other, tasks' other = some (.watching channel) → l.Known tasks channel ∨
      started[0]? = some (.watching channel) ∧ channel.generation = l.generation + 1 := by
    intro other ht
    rcases follows.origin other _ ht with ⟨-, old⟩ | ⟨-, goesOn⟩ | ⟨k, -, starts⟩
    · exact .inl (.inr ⟨other, old⟩)
    · exact absurd goesOn (shift.watching_next channel)
    · obtain ⟨rfl, counted, -⟩ := shift.watching_started starts
      exact .inr ⟨starts, counted⟩
  rcases known with current | ⟨other, ht⟩
  · rcases shift.current found follows current with before | ⟨other, ht⟩
    · exact .inl (.inl before)
    · exact watched other ht
  · exact watched other ht

/-- Two channels of one generation are the same. -/
theorem Run.identified {settings : Settings} {history : List Moment} {s : System}
    (run : Run settings history s) {one two : Channel} (known₁ : s.client.link.Known s.task? one)
    (known₂ : s.client.link.Known s.task? two) (same : one.generation = two.generation) :
    one = two := by
  induction run with
  | start =>
    rcases known₁ with (installed | ⟨_, _, ht, _⟩) | ⟨_, ht⟩
    · exact nomatch installed
    · exact nomatch ht
    · exact nomatch ht
  | @next history s s' move activity run step ih =>
    rcases System.step_cases step with ⟨-, drift⟩ | ⟨id, task, signal, ready, h, rfl, -⟩
    · have back : ∀ channel, s'.client.link.Known s'.task? channel →
          s.client.link.Known s.task? channel := by
        rintro channel (current | ⟨id, ht⟩)
        · exact .inl (drift.current run.numbered current)
        · exact .inr ⟨id, drift.was run.numbered rfl ht⟩
      exact ih (back one known₁) (back two known₂)
    · have shift := h.link ▸ shift_of_readies h
      have follows := h.follows run.numbered (ready.client.resume ready.now id task signal)
      rcases shift.known h.found follows known₁ with old₁ | ⟨fresh₁, count₁⟩
      · rcases shift.known h.found follows known₂ with old₂ | ⟨-, count₂⟩
        · exact ih old₁ old₂
        · have := run.sound.known old₁
          omega
      · rcases shift.known h.found follows known₂ with old₂ | ⟨fresh₂, -⟩
        · have := run.sound.known old₂
          omega
        · exact Task.watching.inj (Option.some.inj (fresh₁.symm.trans fresh₂))

/-! ## No step drops a session -/

namespace Client

variable {c : Client} {now : Duration} {id : TaskId} {before : Task} {signal : Signal}
  {reaction : Reaction} {n : SessionId}

/-- An attempt keeps its session until it installs or closes it. -/
theorem Transition.holds (h : Transition c now id before signal reaction)
    (consistent : before.Consistent) (held : before.holds? = some n) :
    (∃ t, reaction.next = .ok t ∧ t.holds? = some n) ∨
    (∃ channel, reaction.client.channel = some channel ∧ channel.session = n) ∨
      ∃ after, reaction.next = .ok (.calling n .close after) := by
  cases h with
  | restores | declares | attaches | reattaches => exact .inl ⟨_, rfl, held⟩
  | installs completes =>
    refine .inr (.inl ⟨_, rfl, ?_⟩)
    cases completes <;> exact Option.some.inj held
  | @abandons session call owner after fault restores =>
    have own := restores.setsUp? consistent
    have same : session = n := by
      cases restores <;> exact Option.some.inj (own.symm.trans held)
    exact .inr (.inr ⟨_, by rw [same]; rfl⟩)
  | queues queues => cases queues <;> exact nomatch held
  | finds takes | unconfigured takes | connects takes | reconnects takes =>
    cases takes <;> exact nomatch held
  | answers answers => cases answers <;> exact nomatch held
  | handles goesOn => cases goesOn <;> exact nomatch held
  | observes waits => rcases waits with rfl | rfl <;> exact nomatch held
  | _ => exact nomatch held

/-- An installed channel stays until it is closed, or until a watcher reports a loss of its
    generation. -/
theorem Transition.keeps (h : Transition c now id before signal reaction)
    (own : before.owner?.isSome → c.channel = none) {channel : Channel}
    (installed : c.channel = some channel) :
    reaction.client.channel = some channel ∨
    (∃ after, reaction.next = .ok (.calling channel.session .close after)) ∨
      ∃ watched, before = .watching watched ∧ signal = .lost ∧
        watched.generation = channel.generation := by
  cases h with
  | finds takes => exact .inl (takes.channel.1.trans installed)
  | unconfigured _ missing | connects _ missing | reconnects _ missing | shuts missing =>
    exact nomatch missing.symm.trans installed
  | installs completes =>
    have missing : c.channel = none := own (by cases completes <;> rfl)
    exact nomatch missing.symm.trans installed
  | @loses watched running newest =>
    by_cases same : watched.generation = channel.generation
    · exact .inr (.inr ⟨watched, rfl, rfl, same⟩)
    · refine .inl ?_
      show c.channel.filter _ = some channel
      rw [installed]
      simp [Option.filter, Ne.symm same]
  | closes found =>
    cases Option.some.inj (found.symm.trans installed)
    exact .inr (.inl ⟨_, rfl⟩)
  | settles => exact .inl ((congrArg Link.channel (attends_settle _ _).rests.link).trans installed)
  | handles => exact .inl ((congrArg Link.channel (attends_handle _ _).rests.link).trans installed)
  | judges => exact .inl ((congrArg Link.channel (attends_judge _ _).rests.link).trans installed)
  | observes _ seen => rcases seen with rfl | rfl <;> exact .inl installed
  | _ => exact .inl installed

end Client

/-- The session is installed or held by an attempt, or it was lost or closed. -/
def Accounted (history : List Moment) (s : System) (n : SessionId) : Prop :=
  s.installed n ∨ (∃ id t, s.task? id = some t ∧ t.holds? = some n) ∨ n ∈ s.lost ∨
    Closed history n

theorem System.installed_iff {s : System} {n : SessionId} :
    s.installed n ↔ ∃ channel, s.client.channel = some channel ∧ channel.session = n := by
  simp [System.installed, Option.any_eq_true]

/-- While an attempt is under way nothing is installed. -/
theorem Run.uninstalled_of_attempt {settings : Settings} {history : List Moment} {s : System}
    (run : Run settings history s) {id : TaskId} {t : Task} (found : s.task? id = some t)
    (attempt : t.owner?.isSome) (n : SessionId) : ¬ s.installed n := by
  intro installed
  obtain ⟨channel, here, -⟩ := System.installed_iff.1 installed
  exact nomatch (run.sound.locked id t found attempt).2.symm.trans here

section Step

variable {settings : Settings} {history : List Moment} {s s' ready : System} {move : Move}
  {id : TaskId} {task : Task} {signal : Signal} {n : SessionId}

/-- As long as no operation is given up, a move without any task going on drops no session. -/
theorem Accounted.drift (accounted : Accounted history s n) (numbered : s.Numbered)
    (drift : s.Drifts move s') (kept : ∀ id, move ≠ .cancel id) :
    Accounted (history ++ [⟨s, move, none⟩]) s' n := by
  rcases accounted with installed | ⟨id, t, ht, held⟩ | lost | closed
  · have channel : s'.client.channel = s.client.channel := congrArg Link.channel drift.link.1
    refine .inl ?_
    rwa [System.installed, channel]
  · refine .inr (.inl ⟨id, t, ?_, held⟩)
    cases drift with
    | begin => rw [System.task?_start numbered, if_neg (Nat.ne_of_lt (numbered.lt ht)), ht]
    | cancel => exact absurd rfl (kept _)
    | forge | lose | pass => exact ht
  · exact .inr (.inr (.inl (drift.link.2 n lost)))
  · exact .inr (.inr (.inr (closed.append _)))

/-- The watcher that takes a channel out watches that very channel, and its session is lost. -/
theorem Run.lost_of_watching (run : Run settings history s)
    (h : s.Readies move id task signal ready) {watched channel : Channel}
    (watching : task = .watching watched) (reports : signal = .lost)
    (installed : s.client.channel = some channel)
    (same : watched.generation = channel.generation) : channel.session ∈ s.lost := by
  subst watching reports
  obtain rfl : watched = channel :=
    run.identified (.inr ⟨id, h.found⟩) (.inl (.inl installed)) same
  cases h with
  | resume _ admitted => exact List.contains_iff_mem.1 admitted

/-- A step drops no session. -/
theorem Accounted.absorb (accounted : Accounted history s n) (run : Run settings history s)
    (h : s.Readies move id task signal ready) :
    Accounted (history ++ [⟨s, move, some (ready.activity id task signal)⟩])
      (ready.absorb id (ready.client.resume ready.now id task signal)) n := by
  have transition := Client.transition_of_readies h
  have follows := h.follows run.numbered (ready.client.resume ready.now id task signal)
  have same : ready.client.channel = s.client.channel := by rw [h.client]
  have closes : ∀ after, (ready.client.resume ready.now id task signal).next =
      .ok (.calling n .close after) →
      Closed (history ++ [⟨s, move, some (ready.activity id task signal)⟩]) n := fun after goesOn =>
    closed_concat (call?_eq_some_iff.2 ⟨_, after, rfl, goesOn⟩)
  rcases accounted with installed | ⟨other, t, ht, held⟩ | lost | closed
  · obtain ⟨channel, here, rfl⟩ := System.installed_iff.1 installed
    have own : task.owner?.isSome → ready.client.channel = none := fun attempt =>
      same.trans (run.sound.locked id task h.found attempt).2
    rcases transition.keeps own (same.trans here) with
      stays | ⟨after, goesOn⟩ | ⟨watched, watching, reports, generation⟩
    · exact .inl (System.installed_iff.2 ⟨channel, stays, rfl⟩)
    · exact .inr (.inr (.inr (closes after goesOn)))
    · refine .inr (.inr (.inl ?_))
      show channel.session ∈ ready.lost
      rw [h.lost]
      exact run.lost_of_watching h watching reports here generation
  · by_cases ho : other = id
    · subst ho
      obtain rfl := Option.some.inj (ht.symm.trans h.found)
      rcases transition.holds (run.consistent other t ht) held with
        ⟨t', goesOn, held'⟩ | installed | ⟨after, goesOn⟩
      · exact .inr (.inl ⟨other, t', follows.goesOn t' goesOn, held'⟩)
      · exact .inl (System.installed_iff.2 installed)
      · exact .inr (.inr (.inr (closes after goesOn)))
    · exact .inr (.inl ⟨other, t, follows.others other t ho ht, held⟩)
  · refine .inr (.inr (.inl ?_))
    show n ∈ ready.lost
    rwa [h.lost]
  · exact .inr (.inr (.inr (closed.append _)))

/-- The attempt that the connector answers holds the new session. -/
theorem accounted_connect (numbered : s.Numbered) (h : s.Readies move id task signal ready)
    (old : ¬ n ≤ s.sessions) (opened : n ≤ ready.sessions) :
    Accounted (history ++ [⟨s, move, some (ready.activity id task signal)⟩])
      (ready.absorb id (ready.client.resume ready.now id task signal)) n := by
  have follows := h.follows numbered (ready.client.resume ready.now id task signal)
  cases h with
  | resume | deliver => exact absurd opened old
  | connect found =>
    obtain rfl : n = s.sessions + 1 :=
      Nat.le_antisymm opened (Nat.lt_of_not_le old)
    exact .inr (.inl ⟨_, _, follows.goesOn _ rfl, rfl⟩)

end Step

/-- As long as no operation is given up, every session is accounted for. -/
theorem Run.accounted {settings : Settings} {history : List Moment} {s : System}
    (run : Run settings history s) (kept : ∀ m ∈ history, ∀ id, m.move ≠ .cancel id)
    {n : SessionId} (pos : 0 < n) (opened : n ≤ s.sessions) : Accounted history s n := by
  induction run with
  | start => exact absurd pos (Nat.not_lt_of_le opened)
  | @next history s s' move activity run step ih =>
    have before := ih fun m hm => kept m (List.mem_append_left _ hm)
    rcases System.step_cases step with ⟨rfl, drift⟩ | ⟨id, task, signal, ready, h, rfl, rfl⟩
    · have sessions : s'.sessions = s.sessions := by cases drift <;> rfl
      refine (before (sessions ▸ opened)).drift run.numbered drift ?_
      exact kept _ (List.mem_append_right _ (List.mem_singleton.2 rfl))
    · by_cases old : n ≤ s.sessions
      · exact (before old).absorb run h
      · exact accounted_connect run.numbered h old opened

/-- As long as no operation is given up midway, at most one session is open at any time, and every
    session that is neither installed nor the one of the attempt that holds the connect lock has been
    lost or closed. -/
theorem at_most_one_open {settings : Settings} {history : List Moment} {s : System}
    (run : Run settings history s) (kept : ∀ m ∈ history, ∀ id, m.move ≠ .cancel id) :
    (∀ one two, Open history s one → Open history s two → one = two) ∧
      ∀ n, 0 < n → n ≤ s.sessions → ¬ s.installed n → ¬ s.Attempting n →
        n ∈ s.lost ∨ Closed history n := by
  have inUse : ∀ n, Open history s n → s.installed n ∨ s.Attempting n := by
    intro n isOpen
    rcases run.accounted kept isOpen.pos isOpen.opened with
      installed | ⟨id, t, ht, held⟩ | lost | closed
    · exact .inl installed
    · exact .inr ⟨id, t, (run.sound.locked id t ht (Task.owner?_of_holds? held)).1, ht, held⟩
    · exact absurd lost isOpen.alive
    · exact absurd closed isOpen.unclosed
  have apart : ∀ one two, s.installed one → ¬ s.Attempting two := by
    rintro one two installed ⟨id, t, -, ht, held⟩
    exact run.uninstalled_of_attempt ht (Task.owner?_of_holds? held) one installed
  refine ⟨?_, ?_⟩
  · intro one two open₁ open₂
    rcases inUse one open₁ with installed₁ | attempting₁
    · rcases inUse two open₂ with installed₂ | attempting₂
      · obtain ⟨channel, here, rfl⟩ := System.installed_iff.1 installed₁
        obtain ⟨channel', there, rfl⟩ := System.installed_iff.1 installed₂
        rw [Option.some.inj (here.symm.trans there)]
      · exact absurd attempting₂ (apart one two installed₁)
    · rcases inUse two open₂ with installed₂ | attempting₂
      · exact absurd attempting₁ (apart two one installed₂)
      · -- both attempts hold the lock, so they are the same one
        obtain ⟨id₁, t₁, head₁, ht₁, held₁⟩ := attempting₁
        obtain ⟨id₂, t₂, head₂, ht₂, held₂⟩ := attempting₂
        cases Option.some.inj (head₁.symm.trans head₂)
        cases Option.some.inj (ht₁.symm.trans ht₂)
        exact Option.some.inj (held₁.symm.trans held₂)
  · intro n pos opened uninstalled unheld
    rcases run.accounted kept pos opened with installed | ⟨id, t, ht, held⟩ | parted
    · exact absurd installed uninstalled
    · have head := (run.sound.locked id t ht (Task.owner?_of_holds? held)).1
      exact absurd ⟨id, t, head, ht, held⟩ unheld
    · exact parted

theorem at_most_one_open_reconnection : ∃ history s, Run bareSettings history s ∧
    (∀ m ∈ history, ∀ id, m.move ≠ .cancel id) ∧ 0 < 1 ∧ 1 ≤ s.sessions ∧ ¬ s.installed 1 ∧
      ¬ s.Attempting 1 ∧ (1 ∈ s.lost ∨ Closed history 1) := by
  obtain ⟨⟨history, s⟩, performed, hs⟩ := (Option.any_eq_true _ _).1
    (show ((System.new bareSettings).perform reconnection).any fun p =>
      1 ≤ p.2.sessions ∧ ¬ p.2.installed 1 ∧ p.2.client.lock = [] from rfl)
  obtain ⟨opened, uninstalled, free⟩ := of_decide_eq_true hs
  have kept : ∀ m ∈ history, ∀ id, m.move ≠ .cancel id := by
    intro m hm id
    have mem := List.mem_map_of_mem (f := Moment.move) hm
    rw [System.map_move_of_perform performed] at mem
    intro same
    rw [same] at mem
    simp [reconnection] at mem
  have unheld : ¬ s.Attempting 1 := by
    rintro ⟨id, t, head, -⟩
    rw [free] at head
    exact nomatch head
  exact ⟨history, s, Run.start.perform performed, kept, Nat.one_pos, opened, uninstalled, unheld,
    (at_most_one_open (Run.start.perform performed) kept).2 1 Nat.one_pos opened uninstalled unheld⟩

end Laneway.Broker
