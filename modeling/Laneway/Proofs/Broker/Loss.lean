import Laneway.Proofs.Broker.Link

set_option autoImplicit false

/-! # The loss of a session

A client that is up should always be on its way to a live session: its session is alive, or the
watcher has yet to report the loss, or a reconnect is under way. This holds but for one order of
events. The watcher of a session starts before the session is restored and installed, and a loss it
reports in between is forgotten when the session is installed all the same. -/

namespace Laneway.Broker

/-! ## What holds of the link and the tasks -/

/-- The link fits the tasks: who holds the lock, which channels and watchers there can be, and what
    is under way when no channel is installed. -/
structure Link.Sound (l : Link) (tasks : TaskId → Option Task) : Prop where
  /-- An attempt holds the connect lock, and nothing is installed before it ends. -/
  locked : ∀ id t, tasks id = some t → t.owner?.isSome →
    l.lock.head? = some id ∧ l.channel = none
  /-- The installed channel is of the newest session. -/
  newest : ∀ channel, l.channel = some channel → channel.generation = l.generation
  /-- A session is only restored while it is the newest. -/
  restoring : ∀ id t channel, tasks id = some t → t.restoring? = some channel →
    channel.generation = l.generation
  /-- Only sessions that have been counted are watched. -/
  counted : ∀ id channel, tasks id = some (.watching channel) →
    channel.generation ≤ l.generation
  /-- A session has one watcher at most. -/
  watched : ∀ id other channel, tasks id = some (.watching channel) →
    tasks other = some (.watching channel) → id = other
  /-- The mark of a running loop is only set while there is one. -/
  looping : l.reconnecting = true → ∃ id t, tasks id = some t ∧ t.isLoop
  /-- Without a channel a client that has been up is reconnecting. -/
  recovering : l.shutdown = false → l.everConnected = true → l.channel = none →
    l.reconnecting = true
  /-- A closed client is up only when an attempt has ended after the close. -/
  reopened : l.shutdown = true → l.everConnected = true → l.channel.isSome

namespace Link

variable {l l' : Link} {wake : Duration} {id : TaskId} {before : Task}
  {next : Except Ending Task} {started : List Task}

theorem owner?_of_restoring? {t : Task} {channel : Channel} (h : t.restoring? = some channel) :
    t.owner?.isSome := by
  cases t with
  | calling session call after => cases after <;> first | rfl | exact nomatch h
  | _ => exact nomatch h

theorem Shift.generation_le (h : Shift l wake id before l' next started) :
    l.generation ≤ l'.generation := by
  cases h with
  | counts | opens => exact Nat.le_succ _
  | _ => exact Nat.le_refl _

/-- A step starts no attempt. -/
theorem Shift.owner?_started (h : Shift l wake id before l' next started) {t : Task}
    (ht : t ∈ started) : t.owner? = none := by
  cases h with
  | rests _ _ starts | advances _ _ _ starts | installs _ _ _ starts =>
    exact Task.owner?_of_isPlain (starts t ht)
  | counts | opens =>
    rw [List.mem_singleton.1 ht]
    rfl
  | loses =>
    split at ht
    · exact nomatch ht
    · rw [List.mem_singleton.1 ht]
      rfl
  | _ => exact nomatch ht

/-- A watcher is started on the session that has just been counted, and on no other. -/
theorem Shift.watching_started (h : Shift l wake id before l' next started) {k : Nat}
    {channel : Channel} (hk : started[k]? = some (.watching channel)) :
    k = 0 ∧ channel.generation = l.generation + 1 ∧ l'.generation = l.generation + 1 := by
  have hmem := List.mem_of_getElem? hk
  cases h with
  | rests _ _ starts | advances _ _ _ starts | installs _ _ _ starts =>
    exact absurd rfl (Task.ne_watching_of_isPlain (starts _ hmem) channel)
  | counts | opens =>
    cases Task.watching.inj (List.mem_singleton.1 hmem)
    have hlt := (List.getElem?_eq_some_iff.1 hk).1
    exact ⟨Nat.lt_one_iff.1 hlt, rfl, rfl⟩
  | loses =>
    split at hmem
    · exact nomatch hmem
    · exact nomatch List.mem_singleton.1 hmem
  | _ => exact nomatch hmem

/-- No step goes on as a watcher. -/
theorem Shift.watching_next (h : Shift l wake id before l' next started) (channel : Channel) :
    next ≠ .ok (.watching channel) := by
  intro ht
  cases h with
  | rests _ goesOn | closes _ goesOn =>
    exact absurd rfl (Task.ne_watching_of_isPlain (goesOn _ ht) channel)
  | finds _ _ _ ends | unconfigured _ _ _ ends | opens _ ends | installs _ _ ends | fails _ ends =>
    exact nomatch ends.resting ht
  | advances _ goesOn | counts _ goesOn =>
    rw [Except.ok.inj ht] at goesOn
    exact nomatch goesOn
  | _ => exact nomatch ht

/-- A step keeps the attempt of another task as it is: only that task can end it. -/
theorem Shift.others (h : Shift l wake id before l' next started)
    (own : before.owner?.isSome → l.lock.head? = some id ∧ l.channel = none) {other : TaskId}
    (ne : other ≠ id) (head : l.lock.head? = some other) (missing : l.channel = none) :
    l'.lock.head? = some other ∧ l'.channel = none ∧ l'.generation = l.generation := by
  -- the lock is with the other task, so this one neither comes to hold it nor is in an attempt
  have not_grants : ∀ lock, ¬ l.Grants id lock := by
    intro lock grants
    cases grants with
    | free empty =>
      rw [empty] at head
      exact nomatch head
    | next first => exact ne (Option.some.inj (head.symm.trans first))
  have not_own : before.owner?.isSome → False := fun attempt =>
    ne (Option.some.inj (head.symm.trans (own attempt).1))
  cases h with
  | queues => exact ⟨by simp [head], missing, rfl⟩
  | finds _ grants | unconfigured _ grants | connects _ grants | reconnects _ grants =>
    exact absurd grants (not_grants _)
  | counts attempt | opens attempt | installs attempt | fails attempt =>
    exact absurd (Option.isSome_of_eq_some attempt) not_own
  | loses =>
    refine ⟨head, ?_, rfl⟩
    rw [missing]
    rfl
  | closes => exact ⟨head, rfl, rfl⟩
  | _ => exact ⟨head, missing, rfl⟩

/-- The attempt that a step goes on with holds the lock, and nothing is installed. -/
theorem Shift.own (h : Shift l wake id before l' next started)
    (own : before.owner?.isSome → l.lock.head? = some id ∧ l.channel = none) {t : Task}
    (ht : next = .ok t) (attempt : t.owner?.isSome) :
    l'.lock.head? = some id ∧ l'.channel = none := by
  cases h with
  | rests _ goesOn | closes _ goesOn =>
    rw [Task.owner?_of_isPlain (goesOn t ht)] at attempt
    exact nomatch attempt
  | finds _ _ _ ends | unconfigured _ _ _ ends | opens _ ends | installs _ _ ends | fails _ ends =>
    rw [ends.resting ht] at attempt
    exact nomatch attempt
  | connects _ grants missing | reconnects _ grants missing => exact ⟨grants.head?, missing⟩
  | advances attempt | counts attempt => exact own (Option.isSome_of_eq_some attempt)
  | queues =>
    cases ht
    exact nomatch attempt
  | _ => exact nomatch ht

/-- The channel that a step goes on restoring is of the newest session. -/
theorem Shift.restoring (h : Shift l wake id before l' next started)
    (restoring : ∀ channel, before.restoring? = some channel → channel.generation = l.generation)
    {t : Task} (ht : next = .ok t) {channel : Channel} (hc : t.restoring? = some channel) :
    channel.generation = l'.generation := by
  cases h with
  | rests _ goesOn | closes _ goesOn =>
    have attempt := owner?_of_restoring? hc
    rw [Task.owner?_of_isPlain (goesOn t ht)] at attempt
    exact nomatch attempt
  | finds _ _ _ ends | unconfigured _ _ _ ends | opens _ ends | installs _ _ ends | fails _ ends =>
    rw [ends.resting ht] at hc
    exact nomatch hc
  | advances _ _ same =>
    cases ht
    exact restoring channel (same channel hc)
  | counts _ _ counted =>
    cases ht
    rw [← Option.some.inj (counted.symm.trans hc)]
  | queues | connects | reconnects =>
    cases ht
    exact nomatch hc
  | _ => exact nomatch ht

/-- The installed channel stays of the newest session. -/
theorem Shift.newest (h : Shift l wake id before l' next started)
    (own : before.owner?.isSome → l.channel = none)
    (newest : ∀ channel, l.channel = some channel → channel.generation = l.generation)
    (restoring : ∀ channel, before.restoring? = some channel → channel.generation = l.generation)
    {channel : Channel} (hc : l'.channel = some channel) :
    channel.generation = l'.generation := by
  cases h with
  | counts attempt =>
    rw [own (Option.isSome_of_eq_some attempt)] at hc
    exact nomatch hc
  | opens => rw [← Option.some.inj hc]; rfl
  | installs _ restored =>
    cases Option.some.inj hc
    exact restoring channel restored
  | loses => exact newest channel (Option.eq_some_of_filter_eq_some hc)
  | closes => exact nomatch hc
  | _ => exact newest channel hc

/-- A loop goes on until it takes its mark back. -/
theorem Shift.isLoop_next (h : Shift l wake id before l' next started) (loop : before.isLoop) :
    l'.reconnecting = false ∨ ∃ t, next = .ok t ∧ t.isLoop := by
  cases h with
  | rests plain | closes plain | closed plain =>
    rw [Task.isLoop_of_isPlain plain] at loop
    exact nomatch loop
  | queues seeks =>
    rw [seeks.isLoop] at loop
    exact .inr ⟨_, rfl, loop⟩
  | finds seeks =>
    rw [seeks.isLoop] at loop
    obtain rfl := of_decide_eq_true loop
    exact .inl rfl
  | unconfigured seeks _ _ ends =>
    rw [seeks.isLoop] at loop
    obtain rfl := of_decide_eq_true loop
    cases ends
    exact .inr ⟨_, rfl, rfl⟩
  | connects seeks =>
    rw [seeks.isLoop] at loop
    exact nomatch loop
  | reconnects => exact .inr ⟨_, rfl, rfl⟩
  | advances attempt goesOn | counts attempt goesOn =>
    rw [Task.isLoop_of_owner? attempt] at loop
    exact .inr ⟨_, rfl, (Task.isLoop_of_owner? goesOn).trans loop⟩
  | opens attempt | installs attempt =>
    rw [Task.isLoop_of_owner? attempt] at loop
    obtain rfl := of_decide_eq_true loop
    exact .inl rfl
  | fails attempt ends =>
    rw [Task.isLoop_of_owner? attempt] at loop
    obtain rfl := of_decide_eq_true loop
    cases ends
    exact .inr ⟨_, rfl, rfl⟩
  | retires => exact .inl rfl
  | ignores | loses => exact nomatch loop

theorem reconnecting_released (l : Link) (owner : Owner) (fault : Fault) :
    (l.released owner (.error fault)).reconnecting = l.reconnecting := by
  cases owner <;> rfl

theorem reconnecting_of_released {owner : Owner} {result : Except Fault Unit}
    (h : (l.released owner result).reconnecting = true) : l.reconnecting = true := by
  cases owner <;> cases result <;> first | exact h | exact nomatch h

/-- The mark is set with a loop started, or it was set before. -/
theorem Shift.isLoop_started (h : Shift l wake id before l' next started)
    (marked : l'.reconnecting = true) :
    l.reconnecting = true ∨ ∃ (k : Nat) (t : Task), started[k]? = some t ∧ t.isLoop := by
  cases h with
  | finds | unconfigured | opens | installs | fails => exact .inl (reconnecting_of_released marked)
  | retires => exact nomatch marked
  | loses =>
    cases hr : l.reconnecting with
    | true => exact .inl rfl
    | false => exact .inr ⟨0, .resting wake, rfl, rfl⟩
  | _ => exact .inl marked

theorem Shift.recovering (h : Shift l wake id before l' next started)
    (recovering : l.shutdown = false → l.everConnected = true → l.channel = none →
      l.reconnecting = true)
    (reopened : l.shutdown = true → l.everConnected = true → l.channel.isSome)
    (running : l'.shutdown = false) (connected : l'.everConnected = true)
    (missing : l'.channel = none) : l'.reconnecting = true := by
  cases h with
  | finds _ _ installed =>
    rw [show l.channel = none from missing] at installed
    exact nomatch installed
  | unconfigured | fails =>
    rw [reconnecting_released]
    exact recovering running connected missing
  | connects =>
    cases down : l.shutdown with
    | false => exact recovering down connected missing
    | true =>
      have installed := reopened down connected
      rw [show l.channel = none from missing] at installed
      exact nomatch installed
  | opens | installs => exact nomatch missing
  | retires down => exact absurd (down.symm.trans running) Bool.noConfusion
  | loses => rfl
  | closes => exact nomatch connected
  | _ => exact recovering running connected missing

theorem Shift.reopened (h : Shift l wake id before l' next started)
    (reopened : l.shutdown = true → l.everConnected = true → l.channel.isSome)
    (down : l'.shutdown = true) (connected : l'.everConnected = true) : l'.channel.isSome := by
  cases h with
  | opens | installs => rfl
  | connects => exact nomatch down
  | loses running => exact absurd (running.symm.trans down) Bool.noConfusion
  | closes => exact nomatch connected
  | _ => exact reopened down connected

/-- A step keeps the link sound. -/
theorem Sound.shift {tasks tasks' : TaskId → Option Task} {first : TaskId}
    (sound : l.Sound tasks) (shift : Shift l wake id before l' next started)
    (found : tasks id = some before)
    (follows : System.Follows tasks first id next started tasks') : l'.Sound tasks' where
  locked other t ht attempt := by
    rcases follows.origin other t ht with ⟨ne, before⟩ | ⟨rfl, goesOn⟩ | ⟨k, -, starts⟩
    · obtain ⟨head, missing⟩ := sound.locked other t before attempt
      obtain ⟨head', missing', -⟩ := shift.others (sound.locked id _ found) ne head missing
      exact ⟨head', missing'⟩
    · exact shift.own (sound.locked other _ found) goesOn attempt
    · rw [shift.owner?_started (List.mem_of_getElem? starts)] at attempt
      exact nomatch attempt
  newest channel hc :=
    shift.newest (fun attempt => (sound.locked id _ found attempt).2) sound.newest
      (fun channel => sound.restoring id _ channel found) hc
  restoring other t channel ht hc := by
    have attempt := owner?_of_restoring? hc
    rcases follows.origin other t ht with ⟨ne, before⟩ | ⟨rfl, goesOn⟩ | ⟨k, -, starts⟩
    · obtain ⟨head, missing⟩ := sound.locked other t before attempt
      obtain ⟨-, -, same⟩ := shift.others (sound.locked id _ found) ne head missing
      exact (sound.restoring other t channel before hc).trans same.symm
    · exact shift.restoring (fun channel => sound.restoring other _ channel found) goesOn hc
    · rw [shift.owner?_started (List.mem_of_getElem? starts)] at attempt
      exact nomatch attempt
  counted other channel ht := by
    rcases follows.origin other _ ht with ⟨-, before⟩ | ⟨-, goesOn⟩ | ⟨k, -, starts⟩
    · exact Nat.le_trans (sound.counted other channel before) shift.generation_le
    · exact absurd goesOn (shift.watching_next channel)
    · obtain ⟨-, counted, generation⟩ := shift.watching_started starts
      exact Nat.le_of_eq (counted.trans generation.symm)
  watched one two channel h₁ h₂ := by
    -- a watcher that is started is of a later generation than all there are
    have fresh : ∀ (other : TaskId) (k : Nat), tasks other = some (.watching channel) →
        started[k]? ≠ some (Task.watching channel) := by
      intro other k before starts
      obtain ⟨-, counted, -⟩ := shift.watching_started starts
      exact Nat.not_succ_le_self _ (counted ▸ sound.counted other channel before)
    rcases follows.origin one _ h₁ with ⟨-, before₁⟩ | ⟨-, goesOn⟩ | ⟨k₁, rfl, starts₁⟩
    · rcases follows.origin two _ h₂ with ⟨-, before₂⟩ | ⟨-, goesOn⟩ | ⟨k₂, -, starts₂⟩
      · exact sound.watched one two channel before₁ before₂
      · exact absurd goesOn (shift.watching_next channel)
      · exact absurd starts₂ (fresh one k₂ before₁)
    · exact absurd goesOn (shift.watching_next channel)
    · rcases follows.origin two _ h₂ with ⟨-, before₂⟩ | ⟨-, goesOn⟩ | ⟨k₂, rfl, starts₂⟩
      · exact absurd starts₁ (fresh two k₁ before₂)
      · exact absurd goesOn (shift.watching_next channel)
      · rw [(shift.watching_started starts₁).1, (shift.watching_started starts₂).1]
  looping marked := by
    rcases shift.isLoop_started marked with marked₀ | ⟨k, t, starts, loop⟩
    · -- the loop there was is still there, also if it is the task that went on
      obtain ⟨other, t, ht, loop⟩ := sound.looping marked₀
      by_cases ho : other = id
      · subst ho
        rw [Option.some.inj (ht.symm.trans found)] at loop
        rcases shift.isLoop_next loop with unmarked | ⟨t', goesOn, loop'⟩
        · exact absurd (marked.symm.trans unmarked) Bool.noConfusion
        · exact ⟨other, t', follows.goesOn t' goesOn, loop'⟩
      · exact ⟨other, t, follows.others other t ho ht, loop⟩
    · exact ⟨first + k, t, follows.starts k t starts, loop⟩
  recovering := shift.recovering sound.recovering sound.reopened
  reopened := shift.reopened sound.reopened

/-- Plain tasks come and go freely. -/
theorem Sound.congr {tasks tasks' : TaskId → Option Task} (sound : l.Sound tasks)
    (same : ∀ other t, t.isPlain = false → (tasks' other = some t ↔ tasks other = some t)) :
    l.Sound tasks' where
  locked other t ht attempt :=
    sound.locked other t ((same other t (Task.isPlain_of_owner? attempt)).1 ht) attempt
  newest := sound.newest
  restoring other t channel ht hc :=
    sound.restoring other t channel
      ((same other t (Task.isPlain_of_owner? (owner?_of_restoring? hc))).1 ht) hc
  counted other channel ht := sound.counted other channel ((same other _ rfl).1 ht)
  watched one two channel h₁ h₂ :=
    sound.watched one two channel ((same one _ rfl).1 h₁) ((same two _ rfl).1 h₂)
  looping marked := by
    obtain ⟨other, t, ht, loop⟩ := sound.looping marked
    exact ⟨other, t, (same other t (Task.isPlain_of_isLoop loop)).2 ht, loop⟩
  recovering := sound.recovering
  reopened := sound.reopened

/-- An operation that is given up takes its attempt and its place in the lock along. -/
theorem Sound.cancel {tasks : TaskId → Option Task} (sound : l.Sound tasks)
    (found : tasks id = some before) (operation : before.isOperation) :
    { l with lock := l.lock.filter (· ≠ id) }.Sound
      fun other => if other = id then none else tasks other where
  locked other t ht attempt := by
    split at ht
    · exact nomatch ht
    · next ne =>
      obtain ⟨head, missing⟩ := sound.locked other t ht attempt
      obtain ⟨rest, hlock⟩ := List.head?_eq_some_iff.1 head
      refine ⟨?_, missing⟩
      show (l.lock.filter (· ≠ id)).head? = some other
      rw [hlock, List.filter_cons_of_pos (by simpa using ne)]
      rfl
  newest := sound.newest
  restoring other t channel ht hc := by
    split at ht
    · exact nomatch ht
    · exact sound.restoring other t channel ht hc
  counted other channel ht := by
    split at ht
    · exact nomatch ht
    · exact sound.counted other channel ht
  watched one two channel h₁ h₂ := by
    split at h₁
    · exact nomatch h₁
    · split at h₂
      · exact nomatch h₂
      · exact sound.watched one two channel h₁ h₂
  looping marked := by
    obtain ⟨other, t, ht, loop⟩ := sound.looping marked
    refine ⟨other, t, ?_, loop⟩
    rw [if_neg]
    · exact ht
    · rintro rfl
      rw [Option.some.inj (ht.symm.trans found), Task.isLoop_of_isOperation operation] at loop
      exact nomatch loop
  recovering := sound.recovering
  reopened := sound.reopened

end Link

/-- Two attempts at once would both hold the connect lock. -/
theorem Link.Sound.same_attempt {l : Link} {tasks : TaskId → Option Task} (sound : l.Sound tasks)
    {id other : TaskId} {t u : Task} (ht : tasks id = some t) (one : t.owner?.isSome)
    (hu : tasks other = some u) (two : u.owner?.isSome) : id = other := by
  have mine := (sound.locked id t ht one).1
  have theirs := (sound.locked other u hu two).1
  exact Option.some.inj (mine.symm.trans theirs)

/-- The link of the client fits its tasks. -/
def System.Sound (s : System) : Prop := s.client.link.Sound s.task?

theorem Run.sound {settings : Settings} {history : List Moment} {s : System}
    (run : Run settings history s) : s.Sound := by
  induction run with
  | start =>
    exact {
      locked := fun _ _ ht => nomatch ht
      newest := fun _ hc => nomatch hc
      restoring := fun _ _ _ ht => nomatch ht
      counted := fun _ _ ht => nomatch ht
      watched := fun _ _ _ ht => nomatch ht
      looping := fun marked => nomatch marked
      recovering := fun _ connected => nomatch connected
      reopened := fun down => nomatch down }
  | next run step ih =>
    rcases System.step_cases step with ⟨-, drift⟩ | ⟨id, task, signal, ready, h, rfl, -⟩
    · cases drift with
      | begin operation _ =>
        refine ih.congr ?_
        intro other t plain
        rw [System.task?_start run.numbered]
        split
        · next fresh =>
          rw [fresh, run.numbered _ (Nat.le_refl _)]
          refine ⟨?_, fun ht => nomatch ht⟩
          intro ht
          cases ht
          exact nomatch plain
        · exact Iff.rfl
      | cancel found operation =>
        exact (ih.cancel found operation).congr fun other t _ => by rw [System.task?_cancel]
      | forge | lose | pass => exact ih
    · exact ih.shift (h.link ▸ shift_of_readies h) h.found (h.follows run.numbered _)

/-! ## The watchers of a run -/

/-- The watcher of the channel ran in this moment: the loss of its session is taken note of. -/
def Moment.Reports (m : Moment) (channel : Channel) : Prop :=
  ∃ activity, m.activity = some activity ∧ activity.before = .watching channel

/-- The watcher of the channel ran in a moment in which the channel was not installed. -/
def Overlooked (history : List Moment) (channel : Channel) : Prop :=
  ∃ m ∈ history, m.Reports channel ∧ m.system.client.channel ≠ some channel

theorem Overlooked.append {history : List Moment} {channel : Channel}
    (h : Overlooked history channel) (more : List Moment) :
    Overlooked (history ++ more) channel := by
  obtain ⟨m, hm, overlooked⟩ := h
  exact ⟨m, List.mem_append_left more hm, overlooked⟩

/-- The channel is installed, or an attempt restores it. -/
def Link.Current (l : Link) (tasks : TaskId → Option Task) (channel : Channel) : Prop :=
  l.channel = some channel ∨ ∃ id t, tasks id = some t ∧ t.restoring? = some channel

theorem Link.Sound.current {l : Link} {tasks : TaskId → Option Task} (sound : l.Sound tasks)
    {channel : Channel} (h : l.Current tasks channel) : channel.generation = l.generation := by
  rcases h with installed | ⟨id, t, ht, restoring⟩
  · exact sound.newest channel installed
  · exact sound.restoring id t channel ht restoring

/-- Somebody has yet to take note of a loss, or did so too early, or nobody needs to. -/
def System.Covered (s : System) (history : List Moment) (channel : Channel) : Prop :=
  s.client.shutdown = true ∨ (∃ id, s.task? id = some (.watching channel)) ∨
    Overlooked history channel

/-- What the history tells of watchers. -/
structure System.Watched (s : System) (history : List Moment) : Prop where
  /-- A watcher runs once, after the loss. -/
  reported : ∀ m ∈ history, ∀ channel, m.Reports channel →
    channel.session ∈ s.lost ∧ channel.generation ≤ s.client.generation ∧
      ∀ id, s.task? id ≠ some (.watching channel)
  /-- A channel that is installed or restored has its watcher unless it ran too early. -/
  covered : ∀ channel, s.client.link.Current s.task? channel → s.Covered history channel

namespace Link

variable {l l' : Link} {wake : Duration} {id : TaskId} {before : Task}
  {next : Except Ending Task} {started : List Task}

/-- A channel becomes current with its watcher started. -/
theorem Shift.current {tasks tasks' : TaskId → Option Task} {first : TaskId}
    (shift : Shift l wake id before l' next started) (found : tasks id = some before)
    (follows : System.Follows tasks first id next started tasks') {channel : Channel}
    (h : l'.Current tasks' channel) :
    l.Current tasks channel ∨ ∃ other, tasks' other = some (.watching channel) := by
  have restored : before.restoring? = some channel → l.Current tasks channel :=
    fun restoring => .inr ⟨id, before, found, restoring⟩
  rcases h with installed | ⟨other, t, ht, restoring⟩
  · cases shift with
    | opens =>
      cases Option.some.inj installed
      exact .inr ⟨first + 0, follows.starts 0 _ rfl⟩
    | installs _ restoring =>
      cases Option.some.inj installed
      exact .inl (restored restoring)
    | loses => exact .inl (.inl (Option.eq_some_of_filter_eq_some installed))
    | closes => exact nomatch installed
    | _ => exact .inl (.inl installed)
  · have attempt := owner?_of_restoring? restoring
    rcases follows.origin other t ht with ⟨-, same⟩ | ⟨rfl, goesOn⟩ | ⟨k, -, starts⟩
    · exact .inl (.inr ⟨other, t, same, restoring⟩)
    · cases shift with
      | rests _ goes | closes _ goes =>
        rw [Task.owner?_of_isPlain (goes t goesOn)] at attempt
        exact nomatch attempt
      | finds _ _ _ ends | unconfigured _ _ _ ends | opens _ ends | installs _ _ ends
      | fails _ ends =>
        rw [ends.resting goesOn] at attempt
        exact nomatch attempt
      | advances _ _ same =>
        cases goesOn
        exact .inl (restored (same channel restoring))
      | counts _ _ counted =>
        cases goesOn
        cases Option.some.inj (counted.symm.trans restoring)
        exact .inr ⟨first + 0, follows.starts 0 _ rfl⟩
      | queues | connects | reconnects =>
        cases goesOn
        exact nomatch restoring
      | _ => exact nomatch goesOn
    · rw [shift.owner?_started (List.mem_of_getElem? starts)] at attempt
      exact nomatch attempt

/-- While a channel is current, a closed client stays closed: only a new attempt takes a close
    back, and it needs the connect lock and no channel. -/
theorem Shift.shutdown {tasks : TaskId → Option Task} (sound : l.Sound tasks)
    (shift : Shift l wake id before l' next started) (found : tasks id = some before)
    {channel : Channel} (current : l.Current tasks channel) (down : l.shutdown = true) :
    l'.shutdown = true := by
  cases shift with
  | connects seeks grants missing =>
    rcases current with installed | ⟨other, t, ht, restoring⟩
    · exact nomatch missing.symm.trans installed
    · have head := (sound.locked other t ht (owner?_of_restoring? restoring)).1
      cases grants with
      | free empty =>
        rw [empty] at head
        exact nomatch head
      | next first =>
        cases Option.some.inj (head.symm.trans first)
        cases Option.some.inj (ht.symm.trans found)
        have attempt := owner?_of_restoring? restoring
        rw [seeks.owner] at attempt
        exact nomatch attempt
  | closes => rfl
  | _ => exact down

/-- When the watcher of a current channel runs, it ends, and the client is closed or the channel is
    not installed from then on. -/
theorem Shift.watching {tasks : TaskId → Option Task} {channel : Channel} (sound : l.Sound tasks)
    (shift : Shift l wake id (.watching channel) l' next started)
    (current : l.Current tasks channel) :
    (l'.shutdown = true ∨ l'.channel ≠ some channel) ∧ ∀ t, next ≠ .ok t := by
  cases shift with
  | rests plain | closes plain | closed plain => exact nomatch plain
  | queues seeks | finds seeks | unconfigured seeks | connects seeks | reconnects seeks =>
    exact absurd rfl (seeks.not_watching channel)
  | advances attempt | counts attempt | opens attempt | installs attempt | fails attempt =>
    exact nomatch attempt
  | ignores stale =>
    refine ⟨?_, fun _ ht => nomatch ht⟩
    rcases stale with down | older
    · exact .inl down
    · exact absurd (sound.current current) older
  | loses running newest =>
    refine ⟨.inr ?_, fun _ ht => nomatch ht⟩
    intro installed
    have := Option.eq_some_of_filter_eq_some installed
    simp [this] at installed

end Link

namespace System

variable {s s' : System} {history : List Moment} {move : Move}

/-- A move without any task going on leaves the link as it is but for its lock. -/
theorem Drifts.link (drift : s.Drifts move s') :
    s'.client.link = { s.client.link with lock := s'.client.lock } ∧
      ∀ session ∈ s.lost, session ∈ s'.lost := by
  cases drift with
  | lose => exact ⟨rfl, fun _ h => List.mem_cons_of_mem _ h⟩
  | _ => exact ⟨rfl, fun _ h => h⟩

/-- A task with a part in connecting was there before. -/
theorem Drifts.was (drift : s.Drifts move s') (numbered : s.Numbered) {id : TaskId} {t : Task}
    (part : t.isPlain = false) (ht : s'.task? id = some t) : s.task? id = some t := by
  rcases drift.origin numbered ht with old | ⟨-, operation, -, rfl⟩
  · exact old
  · exact nomatch part

theorem Drifts.current (drift : s.Drifts move s') (numbered : s.Numbered) {channel : Channel}
    (current : s'.client.link.Current s'.task? channel) :
    s.client.link.Current s.task? channel := by
  rcases current with installed | ⟨id, t, ht, restoring⟩
  · rw [drift.link.1] at installed
    exact .inl installed
  · have part := Task.isPlain_of_owner? (Link.owner?_of_restoring? restoring)
    exact .inr ⟨id, t, drift.was numbered part ht, restoring⟩

theorem Watched.drift (watched : s.Watched history) (numbered : s.Numbered)
    (drift : s.Drifts move s') : s'.Watched (history ++ [⟨s, move, none⟩]) := by
  obtain ⟨link, lost⟩ := drift.link
  refine ⟨?_, ?_⟩
  · intro m hm channel reports
    rcases List.mem_append.1 hm with old | new
    · obtain ⟨hlost, hcount, gone⟩ := watched.reported m old channel reports
      have generation : s'.client.generation = s.client.generation :=
        congrArg Link.generation link
      refine ⟨lost _ hlost, generation ▸ hcount, fun id ht =>
        gone id (drift.was numbered rfl ht)⟩
    · obtain ⟨activity, hactivity, -⟩ := reports
      rw [List.mem_singleton.1 new] at hactivity
      exact nomatch hactivity
  · intro channel current
    rcases watched.covered channel (drift.current numbered current) with down | ⟨id, ht⟩ | overlooked
    · exact .inl ((congrArg Link.shutdown link).trans down)
    · exact .inr (.inl ⟨id, drift.stays numbered ht rfl⟩)
    · exact .inr (.inr (overlooked.append _))

theorem Watched.absorb {ready : System} {id : TaskId} {task : Task} {signal : Signal}
    (watched : s.Watched history) (numbered : s.Numbered) (sound : s.Sound)
    (h : s.Readies move id task signal ready) :
    (ready.absorb id (ready.client.resume ready.now id task signal)).Watched
      (history ++ [⟨s, move, some (ready.activity id task signal)⟩]) := by
  have shift := h.link ▸ shift_of_readies h
  have follows := h.follows numbered (ready.client.resume ready.now id task signal)
  refine ⟨?_, ?_⟩
  · intro m hm channel reports
    -- generations only grow, so no watcher of the channel is started again
    have no_later : channel.generation ≤ s.client.generation →
        (∀ other, other ≠ id → s.task? other ≠ some (.watching channel)) →
        ∀ other, (ready.absorb id (ready.client.resume ready.now id task signal)).task? other ≠
          some (.watching channel) := by
      intro counted gone other ht
      rcases follows.origin other _ ht with ⟨ne, before⟩ | ⟨-, goesOn⟩ | ⟨k, -, starts⟩
      · exact gone other ne before
      · exact shift.watching_next channel goesOn
      · obtain ⟨-, fresh, -⟩ := shift.watching_started starts
        exact Nat.not_succ_le_self _ (fresh ▸ counted)
    rcases List.mem_append.1 hm with old | new
    · obtain ⟨hlost, counted, gone⟩ := watched.reported m old channel reports
      exact ⟨h.lost ▸ hlost, Nat.le_trans counted shift.generation_le,
        no_later counted fun other _ => gone other⟩
    · obtain ⟨activity, hactivity, hbefore⟩ := reports
      rw [List.mem_singleton.1 new] at hactivity
      cases Option.some.inj hactivity
      obtain rfl : task = .watching channel := hbefore
      have counted := sound.counted id channel h.found
      refine ⟨h.lost ▸ ?_, Nat.le_trans counted shift.generation_le,
        no_later counted fun other ne ht => ne (sound.watched other id channel ht h.found)⟩
      cases h with
      | resume _ admitted =>
        cases signal with
        | lost => exact List.contains_iff_mem.1 admitted
        | _ => exact nomatch admitted
  · intro channel current
    rcases shift.current h.found follows current with before | fresh
    · rcases watched.covered channel before with down | ⟨other, ht⟩ | overlooked
      · exact .inl (shift.shutdown sound h.found before down)
      · by_cases ho : other = id
        · subst ho
          cases Option.some.inj (ht.symm.trans h.found)
          obtain ⟨gone, ends⟩ := shift.watching sound before
          rcases gone with down | uninstalled
          · exact .inl down
          · -- the channel is current without being installed, so an attempt was restoring it
            rcases current with installed | ⟨attempt, t, ht', restoring⟩
            · exact absurd installed uninstalled
            · have owner := Link.owner?_of_restoring? restoring
              rcases follows.origin attempt t ht' with ⟨-, old⟩ | ⟨-, goesOn⟩ | ⟨k, -, starts⟩
              · refine .inr (.inr ⟨_, List.mem_append_right _ (List.mem_singleton.2 rfl),
                  ⟨_, rfl, rfl⟩, ?_⟩)
                show s.client.channel ≠ some channel
                rw [show s.client.channel = none from (sound.locked attempt t old owner).2]
                exact fun installed => nomatch installed
              · exact absurd goesOn (ends t)
              · rw [shift.owner?_started (List.mem_of_getElem? starts)] at owner
                exact nomatch owner
        · exact .inr (.inl ⟨other, follows.others other _ ho ht⟩)
      · exact .inr (.inr (overlooked.append _))
    · exact .inr (.inl fresh)

end System

theorem Run.watched {settings : Settings} {history : List Moment} {s : System}
    (run : Run settings history s) : s.Watched history := by
  induction run with
  | start =>
    refine ⟨fun _ hm => (nomatch hm), ?_⟩
    intro channel current
    rcases current with installed | ⟨_, _, ht, _⟩
    · exact nomatch installed
    · exact nomatch ht
  | next run step ih =>
    rcases System.step_cases step with ⟨rfl, drift⟩ | ⟨id, task, signal, ready, h, rfl, rfl⟩
    · exact ih.drift run.numbered drift
    · exact ih.absorb run.numbered run.sound h

/-! ## Being on the way to a live session -/

/-- The client has a live session, or it will notice that it has not, or it is on its way to one. -/
def System.Tended (s : System) : Prop :=
  (∃ channel, s.client.channel = some channel ∧
    (channel.session ∉ s.lost ∨ ∃ id, s.task? id = some (.watching channel))) ∨
  (s.client.channel = none ∧ ∃ id t, s.task? id = some t ∧ (t.isLoop ∨ t.owner?.isSome))

/-- A client that is up is tended unless the loss of its session was taken note of before the session
    was installed, and then it is not. -/
theorem tended_iff_not_overlooked {settings : Settings} {history : List Moment} {s : System}
    (run : Run settings history s) (running : s.client.shutdown = false)
    (connected : s.client.everConnected = true) :
    s.Tended ↔ ∀ channel, s.client.channel = some channel → ¬ Overlooked history channel := by
  constructor
  · -- a watcher that has run does not run again
    rintro tended channel installed ⟨m, hm, reports, -⟩
    obtain ⟨lost, -, gone⟩ := run.watched.reported m hm channel reports
    rcases tended with ⟨current, hcurrent, alive | ⟨id, watching⟩⟩ | ⟨missing, -⟩
    · cases Option.some.inj (installed.symm.trans hcurrent)
      exact alive lost
    · cases Option.some.inj (installed.symm.trans hcurrent)
      exact gone id watching
    · exact nomatch missing.symm.trans installed
  · intro noticed
    cases hc : s.client.channel with
    | none =>
      have marked := run.sound.recovering running connected hc
      obtain ⟨id, t, ht, loop⟩ := run.sound.looping marked
      exact .inr ⟨hc, id, t, ht, .inl loop⟩
    | some channel =>
      rcases run.watched.covered channel (.inl hc) with down | watching | overlooked
      · exact absurd (running.symm.trans down) Bool.noConfusion
      · exact .inl ⟨channel, hc, .inr watching⟩
      · exact absurd overlooked (noticed channel hc)

/-- A client connects and loses its session, and the next one has taken the prefetch limit. -/
def recovering : List Move :=
  [.begin .connect, .resume 0 .turn, .connect 0, .resume 0 (.answered (.ok ())),
    .lose 1, .resume 1 .lost, .pass (.ofSeconds 1), .resume 2 .elapsed,
    .connect 2, .resume 2 (.answered (.ok ()))]

/-- The next session is restored by four declarations and installed, and then it is lost too. -/
def lossAfterRestore : List Move :=
  recovering ++ List.replicate 4 (.resume 2 (.answered (.ok ()))) ++ [.lose 2]

/-- A loss that the watcher has yet to notice is not overlooked. -/
theorem tended_iff_not_overlooked_lossAfterRestore : ∃ history s, Run bareSettings history s ∧
    s.client.shutdown = false ∧ s.client.everConnected = true ∧
      s.client.channel = some ⟨2, 2⟩ ∧ 2 ∈ s.lost ∧ s.Tended ∧ ¬ Overlooked history ⟨2, 2⟩ := by
  let e : Execution bareSettings := .ofMoves bareSettings lossAfterRestore rfl
  have installed : (e.system 15).client.channel = some ⟨2, 2⟩ := rfl
  have lost : (e.system 15).lost = [2, 1] := rfl
  have watching : (e.system 15).task? 3 = some (.watching ⟨2, 2⟩) := rfl
  have tended : (e.system 15).Tended := .inl ⟨_, installed, .inr ⟨3, watching⟩⟩
  have noticed := (tended_iff_not_overlooked (e.run 15) rfl rfl).1 tended
  exact ⟨_, _, e.run 15, rfl, rfl, installed, lost ▸ List.mem_cons_self, tended,
    noticed _ installed⟩

/-- The next session is lost while it is restored: the watcher runs at once, and then the four
    declarations succeed. -/
def lossDuringRestore : List Move :=
  recovering ++ [.lose 2, .resume 3 .lost] ++ List.replicate 4 (.resume 2 (.answered (.ok ())))

/-- A loss during a restore leaves a client that is connected to a dead session, with no task left
    that would replace it. -/
theorem stranded_of_lossDuringRestore : ∃ history s, Run bareSettings history s ∧
    s.client.shutdown = false ∧ s.client.everConnected = true ∧ s.client.state = .connected ∧
      s.tasks = [] ∧ ¬ s.Tended := by
  obtain ⟨history, s, run, rest⟩ := Run.exists_of_perform bareSettings lossDuringRestore
    (fun s => (s.client.shutdown = false ∧ s.client.everConnected = true ∧
      s.client.state = .connected) ∧ s.tasks.isEmpty ∧ s.client.channel = some ⟨2, 2⟩ ∧ 2 ∈ s.lost)
    rfl
  obtain ⟨⟨running, connected, state⟩, idle, installed, lost⟩ := of_decide_eq_true rest
  have none_left : s.tasks = [] := List.isEmpty_iff.1 idle
  have gone : ∀ id, s.task? id = none := fun id => by rw [System.task?, none_left]; rfl
  refine ⟨history, s, run, running, connected, state, none_left, ?_⟩
  rintro (⟨channel, current, alive | ⟨id, watching⟩⟩ | ⟨missing, -⟩)
  · cases Option.some.inj (installed.symm.trans current)
    exact alive lost
  · exact nomatch (gone id).symm.trans watching
  · exact nomatch missing.symm.trans installed

end Laneway.Broker
