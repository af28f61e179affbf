import Laneway.Proofs.Broker.Queue

set_option autoImplicit false

/-! # One loop at a time, and no faster than its pause

A reconnect loop is started by the watcher of a lost session, and only when none is marked as
running; it takes the mark back with its last step. So the mark tells of the one loop there is. A
loop sleeps before each of its attempts, also before the first one, and what it does after waking up
comes before its next sleep. That keeps the calls of the connector apart, also those of loops that
follow one another. -/

namespace Laneway.Broker

/-! ## What a step does to loops -/

namespace Link

variable {l l' : Link} {wake : Duration} {id : TaskId} {before : Task}
  {next : Except Ending Task} {started : List Task}

/-- A loop is started asleep, while none is marked as running. -/
theorem Shift.started_isLoop (h : Shift l wake id before l' next started) {k : Nat} {t : Task}
    (starts : started[k]? = some t) (loop : t.isLoop) :
    k = 0 ∧ t = .resting wake ∧ l.reconnecting = false ∧ l'.reconnecting = true := by
  have mem := List.mem_of_getElem? starts
  cases h with
  | rests _ _ plain | advances _ _ _ plain | installs _ _ _ plain =>
    exact absurd ((Task.isLoop_of_isPlain (plain t mem)).symm.trans loop) Bool.noConfusion
  | counts | opens =>
    rw [List.mem_singleton.1 mem] at loop
    exact nomatch loop
  | loses =>
    split at starts
    · exact nomatch starts
    · next unmarked =>
      have first := (List.getElem?_eq_some_iff.1 starts).1
      exact ⟨Nat.lt_one_iff.1 first, List.mem_singleton.1 (List.mem_of_getElem? starts),
        Bool.not_eq_true _ ▸ unmarked, rfl⟩
  | _ => exact nomatch starts

/-- The mark stays until the loop ends. -/
theorem Shift.keeps_mark (h : Shift l wake id before l' next started)
    (marked : l.reconnecting = true) :
    l'.reconnecting = true ∨ before.isLoop ∧ ∀ t, next ≠ .ok t := by
  have ended {owner : Owner} {l : Link} (marked : l.reconnecting = true)
      (ends : Concludes wake owner (.ok ()) next) (same : before.isLoop = decide (owner = .loop)) :
      (l.released owner (.ok ())).reconnecting = true ∨ before.isLoop ∧ ∀ t, next ≠ .ok t := by
    cases ends with
    | caller => exact .inl marked
    | succeeds => exact .inr ⟨same, fun _ h => nomatch h⟩
  cases h with
  | finds seeks _ _ ends => exact ended marked ends seeks.isLoop
  | opens attempt ends | installs attempt _ ends =>
    exact ended marked ends (Task.isLoop_of_owner? attempt)
  | unconfigured | fails => exact .inl ((reconnecting_released _ _ _).trans marked)
  | retires => exact .inr ⟨rfl, fun _ h => nomatch h⟩
  | loses => exact .inl rfl
  | _ => exact .inl marked

/-- A loop that seeks the lock after a step has just gone to sleep, or was seeking it before. -/
theorem Shift.seeks_next (h : Shift l wake id before l' next started) {t : Task} (ht : next = .ok t)
    (seeks : t.Seeks .loop) : t = .resting wake ∨ t = .locking .loop ∧ before.Seeks .loop := by
  cases h with
  | rests _ goesOn | closes _ goesOn =>
    exact absurd ((Task.isLoop_of_isPlain (goesOn t ht)).symm.trans seeks.isLoop) Bool.noConfusion
  | queues waits =>
    cases ht
    cases seeks
    exact .inr ⟨rfl, waits⟩
  | finds _ _ _ ends | unconfigured _ _ _ ends | opens _ ends | installs _ _ ends | fails _ ends =>
    exact .inl (ends.resting ht)
  | advances _ goesOn | counts _ goesOn =>
    cases ht
    exact nomatch seeks.owner.symm.trans goesOn
  | connects | reconnects =>
    cases ht
    exact nomatch seeks
  | _ => exact nomatch ht

end Link

/-! ## One loop -/

/-- The mark of a running loop and the loops there are: none without the mark, and one at most. -/
structure Link.Single (l : Link) (tasks : TaskId → Option Task) : Prop where
  marked : ∀ id t, tasks id = some t → t.isLoop → l.reconnecting = true
  one : ∀ id other t u, tasks id = some t → t.isLoop → tasks other = some u → u.isLoop → id = other

namespace Link

variable {l l' : Link} {wake : Duration} {id : TaskId} {before : Task}
  {next : Except Ending Task} {started : List Task}

theorem Single.shift {tasks tasks' : TaskId → Option Task} {first : TaskId}
    (single : l.Single tasks) (shift : Shift l wake id before l' next started)
    (found : tasks id = some before)
    (follows : System.Follows tasks first id next started tasks') : l'.Single tasks' := by
  -- a loop after the step was there before it, or is the one that was started
  have origin (other : TaskId) (t : Task) (ht : tasks' other = some t) (loop : t.isLoop) :
      (∃ u, tasks other = some u ∧ u.isLoop ∧ l'.reconnecting = true) ∨
        other = first ∧ l.reconnecting = false ∧ l'.reconnecting = true := by
    rcases follows.origin other t ht with ⟨ne, old⟩ | ⟨rfl, goesOn⟩ | ⟨k, rfl, starts⟩
    · rcases shift.keeps_mark (single.marked other t old loop) with marked | ⟨ended, -⟩
      · exact .inl ⟨t, old, loop, marked⟩
      · exact absurd (single.one other id t before old loop found ended) ne
    · have was := shift.isLoop_before goesOn loop
      rcases shift.keeps_mark (single.marked other before found was) with marked | ⟨-, ended⟩
      · exact .inl ⟨before, found, was, marked⟩
      · exact absurd goesOn (ended t)
    · obtain ⟨rfl, -, unmarked, marked⟩ := shift.started_isLoop starts loop
      exact .inr ⟨rfl, unmarked, marked⟩
  constructor
  · intro other t ht loop
    rcases origin other t ht loop with ⟨-, -, -, marked⟩ | ⟨-, -, marked⟩ <;> exact marked
  · intro one other t u ht first hu second
    rcases origin one t ht first with ⟨t', old, was, -⟩ | ⟨rfl, unmarked, -⟩
    · rcases origin other u hu second with ⟨u', old', was', -⟩ | ⟨-, unmarked, -⟩
      · exact single.one one other t' u' old was old' was'
      · exact absurd ((single.marked one t' old was).symm.trans unmarked) Bool.noConfusion
    · rcases origin other u hu second with ⟨u', old', was', -⟩ | ⟨rfl, -, -⟩
      · exact absurd ((single.marked other u' old' was').symm.trans unmarked) Bool.noConfusion
      · rfl

end Link

theorem Run.single {settings : Settings} {history : List Moment} {s : System}
    (run : Run settings history s) : s.client.link.Single s.task? := by
  induction run with
  | start => exact ⟨fun _ _ ht => (nomatch ht), fun _ _ _ _ ht => nomatch ht⟩
  | next run step ih =>
    rcases System.step_cases step with ⟨-, drift⟩ | ⟨id, task, signal, ready, h, rfl, -⟩
    · constructor
      · intro id t ht loop
        have was := drift.was run.numbered (Task.isPlain_of_isLoop loop) ht
        rw [drift.link.1]
        exact ih.marked id t was loop
      · intro id other t u ht first hu second
        have was := drift.was run.numbered (Task.isPlain_of_isLoop first) ht
        have was' := drift.was run.numbered (Task.isPlain_of_isLoop second) hu
        exact ih.one id other t u was first was' second
    · exact ih.shift (h.link ▸ shift_of_readies h) h.found (h.follows run.numbered _)

/-! ## The pause -/

/-- A loop begins to call the connector in this moment. -/
def Moment.Dials (m : Moment) : Prop :=
  ∃ activity restoring, m.activity = some activity ∧ activity.next = .ok (.opening .loop restoring)

/-- The time from which on a loop that seeks the lock may go on: at once, unless it sleeps. -/
def Task.earliest (now : Duration) : Task → Duration
  | .resting due => due
  | _ => now

section

variable {s ready : System} {move : Move} {id : TaskId} {task : Task} {signal : Signal}

theorem System.Readies.now (h : s.Readies move id task signal ready) : ready.now = s.now := by
  cases h <;> rfl

/-- No timer fires early. -/
theorem System.Readies.earliest_le (h : s.Readies move id task signal ready)
    (seeks : task.Seeks .loop) : (task.earliest s.now).nanoseconds ≤ s.now.nanoseconds := by
  cases seeks with
  | locking => exact Nat.le_refl _
  | resting due =>
    cases h with
    | resume _ admitted =>
      cases signal with
      | elapsed => exact of_decide_eq_true admitted
      | _ => exact nomatch admitted

/-- The loop that calls the connector has sought the lock before. -/
theorem System.Readies.seeks_of_dials (h : s.Readies move id task signal ready)
    (dials : Moment.Dials ⟨s, move, some (ready.activity id task signal)⟩) : task.Seeks .loop := by
  obtain ⟨_, restoring, same, opening⟩ := dials
  cases same
  have attempts := Client.attempts_of_transition (Client.transition_of_readies h) opening rfl
  cases attempts with
  | opens seeks => exact seeks

theorem Task.earliest_mono {now later : Duration} (le : now.nanoseconds ≤ later.nanoseconds)
    (t : Task) : (t.earliest now).nanoseconds ≤ (t.earliest later).nanoseconds := by
  cases t with
  | resting => exact Nat.le_refl _
  | _ => exact le

theorem System.now_le_step {s' : System} {activity : Option Activity}
    (step : s.step move = some (s', activity)) : s.now.nanoseconds ≤ s'.now.nanoseconds := by
  rcases System.step_cases step with ⟨-, drift⟩ | ⟨id, task, signal, ready, h, rfl, -⟩
  · cases drift with
    | pass => exact Nat.le_add_right _ _
    | _ => exact Nat.le_refl _
  · exact Nat.le_of_eq (congrArg Duration.nanoseconds h.now.symm)

end

section

variable {settings : Settings} {history : List Moment} {s : System}

/-- No moment of a history is later than the state it has led to. -/
theorem Run.past (run : Run settings history s) :
    ∀ m ∈ history, m.system.now.nanoseconds ≤ s.now.nanoseconds := by
  induction run with
  | start => exact fun _ hm => nomatch hm
  | next run step ih =>
    have later := System.now_le_step step
    intro m hm
    rcases List.mem_append.1 hm with old | new
    · exact Nat.le_trans (ih m old) later
    · rw [List.mem_singleton.1 new]
      exact later

/-- A loop that goes to sleep in a step wakes up a pause later. -/
theorem Run.wakeUp (run : Run settings history s) {ready : System} {move : Move} {id : TaskId}
    {task : Task} {signal : Signal} (h : s.Readies move id task signal ready) :
    (ready.client.wakeUp ready.now).nanoseconds =
      s.now.nanoseconds + settings.reconnectDelay.nanoseconds := by
  have kept : ready.client.settings = settings :=
    (congrArg Client.settings h.client).trans run.settings
  rw [Client.wakeUp, kept, h.now]

/-- A loop that seeks the lock after a step has just gone to sleep for a pause, or sought it before;
    the task that went on has queued for it then. -/
theorem Run.sought (run : Run settings history s) {ready : System} {move : Move} {id : TaskId}
    {task : Task} {signal : Signal} (h : s.Readies move id task signal ready) {other : TaskId}
    {t : Task} (ht : (ready.absorb id
      (ready.client.resume ready.now id task signal)).task? other = some t)
    (seeks : t.Seeks .loop) :
    (t.earliest s.now).nanoseconds = s.now.nanoseconds + settings.reconnectDelay.nanoseconds ∨
      ∃ u, s.task? other = some u ∧ u.Seeks .loop ∧
        (u.earliest s.now).nanoseconds ≤ (t.earliest s.now).nanoseconds ∧
          (other = id → (ready.client.resume ready.now id task signal).next =
            .ok (.locking .loop)) := by
  have shift := shift_of_readies h
  rcases (h.follows run.numbered _).origin other t ht with
    ⟨ne, old⟩ | ⟨rfl, goesOn⟩ | ⟨k, -, starts⟩
  · exact .inr ⟨t, old, seeks, Nat.le_refl _, fun same => absurd same ne⟩
  · rcases shift.seeks_next goesOn seeks with rfl | ⟨rfl, sought⟩
    · exact .inl (run.wakeUp h)
    · exact .inr ⟨task, h.found, sought, h.earliest_le sought, fun _ => goesOn⟩
  · obtain ⟨-, rfl, -⟩ := shift.started_isLoop starts seeks.isLoop
    exact .inl (run.wakeUp h)

/-- A loop that seeks the lock may not go on before a pause has passed since the last call of the
    connector by a loop. -/
theorem Run.paced (run : Run settings history s) :
    ∀ m ∈ history, m.Dials → ∀ id t, s.task? id = some t → t.Seeks .loop →
      m.system.now.nanoseconds + settings.reconnectDelay.nanoseconds ≤
        (t.earliest s.now).nanoseconds := by
  induction run with
  | start => exact fun _ hm => nomatch hm
  | @next history s s' move activity run step ih =>
    intro m hm dials other t ht seeks
    refine Nat.le_trans ?_ (t.earliest_mono (System.now_le_step step))
    rcases System.step_cases step with ⟨rfl, drift⟩ | ⟨id, task, signal, ready, h, rfl, rfl⟩
    · have was := drift.was run.numbered (Task.isPlain_of_isLoop seeks.isLoop) ht
      rcases List.mem_append.1 hm with before | now
      · exact ih m before dials other t was seeks
      · cases List.mem_singleton.1 now
        obtain ⟨_, -, none, -⟩ := dials
        exact nomatch none
    · rcases List.mem_append.1 hm with before | now
      · rcases run.sought h ht seeks with asleep | ⟨u, hu, sought, later, -⟩
        · rw [asleep]
          exact Nat.add_le_add_right (run.past m before) _
        · exact Nat.le_trans (ih m before dials other u hu sought) later
      · cases List.mem_singleton.1 now
        rcases run.sought h ht seeks with asleep | ⟨u, hu, sought, -, queued⟩
        · exact Nat.le_of_eq asleep.symm
        · -- the loop that calls is the only one, and it has not queued
          have caller := h.seeks_of_dials dials
          have same := run.single.one other id u task hu sought.isLoop h.found caller.isLoop
          obtain ⟨_, restoring, activity, opening⟩ := dials
          cases activity
          exact nomatch (queued same).symm.trans opening

/-- Between two calls of the connector by loops there is a pause. -/
theorem Run.apart {earlier later : List Moment} {m n : Moment}
    (run : Run settings (earlier ++ n :: later) s) (hm : m ∈ earlier) (first : m.Dials)
    (second : n.Dials) : m.system.now.nanoseconds + settings.reconnectDelay.nanoseconds ≤
      n.system.now.nanoseconds := by
  obtain ⟨before, s', step⟩ := run.split
  obtain ⟨before_n, move, activity⟩ := n
  rcases System.step_cases step with ⟨rfl, -⟩ | ⟨id, task, signal, ready, h, -, rfl⟩
  · obtain ⟨_, -, none, -⟩ := second
    exact nomatch none
  · have sought := h.seeks_of_dials second
    exact Nat.le_trans (before.paced m hm first id task h.found sought) (h.earliest_le sought)

/-- Reconnecting is single and paced. There is one reconnect loop at most, and the mark is set
    exactly while there is one; one call of the connector at most is in flight, whoever has made it;
    and between the calls that loops make there is always the pause. -/
theorem single_paced_reconnection (run : Run settings history s) :
    (∀ id other t u, s.task? id = some t → t.isLoop → s.task? other = some u → u.isLoop →
        id = other) ∧
      (s.client.reconnecting = true ↔ ∃ id t, s.task? id = some t ∧ t.isLoop) ∧
      (∀ id other owner owner' restoring restoring', s.task? id = some (.opening owner restoring) →
        s.task? other = some (.opening owner' restoring') → id = other) ∧
      ∀ earlier m between n later, history = earlier ++ m :: (between ++ n :: later) →
        m.Dials → n.Dials →
          m.system.now.nanoseconds + settings.reconnectDelay.nanoseconds ≤
            n.system.now.nanoseconds := by
  have single := run.single
  refine ⟨single.one, ⟨run.sound.looping, ?_⟩, ?_, ?_⟩
  · rintro ⟨id, t, ht, loop⟩
    exact single.marked id t ht loop
  · intro id other owner owner' restoring restoring' ht hu
    exact run.sound.same_attempt ht rfl hu rfl
  · rintro earlier m between n later rfl first second
    have run : Run settings ((earlier ++ m :: between) ++ n :: later) s := by simpa using run
    exact run.apart (List.mem_append_right _ List.mem_cons_self) first second

end

/-- A client loses its session, reconnects after a pause, and loses the next session at once. -/
def lossAfterLoss : List Move :=
  [.begin .connect, .resume 0 .turn, .connect 0, .resume 0 (.answered (.ok ())), .lose 1,
    .resume 1 .lost, .pass (.ofSeconds 1), .resume 2 .elapsed, .connect 2,
    .resume 2 (.answered (.ok ())), .resume 2 (.answered (.ok ())), .resume 2 (.answered (.ok ())),
    .resume 2 (.answered (.ok ())), .resume 2 (.answered (.ok ())), .lose 2, .resume 3 .lost,
    .pass (.ofSeconds 1), .resume 4 .elapsed]

/-- Another loop than the one that has reconnected calls the connector a second after it. -/
theorem single_paced_reconnection_lossAfterLoss : ∃ earlier m between n s,
    Run bareSettings (earlier ++ m :: (between ++ [n])) s ∧ m.Dials ∧ n.Dials ∧
      m.activity.map Activity.id = some 2 ∧ n.activity.map Activity.id = some 4 ∧
        m.system.now.nanoseconds + 1000000000 ≤ n.system.now.nanoseconds := by
  let e : Execution bareSettings := .ofMoves bareSettings lossAfterLoss rfl
  let moment (i : Nat) : Moment := ⟨e.system i, e.move i, e.activity i⟩
  have parts : e.history 18 =
      e.history 7 ++ moment 7 :: ((List.range 9).map (fun i => moment (8 + i)) ++ [moment 17]) := by
    rw [show 18 = 7 + 11 from rfl, e.history_add]
    rfl
  have run := parts ▸ e.run 18
  have first : (moment 7).Dials := ⟨_, _, rfl, rfl⟩
  have second : (moment 17).Dials := ⟨_, _, rfl, rfl⟩
  obtain ⟨-, -, -, apart⟩ := single_paced_reconnection run
  exact ⟨_, _, _, _, _, run, first, second, rfl, rfl, apart _ _ _ _ [] rfl first second⟩

end Laneway.Broker
