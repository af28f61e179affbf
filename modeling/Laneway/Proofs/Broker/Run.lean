import Laneway.Broker.System
import Laneway.Entries
import Laneway.Proofs.History

set_option autoImplicit false

/-! # Runs of the client

A run is what a client does from its creation on, whatever its callers, the broker and the clock do
meanwhile. Callers begin operations and may give them up midway; the connector, the broker and the
streams answer as they please and as late as they please; connections are lost at any moment; a
timer fires at its time or later. `System.step` is one such move, and the history of a run keeps
every move with the state it was made in. -/

namespace Laneway.Broker

/-! ## Kinds of tasks -/

/-- Whose connection attempt the answer to a call is for. -/
def After.owner? : After → Option Owner
  | .limited owner _ | .restored owner _ _ | .attached owner _ _ _ | .abandoned owner _ =>
    some owner
  | _ => none

/-- Whose connection attempt a task is in the middle of. It holds the connect lock then. -/
def Task.owner? : Task → Option Owner
  | .opening owner _ => some owner
  | .calling _ _ after => after.owner?
  | _ => none

/-- A reconnect loop between its start and its end. -/
def Task.isLoop : Task → Bool
  | .resting _ => true
  | .locking owner => owner = .loop
  | task => task.owner? = some .loop

/-- An operation that its caller runs and can give up. -/
def Task.isOperation : Task → Bool
  | .begin _ | .observing _ => true
  | .locking owner | .opening owner _ => owner = .caller
  | .calling _ _ (.handled _ _) => false
  | .calling _ _ after => after.owner? ≠ some .loop
  | _ => false

/-! ## Moves -/

/-- A move of a caller, of a task or of the world. -/
inductive Move where
  /-- A caller begins an operation. -/
  | begin (operation : Operation)
  /-- A task goes on. -/
  | resume (id : TaskId) (signal : Signal)
  /-- The connector answers a task with a new session. -/
  | connect (id : TaskId)
  /-- A message arrives on the stream of a task. -/
  | deliver (id : TaskId) (delivery : Delivery)
  /-- A caller makes a delivery that belongs to no session. -/
  | forge (delivery : Delivery)
  /-- The connection of a session is lost. -/
  | lose (session : SessionId)
  /-- A caller gives up an operation. -/
  | cancel (id : TaskId)
  /-- Time passes. -/
  | pass (span : Duration)

namespace System

/-- Whether a task can go on with a signal now. Sessions and deliveries come with moves of their
    own. -/
def admits (s : System) (id : TaskId) : Task → Signal → Bool
  | .begin _, .turn | .invoking _ _, .turn | .judging _ _, .turn | .observing _, .turn => true
  | .locking _, .granted => s.client.lock.head? = some id
  | .opening _ _, .opened (.error _) => true
  | .calling _ _ _, .answered _ => true
  | .resting due, .elapsed => due.nanoseconds ≤ s.now.nanoseconds
  | .sleeping _ due _, .elapsed => due.nanoseconds ≤ s.now.nanoseconds
  | .watching channel, .lost => s.lost.contains channel.session
  | .streaming _ _, .streamEnded => true
  | .holding _ _, .released _ => true
  | _, _ => false

/-- Whether a caller can begin an operation: only a delivery it holds can be settled. -/
def allows (s : System) : Operation → Bool
  | .settle delivery _ => delivery < s.client.deliveries.length
  | _ => true

/-- One move, if it is possible, and what the task that went on did. -/
def step (s : System) : Move → Option (System × Option Activity)
  | .begin operation =>
    if s.allows operation then some (s.start [.begin operation], none) else none
  | .resume id signal =>
    if (s.task? id).any (s.admits id · signal) then
      (s.resume id signal).map fun (s, activity) => (s, some activity)
    else none
  | .connect id => match s.task? id with
    | some (.opening _ _) =>
      let (s, session) := s.openSession
      (s.resume id (.opened (.ok session))).map fun (s, activity) => (s, some activity)
    | _ => none
  | .deliver id delivery => match s.task? id with
    | some (.streaming session _) =>
      let (s, number) := s.receive { delivery with session := some session }
      (s.resume id (.arrived number)).map fun (s, activity) => (s, some activity)
    | _ => none
  | .forge delivery => some ((s.receive { delivery with session := none }).1, none)
  | .lose session =>
    if 0 < session ∧ session ≤ s.sessions then some (s.lose session, none) else none
  | .cancel id =>
    if (s.task? id).any Task.isOperation then some (s.cancel id, none) else none
  | .pass span =>
    some ({ s with now := ⟨s.now.nanoseconds + span.nanoseconds⟩ }, none)

/-! ## What a move does -/

/-- What a task does when it goes on with a signal. -/
def activity (s : System) (id : TaskId) (before : Task) (signal : Signal) : Activity :=
  let reaction := s.client.resume s.now id before signal
  ⟨id, before, signal, reaction.next, number s.nextTask reaction.started, reaction.settlements⟩

/-- The move lets a task go on with a signal, in the state `ready`. -/
inductive Readies (s : System) : Move → TaskId → Task → Signal → (ready : System) → Prop
  | resume {id : TaskId} {task : Task} {signal : Signal} (found : s.task? id = some task)
      (admitted : s.admits id task signal) : Readies s (.resume id signal) id task signal s
  | connect {id : TaskId} {owner : Owner} {restoring : Bool}
      (found : s.task? id = some (.opening owner restoring)) :
      Readies s (.connect id) id (.opening owner restoring) (.opened (.ok (s.sessions + 1)))
        s.openSession.1
  | deliver {id : TaskId} {session : SessionId} {registration : Registration}
      (delivery : Delivery) (found : s.task? id = some (.streaming session registration)) :
      Readies s (.deliver id delivery) id (.streaming session registration)
        (.arrived s.client.deliveries.length)
        (s.receive { delivery with session := some session }).1

/-- The move leads to a state without any task going on. -/
inductive Drifts (s : System) : Move → System → Prop
  | begin (operation : Operation) (allowed : s.allows operation) :
      Drifts s (.begin operation) (s.start [.begin operation])
  | forge (delivery : Delivery) :
      Drifts s (.forge delivery) (s.receive { delivery with session := none }).1
  | lose {session : SessionId} (pos : 0 < session) (le : session ≤ s.sessions) :
      Drifts s (.lose session) (s.lose session)
  | cancel {id : TaskId} {task : Task} (found : s.task? id = some task)
      (operation : task.isOperation) : Drifts s (.cancel id) (s.cancel id)
  | pass (span : Duration) :
      Drifts s (.pass span) { s with now := ⟨s.now.nanoseconds + span.nanoseconds⟩ }

theorem resume_of_task? {s : System} {id : TaskId} {task : Task} (found : s.task? id = some task)
    (signal : Signal) :
    s.resume id signal = some
      (s.absorb id (s.client.resume s.now id task signal), s.activity id task signal) := by
  simp only [resume, found, Option.map_some]
  rfl

/-- Everything a move can do. -/
theorem step_cases {s s' : System} {move : Move} {activity : Option Activity}
    (h : s.step move = some (s', activity)) :
    (activity = none ∧ s.Drifts move s') ∨
    ∃ id task signal ready, s.Readies move id task signal ready ∧
      s' = ready.absorb id (ready.client.resume ready.now id task signal) ∧
      activity = some (ready.activity id task signal) := by
  cases move with
  | begin operation =>
    simp only [step] at h
    split at h
    · next allowed =>
      obtain ⟨rfl, rfl⟩ : s.start [.begin operation] = s' ∧ none = activity := by simpa using h
      exact .inl ⟨rfl, .begin operation allowed⟩
    · exact nomatch h
  | resume id signal =>
    simp only [step, Option.any_eq_true_iff_get] at h
    split at h
    · next ready =>
      obtain ⟨some_task, admitted⟩ := ready
      obtain ⟨task, found⟩ := Option.isSome_iff_exists.1 some_task
      simp only [found, Option.get_some] at admitted
      rw [resume_of_task? found, Option.map_some, Option.some.injEq, Prod.mk.injEq] at h
      obtain ⟨rfl, rfl⟩ := h
      exact .inr ⟨id, task, signal, s, .resume found admitted, rfl, rfl⟩
    · exact nomatch h
  | connect id =>
    simp only [step] at h
    split at h
    · next owner restoring found =>
      -- the task that goes on is looked up once the session is open
      have opened : s.openSession.1.task? id = some (.opening owner restoring) := found
      change (s.openSession.1.resume id (.opened (.ok (s.sessions + 1)))).map _ = _ at h
      rw [resume_of_task? opened, Option.map_some, Option.some.injEq, Prod.mk.injEq] at h
      obtain ⟨rfl, rfl⟩ := h
      exact .inr ⟨id, _, _, _, .connect found, rfl, rfl⟩
    · exact nomatch h
  | deliver id delivery =>
    simp only [step] at h
    split at h
    · next session registration found =>
      have received : (s.receive { delivery with session := some session }).1.task? id =
          some (.streaming session registration) := found
      change ((s.receive { delivery with session := some session }).1.resume id
        (.arrived s.client.deliveries.length)).map _ = _ at h
      rw [resume_of_task? received, Option.map_some, Option.some.injEq, Prod.mk.injEq] at h
      obtain ⟨rfl, rfl⟩ := h
      exact .inr ⟨id, _, _, _, .deliver delivery found, rfl, rfl⟩
    · exact nomatch h
  | forge delivery =>
    obtain ⟨rfl, rfl⟩ : (s.receive { delivery with session := none }).1 = s' ∧ none = activity := by
      simpa [step] using h
    exact .inl ⟨rfl, .forge delivery⟩
  | lose session =>
    simp only [step] at h
    split at h
    · next opened =>
      obtain ⟨rfl, rfl⟩ : s.lose session = s' ∧ none = activity := by simpa using h
      exact .inl ⟨rfl, .lose opened.1 opened.2⟩
    · exact nomatch h
  | cancel id =>
    simp only [step, Option.any_eq_true_iff_get] at h
    split at h
    · next ready =>
      obtain ⟨some_task, operation⟩ := ready
      obtain ⟨task, found⟩ := Option.isSome_iff_exists.1 some_task
      simp only [found, Option.get_some] at operation
      obtain ⟨rfl, rfl⟩ : s.cancel id = s' ∧ none = activity := by simpa using h
      exact .inl ⟨rfl, .cancel found operation⟩
    · exact nomatch h
  | pass span =>
    obtain ⟨rfl, rfl⟩ :
        { s with now := ⟨s.now.nanoseconds + span.nanoseconds⟩ } = s' ∧ none = activity := by
      simpa [step] using h
    exact .inl ⟨rfl, .pass span⟩

section Readies

variable {s ready : System} {move : Move} {id : TaskId} {task : Task} {signal : Signal}

/-- A move that lets a task go on changes nothing before that but the count of sessions and the
    list of deliveries. -/
theorem Readies.client (h : s.Readies move id task signal ready) :
    ready.client = { s.client with deliveries := ready.client.deliveries } := by
  cases h <;> rfl

theorem Readies.task? (h : s.Readies move id task signal ready) : ready.task? = s.task? := by
  cases h <;> rfl

theorem Readies.nextTask (h : s.Readies move id task signal ready) :
    ready.nextTask = s.nextTask := by
  cases h <;> rfl

theorem Readies.lost (h : s.Readies move id task signal ready) : ready.lost = s.lost := by
  cases h <;> rfl

theorem Readies.found (h : s.Readies move id task signal ready) : s.task? id = some task := by
  cases h with
  | resume found _ => exact found
  | connect found => exact found
  | deliver _ found => exact found

/-- The connector numbers its sessions one after another. -/
theorem Readies.sessions (h : s.Readies move id task signal ready) :
    s.sessions ≤ ready.sessions ∧ ∀ id, move = .connect id → ready.sessions = s.sessions + 1 := by
  cases h with
  | connect => exact ⟨Nat.le_succ _, fun _ _ => rfl⟩
  | resume | deliver => exact ⟨Nat.le_refl _, fun _ h => nomatch h⟩

end Readies

/-! ## Tasks by number -/

/-- Every task has been given its number. -/
def Numbered (s : System) : Prop := ∀ id, s.nextTask ≤ id → s.task? id = none

theorem Numbered.lt {s : System} (h : s.Numbered) {id : TaskId} {task : Task}
    (found : s.task? id = some task) : id < s.nextTask := by
  refine Nat.lt_of_not_le ?_
  intro hge
  rw [h id hge] at found
  exact nomatch found

theorem Readies.numbered {s ready : System} {move : Move} {id : TaskId} {task : Task}
    {signal : Signal} (h : s.Readies move id task signal ready) (numbered : s.Numbered) :
    ready.Numbered := by
  intro other hle
  rw [h.task?]
  exact numbered other (h.nextTask ▸ hle)

theorem lookup_number (tasks : List Task) (next id : Nat) :
    (number next tasks).lookup id = if next ≤ id then tasks[id - next]? else none := by
  induction tasks generalizing next with
  | nil => simp [number]
  | cons task rest ih =>
    rw [number, List.lookup_cons]
    by_cases h : id = next
    · subst h
      simp
    · have hne : (id == next) = false := by simpa using h
      simp only [hne, ih]
      by_cases hle : next ≤ id
      · obtain ⟨k, rfl⟩ := Nat.exists_eq_add_of_lt (Nat.lt_of_le_of_ne hle (Ne.symm h))
        rw [if_pos (by omega), if_pos hle, show next + k + 1 - next = k + 1 by omega,
          show next + k + 1 - (next + 1) = k by omega, List.getElem?_cons_succ]
      · rw [if_neg (by omega), if_neg hle]

theorem lookup_replace (tasks : List (TaskId × Task)) (id other : TaskId)
    (next : Except Ending Task) (found : (tasks.lookup id).isSome) :
    (replace tasks id next).lookup other =
      if other = id then next.toOption else tasks.lookup other := by
  cases next with
  | error ending => exact lookup_filter_ne tasks id other
  | ok task =>
    obtain ⟨old, hold⟩ := Option.isSome_iff_exists.1 found
    rw [replace, lookup_map_replace, hold]
    rfl

/-- The tasks after a step: the task itself goes on or has ended, the others stay, and the started
    ones get the next numbers. -/
theorem task?_absorb {s : System} (numbered : s.Numbered) {id : TaskId} {task : Task}
    (found : s.task? id = some task) (reaction : Reaction) (other : TaskId) :
    (s.absorb id reaction).task? other =
      if other = id then reaction.next.toOption
      else if other < s.nextTask then s.task? other
      else reaction.started[other - s.nextTask]? := by
  have hid : id < s.nextTask := numbered.lt found
  have hsome : (s.tasks.lookup id).isSome := by rw [show s.tasks.lookup id = some task from found]; rfl
  show (replace s.tasks id reaction.next ++ number s.nextTask reaction.started).lookup other = _
  rw [List.lookup_append, lookup_replace _ _ _ _ hsome, lookup_number]
  by_cases ho : other = id
  · have hle : ¬ s.nextTask ≤ id := Nat.not_le_of_lt hid
    rw [ho, if_pos rfl, if_pos rfl, if_neg hle, Option.or_none]
  · rw [if_neg ho, if_neg ho]
    by_cases hlt : other < s.nextTask
    · rw [if_neg (Nat.not_le_of_lt hlt), if_pos hlt, Option.or_none]
      rfl
    · have hnone : s.tasks.lookup other = none := numbered other (Nat.le_of_not_lt hlt)
      rw [if_pos (Nat.le_of_not_lt hlt), if_neg hlt, hnone, Option.none_or]

theorem task?_absorb_self {s : System} (numbered : s.Numbered) {id : TaskId} {task : Task}
    (found : s.task? id = some task) (reaction : Reaction) :
    (s.absorb id reaction).task? id = reaction.next.toOption := by
  rw [task?_absorb numbered found, if_pos rfl]

/-- A step that starts no task leaves all other tasks as they were. -/
theorem task?_absorb_of_ne {s : System} (numbered : s.Numbered) {id : TaskId} {task : Task}
    (found : s.task? id = some task) {reaction : Reaction} (quiet : reaction.started = [])
    {other : TaskId} (ne : other ≠ id) : (s.absorb id reaction).task? other = s.task? other := by
  rw [task?_absorb numbered found, if_neg ne, quiet]
  split
  · rfl
  · next ge => exact (numbered other (Nat.le_of_not_lt ge)).symm

theorem task?_start {s : System} (numbered : s.Numbered) (task : Task) (other : TaskId) :
    (s.start [task]).task? other = if other = s.nextTask then some task else s.task? other := by
  show (s.tasks ++ number s.nextTask [task]).lookup other = _
  rw [List.lookup_append, lookup_number]
  by_cases ho : other = s.nextTask
  · have hnone : s.tasks.lookup s.nextTask = none := numbered s.nextTask (Nat.le_refl _)
    simp [ho, hnone]
  · rw [if_neg ho]
    by_cases hlt : other < s.nextTask
    · rw [if_neg (Nat.not_le_of_lt hlt), Option.or_none]
      rfl
    · have hgt : s.nextTask < other := Nat.lt_of_le_of_ne (Nat.le_of_not_lt hlt) (Ne.symm ho)
      have hnone : [task][other - s.nextTask]? = none := by
        rw [List.getElem?_eq_none]
        exact Nat.sub_pos_of_lt hgt
      rw [if_pos (Nat.le_of_lt hgt), hnone, Option.or_none]
      rfl

theorem task?_cancel (s : System) (id other : TaskId) :
    (s.cancel id).task? other = if other = id then none else s.task? other :=
  lookup_filter_ne s.tasks id other

/-- What holds of every task after a step: it held of the other tasks before, and it holds of where
    the task goes on and of the tasks it started. -/
theorem forall_task?_absorb {s : System} (numbered : s.Numbered) {id : TaskId} {task : Task}
    (found : s.task? id = some task) (reaction : Reaction) {P : TaskId → Task → Prop}
    (others : ∀ other t, other ≠ id → s.task? other = some t → P other t)
    (next : ∀ t, reaction.next = .ok t → P id t)
    (started : ∀ k t, reaction.started[k]? = some t → P (s.nextTask + k) t) :
    ∀ other t, (s.absorb id reaction).task? other = some t → P other t := by
  intro other t ht
  rw [task?_absorb numbered found] at ht
  split at ht
  · next ho =>
    subst ho
    cases hn : reaction.next with
    | ok u =>
      rw [hn] at ht
      exact next t (hn.trans (congrArg _ (Option.some.inj ht)))
    | error ending =>
      rw [hn] at ht
      exact nomatch ht
  · next ho =>
    split at ht
    · exact others other t ho ht
    · next hlt =>
      have hsub : s.nextTask + (other - s.nextTask) = other :=
        Nat.add_sub_cancel' (Nat.le_of_not_lt hlt)
      rw [← hsub]
      exact started _ t ht

/-- The tasks `tasks'` are the tasks `tasks` after a step of the task `id`: the task itself goes on
    or has ended, the others stay, and the started ones are numbered from `first`. -/
structure Follows (tasks : TaskId → Option Task) (first id : TaskId) (next : Except Ending Task)
    (started : List Task) (tasks' : TaskId → Option Task) : Prop where
  others : ∀ other t, other ≠ id → tasks other = some t → tasks' other = some t
  goesOn : ∀ t, next = .ok t → tasks' id = some t
  starts : ∀ k t, started[k]? = some t → tasks' (first + k) = some t
  origin : ∀ other t, tasks' other = some t →
    (other ≠ id ∧ tasks other = some t) ∨ (other = id ∧ next = .ok t) ∨
      ∃ k, other = first + k ∧ started[k]? = some t

theorem follows_absorb {s : System} (numbered : s.Numbered) {id : TaskId} {task : Task}
    (found : s.task? id = some task) (reaction : Reaction) :
    Follows s.task? s.nextTask id reaction.next reaction.started (s.absorb id reaction).task? where
  others other t ne ht := by
    rw [task?_absorb numbered found, if_neg ne, if_pos (numbered.lt ht), ht]
  goesOn t ht := by
    rw [task?_absorb numbered found, if_pos rfl, ht]
    rfl
  starts k t ht := by
    have hid : id < s.nextTask := numbered.lt found
    have hne : s.nextTask + k ≠ id :=
      Nat.ne_of_gt (Nat.lt_of_lt_of_le hid (Nat.le_add_right _ _))
    rw [task?_absorb numbered found, if_neg hne, if_neg (Nat.not_lt_of_le (Nat.le_add_right _ _)),
      Nat.add_sub_cancel_left, ht]
  origin := forall_task?_absorb numbered found reaction
    (fun _ _ ne ht => .inl ⟨ne, ht⟩) (fun _ ht => .inr (.inl ⟨rfl, ht⟩))
    (fun k _ ht => .inr (.inr ⟨k, rfl, ht⟩))

/-- The tasks after a move that lets a task go on. -/
theorem Readies.follows {s ready : System} {move : Move} {id : TaskId} {task : Task}
    {signal : Signal} (h : s.Readies move id task signal ready) (numbered : s.Numbered)
    (reaction : Reaction) :
    Follows s.task? s.nextTask id reaction.next reaction.started (ready.absorb id reaction).task? :=
  h.task? ▸ h.nextTask ▸ follows_absorb (h.numbered numbered) (h.task? ▸ h.found) reaction

/-- After a move without any task going on there is no new task but an operation. -/
theorem Drifts.origin {s s' : System} {move : Move} (drift : s.Drifts move s')
    (numbered : s.Numbered) {id : TaskId} {t : Task} (ht : s'.task? id = some t) :
    s.task? id = some t ∨
      id = s.nextTask ∧ ∃ operation, s.allows operation ∧ t = .begin operation := by
  cases drift with
  | begin operation allowed =>
    rw [task?_start numbered] at ht
    split at ht
    · next fresh => exact .inr ⟨fresh, operation, allowed, (Option.some.inj ht).symm⟩
    · exact .inl ht
  | cancel =>
    rw [task?_cancel] at ht
    split at ht
    · exact nomatch ht
    · exact .inl ht
  | forge | lose | pass => exact .inl ht

/-- A move without any task going on ends no task but the one that it gives up. -/
theorem Drifts.stays_of_ne {s s' : System} {move : Move} (drift : s.Drifts move s')
    (numbered : s.Numbered) {id : TaskId} {t : Task} (ht : s.task? id = some t)
    (kept : move ≠ .cancel id) : s'.task? id = some t := by
  cases drift with
  | begin =>
    rw [task?_start numbered, if_neg (Nat.ne_of_lt (numbered.lt ht))]
    exact ht
  | cancel =>
    rw [task?_cancel, if_neg]
    · exact ht
    · rintro rfl
      exact kept rfl
  | forge | lose | pass => exact ht

/-- Only an operation can be given up. -/
theorem Drifts.stays {s s' : System} {move : Move} (drift : s.Drifts move s')
    (numbered : s.Numbered) {id : TaskId} {t : Task} (ht : s.task? id = some t)
    (kept : t.isOperation = false) : s'.task? id = some t := by
  refine drift.stays_of_ne numbered ht ?_
  rintro rfl
  cases drift with
  | cancel found operation =>
    cases Option.some.inj (ht.symm.trans found)
    exact nomatch kept.symm.trans operation

theorem numbered_absorb {s : System} (numbered : s.Numbered) {id : TaskId} {task : Task}
    (found : s.task? id = some task) (reaction : Reaction) :
    (s.absorb id reaction).Numbered := by
  intro other hle
  have hle' : s.nextTask + reaction.started.length ≤ other := hle
  have hid : id < s.nextTask := numbered.lt found
  have hne : other ≠ id := Nat.ne_of_gt (Nat.lt_of_lt_of_le hid (Nat.le_trans (Nat.le_add_right _ _) hle'))
  rw [task?_absorb numbered found, if_neg hne,
    if_neg (Nat.not_lt_of_le (Nat.le_trans (Nat.le_add_right _ _) hle'))]
  exact List.getElem?_eq_none (Nat.le_sub_of_add_le (Nat.add_comm _ _ ▸ hle'))

theorem numbered_start {s : System} (numbered : s.Numbered) (task : Task) :
    (s.start [task]).Numbered := by
  intro other hle
  have hlt : s.nextTask < other := hle
  rw [task?_start numbered, if_neg (Nat.ne_of_gt hlt)]
  exact numbered other (Nat.le_of_lt hlt)

theorem numbered_cancel {s : System} (numbered : s.Numbered) (id : TaskId) :
    (s.cancel id).Numbered := by
  intro other hle
  rw [task?_cancel]
  split
  · rfl
  · exact numbered other hle

end System

/-! ## Histories -/

/-- A move with the state it was made in, and what the task that went on did. -/
structure Moment where
  system : System
  move : Move
  activity : Option Activity

/-- The runs of a client with these settings: the history and the state it has led to. -/
inductive Run (settings : Settings) : List Moment → System → Prop
  | start : Run settings [] (.new settings)
  | next {history : List Moment} {s s' : System} {move : Move} {activity : Option Activity}
      (run : Run settings history s) (step : s.step move = some (s', activity)) :
      Run settings (history ++ [⟨s, move, activity⟩]) s'

/-- Makes moves one after another: the history they add, and the state they lead to. -/
def System.perform (s : System) : List Move → Option (List Moment × System)
  | [] => some ([], s)
  | move :: rest => do
    let (s', activity) ← s.step move
    let (history, last) ← s'.perform rest
    return (⟨s, move, activity⟩ :: history, last)

theorem Run.perform {settings : Settings} {history : List Moment} {s : System}
    (run : Run settings history s) {moves : List Move} {more : List Moment} {last : System}
    (h : s.perform moves = some (more, last)) : Run settings (history ++ more) last := by
  induction moves generalizing history s more with
  | nil =>
    simp only [System.perform, Option.some.injEq, Prod.mk.injEq] at h
    obtain ⟨rfl, rfl⟩ := h
    rw [List.append_nil]
    exact run
  | cons move rest ih =>
    simp only [System.perform, Option.bind_eq_bind, Option.bind_eq_some_iff, Prod.exists] at h
    obtain ⟨s', activity, hstep, later, last', hrest, hmore⟩ := h
    obtain ⟨rfl, rfl⟩ : ⟨s, move, activity⟩ :: later = more ∧ last' = last := by
      simpa using hmore
    have := ih (run.next hstep) hrest
    rwa [List.append_assoc] at this

theorem System.map_move_of_perform {s last : System} {moves : List Move} {history : List Moment}
    (h : s.perform moves = some (history, last)) : history.map Moment.move = moves := by
  induction moves generalizing s history with
  | nil =>
    cases h
    rfl
  | cons move rest ih =>
    simp only [System.perform, Option.bind_eq_bind, Option.bind_eq_some_iff, Prod.exists] at h
    obtain ⟨s', activity, -, later, last', hrest, hmore⟩ := h
    obtain ⟨rfl, rfl⟩ := Prod.mk.inj (Option.some.inj hmore)
    rw [List.map_cons, ih hrest]

/-- A state that some moves lead to from the start is the state of a run. -/
theorem Run.exists_of_perform (settings : Settings) (moves : List Move) (P : System → Bool)
    (h : ((System.new settings).perform moves).any (P ·.2)) :
    ∃ history s, Run settings history s ∧ P s := by
  obtain ⟨⟨history, s⟩, performed, hs⟩ := (Option.any_eq_true _ _).1 h
  exact ⟨[] ++ history, s, Run.start.perform performed, hs⟩

theorem Run.numbered {settings : Settings} {history : List Moment} {s : System}
    (run : Run settings history s) : s.Numbered := by
  induction run with
  | start => intro id _; rfl
  | next _ step ih =>
    rcases System.step_cases step with ⟨-, drift⟩ | ⟨id, task, signal, ready, h, rfl, -⟩
    · cases drift with
      | begin operation _ => exact System.numbered_start ih _
      | cancel _ _ => exact System.numbered_cancel ih _
      | forge | lose | pass => exact ih
    · exact System.numbered_absorb (h.numbered ih) (h.task? ▸ h.found) _

/-- Every moment of a run was reached by a run, and its move was possible. -/
theorem Run.split {settings : Settings} {earlier later : List Moment} {m : Moment} {s : System}
    (run : Run settings (earlier ++ m :: later) s) :
    Run settings earlier m.system ∧ ∃ s', m.system.step m.move = some (s', m.activity) := by
  generalize hh : earlier ++ m :: later = history at run
  induction run generalizing later with
  | start => simp at hh
  | next run step ih =>
    rcases concat_eq_append_cons_iff.1 hh.symm with ⟨rfl, rfl, rfl⟩ | ⟨rest, rfl, rfl⟩
    · exact ⟨run, _, step⟩
    · exact ih rfl

/-- The last move of a run leads to its state. -/
theorem Run.last {settings : Settings} {history : List Moment} {m : Moment} {s : System}
    (run : Run settings (history ++ [m]) s) :
    Run settings history m.system ∧ m.system.step m.move = some (s, m.activity) := by
  generalize hh : history ++ [m] = whole at run
  cases run with
  | start => simp at hh
  | next run step =>
    obtain ⟨rfl, same⟩ := List.append_inj' hh rfl
    cases same
    exact ⟨run, step⟩

/-- A history leads to one state. -/
theorem Run.unique {settings : Settings} {history : List Moment} {s s' : System}
    (run : Run settings history s) (run' : Run settings history s') : s = s' := by
  rcases List.eq_nil_or_concat history with rfl | ⟨init, last, rfl⟩
  · have start : ∀ {whole s}, Run settings whole s → whole = [] → s = .new settings := by
      rintro whole s (_ | _) empty
      · rfl
      · simp at empty
    exact (start run rfl).trans (start run' rfl).symm
  · rw [List.concat_eq_append] at run run'
    have same := run.last.2.symm.trans run'.last.2
    exact (Prod.mk.inj (Option.some.inj same)).1

/-- What holds of a state and is kept by every move from there holds however the run goes on. -/
theorem Run.onwards {settings : Settings} {history : List Moment} {s₀ : System}
    (run₀ : Run settings history s₀) {P : List Moment → System → Prop} (here : P [] s₀)
    (next : ∀ more s move s' activity, Run settings (history ++ more) s → P more s →
      s.step move = some (s', activity) → P (more ++ [⟨s, move, activity⟩]) s')
    {more : List Moment} {s : System} (run : Run settings (history ++ more) s) : P more s := by
  induction hn : more.length generalizing more s with
  | zero =>
    obtain rfl := List.length_eq_zero_iff.1 hn
    rw [List.append_nil] at run
    exact run₀.unique run ▸ here
  | succ n ih =>
    rcases List.eq_nil_or_concat more with rfl | ⟨init, last, rfl⟩
    · exact nomatch hn
    · rw [List.concat_eq_append] at run hn ⊢
      rw [← List.append_assoc] at run
      obtain ⟨before, step⟩ := run.last
      have length : init.length = n := by simpa using hn
      exact next init last.system last.move s last.activity before (ih before length) step

theorem System.sessions_step {s s' : System} {move : Move} {activity : Option Activity}
    (step : s.step move = some (s', activity)) :
    s.sessions ≤ s'.sessions ∧ ∀ id, move = .connect id → s'.sessions = s.sessions + 1 := by
  rcases System.step_cases step with ⟨-, drift⟩ | ⟨id, task, signal, ready, h, rfl, -⟩
  · cases drift <;> exact ⟨Nat.le_refl _, fun _ h => nomatch h⟩
  · exact h.sessions

theorem Run.sessions_le {settings : Settings} {history : List Moment} {s : System}
    (run : Run settings history s) :
    ∀ m ∈ history, m.system.sessions ≤ s.sessions ∧
      ∀ id, m.move = .connect id → m.system.sessions + 1 ≤ s.sessions := by
  induction run with
  | start => exact fun _ hm => nomatch hm
  | next run step ih =>
    intro m hm
    obtain ⟨le, opens⟩ := System.sessions_step step
    rcases List.mem_append.1 hm with old | new
    · obtain ⟨before, opened⟩ := ih m old
      exact ⟨Nat.le_trans before le, fun id hmove => Nat.le_trans (opened id hmove) le⟩
    · cases List.mem_singleton.1 new
      exact ⟨le, fun id hmove => Nat.le_of_eq (opens id hmove).symm⟩

/-! ## Executions -/

/-- A run that goes on forever. -/
structure Execution (settings : Settings) where
  system : Nat → System
  move : Nat → Move
  activity : Nat → Option Activity
  start : system 0 = .new settings
  step : ∀ i, (system i).step (move i) = some (system (i + 1), activity i)

namespace Execution

variable {settings : Settings}

/-- The history of the first `k` moves. -/
def history (e : Execution settings) (k : Nat) : List Moment :=
  (List.range k).map fun i => ⟨e.system i, e.move i, e.activity i⟩

theorem history_succ (e : Execution settings) (k : Nat) :
    e.history (k + 1) = e.history k ++ [⟨e.system k, e.move k, e.activity k⟩] := by
  rw [history, List.range_succ, List.map_append]
  rfl

theorem history_add (e : Execution settings) (k n : Nat) :
    e.history (k + n) = e.history k ++ (List.range n).map fun i =>
      ⟨e.system (k + i), e.move (k + i), e.activity (k + i)⟩ := by
  rw [history, List.range_add, List.map_append, List.map_map]
  rfl

theorem run (e : Execution settings) (k : Nat) : Run settings (e.history k) (e.system k) := by
  induction k with
  | zero =>
    rw [e.start]
    exact .start
  | succ k ih =>
    rw [history_succ]
    exact ih.next (e.step k)

end Execution

/-- Where some moves, and then nothing but standing still, lead to. -/
def System.stateAt : List Move → System → Nat → System
  | [], s, _ => s
  | _ :: _, s, 0 => s
  | move :: rest, s, i + 1 => match s.step move with
    | some (s', _) => stateAt rest s' i
    | none => s

/-- The next move, or to stand still when there is none. -/
def moveAt (moves : List Move) (i : Nat) : Move := moves.getD i (.pass ⟨0⟩)

theorem System.step_stateAt {moves : List Move} {s : System} (possible : (s.perform moves).isSome)
    (i : Nat) : ∃ activity, (stateAt moves s i).step (moveAt moves i) =
      some (stateAt moves s (i + 1), activity) := by
  induction moves generalizing s i with
  | nil => exact ⟨none, rfl⟩
  | cons move rest ih =>
    simp only [System.perform, Option.bind_eq_bind] at possible
    cases hstep : s.step move with
    | none =>
      rw [hstep] at possible
      exact nomatch possible
    | some next =>
      obtain ⟨s', activity⟩ := next
      rw [hstep, Option.bind_some, Option.isSome_bind] at possible
      have later : (s'.perform rest).isSome := Option.isSome_of_any possible
      have next : ∀ j, stateAt (move :: rest) s (j + 1) = stateAt rest s' j := by
        intro j
        simp only [stateAt, hstep]
      cases i with
      | zero =>
        refine ⟨activity, ?_⟩
        rw [next]
        have here : stateAt rest s' 0 = s' := by cases rest <;> rfl
        rw [here]
        exact hstep
      | succ i =>
        obtain ⟨activity, h⟩ := ih later i
        refine ⟨activity, ?_⟩
        rw [next, next]
        exact h

theorem System.stateAt_of_le {moves : List Move} {s last : System} {history : List Moment}
    (performed : s.perform moves = some (history, last)) {i : Nat} (hi : moves.length ≤ i) :
    stateAt moves s i = last := by
  induction moves generalizing s history i with
  | nil =>
    cases performed
    rfl
  | cons move rest ih =>
    simp only [System.perform, Option.bind_eq_bind, Option.bind_eq_some_iff, Prod.exists] at performed
    obtain ⟨s', activity, hstep, later, last', hrest, hmore⟩ := performed
    obtain ⟨-, rfl⟩ := Prod.mk.inj (Option.some.inj hmore)
    cases i with
    | zero => exact nomatch hi
    | succ i =>
      simp only [stateAt, hstep]
      exact ih hrest (Nat.le_of_succ_le_succ hi)

/-- The execution that makes some moves and then stands still. -/
def Execution.ofMoves (settings : Settings) (moves : List Move)
    (possible : ((System.new settings).perform moves).isSome) : Execution settings where
  system := System.stateAt moves (.new settings)
  move := moveAt moves
  activity i := ((System.stateAt moves (.new settings) i).step (moveAt moves i)).bind (·.2)
  start := by cases moves <;> rfl
  step i := by
    obtain ⟨activity, h⟩ := System.step_stateAt possible i
    rw [h]
    rfl

/-- A client without queues of its own. -/
def bareSettings : Settings where
  url := some "amqp://broker"
  lane := none
  prefetch := 10
  reconnectDelay := .ofSeconds 1
  queues := []

end Laneway.Broker
