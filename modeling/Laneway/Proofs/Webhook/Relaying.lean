import Laneway.Proofs.History
import Laneway.Proofs.Webhook.Admission
import Laneway.Proofs.Webhook.Draining
import Laneway.Server.Rehearsal

set_option autoImplicit false

/-! # Relays from their start to their end

An event that is forwarded becomes a task of its own, which delivers it: it looks up the lane, makes
the request and takes the answer. A task is run when the scheduler comes to it, its lookup and its
request take as long as they take, and it may crash at any point. Drains wait beside the tasks. What a
task or a drain does between two points where it waits is one move; in particular a drain closes the
tracker and begins to wait in one.

Whatever happens, the books balance: every relay is running or has finished, once, and its event is
delivered in one run. -/

namespace Laneway.Webhook

/-- How far the task of a relay has come. -/
inductive Task where
  /-- Its delivery has not begun. -/
  | spawned (event : Event)
  /-- The lane of the bot is being looked up. -/
  | resolving (event : Event)
  /-- The request has been made and not been answered. -/
  | sending (draft : Http.Draft)

/-- The delivery has begun. -/
def Task.begun : Task → Bool
  | .spawned _ => false
  | .resolving _ | .sending _ => true

/-- How a relay ended. -/
inductive Ending where
  | taken (result : Except RelayFault Unit)
  | crashed

/-- The relays with their tasks, and the drains. -/
structure Forwarder where
  relay : Relay
  tracker : Tracker
  /-- The tasks of the relays that have not finished, in the order they were begun. -/
  tasks : List (RelayId × Task)

/-- A move of a caller, of a task or of the clock. -/
inductive Forwarder.Move where
  /-- A caller forwards an event. -/
  | forward (event : Event)
  /-- The task of a relay is run for the first time. -/
  | begin (id : RelayId)
  /-- The lane has been looked up, and the request is made. -/
  | request (id : RelayId) (topology : Routing.Topology) (lane : Option String) (traceId : String)
  | answer (id : RelayId) (answer : Except Http.Failure Http.Response)
  /-- The delivery panics. -/
  | crash (id : RelayId)
  /-- A caller begins a drain. -/
  | drain (timeout : Duration)
  /-- A drain is woken up, and returns. -/
  | wake (id : DrainId)
  | advance (d : Duration)

/-- What comes of a move. -/
inductive Forwarder.Occurrence where
  | forwarded (id : RelayId) (event : Event)
  /-- The event begins to be delivered. -/
  | delivering (id : RelayId) (event : Event)
  | requested (id : RelayId) (draft : Http.Draft)
  | ended (id : RelayId) (ending : Ending)
  | draining (id : DrainId)
  | drained (id : DrainId) (complete : Bool)
  | silent

namespace Forwarder

def new (relay : Relay) (start : Instant) : Forwarder := ⟨relay, .new start, []⟩

/-- How many relays have not finished. -/
def inFlight (f : Forwarder) : Nat := f.tracker.inFlight

/-- The relay is at another point of its delivery. -/
def withTask (f : Forwarder) (id : RelayId) (task : Task) : Forwarder :=
  { f with tasks := f.tasks.map fun entry => if entry.1 = id then (id, task) else entry }

/-- The relay has come to its end. -/
def finish (f : Forwarder) (id : RelayId) (ending : Ending) : Option (Forwarder × Occurrence) :=
  (f.tracker.step (.finish id)).map fun (tracker, _) =>
    ({ f with tracker, tasks := f.tasks.filter fun entry => entry.1 ≠ id }, .ended id ending)

/-- A move that no relay has a part in. -/
def track (f : Forwarder) (move : Tracker.Move) : Option (Forwarder × Occurrence) :=
  (f.tracker.step move).map fun (tracker, event) =>
    ({ f with tracker }, match event with
      | .draining id => .draining id
      | .drained id complete => .drained id complete
      | .forwarded _ | .silent => .silent)

/-- One move, if it is possible. -/
def step (f : Forwarder) : Move → Option (Forwarder × Occurrence)
  | .forward event =>
    match f.tracker.step .forward with
    | some (tracker, .forwarded id) =>
      some ({ f with tracker, tasks := f.tasks ++ [(id, .spawned event)] }, .forwarded id event)
    | _ => none
  | .begin id =>
    match f.tasks.lookup id with
    | some (.spawned event) => some (f.withTask id (.resolving event), .delivering id event)
    | _ => none
  | .request id topology lane traceId =>
    match f.tasks.lookup id with
    | some (.resolving event) =>
      let draft := f.relay.request topology lane traceId event
      some (f.withTask id (.sending draft), .requested id draft)
    | _ => none
  | .answer id answer =>
    match f.tasks.lookup id with
    | some (.sending _) => f.finish id (.taken (Relay.taken answer))
    | _ => none
  | .crash id =>
    match f.tasks.lookup id with
    | some (.resolving _) | some (.sending _) => f.finish id .crashed
    | _ => none
  | .drain timeout => f.track (.drain timeout)
  | .wake id => f.track (.wake id)
  | .advance d => f.track (.advance d)

/-- The move ends a relay, in this way. -/
inductive Move.Ends (id : RelayId) : Move → Ending → Prop
  | answer (answer : Except Http.Failure Http.Response) :
      Ends id (.answer id answer) (.taken (Relay.taken answer))
  | crash : Ends id (.crash id) .crashed

/-- Everything a move can do. -/
inductive Change (f : Forwarder) : Move → Forwarder → Occurrence → Prop
  | forwards (event : Event) : Change f (.forward event)
      { f with
        tracker := { f.tracker with
          running := f.tracker.running ++ [f.tracker.begun]
          begun := f.tracker.begun + 1 }
        tasks := f.tasks ++ [(f.tracker.begun, .spawned event)] }
      (.forwarded f.tracker.begun event)
  | begins {id : RelayId} {event : Event} (found : f.tasks.lookup id = some (.spawned event)) :
      Change f (.begin id) (f.withTask id (.resolving event)) (.delivering id event)
  | requests {id : RelayId} {event : Event} (topology : Routing.Topology) (lane : Option String)
      (traceId : String) (found : f.tasks.lookup id = some (.resolving event)) :
      Change f (.request id topology lane traceId)
        (f.withTask id (.sending (f.relay.request topology lane traceId event)))
        (.requested id (f.relay.request topology lane traceId event))
  | ends {move : Move} {id : RelayId} {task : Task} {ending : Ending} (ends : move.Ends id ending)
      (found : f.tasks.lookup id = some task) (begun : task.begun)
      (running : id ∈ f.tracker.running) :
      Change f move
        { f with
          tracker := ({ f.tracker with running := f.tracker.running.erase id } : Tracker).tell
          tasks := f.tasks.filter fun entry => entry.1 ≠ id }
        (.ended id ending)
  | drains (timeout : Duration) {tracker : Tracker}
      (h : f.tracker.Change (.drain timeout) tracker (.draining f.tracker.nextDrain)) :
      Change f (.drain timeout) { f with tracker } (.draining f.tracker.nextDrain)
  | returns {id : DrainId} {complete : Bool} {tracker : Tracker}
      (h : f.tracker.Change (.wake id) tracker (.drained id complete)) :
      Change f (.wake id) { f with tracker } (.drained id complete)
  | advances (d : Duration) {tracker : Tracker}
      (h : f.tracker.Change (.advance d) tracker .silent) :
      Change f (.advance d) { f with tracker } .silent

variable {f f' : Forwarder} {move : Move} {occurrence : Occurrence}

theorem ends_of_finish {id : RelayId} {task : Task} {ending : Ending} (ends : move.Ends id ending)
    (found : f.tasks.lookup id = some task) (begun : task.begun)
    (h : f.finish id ending = some (f', occurrence)) : Change f move f' occurrence := by
  obtain ⟨⟨tracker, event⟩, step, same⟩ := Option.map_eq_some_iff.1 h
  cases same
  cases Tracker.change_of_step step with
  | finishes running => exact .ends ends found begun running

theorem change_of_step (h : f.step move = some (f', occurrence)) : Change f move f' occurrence := by
  cases move with
  | forward event =>
    cases h
    exact .forwards event
  | begin id =>
    simp only [step] at h
    split at h
    · next event found =>
      cases h
      exact .begins found
    · exact nomatch h
  | request id topology lane traceId =>
    simp only [step] at h
    split at h
    · next event found =>
      cases h
      exact .requests topology lane traceId found
    · exact nomatch h
  | answer id answer =>
    simp only [step] at h
    split at h
    · next draft found => exact ends_of_finish (.answer answer) found rfl h
    · exact nomatch h
  | crash id =>
    simp only [step] at h
    split at h
    · next event found => exact ends_of_finish .crash found rfl h
    · next draft found => exact ends_of_finish .crash found rfl h
    · exact nomatch h
  | drain timeout =>
    cases h
    exact .drains timeout (.drains timeout)
  | wake id =>
    simp only [step, track] at h
    obtain ⟨⟨tracker, event⟩, step, same⟩ := Option.map_eq_some_iff.1 h
    cases same
    cases Tracker.change_of_step step with
    | returns found ended => exact .returns (.returns found ended)
  | advance d =>
    simp only [step, track] at h
    obtain ⟨⟨tracker, event⟩, step, same⟩ := Option.map_eq_some_iff.1 h
    cases same
    cases Tracker.change_of_step step with
    | advances later => exact .advances d (.advances later)

/-! ## Histories -/

/-- A move with the state it was made in and what came of it. -/
structure Moment where
  before : Forwarder
  move : Move
  occurrence : Occurrence

/-- What a forwarder goes through whatever its callers, its relays and the clock do: the history and
    the state it has led to. -/
inductive Run (relay : Relay) (start : Instant) : List Moment → Forwarder → Prop
  | start : Run relay start [] (.new relay start)
  | next {history : List Moment} {f f' : Forwarder} {move : Move} {occurrence : Occurrence}
      (run : Run relay start history f) (step : f.step move = some (f', occurrence)) :
      Run relay start (history ++ [⟨f, move, occurrence⟩]) f'

/-- The calls that forward an event, in their order, each with the number of its relay. -/
def forwards (history : List Moment) : List (RelayId × Event) :=
  history.filterMap fun m => match m.occurrence with
    | .forwarded id event => some (id, event)
    | _ => none

/-- The relays that have finished, in the order of their ends. -/
def finished (history : List Moment) : List RelayId :=
  history.filterMap fun m => match m.occurrence with
    | .ended id _ => some id
    | _ => none

/-- The events that a relay has begun to deliver, one for each run. -/
def deliveries (id : RelayId) (history : List Moment) : List Event :=
  history.filterMap fun m => match m.occurrence with
    | .delivering other event => if other = id then some event else none
    | _ => none

section Append

variable {history : List Moment} {m : Moment}

theorem forwards_concat : forwards (history ++ [m]) = forwards history ++ forwards [m] :=
  List.filterMap_append

theorem finished_concat : finished (history ++ [m]) = finished history ++ finished [m] :=
  List.filterMap_append

theorem deliveries_concat {id : RelayId} :
    deliveries id (history ++ [m]) = deliveries id history ++ deliveries id [m] :=
  List.filterMap_append

end Append

variable {relay : Relay} {start : Instant} {history : List Moment}

theorem Run.split {earlier later : List Moment} {m : Moment}
    (run : Run relay start (earlier ++ m :: later) f) :
    Run relay start earlier m.before ∧ ∃ f', m.before.step m.move = some (f', m.occurrence) := by
  generalize parts : earlier ++ m :: later = whole at run
  induction run generalizing later with
  | start => simp at parts
  | next run step ih =>
    rcases concat_eq_append_cons_iff.1 parts.symm with ⟨rfl, rfl, rfl⟩ | ⟨rest, rfl, rfl⟩
    · exact ⟨run, _, step⟩
    · exact ih rfl

/-! ## The relays -/

/-- The books balance: relays are numbered in the order they were forwarded, and each is either
    running, as a task of its own, or has finished once. -/
structure Accounted (history : List Moment) (f : Forwarder) : Prop where
  numbered : (forwards history).map Prod.fst = List.range f.tracker.begun
  balance : (f.tracker.running ++ finished history).Perm (List.range f.tracker.begun)
  tasks : f.tasks.map Prod.fst = f.tracker.running

theorem Accounted.nodup (h : Accounted history f) :
    (f.tracker.running ++ finished history).Nodup :=
  h.balance.nodup_iff.2 List.nodup_range

theorem map_fst_withTask (f : Forwarder) (id : RelayId) (task : Task) :
    (f.withTask id task).tasks.map Prod.fst = f.tasks.map Prod.fst := map_fst_replace _ _ _

theorem lookup_withTask {id : RelayId} {task : Task} (found : f.tasks.lookup id = some task)
    (task' : Task) :
    (f.withTask id task').tasks.lookup id = some task' := lookup_replaced found task'

theorem lookup_withTask_of_ne {id other : RelayId} (ne : id ≠ other) (f : Forwarder) (task : Task) :
    (f.withTask other task).tasks.lookup id = f.tasks.lookup id := by
  rw [withTask, lookup_map_replace, if_neg ne]

/-- A move of which no relay is begun or finished keeps the books. -/
theorem Accounted.concat_of_quiet (h : Accounted history f) {m : Moment}
    (unforwarded : forwards [m] = []) (unfinished : finished [m] = [])
    (running : f'.tracker.running = f.tracker.running) (begun : f'.tracker.begun = f.tracker.begun)
    (tasks : f'.tasks.map Prod.fst = f.tasks.map Prod.fst) :
    Accounted (history ++ [m]) f' := by
  refine ⟨?_, ?_, ?_⟩
  · rw [forwards_concat, unforwarded, List.append_nil, begun]
    exact h.numbered
  · rw [finished_concat, unfinished, List.append_nil, begun, running]
    exact h.balance
  · rw [tasks, running]
    exact h.tasks

/-- A relay that is begun has the next number and runs. -/
theorem Accounted.concat_of_forward (h : Accounted history f) {event : Event}
    (step : f.step (.forward event) = some (f', occurrence)) :
    Accounted (history ++ [⟨f, .forward event, occurrence⟩]) f' := by
  cases step
  refine ⟨?_, ?_, ?_⟩
  · rw [forwards_concat, List.map_append, h.numbered, List.range_succ]
    rfl
  · rw [finished_concat, List.range_succ]
    show ((f.tracker.running ++ [f.tracker.begun]) ++ (finished history ++ [])).Perm _
    rw [List.append_nil, List.append_assoc]
    refine (List.perm_append_comm.append_left f.tracker.running).trans ?_
    rw [← List.append_assoc]
    exact h.balance.append_right _
  · rw [List.map_append, h.tasks]
    rfl

/-- A relay that ends goes from those that run to those that have finished, and its task with it. -/
theorem Accounted.concat_of_end (h : Accounted history f) {id : RelayId} {ending : Ending}
    (running : id ∈ f.tracker.running) :
    Accounted (history ++ [⟨f, move, .ended id ending⟩])
      { f with
        tracker := ({ f.tracker with running := f.tracker.running.erase id } : Tracker).tell
        tasks := f.tasks.filter fun entry => entry.1 ≠ id } := by
  refine ⟨?_, ?_, ?_⟩
  · rw [forwards_concat, Tracker.tell_begun]
    exact (List.append_nil _).symm ▸ h.numbered
  · rw [finished_concat, Tracker.tell_running, Tracker.tell_begun]
    refine List.Perm.trans ?_ h.balance
    show (f.tracker.running.erase id ++ (finished history ++ [id])).Perm _
    rw [← List.append_assoc]
    refine List.perm_append_comm.trans ?_
    exact ((List.perm_cons_erase running).symm.append_right _)
  · have nodup : f.tracker.running.Nodup := (List.nodup_append.1 h.nodup).1
    rw [Tracker.tell_running, nodup.erase_eq_filter, ← h.tasks, List.filter_map]
    refine congrArg (List.map Prod.fst) (List.filter_congr fun entry _ => ?_)
    by_cases same : entry.1 = id <;> simp [same]

theorem Run.accounted (run : Run relay start history f) : Accounted history f := by
  induction run with
  | start => exact ⟨rfl, List.Perm.refl _, rfl⟩
  | next run step ih =>
    cases change_of_step step with
    | begins | requests =>
      exact ih.concat_of_quiet rfl rfl rfl rfl (map_fst_withTask _ _ _)
    | drains _ h | returns h | advances _ h =>
      cases h
      exact ih.concat_of_quiet rfl rfl rfl rfl rfl
    | forwards => exact ih.concat_of_forward step
    | ends _ _ _ running => exact ih.concat_of_end running

/-- The relays that run are those that were forwarded and have not finished. -/
theorem Run.mem_running_iff (run : Run relay start history f) {id : RelayId} :
    id ∈ f.tracker.running ↔
      (∃ event, (id, event) ∈ forwards history) ∧ id ∉ finished history := by
  have accounted := run.accounted
  have forwarded : (∃ event, (id, event) ∈ forwards history) ↔
      id ∈ f.tracker.running ∨ id ∈ finished history := by
    rw [← List.mem_append, accounted.balance.mem_iff, ← accounted.numbered, List.mem_map]
    simp
  have apart := (List.nodup_append.1 accounted.nodup).2.2
  constructor
  · intro running
    exact ⟨forwarded.2 (.inl running), fun ended => apart id running id ended rfl⟩
  · rintro ⟨begun, unfinished⟩
    exact (forwarded.1 begun).resolve_right unfinished

/-- A task that is found is that of a running relay. -/
theorem Run.mem_running_of_lookup (run : Run relay start history f) {id : RelayId} {task : Task}
    (found : f.tasks.lookup id = some task) : id ∈ f.tracker.running := by
  rw [← run.accounted.tasks]
  exact List.mem_map_of_mem (mem_of_lookup found)

/-- How far a relay is with its event, when it has begun to deliver these. -/
inductive Stands (f : Forwarder) (id : RelayId) (event : Event) (delivered : List Event) : Prop
  | waits (found : f.tasks.lookup id = some (.spawned event)) (none : delivered = [])
  | delivers (begun : ∀ task, f.tasks.lookup id = some task → task.begun)
      (once : delivered = [event])

/-- An event is delivered once at most, and only by the relay that was begun for it. -/
structure Delivered (history : List Moment) (f : Forwarder) (id : RelayId) : Prop where
  stands : ∀ event, (id, event) ∈ forwards history → Stands f id event (deliveries id history)
  unborn : f.tracker.begun ≤ id → deliveries id history = [] ∧ f.tasks.lookup id = none

/-- A move that is about other relays leaves a relay where it is. -/
theorem Delivered.concat_of_apart {id : RelayId} (h : Delivered history f id) {m : Moment}
    (unforwarded : forwards [m] = []) (silent : deliveries id [m] = [])
    (begun : f'.tracker.begun = f.tracker.begun)
    (same : f'.tasks.lookup id = f.tasks.lookup id) : Delivered (history ++ [m]) f' id := by
  refine ⟨fun event mem => ?_, fun le => ?_⟩
  · rw [forwards_concat, unforwarded, List.append_nil] at mem
    rw [deliveries_concat, silent, List.append_nil]
    cases h.stands event mem with
    | waits found none => exact .waits (same.trans found) none
    | delivers begun once => exact .delivers (same ▸ begun) once
  · rw [deliveries_concat, silent, List.append_nil, same]
    exact h.unborn (begun ▸ le)

/-- A relay whose delivery has begun goes on without beginning another. -/
theorem Delivered.concat_of_begun {id : RelayId} (h : Delivered history f id) {m : Moment}
    (unforwarded : forwards [m] = []) (silent : deliveries id [m] = [])
    (begun : f'.tracker.begun = f.tracker.begun) {task : Task}
    (found : f.tasks.lookup id = some task) (before : task.begun)
    (after : ∀ task', f'.tasks.lookup id = some task' → task'.begun) :
    Delivered (history ++ [m]) f' id := by
  refine ⟨fun event mem => ?_, fun le => ?_⟩
  · rw [forwards_concat, unforwarded, List.append_nil] at mem
    rw [deliveries_concat, silent, List.append_nil]
    cases h.stands event mem with
    | waits waiting =>
      cases found.symm.trans waiting
      exact nomatch before
    | delivers _ once => exact .delivers after once
  · exact nomatch found.symm.trans (h.unborn (begun ▸ le)).2

/-- A relay that is begun waits with its event; those begun before it stay where they are. -/
theorem Delivered.concat_of_forward {id : RelayId} (h : Delivered history f id)
    (accounted : Accounted history f) {event : Event}
    (step : f.step (.forward event) = some (f', occurrence)) :
    Delivered (history ++ [⟨f, .forward event, occurrence⟩]) f' id := by
  cases step
  have tasks := lookup_concat f.tasks f.tracker.begun id (Task.spawned event)
  refine ⟨fun event' mem => ?_, fun le => ?_⟩
  · rw [deliveries_concat, show deliveries id [_] = [] from rfl, List.append_nil]
    rw [forwards_concat, List.mem_append] at mem
    rcases mem with old | new
    · have born : id < f.tracker.begun := by
        rw [← List.mem_range, ← accounted.numbered]
        exact List.mem_map_of_mem old
      rw [if_neg (Nat.ne_of_lt born), Option.or_none] at tasks
      cases h.stands event' old with
      | waits found none => exact .waits (tasks.trans found) none
      | delivers begun once => exact .delivers (fun task h => begun task (tasks ▸ h)) once
    · cases List.mem_singleton.1 new
      obtain ⟨none, absent⟩ := h.unborn (Nat.le_refl _)
      exact .waits (by rw [tasks, absent, if_pos rfl]; rfl) none
  · obtain ⟨none, absent⟩ := h.unborn (Nat.le_of_succ_le le)
    refine ⟨deliveries_concat.trans (by rw [none]; rfl), ?_⟩
    rw [tasks, absent, if_neg (Nat.ne_of_gt le)]
    rfl

/-- A relay that has waited begins the one delivery of its event. -/
theorem Delivered.concat_of_begin {id : RelayId} (h : Delivered history f id) {event : Event}
    (found : f.tasks.lookup id = some (.spawned event)) :
    Delivered (history ++ [⟨f, .begin id, .delivering id event⟩])
      (f.withTask id (.resolving event)) id := by
  refine ⟨fun event' mem => ?_, fun le => nomatch found.symm.trans (h.unborn le).2⟩
  rw [forwards_concat, show forwards [_] = [] from rfl, List.append_nil] at mem
  have more : deliveries id [⟨f, .begin id, .delivering id event⟩] = [event] := by
    simp [deliveries]
  rw [deliveries_concat, more]
  cases h.stands event' mem with
  | waits waiting none =>
    cases found.symm.trans waiting
    refine .delivers (fun task found' => ?_) (by rw [none]; rfl)
    rw [lookup_withTask found] at found'
    cases found'
    rfl
  | delivers begun => exact nomatch begun _ found

theorem Run.delivered (run : Run relay start history f) (id : RelayId) : Delivered history f id := by
  induction run with
  | start => exact ⟨nofun, fun _ => ⟨rfl, rfl⟩⟩
  | @next history f f' move occurrence run step ih =>
    cases change_of_step step with
    | drains _ h | returns h | advances _ h =>
      cases h
      exact ih.concat_of_apart rfl rfl rfl rfl
    | forwards => exact ih.concat_of_forward run.accounted step
    | @begins other event found =>
      by_cases same : id = other
      · subst same
        exact ih.concat_of_begin found
      · refine ih.concat_of_apart rfl ?_ rfl (lookup_withTask_of_ne same f _)
        simp [deliveries, Ne.symm same]
    | @requests other event topology lane traceId found =>
      by_cases same : id = other
      · subst same
        refine ih.concat_of_begun rfl rfl rfl found rfl fun task' found' => ?_
        rw [lookup_withTask found] at found'
        cases found'
        rfl
      · exact ih.concat_of_apart rfl rfl rfl (lookup_withTask_of_ne same f _)
    | @ends _ other task ending ends found begun running =>
      by_cases same : id = other
      · subst same
        refine ih.concat_of_begun rfl rfl (Tracker.tell_begun _) found begun fun task' found' => ?_
        rw [lookup_filter_ne, if_pos rfl] at found'
        exact nomatch found'
      · refine ih.concat_of_apart rfl rfl (Tracker.tell_begun _) ?_
        rw [lookup_filter_ne, if_neg same]

/-- A forwarded event waits for its delivery at first. -/
theorem Run.spawned_of_forwarded (run : Run relay start history f) {id : RelayId} {event : Event}
    (step : f.step move = some (f', .forwarded id event)) :
    f'.tasks.lookup id = some (.spawned event) := by
  cases change_of_step step with
  | forwards =>
    have absent := ((run.delivered f.tracker.begun).unborn (Nat.le_refl _)).2
    rw [lookup_concat, absent, if_pos rfl]
    rfl

theorem delivering_of_begin {id : RelayId} (step : f.step (.begin id) = some (f', occurrence)) :
    ∃ event, occurrence = .delivering id event := by
  cases change_of_step step with
  | begins => exact ⟨_, rfl⟩
  | ends ends => exact nomatch ends

theorem drained_of_wake {id : DrainId} (step : f.step (.wake id) = some (f', occurrence)) :
    ∃ complete, occurrence = .drained id complete := by
  cases change_of_step step with
  | returns => exact ⟨_, rfl⟩
  | ends ends => exact nomatch ends

/-! ## Rehearsed relays -/

theorem Run.relay_eq (run : Run relay start history f) : f.relay = relay := by
  induction run with
  | start => rfl
  | next run step ih => cases change_of_step step <;> exact ih

/-- What a rehearsed delivery comes to is what is taken of the answer to its request, in the lane that
    the call on its bot returns; it comes to nothing when this call fails. -/
theorem deliver_eq_taken (s : Server.Rehearsal.Stage) (event : Event) :
    (s.deliver event).2 =
      (s.bindings.play (.resolve ⟨.bot, event.bot⟩)).2.lane?.map fun lane => Relay.taken
        ((s.relay.request s.app.topology lane s.fresh.traceId event).send s.network) := by
  simp only [Server.Rehearsal.Stage.deliver, Relay.deliver, Server.Rehearsal.Stage.carryOut]
  cases (s.bindings.play (.resolve ⟨.bot, event.bot⟩)).2.lane? <;> rfl

/-- A relay that has not ended can end, in every way. -/
theorem Run.finish_of_lookup (run : Run relay start history f) {id : RelayId} {task : Task}
    (found : f.tasks.lookup id = some task) (ending : Ending) :
    ∃ f', f.finish id ending = some (f', .ended id ending) ∧
      (f.tracker.step (.finish id)).map Prod.fst = some f'.tracker := by
  have finishes : f.tracker.step (.finish id) =
      some (({ f.tracker with running := f.tracker.running.erase id } : Tracker).tell, .silent) :=
    if_pos (run.mem_running_of_lookup found)
  simp only [finish, finishes]
  exact ⟨_, rfl, rfl⟩

/-- What a relay does after it has begun, in a rehearsal: it crashes when the call for its lane
    fails, and otherwise it sends one request and ends with what is taken of the answer. -/
inductive Rehearsed (id : RelayId) :
    Option (Except RelayFault Unit) → List Occurrence → Prop
  | crashed : Rehearsed id none [.ended id .crashed]
  | sent {draft : Http.Draft} {result : Except RelayFault Unit} :
      Rehearsed id (some result) [.requested id draft, .ended id (.taken result)]

/-- A rehearsed relay is a run of moves from its call to its end, with what the rehearsal comes
    to. -/
theorem Run.relays_in_rehearsal {s : Server.Rehearsal.Stage} (run : Run s.relay start history f)
    (same : f.tracker = s.tracker) (event : Event) :
    ∃ more f' rest, Run s.relay start (history ++ more) f' ∧
      f'.tracker = (s.perform (.relay event)).tracker ∧
      more.map Moment.occurrence =
        [.forwarded s.tracker.begun event, .delivering s.tracker.begun event] ++ rest ∧
      Rehearsed s.tracker.begun ((s.track .forward).1.deliver event).2 rest := by
  obtain ⟨r, t, tasks⟩ := f
  obtain rfl : t = s.tracker := same
  let id := s.tracker.begun
  let s₁ := (s.track .forward).1
  let f₁ : Forwarder := ⟨r, s₁.tracker, tasks ++ [(id, .spawned event)]⟩
  let f₂ := f₁.withTask id (.resolving event)
  have forwards : Forwarder.step ⟨r, s.tracker, tasks⟩ (.forward event) =
      some (f₁, .forwarded id event) := rfl
  have run₁ := run.next forwards
  have spawned := run.spawned_of_forwarded forwards
  have begins : f₁.step (.begin id) = some (f₂, .delivering id event) := by
    simp only [step, spawned]
    rfl
  have run₂ := run₁.next begins
  have resolving : f₂.tasks.lookup id = some (.resolving event) := lookup_withTask spawned _
  have tracked : ∀ {f' : Forwarder}, (s₁.tracker.step (.finish id)).map Prod.fst = some f'.tracker →
      f'.tracker = (s.perform (.relay event)).tracker := by
    intro f' finishes
    show _ = (Server.Rehearsal.Stage.track (s₁.deliver event).1 (.finish id)).1.tracker
    obtain ⟨⟨_, event'⟩, finished, rfl⟩ := Option.map_eq_some_iff.1 finishes
    rw [Server.Rehearsal.Stage.track, Server.Rehearsal.Stage.deliver, Server.tracker_carryOut,
      finished]
  rw [deliver_eq_taken s₁ event]
  cases (s₁.bindings.play (.resolve ⟨.bot, event.bot⟩)).2.lane? with
  | none =>
    obtain ⟨f', crashed, finishes⟩ := run₂.finish_of_lookup resolving .crashed
    have crashes : f₂.step (.crash id) = some (f', .ended id .crashed) := by
      simp only [step, resolving, crashed]
    have run₃ := run₂.next crashes
    simp only [List.append_assoc, List.singleton_append] at run₃
    exact ⟨_, f', _, run₃, tracked finishes, rfl, .crashed⟩
  | some lane =>
    let draft := s.relay.request s.app.topology lane s.fresh.traceId event
    let f₃ := f₂.withTask id (.sending draft)
    have requests : f₂.step (.request id s.app.topology lane s.fresh.traceId) =
        some (f₃, .requested id draft) := by
      simp only [step, resolving, run₂.relay_eq]
      rfl
    have run₃ := run₂.next requests
    have sending : f₃.tasks.lookup id = some (.sending draft) := lookup_withTask resolving _
    let result := Relay.taken (draft.send s.network)
    obtain ⟨f', taken, finishes⟩ := run₃.finish_of_lookup sending (.taken result)
    have answers : f₃.step (.answer id (draft.send s.network)) =
        some (f', .ended id (.taken result)) := by
      simp only [step, sending, taken, result]
    have run₄ := run₃.next answers
    simp only [List.append_assoc, List.singleton_append] at run₄
    exact ⟨_, f', _, run₄, tracked finishes, rfl, .sent⟩

end Forwarder

end Laneway.Webhook
