import Laneway.Proofs.Webhook.Relaying

set_option autoImplicit false

/-! # Drains among relays

A drain that returns `true` has seen an instant without any relay, and one that has seen such an
instant returns `true`, however late it is woken up. At such an instant every relay that was begun
before the drain has finished. -/

namespace Laneway.Webhook

namespace Forwarder

/-! ## What becomes of a drain -/

section Run

variable {relay : Relay} {start : Instant} {history : List Moment} {f f' : Forwarder} {move : Move}
  {occurrence : Occurrence}

/-- In this moment a caller begins the drain with this timeout. -/
def Moment.Calls (m : Moment) (id : DrainId) (timeout : Duration) : Prop :=
  m.move = .drain timeout ∧ m.occurrence = .draining id

/-- At some instant of these moments, or now, no relay was running. -/
def Idle (since : List Moment) (f : Forwarder) : Prop :=
  (∃ m ∈ since, m.before.inFlight = 0) ∨ f.inFlight = 0

theorem inFlight_eq_zero_iff : f.inFlight = 0 ↔ f.tracker.running = [] :=
  List.length_eq_zero_iff

theorem idle_concat {since : List Moment} {m : Moment} :
    Idle (since ++ [m]) f' ↔ Idle since m.before ∨ f'.inFlight = 0 := by
  simp only [Idle, List.mem_append, List.mem_singleton, or_and_right, exists_or, exists_eq_left]

/-- What has become of a drain since it was begun. -/
inductive Fate (f : Forwarder) (id : DrainId) (deadline : Option Instant) (since : List Moment) :
    Prop
  | waits {reached : Bool} (found : f.tracker.drains.lookup id = some ⟨deadline, reached⟩)
      (told : reached ↔ Idle since f)
  | returned {r : Moment} {complete : Bool} (gone : f.tracker.drains.lookup id = none)
      (mem : r ∈ since) (ended : r.occurrence = .drained id complete)

/-- A move leaves the tracker as it is, or is a move of the tracker too. -/
theorem Change.tracker (h : Change f move f' occurrence) :
    f'.tracker = f.tracker ∨ ∃ tracked event, f.tracker.Change tracked f'.tracker event ∧
      ∀ id complete, event = .drained id complete → occurrence = .drained id complete := by
  cases h with
  | begins | requests => exact .inl rfl
  | forwards => exact .inr ⟨_, _, .forwards, by simp⟩
  | ends _ _ _ running => exact .inr ⟨_, _, .finishes running, by simp⟩
  | drains _ h | advances _ h => exact .inr ⟨_, _, h, by simp⟩
  | returns h => exact .inr ⟨_, _, h, by simp⟩

theorem Run.numbered (run : Run relay start history f) : f.tracker.Numbered := by
  induction run with
  | start => exact nofun
  | next run step ih =>
    rcases (change_of_step step).tracker with same | ⟨_, _, change, -⟩
    · exact same ▸ ih
    · exact change.numbered ih

/-- The clock does not go back. -/
theorem Run.now_le {earlier later : List Moment} {m : Moment}
    (run : Run relay start (earlier ++ m :: later) f) :
    m.before.tracker.now.nanoseconds ≤ f.tracker.now.nanoseconds := by
  have onward {f f' : Forwarder} {move : Move} {occurrence : Occurrence}
      (step : f.step move = some (f', occurrence)) :
      f.tracker.now.nanoseconds ≤ f'.tracker.now.nanoseconds := by
    rcases (change_of_step step).tracker with same | ⟨_, _, change, -⟩
    · exact same ▸ Nat.le_refl _
    · exact change.now_le
  generalize parts : earlier ++ m :: later = whole at run
  induction run generalizing later with
  | start => simp at parts
  | next run step ih =>
    rcases concat_eq_append_cons_iff.1 parts.symm with ⟨rfl, rfl, rfl⟩ | ⟨rest, rfl, rfl⟩
    · exact onward step
    · exact Nat.le_trans (ih rfl) (onward step)

/-- A drain that begins waits, and has seen the instant of its call. -/
theorem Run.fate_of_call (run : Run relay start history f) {id : DrainId} {timeout : Duration}
    (step : f.step (.drain timeout) = some (f', .draining id)) :
    id < f'.tracker.nextDrain ∧ Fate f' id (f.tracker.now.after? timeout) [] := by
  cases change_of_step step with
  | drains _ h =>
    cases h
    have unknown : f.tracker.drains.lookup f.tracker.nextDrain = none := by
      refine Option.eq_none_iff_forall_ne_some.2 fun drain found => ?_
      exact Nat.lt_irrefl _ (run.numbered _ drain found)
    have found := lookup_concat f.tracker.drains f.tracker.nextDrain f.tracker.nextDrain
      (⟨f.tracker.now.after? timeout, f.tracker.running.isEmpty⟩ : Drain)
    rw [unknown, if_pos rfl, Option.none_or] at found
    exact ⟨Nat.lt_succ_self _, .waits found (by simp [Idle, inFlight_eq_zero_iff])⟩

/-- A move leaves a drain to its fate: it waits on, told of an instant without relays, or returns. -/
theorem Fate.concat {id : DrainId} {deadline : Option Instant} {since : List Moment}
    (fate : Fate f id deadline since) (begun : id < f.tracker.nextDrain)
    (change : Change f move f' occurrence) :
    id < f'.tracker.nextDrain ∧ Fate f' id deadline (since ++ [⟨f, move, occurrence⟩]) := by
  rcases change.tracker with same | ⟨tracked, event, tracker, drained⟩
  · rw [same]
    refine ⟨begun, ?_⟩
    cases fate with
    | waits found told =>
      refine .waits (same ▸ found) (told.trans ?_)
      have alike : f'.inFlight = f.inFlight := congrArg Tracker.inFlight same
      rw [idle_concat, alike]
      exact ⟨.inl, fun idle => idle.elim (fun before => before) .inr⟩
    | returned gone mem ended =>
      exact .returned (same ▸ gone) (List.mem_append_left _ mem) ended
  · refine ⟨Nat.lt_of_lt_of_le begun tracker.nextDrain_le, ?_⟩
    cases fate with
    | @waits reached found told =>
      have here : f.tracker.running = [] → reached := fun idle =>
        told.2 (.inr (inFlight_eq_zero_iff.2 idle))
      rcases tracker.lookup_of_some found here with ⟨ended, gone⟩ | found'
      · exact .returned gone (List.mem_append_right _ (List.mem_singleton.2 rfl))
          (drained _ _ ended)
      · refine .waits found' ?_
        rw [idle_concat, inFlight_eq_zero_iff, Bool.or_eq_true, told, List.isEmpty_iff]
    | returned gone mem ended =>
      exact .returned (tracker.lookup_of_none gone begun) (List.mem_append_left _ mem) ended

/-- A drain waits from its call on, and is told at the first instant without relays, until it
    returns: the induction is on what has happened since the call. -/
theorem Run.fate {earlier since : List Moment} {d : Moment} {id : DrainId} {timeout : Duration}
    (run : Run relay start (earlier ++ d :: since) f) (called : d.Calls id timeout) :
    id < f.tracker.nextDrain ∧ Fate f id (d.before.tracker.now.after? timeout) since := by
  generalize parts : earlier ++ d :: since = whole at run
  induction run generalizing since with
  | start => simp at parts
  | next run step ih =>
    rcases concat_eq_append_cons_iff.1 parts.symm with ⟨rfl, rfl, rfl⟩ | ⟨rest, rfl, rfl⟩
    · obtain ⟨rfl, rfl⟩ := called
      exact run.fate_of_call step
    · obtain ⟨begun, fate⟩ := ih rfl
      exact fate.concat begun (change_of_step step)

/-! ## Returns -/

section Return

variable {earlier between later : List Moment} {d r : Moment} {id : DrainId} {timeout : Duration}
  {complete : Bool}

/-- What a drain answers: `true` exactly when no relay was running at some instant since its call,
    and `false` not before its time. -/
theorem Run.drained_iff (run : Run relay start (earlier ++ d :: between ++ r :: later) f)
    (called : d.Calls id timeout) (ended : r.occurrence = .drained id complete) :
    (complete = true ↔ ∃ m ∈ between ++ [r], m.before.inFlight = 0) ∧
      (complete = false → d.before.tracker.now.nanoseconds + timeout.nanoseconds ≤
        r.before.tracker.now.nanoseconds) := by
  obtain ⟨run, f', step⟩ := run.split
  obtain ⟨-, fate⟩ := run.fate called
  have change := change_of_step step
  obtain ⟨f, move, occurrence⟩ := r
  obtain rfl : occurrence = .drained id complete := ended
  cases change with
  | returns h =>
    cases h with
    | returns found due =>
      cases fate with
      | waits waiting told =>
        cases found.symm.trans waiting
        refine ⟨?_, fun unreached => Tracker.isDue_after?_iff.1 (due unreached)⟩
        rw [told, Idle]
        simp only [List.mem_append, List.mem_singleton, or_and_right, exists_or, exists_eq_left]
      | returned gone => cases gone.symm.trans found

/-- An instant without relays before the time of a drain is over settles its answer, even one that
    comes after it has returned. -/
theorem Run.complete_of_idle (run : Run relay start (earlier ++ d :: between ++ r :: later) f)
    (called : d.Calls id timeout) (ended : r.occurrence = .drained id complete) {m : Moment}
    (mem : m ∈ between ++ r :: later) (idle : m.before.inFlight = 0)
    (early : m.before.tracker.now.nanoseconds <
      d.before.tracker.now.nanoseconds + timeout.nanoseconds) : complete = true := by
  obtain ⟨reached, due⟩ := run.drained_iff called ended
  rw [List.append_cons, List.mem_append] at mem
  rcases mem with before | after
  · exact reached.2 ⟨m, before, idle⟩
  · refine eq_true_of_ne_false fun unreached => ?_
    obtain ⟨until_m, since_m, rfl⟩ := List.append_of_mem after
    rw [← List.cons_append, ← List.append_assoc] at run
    have later := run.split.1.now_le
    exact absurd (Nat.lt_of_lt_of_le early (Nat.le_trans (due unreached) later))
      (Nat.lt_irrefl _)

/-- When a drain returns `true`, every relay that was forwarded before its call has finished. -/
theorem Run.finished_of_complete (run : Run relay start (earlier ++ d :: between ++ r :: later) f)
    (called : d.Calls id timeout) (ended : r.occurrence = .drained id true) {relayId : RelayId}
    {event : Event} (forwarded : (relayId, event) ∈ forwards earlier) :
    relayId ∈ finished (earlier ++ d :: between) := by
  obtain ⟨m, mem, idle⟩ := (run.drained_iff called ended).1.1 rfl
  obtain ⟨first, rest, parts⟩ := List.append_of_mem mem
  have upTo : ∃ more, between = first ++ more := by
    rcases concat_eq_append_cons_iff.1 parts with ⟨rfl, -, -⟩ | ⟨rest', rfl, -⟩
    · exact ⟨[], (List.append_nil _).symm⟩
    · exact ⟨m :: rest', rfl⟩
  have cut : earlier ++ d :: between ++ r :: later =
      (earlier ++ d :: first) ++ m :: (rest ++ later) := by
    rw [List.append_cons _ r, List.append_assoc earlier, List.cons_append, parts]
    simp
  have run := (cut ▸ run).split.1
  have none_running : relayId ∉ m.before.tracker.running := by
    rw [inFlight_eq_zero_iff.1 idle]
    exact List.not_mem_nil
  have known : (relayId, event) ∈ forwards (earlier ++ d :: first) := by
    rw [forwards, List.filterMap_append]
    exact List.mem_append_left _ forwarded
  have over_by_then : relayId ∈ finished (earlier ++ d :: first) := by
    refine Classical.byContradiction fun unfinished => none_running ?_
    exact run.mem_running_iff.2 ⟨⟨event, known⟩, unfinished⟩
  obtain ⟨more, rfl⟩ := upTo
  rw [← List.cons_append, ← List.append_assoc, finished, List.filterMap_append]
  exact List.mem_append_left _ over_by_then

end Return

end Run

/-! ## Executions -/

variable {relay : Relay} {start : Instant}

/-- A run that goes on forever. -/
structure Execution (relay : Relay) (start : Instant) where
  forwarder : Nat → Forwarder
  move : Nat → Move
  occurrence : Nat → Occurrence
  start : forwarder 0 = .new relay start
  step : ∀ i, (forwarder i).step (move i) = some (forwarder (i + 1), occurrence i)

namespace Execution

def moment (e : Execution relay start) (i : Nat) : Moment :=
  ⟨e.forwarder i, e.move i, e.occurrence i⟩

/-- The history of the first `k` moves. -/
def history (e : Execution relay start) (k : Nat) : List Moment := (List.range k).map e.moment

theorem history_succ (e : Execution relay start) (k : Nat) :
    e.history (k + 1) = e.history k ++ [e.moment k] := by
  rw [history, List.range_succ, List.map_append]
  rfl

theorem run (e : Execution relay start) (k : Nat) : Run relay start (e.history k) (e.forwarder k) := by
  induction k with
  | zero =>
    rw [e.start]
    exact .start
  | succ k ih =>
    rw [history_succ]
    exact ih.next (e.step k)

/-- The moments after one and before another. -/
def between (e : Execution relay start) (i k : Nat) : List Moment :=
  (List.range' (i + 1) (k - (i + 1))).map e.moment

theorem mem_between {e : Execution relay start} {i j k : Nat} (after : i < j) (before : j < k) :
    e.moment j ∈ e.between i k := by
  refine List.mem_map_of_mem (List.mem_range'_1.2 ⟨after, ?_⟩)
  rwa [Nat.add_sub_cancel' (Nat.le_trans after (Nat.le_of_lt before))]

theorem exists_of_mem_between {e : Execution relay start} {i k : Nat} {m : Moment}
    (mem : m ∈ e.between i k) : ∃ j, i < j ∧ e.moment j = m := by
  obtain ⟨j, range, same⟩ := List.mem_map.1 mem
  exact ⟨j, (List.mem_range'_1.1 range).1, same⟩

/-- The numbers from `i` on and before `k`, cut at one of them. -/
theorem range'_cut {i r k : Nat} (after : i ≤ r) (before : r < k) :
    List.range' i (k - i) = List.range' i (r - i) ++ r :: List.range' (r + 1) (k - (r + 1)) := by
  have here : i + (r - i) = r := Nat.add_sub_cancel' after
  have length : k - i = r - i + (k - (r + 1) + 1) := by omega
  rw [length, ← List.range'_append_1, List.range'_succ, here]

theorem between_split (e : Execution relay start) {i r k : Nat} (after : i < r) (before : r < k) :
    e.between i k = e.between i r ++ e.moment r :: e.between r k := by
  rw [between, between, between, range'_cut after before, List.map_append, List.map_cons]

theorem history_split (e : Execution relay start) {i k : Nat} (h : i < k) :
    e.history k = e.history i ++ e.moment i :: e.between i k := by
  have parts := range'_cut (Nat.zero_le i) h
  rw [Nat.sub_zero, Nat.sub_zero, ← List.range_eq_range', ← List.range_eq_range'] at parts
  rw [history, history, between, parts, List.map_append, List.map_cons]

/-- The scheduler comes to every task that has been spawned, and to every drain that can return. -/
structure Fair (e : Execution relay start) : Prop where
  begins : ∀ k id event, (e.forwarder k).tasks.lookup id = some (.spawned event) →
    ∃ j, k ≤ j ∧ e.move j = .begin id
  wakes : ∀ k id, ((e.forwarder k).step (.wake id)).isSome → ∃ j, k ≤ j ∧ e.move j = .wake id

variable {e : Execution relay start} {k : Nat}

/-- Every event that is forwarded comes to be delivered, and then in one run. -/
theorem Fair.delivers (fair : e.Fair) {id : RelayId} {event : Event}
    (forwarded : e.occurrence k = .forwarded id event) :
    ∃ j, k < j ∧ ∀ n, j < n → deliveries id (e.history n) = [event] := by
  have spawned := (e.run k).spawned_of_forwarded (forwarded ▸ e.step k)
  obtain ⟨j, after, moves⟩ := fair.begins (k + 1) id event spawned
  refine ⟨j, after, fun n before => ?_⟩
  have known : (id, event) ∈ forwards (e.history n) := by
    rw [forwards, e.history_split (Nat.lt_trans after before), List.mem_filterMap]
    exact ⟨e.moment k, by simp, by simp [moment, forwarded]⟩
  cases ((e.run n).delivered id).stands event known with
  | delivers _ once => exact once
  | waits _ none =>
    -- the task has been run for the first time, so its delivery is on record
    obtain ⟨event', delivering⟩ := delivering_of_begin (moves ▸ e.step j)
    have recorded : event' ∈ deliveries id (e.history n) := by
      rw [deliveries, e.history_split before, List.mem_filterMap]
      exact ⟨e.moment j, by simp, by simp [moment, delivering]⟩
    exact absurd (none ▸ recorded) List.not_mem_nil

/-- A drain that can return does so, unless it has returned before. -/
theorem Fair.returns (fair : e.Fair) {id : DrainId} {timeout : Duration}
    (called : (e.moment k).Calls id timeout) {j : Nat} (after : k < j)
    (ready : ∀ reached, (e.forwarder j).tracker.drains.lookup id =
      some ⟨(e.forwarder k).tracker.now.after? timeout, reached⟩ →
      (reached ↔ Idle (e.between k j) (e.forwarder j)) →
      ((e.forwarder j).step (.wake id)).isSome) :
    ∃ r complete, k < r ∧ e.occurrence r = .drained id complete := by
  have run := e.history_split after ▸ e.run j
  cases (run.fate called).2 with
  | @waits reached found told =>
    obtain ⟨r, later, moves⟩ := fair.wakes j id (ready reached found told)
    obtain ⟨complete, ended⟩ := drained_of_wake (moves ▸ e.step r)
    exact ⟨r, complete, Nat.lt_of_lt_of_le after later, ended⟩
  | @returned m complete gone mem ended =>
    obtain ⟨r, later, rfl⟩ := exists_of_mem_between mem
    exact ⟨r, complete, later, ended⟩

/-- A drain answers `true` when there is an instant without relays before its time is over. -/
theorem complete_of_idle {r j : Nat} {id : DrainId} {timeout : Duration} {complete : Bool}
    (called : (e.moment k).Calls id timeout) (returned : k < r)
    (ended : e.occurrence r = .drained id complete) (after : k < j)
    (idle : (e.forwarder j).inFlight = 0)
    (early : (e.forwarder j).tracker.now.nanoseconds <
      (e.forwarder k).tracker.now.nanoseconds + timeout.nanoseconds) : complete = true := by
  -- a history that is long enough for both moments
  have long_r : r < max r j + 1 := Nat.lt_succ_of_le (Nat.le_max_left r j)
  have long_j : j < max r j + 1 := Nat.lt_succ_of_le (Nat.le_max_right r j)
  have parts : e.history (max r j + 1) = e.history k ++ e.moment k :: e.between k r ++
      e.moment r :: e.between r (max r j + 1) := by
    rw [e.history_split (Nat.lt_trans returned long_r), e.between_split returned long_r,
      List.append_assoc, List.cons_append]
  have mem : e.moment j ∈ e.between k r ++ e.moment r :: e.between r (max r j + 1) := by
    rw [← e.between_split returned long_r]
    exact mem_between after long_j
  exact (parts ▸ e.run (max r j + 1)).complete_of_idle called ended mem idle early

end Execution

/-! ## Results -/

/-- What a history tells of the relays, and what the forwarder shows of them. -/
structure Balanced (history : List Moment) (f : Forwarder) : Prop where
  /-- Every call has a relay of its own. -/
  numbered : (forwards history).map Prod.fst = List.range (forwards history).length
  /-- No relay finishes twice. -/
  once : (finished history).Nodup
  inFlight : f.inFlight + (finished history).length = (forwards history).length
  running : ∀ id, id ∈ f.tracker.running ↔
    (∃ event, (id, event) ∈ forwards history) ∧ id ∉ finished history

/-- An event is delivered by its own relay and by that in one run, which is over when the relay has
    finished; until it begins, it can begin at once. -/
structure DeliveredOnce (history : List Moment) (f : Forwarder) : Prop where
  own : ∀ id event, (id, event) ∈ forwards history →
    deliveries id history = [event] ∨ deliveries id history = [] ∧
      ∃ f', f.step (.begin id) = some (f', .delivering id event)
  ended : ∀ id ∈ finished history, deliveries id history ≠ []
  other : ∀ id, deliveries id history ≠ [] → ∃ event, (id, event) ∈ forwards history

/-- What the answer of a drain tells: `d` is its call, and `r` its return. -/
structure Answered (earlier between later : List Moment) (d r : Moment) (timeout : Duration)
    (complete : Bool) : Prop where
  exact : complete = true ↔ ∃ m ∈ between ++ [r], m.before.inFlight = 0
  timely : (∃ m ∈ between ++ r :: later, m.before.inFlight = 0 ∧
    m.before.tracker.now.nanoseconds < d.before.tracker.now.nanoseconds + timeout.nanoseconds) →
      complete = true
  lossless : complete = true → ∀ id event, (id, event) ∈ forwards earlier →
    id ∈ finished (earlier ++ d :: between)

section Results

variable {relay : Relay} {start : Instant} {history : List Moment} {f : Forwarder}

theorem Run.balanced (run : Run relay start history f) : Balanced history f := by
  have accounted := run.accounted
  have begun : (forwards history).length = f.tracker.begun := by
    rw [← List.length_map (f := Prod.fst), accounted.numbered, List.length_range]
  refine ⟨begun ▸ accounted.numbered, ?_, ?_, fun id => run.mem_running_iff⟩
  · exact (List.nodup_append.1 accounted.nodup).2.1
  · have total := accounted.balance.length_eq
    rw [List.length_append, List.length_range] at total
    exact total.trans begun.symm

theorem Run.deliveredOnce (run : Run relay start history f) : DeliveredOnce history f := by
  refine ⟨fun id event forwarded => ?_, fun id ended => ?_, fun id delivered => ?_⟩
  · cases (run.delivered id).stands event forwarded with
    | waits found none =>
      refine .inr ⟨none, f.withTask id (.resolving event), ?_⟩
      simp only [step, found]
    | delivers _ once => exact .inl once
  · have idle : id ∉ f.tracker.running := fun running => (run.mem_running_iff.1 running).2 ended
    have begun : id ∈ List.range f.tracker.begun :=
      run.accounted.balance.mem_iff.1 (List.mem_append_right _ ended)
    rw [← run.accounted.numbered] at begun
    obtain ⟨⟨_, event⟩, forwarded, rfl⟩ := List.mem_map.1 begun
    cases (run.delivered _).stands event forwarded with
    | waits found => exact absurd (run.mem_running_of_lookup found) idle
    | delivers _ once => rw [once]; exact List.cons_ne_nil _ _
  · have begun : id ∈ List.range f.tracker.begun :=
      List.mem_range.2 (Nat.lt_of_not_le fun le => delivered ((run.delivered id).unborn le).1)
    rw [← run.accounted.numbered] at begun
    obtain ⟨⟨_, event⟩, forwarded, rfl⟩ := List.mem_map.1 begun
    exact ⟨event, forwarded⟩

theorem Run.answered {earlier between later : List Moment} {d r : Moment} {id : DrainId}
    {timeout : Duration} {complete : Bool}
    (run : Run relay start (earlier ++ d :: between ++ r :: later) f) (called : d.Calls id timeout)
    (ended : r.occurrence = .drained id complete) :
    Answered earlier between later d r timeout complete := by
  refine ⟨(run.drained_iff called ended).1, ?_, ?_⟩
  · rintro ⟨m, mem, idle, early⟩
    exact run.complete_of_idle called ended mem idle early
  · rintro rfl id event forwarded
    exact run.finished_of_complete called ended forwarded

/-- However calls, relays and drains interleave, none is lost: the relays that run are those forwarded
    and not finished, each event is delivered in one run, and a drain answers `true` exactly when it
    has seen an instant without relays. With a fair scheduler every event comes to be delivered, and a
    drain returns: with `true` after an instant without relays before its time is over, and in any
    case once its time is over. -/
theorem drain_loses_no_relay (relay : Relay) (start : Instant) :
    (∀ history f, Run relay start history f → Balanced history f ∧ DeliveredOnce history f) ∧
    (∀ earlier between later d r f id timeout complete,
      Run relay start (earlier ++ d :: between ++ r :: later) f → d.Calls id timeout →
        r.occurrence = .drained id complete →
          Answered earlier between later d r timeout complete) ∧
    ∀ e : Execution relay start, e.Fair →
      (∀ k id event, e.occurrence k = .forwarded id event →
        ∃ j, k < j ∧ ∀ n, j < n → deliveries id (e.history n) = [event]) ∧
      ∀ k id timeout, (e.moment k).Calls id timeout → ∀ j, k < j →
        ((e.forwarder j).inFlight = 0 → (e.forwarder j).tracker.now.nanoseconds <
            (e.forwarder k).tracker.now.nanoseconds + timeout.nanoseconds →
          ∃ r, k < r ∧ e.occurrence r = .drained id true) ∧
        ((e.forwarder k).tracker.now.nanoseconds + timeout.nanoseconds ≤
            (e.forwarder j).tracker.now.nanoseconds →
          ∃ r complete, k < r ∧ e.occurrence r = .drained id complete) := by
  refine ⟨fun history f run => ⟨run.balanced, run.deliveredOnce⟩, ?_, fun e fair => ⟨?_, ?_⟩⟩
  · exact fun _ _ _ _ _ _ _ _ _ run called ended => run.answered called ended
  · exact fun k id event forwarded => fair.delivers forwarded
  · intro k id timeout called j after
    constructor
    · intro idle early
      obtain ⟨r, complete, returned, ended⟩ := fair.returns called after fun reached found told => by
        obtain ⟨tracker, wakes⟩ := Tracker.wake_of_reached found (told.2 (.inr idle))
        simp [step, track, wakes]
      obtain rfl := Execution.complete_of_idle called returned ended after idle early
      exact ⟨r, returned, ended⟩
    · intro late
      refine fair.returns called after fun reached found told => ?_
      obtain ⟨tracker, complete, wakes⟩ := Tracker.wake_of_due found (Tracker.isDue_after?_iff.2 late)
      simp [step, track, wakes]

end Results

/-- The states that some moves lead to from the start, and then time that stands still. -/
def playing (relay : Relay) (moves : List Move) : Nat → Forwarder
  | 0 => .new relay .start
  | k + 1 => match (playing relay moves k).step (moves.getD k (.advance ⟨0⟩)) with
    | some (f, _) => f
    | none => playing relay moves k

theorem step_advance_zero (f : Forwarder) : f.step (.advance ⟨0⟩) = some (f, .silent) := by
  have now : f.tracker.now.after? ⟨0⟩ = some f.tracker.now :=
    Instant.after?_eq_some_iff.2 (Nat.add_zero _).symm
  simp only [step, track, Tracker.step, now]
  rfl

/-- The execution that makes some moves, each of which is possible, and then stands still. -/
def Execution.ofMoves (relay : Relay) (moves : List Move)
    (possible : ∀ k < moves.length,
      ((playing relay moves k).step (moves.getD k (.advance ⟨0⟩))).isSome) :
    Execution relay .start where
  forwarder := playing relay moves
  move k := moves.getD k (.advance ⟨0⟩)
  occurrence k := (((playing relay moves k).step (moves.getD k (.advance ⟨0⟩))).map Prod.snd).getD
    .silent
  start := rfl
  step k := by
    have some_next : ((playing relay moves k).step (moves.getD k (.advance ⟨0⟩))).isSome := by
      by_cases h : k < moves.length
      · exact possible k h
      · rw [List.getD, List.getElem?_eq_none (Nat.le_of_not_lt h), Option.getD_none,
          step_advance_zero]
        rfl
    obtain ⟨⟨f, occurrence⟩, h⟩ := Option.isSome_iff_exists.1 some_next
    rw [playing, h]
    rfl

def sampleRelay : Relay := ⟨.standard, "secret"⟩

def sampleEvent (bot : String) : Event := ⟨"message", bot, .null⟩

/-- A drain waits for one relay, which crashes; before it is woken up another is forwarded. -/
def lateRelay : List Move :=
  [.forward (sampleEvent "first"), .drain (.ofSeconds 5), .begin 0, .crash 0,
    .forward (sampleEvent "second"), .begin 1, .wake 0]

def lateExecution : Execution sampleRelay .start := .ofMoves sampleRelay lateRelay (by decide)

theorem forwarder_lateExecution (k : Nat) :
    lateExecution.forwarder (k + 7) = lateExecution.forwarder 7 := by
  induction k with
  | zero => rfl
  | succ k ih =>
    have step := lateExecution.step (k + 7)
    rw [show lateExecution.move (k + 7) = .advance ⟨0⟩ from rfl, step_advance_zero] at step
    rw [Nat.add_right_comm, ← (Prod.mk.inj (Option.some.inj step)).1, ih]

theorem fair_lateExecution : lateExecution.Fair := by
  refine ⟨fun k id event found => ?_, fun k id ready => ?_⟩
  · have mem := mem_of_lookup found
    match k with
    | 0 | 4 => exact nomatch mem
    | 1 | 2 =>
      cases List.mem_singleton.1 mem
      exact ⟨2, by decide, rfl⟩
    | 3 | 6 => cases List.mem_singleton.1 mem
    | 5 =>
      cases List.mem_singleton.1 mem
      exact ⟨5, by decide, rfl⟩
    | k + 7 =>
      rw [forwarder_lateExecution] at mem
      cases List.mem_singleton.1 mem
  · match k with
    | 0 | 1 => exact nomatch ready
    | 2 | 3 | 4 | 5 | 6 =>
      obtain ⟨⟨f, occurrence⟩, step⟩ := Option.isSome_iff_exists.1 ready
      cases change_of_step step with
      | returns h =>
        cases h with
        | returns found =>
          cases List.mem_singleton.1 (mem_of_lookup found)
          exact ⟨6, by decide, rfl⟩
      | ends ends => exact nomatch ends
    | k + 7 =>
      rw [forwarder_lateExecution] at ready
      exact nomatch ready

theorem drain_loses_no_relay_lateRelay : ∃ e : Execution sampleRelay .start, e.Fair ∧
    (e.moment 1).Calls 0 (.ofSeconds 5) ∧ e.occurrence 6 = .drained 0 true ∧
    Balanced (e.history 7) (e.forwarder 7) ∧ (e.forwarder 7).inFlight = 1 ∧
    Answered (e.history 1) (e.between 1 6) [] (e.moment 1) (e.moment 6) (.ofSeconds 5) true ∧
    (∃ j, 4 < j ∧ ∀ n, j < n → deliveries 1 (e.history n) = [sampleEvent "second"]) ∧
    ∃ r, 1 < r ∧ e.occurrence r = .drained 0 true := by
  have called : (lateExecution.moment 1).Calls 0 (.ofSeconds 5) := ⟨rfl, rfl⟩
  obtain ⟨counted, answered, live⟩ := drain_loses_no_relay sampleRelay .start
  obtain ⟨delivered, returned⟩ := live lateExecution fair_lateExecution
  have early : (0 : Nat) < (lateExecution.forwarder 1).tracker.now.nanoseconds +
      (Duration.ofSeconds 5).nanoseconds := by decide
  exact ⟨lateExecution, fair_lateExecution, called, rfl,
    (counted _ _ (lateExecution.run 7)).1, rfl,
    answered _ _ [] _ _ _ 0 _ _ (lateExecution.run 7) called rfl,
    delivered 4 1 _ rfl, (returned 1 0 _ called 4 (by decide)).1 rfl early⟩

end Forwarder

end Laneway.Webhook
