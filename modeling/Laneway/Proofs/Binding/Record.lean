import Laneway.Proofs.Binding.Invalidation
import Laneway.Proofs.History

set_option autoImplicit false

/-! # What the cache knows of the past

What a call finds in the cache follows from the past of its key alone, and of that past only two kinds
of moments count: the ends of lookups that the store has answered, and drops. A call asks the store
exactly when nothing that was kept since the last drop is within its lifetime, and otherwise it
returns the latest of what was. -/

namespace Laneway.Binding

namespace Resolving

/-! ## Histories -/

/-- A move with the state it was made in and what came of it. -/
structure Moment where
  before : Resolving
  move : Move
  event : Event

/-- The runs of a resolver with this lifetime over a store that may change at any time: the history
    and the state it has led to. -/
inductive Run (lifetime : Duration) (store : Store) : List Moment → Resolving → Prop
  | start : Run lifetime store [] (.new lifetime store)
  | next {history : List Moment} {s s' : Resolving} {move : Move} {event : Event}
      (run : Run lifetime store history s) (step : s.step move = some (s', event)) :
      Run lifetime store (history ++ [⟨s, move, event⟩]) s'

/-- What a lookup has found, and when it ended. -/
structure Finding where
  lane : Option String
  ended : Instant

/-- The finding is within its lifetime. -/
def Finding.Holds (f : Finding) (lifetime : Duration) (now : Instant) : Prop :=
  now.nanoseconds < f.ended.nanoseconds + lifetime.nanoseconds

/-- The clock can show the end of the finding's lifetime. -/
def Finding.shown (lifetime : Duration) (f : Finding) : Bool := (f.ended.after? lifetime).isSome

/-- How a lookup with this answer ends now: a failure counts as no binding, and the call fails when
    the clock cannot show the end of the answer's lifetime. -/
def outcome (s : Resolving) : Answer → Outcome
  | .error _ => .lane none
  | .ok lane =>
    if (s.now.after? s.resolver.cache.lifetime).isSome then .lane lane else .outOfRange

namespace Moment

/-- What is kept for the key is dropped in this moment. -/
def drops (key : Key) (m : Moment) : Bool :=
  match m.move with
  | .invalidate other => other = key
  | .clear => true
  | _ => false

/-- What a lookup of the key has found that the store has answered and that ends in this moment, for
    its call returns it. -/
def finding? (key : Key) (m : Moment) : Option Finding :=
  match m.move, m.event with
  | .complete id, .ended _ (.lane lane) =>
    match m.before.resolver.lookups.lookup id with
    | some ⟨other, some (.ok _)⟩ => if other = key then some ⟨lane, m.before.now⟩ else none
    | _ => none
  | _, _ => none

/-- What a lookup of the key has found that the store has answered and that ends in this moment,
    whatever becomes of its call. -/
def completion? (key : Key) (m : Moment) : Option Finding :=
  match m.move with
  | .complete id =>
    match m.before.resolver.lookups.lookup id with
    | some ⟨other, some (.ok lane)⟩ => if other = key then some ⟨lane, m.before.now⟩ else none
    | _ => none
  | _ => none

/-- The move is a call on the key, a step of one of its lookups, or a drop of what is kept for it. -/
def concerns (key : Key) (m : Moment) : Bool :=
  match m.move with
  | .resolve other | .invalidate other => other = key
  | .read id | .complete id =>
    (m.before.resolver.lookups.lookup id).any fun lookup => lookup.key = key
  | .clear => true
  | .change _ | .advance _ => false

end Moment

/-- What the moments since the last drop bring, in their order. -/
def sinceDrop (key : Key) (brings : Moment → Option Finding) (history : List Moment) :
    List Finding :=
  history.foldl (fun found m => if m.drops key then [] else found ++ (brings m).toList) []

/-- What the lookups of the key have found that ended since the last drop and whose calls returned it,
    in the order of their ends. -/
def findings (key : Key) : List Moment → List Finding := sinceDrop key (Moment.finding? key)

/-- What the lookups of the key have found that ended since the last drop, in the order of their
    ends. -/
def completions (key : Key) : List Moment → List Finding := sinceDrop key (Moment.completion? key)

theorem sinceDrop_concat (key : Key) (brings : Moment → Option Finding) (history : List Moment)
    (m : Moment) : sinceDrop key brings (history ++ [m]) =
      if m.drops key then [] else sinceDrop key brings history ++ (brings m).toList := by
  simp [sinceDrop]

theorem findings_concat (key : Key) (history : List Moment) (m : Moment) :
    findings key (history ++ [m]) =
      if m.drops key then [] else findings key history ++ (m.finding? key).toList :=
  sinceDrop_concat key _ history m

theorem completions_concat (key : Key) (history : List Moment) (m : Moment) :
    completions key (history ++ [m]) =
      if m.drops key then [] else completions key history ++ (m.completion? key).toList :=
  sinceDrop_concat key _ history m

variable {lifetime : Duration} {store : Store} {history : List Moment} {s s' : Resolving}
  {move : Move} {event : Event} {key : Key}

theorem Moment.drops_of_unconcerned {m : Moment} (other : m.concerns key = false) :
    m.drops key = false := by
  unfold concerns at other
  unfold drops
  split at other <;> simp_all

/-- A moment that is about other keys completes no lookup of a key. -/
theorem Moment.completion?_of_unconcerned {m : Moment} (other : m.concerns key = false) :
    m.completion? key = none := by
  unfold completion?
  split
  · next id hmove =>
    simp only [concerns, hmove] at other
    split
    · next found =>
      rw [found] at other
      simpa using other
    · rfl
  · rfl

theorem completions_append_of_unconcerned (history : List Moment) {more : List Moment}
    (other : ∀ m ∈ more, m.concerns key = false) :
    completions key (history ++ more) = completions key history := by
  induction more generalizing history with
  | nil => rw [List.append_nil]
  | cons m rest ih =>
    have here := other m List.mem_cons_self
    rw [List.append_cons, ih _ fun m' hm => other m' (List.mem_cons_of_mem _ hm),
      completions_concat, m.drops_of_unconcerned here, m.completion?_of_unconcerned here]
    simp

/-! ## The cache reflects the findings -/

/-- An entry of the cache is what is kept of a finding. -/
inductive Reflects (lifetime : Duration) : Option Finding → Option Entry → Prop
  | nothing : Reflects lifetime none none
  | kept {f : Finding} {expires : Instant}
      (shown : f.ended.after? lifetime = some expires) :
      Reflects lifetime (some f) (some ⟨f.lane, expires⟩)

theorem Run.leads (run : Run lifetime store history s) :
    (new lifetime store).Leads (history.map Moment.event) s := by
  induction run with
  | start => exact .start
  | next run step ih =>
    rw [List.map_append]
    exact ih.next step

theorem Run.cacheLifetime (run : Run lifetime store history s) :
    s.resolver.cache.lifetime = lifetime := by
  induction run with
  | start => rfl
  | next run step ih => exact (change_of_step step).lifetime.trans ih

/-- The cache keeps of each key the latest finding since the last drop. -/
theorem Run.reflects (run : Run lifetime store history s) (key : Key) :
    Reflects lifetime (findings key history).getLast? (s.resolver.cache.get? key) := by
  induction run with
  | start => exact .nothing
  | @next history s s' move event run step ih =>
    rw [findings_concat]
    cases change_of_step step with
    | answers | begins | reads | changes | advances =>
      show Reflects _ _ (s.resolver.cache.get? key)
      simpa [Moment.drops, Moment.finding?] using ih
    | overflows found | fails found =>
      show Reflects _ _ (s.resolver.cache.get? key)
      simpa [Moment.drops, Moment.finding?, found] using ih
    | @keeps id other lane expires found shown =>
      rw [run.cacheLifetime] at shown
      show Reflects _ _ ((s.resolver.cache.insert _ _).get? key)
      rw [Cache.get?_insert]
      by_cases same : key = other
      · subst same
        have kept : Reflects lifetime (some ⟨lane, s.now⟩) (some ⟨lane, expires⟩) := .kept shown
        simpa [Moment.drops, Moment.finding?, found] using kept
      · simpa [Moment.drops, Moment.finding?, found, same, Ne.symm same] using ih
    | @invalidates other =>
      show Reflects _ _ ((s.resolver.cache.invalidate _).get? key)
      rw [Cache.get?_invalidate]
      by_cases same : key = other
      · subst same
        simpa [Moment.drops] using Reflects.nothing
      · simpa [Moment.drops, Moment.finding?, same, Ne.symm same] using ih
    | clears => exact .nothing

/-- Complete lookups stand in the order of their ends, and all are in the past. -/
theorem Run.completions_ordered (run : Run lifetime store history s) (key : Key) :
    (completions key history).Pairwise (·.ended ≤ ·.ended) ∧
      ∀ f ∈ completions key history, f.ended ≤ s.now := by
  induction run with
  | start => exact ⟨.nil, fun _ hf => nomatch hf⟩
  | @next history s s' move event run step ih =>
    obtain ⟨sorted, past⟩ := ih
    have later := (change_of_step step).now_le
    rw [completions_concat]
    split
    · exact ⟨.nil, fun _ hf => nomatch hf⟩
    · have now : ∀ f, Moment.completion? key ⟨s, move, event⟩ = some f → f.ended = s.now := by
        intro f hf
        unfold Moment.completion? at hf
        split at hf
        · split at hf
          · split at hf
            · cases hf
              rfl
            · exact nomatch hf
          · exact nomatch hf
        · exact nomatch hf
      refine ⟨List.pairwise_append.2 ⟨sorted, ?_, ?_⟩, ?_⟩
      · cases Moment.completion? key ⟨s, move, event⟩ <;> simp
      · intro f hf g hg
        rw [now g (Option.mem_toList.1 hg)]
        exact past f hf
      · intro f hf
        rcases List.mem_append.1 hf with old | new
        · exact Nat.le_trans (past f old) later
        · rw [now f (Option.mem_toList.1 new)]
          exact later

/-- What is kept of the complete lookups are those whose lifetime ends on the clock. -/
theorem Run.findings_eq (run : Run lifetime store history s) (key : Key) :
    findings key history = (completions key history).filter (·.shown lifetime) := by
  induction run with
  | start => rfl
  | @next history s s' move event run step ih =>
    rw [findings_concat, completions_concat]
    cases change_of_step step with
    | answers | begins | reads | changes | advances =>
      simpa [Moment.drops, Moment.finding?, Moment.completion?] using ih
    | fails found => simpa [Moment.drops, Moment.finding?, Moment.completion?, found] using ih
    | @overflows id other lane found beyond =>
      rw [run.cacheLifetime] at beyond
      have lost : Finding.shown lifetime ⟨lane, s.now⟩ = false := by simp [Finding.shown, beyond]
      by_cases same : other = key
      · simpa [Moment.drops, Moment.finding?, Moment.completion?, found, same, lost] using ih
      · simpa [Moment.drops, Moment.finding?, Moment.completion?, found, same] using ih
    | @keeps id other lane expires found shown =>
      rw [run.cacheLifetime] at shown
      have kept : Finding.shown lifetime ⟨lane, s.now⟩ = true := by simp [Finding.shown, shown]
      by_cases same : other = key
      · simpa [Moment.drops, Moment.finding?, Moment.completion?, found, same, kept] using ih
      · simpa [Moment.drops, Moment.finding?, Moment.completion?, found, same] using ih
    | @invalidates other =>
      by_cases same : other = key
      · simp [Moment.drops, same]
      · simpa [Moment.drops, Moment.finding?, Moment.completion?, same] using ih
    | clears => rfl

/-- Findings stand in the order of their ends. -/
theorem Run.ordered (run : Run lifetime store history s) (key : Key) :
    (findings key history).Pairwise (·.ended ≤ ·.ended) := by
  rw [run.findings_eq]
  exact (run.completions_ordered key).1.filter _

/-- What a call finds in the cache. -/
theorem Run.answer?_eq_some_iff (run : Run lifetime store history s) (key : Key) (now : Instant)
    (lane : Option String) : s.resolver.cache.answer? now key = some lane ↔
      ∃ f, (findings key history).getLast? = some f ∧ f.Holds lifetime now ∧ f.lane = lane := by
  have reflects := run.reflects key
  unfold Cache.answer?
  generalize (findings key history).getLast? = latest at reflects
  generalize s.resolver.cache.get? key = entry at reflects
  cases reflects with
  | nothing => simp
  | @kept f expires shown =>
    have hexpires := Instant.after?_eq_some_iff.1 shown
    have holds : now < expires ↔ f.Holds lifetime now := by
      unfold Finding.Holds
      rw [← hexpires]
      exact Iff.rfl
    simp [holds]

/-! ## Calls and the ends of their lookups -/

/-- Every moment of a run was reached by a run, and its move was possible. -/
theorem Run.split {earlier later : List Moment} {m : Moment}
    (run : Run lifetime store (earlier ++ m :: later) s) :
    Run lifetime store earlier m.before ∧ ∃ s', m.before.step m.move = some (s', m.event) := by
  generalize hh : earlier ++ m :: later = history at run
  induction run generalizing later with
  | start => simp at hh
  | next run step ih =>
    rcases concat_eq_append_cons_iff.1 hh.symm with ⟨rfl, rfl, rfl⟩ | ⟨rest, rfl, rfl⟩
    · exact ⟨run, _, step⟩
    · exact ih rfl

/-- A call finds the answer that holds, or begins a lookup. -/
theorem step_resolve (s : Resolving) (key : Key) :
    (∃ lane, s.resolver.cache.answer? s.now key = some lane ∧
      s.step (.resolve key) = some (s, .called key (.answered lane))) ∨
    (s.resolver.cache.answer? s.now key = none ∧
      ∃ s', s.step (.resolve key) = some (s', .called key (.waiting s.resolver.queries)) ∧
        s'.resolver.queries = s.resolver.queries + 1 ∧
        s'.resolver.cache = s.resolver.cache) := by
  simp only [step, Resolver.resolve]
  cases kept : s.resolver.cache.answer? s.now key with
  | some lane => exact .inl ⟨lane, rfl, rfl⟩
  | none => exact .inr ⟨rfl, _, rfl, rfl, rfl⟩

/-- A lookup that has not read the store can read it. -/
theorem step_read {id : LookupId}
    (unread : s.resolver.lookups.lookup id = some ⟨key, none⟩) :
    s.step (.read id) = some (s.withLookup id ⟨key, some (s.store key)⟩,
      .read id ⟨key, some (s.store key)⟩) := by
  simp only [step, Resolver.read, unread]
  rfl

/-- A lookup that has been answered can end, and ends with its answer. -/
theorem step_complete {id : LookupId} {answer : Answer}
    (found : s.resolver.lookups.lookup id = some ⟨key, some answer⟩) :
    ∃ s', s.step (.complete id) = some (s', .ended id (s.outcome answer)) ∧
      (∀ fault, answer = .error fault → s'.resolver.cache = s.resolver.cache) := by
  simp only [step, Resolver.complete, found]
  cases answer with
  | error fault => exact ⟨_, rfl, fun _ _ => rfl⟩
  | ok lane =>
    simp only [Cache.keep?, outcome]
    cases s.now.after? s.resolver.cache.lifetime with
    | none =>
      refine ⟨_, rfl, ?_⟩
      rintro fault ⟨⟩
    | some expires =>
      refine ⟨_, rfl, ?_⟩
      rintro fault ⟨⟩

theorem step_complete_of_shown {id : LookupId} {lane : Option String} {expires : Instant}
    (found : s.resolver.lookups.lookup id = some ⟨key, some (.ok lane)⟩)
    (shown : s.now.after? s.resolver.cache.lifetime = some expires) :
    s.step (.complete id) =
      some (s.ending id (s.resolver.cache.insert key ⟨lane, expires⟩), .ended id (.lane lane)) := by
  simp only [step, Resolver.complete, found, Cache.keep?, shown, Option.map_some]
  rfl

theorem step_complete_of_beyond {id : LookupId} {lane : Option String}
    (found : s.resolver.lookups.lookup id = some ⟨key, some (.ok lane)⟩)
    (beyond : s.now.after? s.resolver.cache.lifetime = none) :
    s.step (.complete id) = some (s.ending id s.resolver.cache, .ended id .outOfRange) := by
  simp only [step, Resolver.complete, found, Cache.keep?, beyond, Option.map_none, Option.map_some]
  rfl

/-- Only a lookup that has been answered ends. -/
theorem Change.answered (change : s.Change move s' event) {id : LookupId} {result : Outcome}
    (ended : event = .ended id result) :
    move = .complete id ∧
      ∃ key answer, s.resolver.lookups.lookup id = some ⟨key, some answer⟩ := by
  cases change with
  | keeps found | overflows found | fails found =>
    cases ended
    exact ⟨rfl, _, _, found⟩
  | _ => exact nomatch ended

/-- The answer of a lookup under way is what the store has answered when the lookup read it. -/
theorem Run.read (run : Run lifetime store history s) {id : LookupId} {answer : Answer}
    (found : s.resolver.lookups.lookup id = some ⟨key, some answer⟩) :
    ∃ r ∈ history, r.event = .read id ⟨key, some answer⟩ ∧ r.before.store key = answer := by
  induction run with
  | start => exact nomatch found
  | @next history s s' move event run step ih =>
    have change := change_of_step step
    rcases change.lookup found with old | ⟨-, -, -, unread⟩ | ⟨-, event⟩
    · obtain ⟨r, hr, reads⟩ := ih old
      exact ⟨r, List.mem_append_left _ hr, reads⟩
    · exact nomatch unread
    · refine ⟨_, List.mem_append_right _ (List.mem_singleton.2 rfl), event, ?_⟩
      cases change with
      | reads =>
        cases event
        rfl
      | _ => exact nomatch event

/-- The lookup that a call has begun is of its key. -/
theorem Run.begun (run : Run lifetime store history s) {id : LookupId} {l : Lookup}
    (called : ∃ b ∈ history, b.event = .called key (.waiting id))
    (found : s.resolver.lookups.lookup id = some l) : l.key = key := by
  have unread : ¬ ((new lifetime store).Stale key ∧ (new lifetime store).Keeps) := by
    rintro ⟨⟨_, _, none⟩, -⟩
    exact nomatch none
  have since := run.leads.since (fun _ _ => rfl) rfl unread
  obtain ⟨b, hb, called⟩ := called
  exact (since.begun id (List.mem_map.2 ⟨b, hb, called⟩)).2.2 l found

/-- A call that asks gets the answer of its own lookup. -/
theorem Run.own_answer {earlier later : List Moment} {m : Moment} {id : LookupId}
    {result : Outcome} (run : Run lifetime store (earlier ++ m :: later) s)
    (ended : m.event = .ended id result)
    (called : ∃ b ∈ earlier, b.event = .called key (.waiting id)) :
    ∃ r ∈ earlier, r.event = .read id ⟨key, some (r.before.store key)⟩ ∧
      result = m.before.outcome (r.before.store key) := by
  obtain ⟨run, s', step⟩ := run.split
  obtain ⟨moved, other, answer, found⟩ := (change_of_step step).answered ended
  obtain rfl : other = key := run.begun called found
  obtain ⟨r, hr, read, rfl⟩ := run.read found
  obtain ⟨s'', own, -⟩ := step_complete found
  rw [moved, own] at step
  refine ⟨r, hr, read, ?_⟩
  have same := (Prod.mk.inj (Option.some.inj step)).2.trans ended
  exact (Event.ended.inj same).2.symm

/-- What is about other keys changes nothing for calls on this one. -/
theorem Run.apart {more : List Moment} (run : Run lifetime store history s)
    (later : Run lifetime store (history ++ more) s')
    (other : ∀ m ∈ more, m.concerns key = false) :
    findings key (history ++ more) = findings key history ∧
      ∀ now, s'.resolver.cache.answer? now key = s.resolver.cache.answer? now key := by
  have same : findings key (history ++ more) = findings key history := by
    rw [later.findings_eq, run.findings_eq, completions_append_of_unconcerned history other]
  refine ⟨same, ?_⟩
  intro now
  refine Option.ext ?_
  intro lane
  rw [later.answer?_eq_some_iff, run.answer?_eq_some_iff, same]

end Resolving

end Laneway.Binding
