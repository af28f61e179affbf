import Laneway.Proofs.Binding.Record

set_option autoImplicit false

/-! # How old a returned lane can be

An answer is kept for the lifetime of the cache from the end of its lookup, not from the moment at
which the lookup read the store, and a slow lookup can replace what a faster one has found since.
The age of an entry is therefore not the time it has been kept. What bounds it is the lookup that it
comes from: when lookups read the store as they begin and end within some latency, every finding is
at most that latency older than its end says. -/

namespace Laneway.Binding

namespace Resolving

/-- Lookups read the store when their calls begin, and those that end do so within this latency. -/
structure Prompt (latency : Duration) (history : List Moment) : Prop where
  reads : ∀ b ∈ history, ∀ r ∈ history, ∀ key id lookup, b.event = .called key (.waiting id) →
    r.event = .read id lookup → r.before.now = b.before.now
  ends : ∀ b ∈ history, ∀ m ∈ history, ∀ key id outcome, b.event = .called key (.waiting id) →
    m.event = .ended id outcome →
      m.before.now.nanoseconds ≤ b.before.now.nanoseconds + latency.nanoseconds

/-- A call that has returned a lane or none. -/
structure Finished where
  started : Instant
  returned : Instant
  /-- The lookup that it waited for, unless the cache had an answer. -/
  own : Option LookupId
  lane : Option String

/-- The last of these moments makes a call on the key return. -/
inductive Resolves (key : Key) : List Moment → Finished → Prop
  | kept {earlier : List Moment} {m : Moment} {lane : Option String}
      (answers : m.event = .called key (.answered lane)) :
      Resolves key (earlier ++ [m]) ⟨m.before.now, m.before.now, none, lane⟩
  | looked {earlier : List Moment} {b m : Moment} {id : LookupId} {lane : Option String}
      (begun : b ∈ earlier) (calls : b.event = .called key (.waiting id))
      (ends : m.event = .ended id (.lane lane)) :
      Resolves key (earlier ++ [m]) ⟨b.before.now, m.before.now, some id, lane⟩

namespace Finished

/-- The call waited for a lookup of its own, and the store has failed it. -/
def Failed (call : Finished) (key : Key) (history : List Moment) : Prop :=
  ∃ r ∈ history, ∃ id fault, call.own = some id ∧ r.event = .read id ⟨key, some (.error fault)⟩

/-- An instant later than a lifetime and a latency before the call began, and not after its return.
    -/
def Admits (call : Finished) (lifetime latency : Duration) (t : Instant) : Prop :=
  call.started.nanoseconds < t.nanoseconds + lifetime.nanoseconds + latency.nanoseconds ∧
    t ≤ call.returned

end Finished

variable {lifetime latency : Duration} {store : Store} {history : List Moment} {s : Resolving}
  {key : Key}

/-! ## Where findings come from -/

/-- No moment of a history is later than the state it has led to. -/
theorem Run.past (run : Run lifetime store history s) : ∀ m ∈ history, m.before.now ≤ s.now := by
  induction run with
  | start => exact fun _ hm => nomatch hm
  | next run step ih =>
    have later := (change_of_step step).now_le
    intro m hm
    rcases List.mem_append.1 hm with old | new
    · exact Nat.le_trans (ih m old) later
    · rw [List.mem_singleton.1 new]
      exact later

/-- A lookup under way was begun by a call on its key. -/
theorem Run.called (run : Run lifetime store history s) {id : LookupId} {l : Lookup}
    (found : s.resolver.lookups.lookup id = some l) :
    ∃ b ∈ history, b.event = .called l.key (.waiting id) := by
  induction run generalizing l with
  | start => exact nomatch found
  | next run step ih =>
    rcases (change_of_step step).lookup found with old | ⟨-, -, called, -⟩ | ⟨unread, -⟩
    · obtain ⟨b, hb, called⟩ := ih old
      exact ⟨b, List.mem_append_left _ hb, called⟩
    · exact ⟨_, List.mem_append_right _ (List.mem_singleton.2 rfl), called⟩
    · obtain ⟨b, hb, called⟩ := ih unread
      exact ⟨b, List.mem_append_left _ hb, called⟩

/-- A finding is the end of a lookup of its key that has read this lane in the store. -/
theorem Run.found (run : Run lifetime store history s) :
    ∀ f ∈ findings key history, ∃ b ∈ history, ∃ r ∈ history, ∃ m ∈ history, ∃ id,
      b.event = .called key (.waiting id) ∧ r.event = .read id ⟨key, some (.ok f.lane)⟩ ∧
        r.before.store key = .ok f.lane ∧ m.event = .ended id (.lane f.lane) ∧
          m.before.now = f.ended := by
  induction run with
  | start => exact fun _ hf => nomatch hf
  | @next history s s' move event run step ih =>
    intro f hf
    rw [findings_concat] at hf
    split at hf
    · exact nomatch hf
    rcases List.mem_append.1 hf with old | new
    · obtain ⟨b, hb, r, hr, m, hm, h⟩ := ih f old
      exact ⟨b, List.mem_append_left _ hb, r, List.mem_append_left _ hr, m,
        List.mem_append_left _ hm, h⟩
    · have now := Option.mem_toList.1 new
      -- only the end of a lookup that is kept is a finding
      cases change_of_step step with
      | @keeps id other lane expires found shown =>
        simp only [Moment.finding?, found, Option.ite_none_right_eq_some,
          Option.some.injEq] at now
        obtain ⟨rfl, rfl⟩ := now
        obtain ⟨b, hb, called⟩ := run.called found
        obtain ⟨r, hr, read, answered⟩ := run.read found
        exact ⟨b, List.mem_append_left _ hb, r, List.mem_append_left _ hr, _,
          List.mem_append_right _ (List.mem_singleton.2 rfl), id, called, read, answered, rfl, rfl⟩
      | fails found => simp [Moment.finding?, found] at now
      | _ => simp [Moment.finding?] at now

/-- When lookups are prompt, what one has found was read at most the latency before its end. -/
theorem Run.read_of_finding (run : Run lifetime store history s) (prompt : Prompt latency history)
    {f : Finding} (hf : f ∈ findings key history) :
    ∃ r ∈ history, r.before.store key = .ok f.lane ∧
      f.ended.nanoseconds ≤ r.before.now.nanoseconds + latency.nanoseconds := by
  obtain ⟨b, hb, r, hr, m, hm, id, called, read, answered, ended, hend⟩ := run.found f hf
  refine ⟨r, hr, answered, ?_⟩
  rw [← hend, prompt.reads b hb r hr _ _ _ called read]
  exact prompt.ends b hb m hm _ _ _ called ended

/-! ## The two ways to return -/

/-- A lane from the cache was in the store less than a lifetime and a latency before the call. -/
theorem Run.kept_recent {m : Moment} {earlier : List Moment} {lane : Option String}
    (run : Run lifetime store (earlier ++ [m]) s) (prompt : Prompt latency (earlier ++ [m]))
    (answers : m.event = .called key (.answered lane)) :
    ∃ r ∈ earlier, r.before.store key = .ok lane ∧ r.before.now ≤ m.before.now ∧
      m.before.now.nanoseconds <
        r.before.now.nanoseconds + lifetime.nanoseconds + latency.nanoseconds := by
  obtain ⟨run, s', step⟩ := run.split
  have sooner : Prompt latency earlier :=
    ⟨fun b hb r hr => prompt.reads b (List.mem_append_left _ hb) r (List.mem_append_left _ hr),
      fun b hb e he => prompt.ends b (List.mem_append_left _ hb) e (List.mem_append_left _ he)⟩
  rw [answers] at step
  generalize m.move = move at step
  cases change_of_step step with
  | answers kept =>
    obtain ⟨f, latest, holds, rfl⟩ := (run.answer?_eq_some_iff key m.before.now lane).1 kept
    obtain ⟨r, hr, answered, aged⟩ := run.read_of_finding sooner (List.mem_of_getLast? latest)
    refine ⟨r, hr, answered, run.past r hr, ?_⟩
    unfold Finding.Holds at holds
    omega

/-- A lane that the call has looked up itself was in the store when the call began; there is none
    when the store has failed. -/
theorem Run.looked_recent {b m : Moment} {earlier : List Moment} {id : LookupId}
    {lane : Option String} (run : Run lifetime store (earlier ++ [m]) s)
    (prompt : Prompt latency (earlier ++ [m])) (begun : b ∈ earlier)
    (calls : b.event = .called key (.waiting id)) (ends : m.event = .ended id (.lane lane)) :
    (lane = none ∧ ∃ r ∈ earlier, ∃ fault, r.event = .read id ⟨key, some (.error fault)⟩) ∨
      ∃ r ∈ earlier, r.before.store key = .ok lane ∧ r.before.now = b.before.now ∧
        r.before.now ≤ m.before.now := by
  obtain ⟨r, hr, read, found⟩ := run.own_answer ends ⟨b, begun, calls⟩
  obtain ⟨run, -⟩ := run.split
  cases answered : r.before.store key with
  | error fault =>
    rw [answered] at found read
    exact .inl ⟨Outcome.lane.inj found, r, hr, fault, read⟩
  | ok bound =>
    have same : lane = bound := by
      rw [answered, outcome] at found
      split at found
      · exact Outcome.lane.inj found
      · cases found
    refine .inr ⟨r, hr, same ▸ answered, ?_, run.past r hr⟩
    exact prompt.reads b (List.mem_append_left _ begun) r (List.mem_append_left _ hr) _ _ _ calls
      read

/-- Bindings are only so stale. When lookups read the store as they begin and end within some
    latency, a call either returns none because its own lookup has failed, or what the store had for
    the key at an instant less than a lifetime and a latency before the call began; when the latency
    is at most the lifetime, that is less than two lifetimes before it returns. Only where both are
    zero is there no such instant, and then the call returns what the store has in the instant of
    the call. -/
theorem resolved_lane_recent (run : Run lifetime store history s) (prompt : Prompt latency history)
    {call : Finished} (resolves : Resolves key history call) :
    (call.lane = none ∧ call.Failed key history) ∨
      ∃ r ∈ history, r.before.store key = .ok call.lane ∧
        (call.Admits lifetime latency r.before.now ∧
            (latency.nanoseconds ≤ lifetime.nanoseconds →
              call.returned.nanoseconds < r.before.now.nanoseconds + 2 * lifetime.nanoseconds) ∨
          lifetime.nanoseconds = 0 ∧ latency.nanoseconds = 0 ∧ r.before.now = call.started ∧
            r.before.now.nanoseconds = call.returned.nanoseconds) := by
  cases resolves with
  | @kept _ m _ answers =>
    obtain ⟨r, hr, answered, past, recent⟩ := run.kept_recent prompt answers
    refine .inr ⟨r, List.mem_append_left _ hr, answered, .inl ⟨⟨recent, past⟩, ?_⟩⟩
    intro quick
    show m.before.now.nanoseconds < _
    omega
  | @looked _ b m id _ begun calls ends =>
    rcases run.looked_recent prompt begun calls ends with
      ⟨none, r, hr, fault, read⟩ | ⟨r, hr, answered, started, past⟩
    · exact .inl ⟨none, r, List.mem_append_left _ hr, id, fault, rfl, read⟩
    refine .inr ⟨r, List.mem_append_left _ hr, answered, ?_⟩
    have late := prompt.ends b (List.mem_append_left _ begun) m
      (List.mem_append_right _ (List.mem_singleton.2 rfl)) _ _ _ calls ends
    have order : r.before.now.nanoseconds ≤ m.before.now.nanoseconds := past
    rw [← started] at late
    by_cases instant : lifetime.nanoseconds + latency.nanoseconds = 0
    · refine .inr ⟨by omega, by omega, started, ?_⟩
      show _ = m.before.now.nanoseconds
      omega
    · refine .inl ⟨⟨?_, past⟩, ?_⟩
      · show b.before.now.nanoseconds < _
        rw [← started]
        omega
      · intro quick
        show m.before.now.nanoseconds < _
        omega

/-! ## A slow lookup, and one that takes no time -/

theorem step_resolve_of_answer {lane : Option String}
    (kept : s.resolver.cache.answer? s.now key = some lane) :
    s.step (.resolve key) = some (s, .called key (.answered lane)) := by
  simp only [step, Resolver.resolve, kept]

theorem step_advance {d : Duration} {now : Instant} (shown : s.now.after? d = some now) :
    s.step (.advance d) = some ({ s with now }, .silent) := by
  simp only [step, shown, Option.map_some]

/-- A resolver whose first lookup has begun, with the entries it keeps, the lookup if it is under
    way, the lane that the store has now, and the time. -/
def asked (lifetime : Duration) (entries : List (Key × Entry)) (lookups : List (LookupId × Lookup))
    (lane : String) (now : Instant) : Resolving :=
  ⟨⟨⟨lifetime, entries⟩, lookups, 1⟩, fun _ => .ok (some lane), now⟩

/-- A lookup that takes this long, until that instant, and whose answer is replaced in the store as
    soon as it has read it. -/
def overtaken (lifetime latency : Duration) (ended : Instant) : List Moment :=
  let read : Lookup := ⟨rebound, some (.ok (some "old"))⟩
  [⟨new lifetime fun _ => .ok (some "old"), .resolve rebound, .called rebound (.waiting 0)⟩,
    ⟨asked lifetime [] [(0, ⟨rebound, none⟩)] "old" .start, .read 0, .read 0 read⟩,
    ⟨asked lifetime [] [(0, read)] "old" .start, .change fun _ => .ok (some "new"), .silent⟩,
    ⟨asked lifetime [] [(0, read)] "new" .start, .advance latency, .silent⟩,
    ⟨asked lifetime [] [(0, read)] "new" ended, .complete 0, .ended 0 (.lane (some "old"))⟩]

theorem run_overtaken {ended expires : Instant} (waits : Instant.start.after? latency = some ended)
    (shown : ended.after? lifetime = some expires) :
    Run lifetime (fun _ => .ok (some "old")) (overtaken lifetime latency ended)
      (asked lifetime [(rebound, ⟨some "old", expires⟩)] [] "new" ended) := by
  have begins := @Run.next _ _ _ (new lifetime fun _ => .ok (some "old")) _ (.resolve rebound) _
    .start rfl
  have reads := @Run.next _ _ _ _ _ (.read 0) _ begins rfl
  have changes := @Run.next _ _ _ _ _ (.change fun _ => .ok (some "new")) _ reads rfl
  exact (changes.next (step_advance waits)).next (step_complete_of_shown rfl shown)

theorem prompt_overtaken {ended : Instant} (waits : Instant.start.after? latency = some ended) :
    Prompt latency (overtaken lifetime latency ended) where
  reads := by simp [overtaken, asked, new]
  ends := by simp [overtaken, asked, new, Instant.after?_eq_some_iff.1 waits]

/-- Moments that neither begin a lookup nor are steps of one leave the lookups as prompt as they
    are. -/
theorem Prompt.append (prompt : Prompt latency history) {more : List Moment}
    (quiet : ∀ m ∈ more, m.event = .silent ∨ ∃ key lane, m.event = .called key (.answered lane)) :
    Prompt latency (history ++ more) := by
  have old : ∀ m ∈ history ++ more, m.event ≠ .silent →
      (∀ key lane, m.event ≠ .called key (.answered lane)) → m ∈ history := by
    intro m hm loud asks
    refine (List.mem_append.1 hm).resolve_right ?_
    intro new
    rcases quiet m new with silent | ⟨key, lane, answered⟩
    · exact loud silent
    · exact asks key lane answered
  constructor
  · intro b hb r hr key id lookup calls reads
    exact prompt.reads b (old b hb (by simp [calls]) (by simp [calls])) r
      (old r hr (by simp [reads]) (by simp [reads])) key id lookup calls reads
  · intro b hb m hm key id outcome calls ends
    exact prompt.ends b (old b hb (by simp [calls]) (by simp [calls])) m
      (old m hm (by simp [ends]) (by simp [ends])) key id outcome calls ends

/-- The lane that a lookup of one second has read is replaced while it is under way, and is returned
    all the same thirty seconds after it was read. -/
theorem resolved_lane_recent_overtaken : ∃ history s call,
    Run (.ofSeconds 30) (fun _ => .ok (some "old")) history s ∧ Prompt (.ofSeconds 1) history ∧
      Resolves rebound history call ∧ call.lane = some "old" ∧ s.store rebound = .ok (some "new") ∧
        ∃ r ∈ history, r.before.store rebound = .ok (some "old") ∧
          call.Admits (.ofSeconds 30) (.ofSeconds 1) r.before.now := by
  have waits : Instant.start.after? (.ofSeconds 1) = some ⟨1000000000, by decide⟩ :=
    Instant.after?_eq_some_iff.2 rfl
  have shown : Instant.after? ⟨1000000000, by decide⟩ (.ofSeconds 30) =
      some ⟨31000000000, by decide⟩ := Instant.after?_eq_some_iff.2 rfl
  have almost : Instant.after? ⟨1000000000, by decide⟩ (.ofSeconds 29) =
      some ⟨30000000000, by decide⟩ := Instant.after?_eq_some_iff.2 rfl
  have rests := (run_overtaken waits shown).next (step_advance almost)
  have kept : Cache.answer? ⟨.ofSeconds 30, [(rebound, ⟨some "old", ⟨31000000000, by decide⟩⟩)]⟩
      ⟨30000000000, by decide⟩ rebound = some (some "old") := rfl
  have returns := rests.next (step_resolve_of_answer kept)
  obtain ⟨history, call, run, prompt, resolves, old⟩ : ∃ history call,
      Run (.ofSeconds 30) (fun _ => .ok (some "old")) history _ ∧ Prompt (.ofSeconds 1) history ∧
        Resolves rebound history call ∧ call.lane = some "old" :=
    ⟨_, _, returns, .append (.append (prompt_overtaken waits) (by simp)) (by simp), .kept rfl, rfl⟩
  refine ⟨history, _, call, run, prompt, resolves, old, rfl, ?_⟩
  rcases resolved_lane_recent run prompt resolves with
    ⟨none, -⟩ | ⟨r, hr, answered, ⟨admitted, -⟩ | ⟨zero, -⟩⟩
  · rw [old] at none
    cases none
  · exact ⟨r, hr, old ▸ answered, admitted⟩
  · exact absurd zero (by decide)

/-- Without a lifetime and with a store that takes no time, a call returns a lane although its
    lookup has not failed and no instant is later than its start and not after its return. -/
theorem returns_without_admitted_instant : ∃ history s call,
    Run ⟨0⟩ (fun _ => .ok (some "old")) history s ∧ Prompt ⟨0⟩ history ∧
      Resolves rebound history call ∧ call.lane = some "old" ∧ ¬ call.Failed rebound history ∧
        ∀ t, ¬ call.Admits ⟨0⟩ ⟨0⟩ t := by
  have waits : Instant.start.after? ⟨0⟩ = some .start := Instant.after?_eq_some_iff.2 rfl
  refine ⟨_, _, ⟨.start, .start, some 0, some "old"⟩, run_overtaken waits waits,
    prompt_overtaken waits, ?_, rfl, ?_, ?_⟩
  · show Resolves rebound ([_, _, _, _] ++ [_]) _
    exact Resolves.looked List.mem_cons_self rfl rfl
  · rintro ⟨r, hr, id, fault, -, read⟩
    simp [overtaken] at hr
    rcases hr with rfl | rfl | rfl | rfl | rfl <;> simp at read
  · rintro t ⟨after, before⟩
    exact absurd after (Nat.not_lt_of_le before)

end Resolving

end Laneway.Binding
