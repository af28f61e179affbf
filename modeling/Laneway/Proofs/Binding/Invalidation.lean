import Laneway.Binding.Resolving

set_option autoImplicit false

/-! # What dropping kept answers achieves

Dropping the answer kept for a key is meant to make every later call see the store as it is from
then on. A lookup that has read the store before and ends after the drop defeats that: its answer is
kept all the same. Apart from such lookups, nothing read before a drop is ever returned after it. -/

namespace Laneway.Binding

namespace Resolving

/-! ## Traces -/

/-- Moves lead from one state to another, and the events tell what came of them. -/
inductive Leads (s : Resolving) : List Event → Resolving → Prop
  | start : Leads s [] s
  | next {events : List Event} {s₁ s₂ : Resolving} {move : Move} {event : Event}
      (leads : Leads s events s₁) (step : s₁.step move = some (s₂, event)) :
      Leads s (events ++ [event]) s₂

/-- The last of these events makes a call return a lane; the call is on the key and began in these
    events. -/
inductive Returns (key : Key) : List Event → Option String → Prop
  | kept {events : List Event} {lane : Option String} :
      Returns key (events ++ [.called key (.answered lane)]) lane
  | looked {events : List Event} {id : LookupId} {lane : Option String}
      (begun : .called key (.waiting id) ∈ events) :
      Returns key (events ++ [.ended id (.lane lane)]) lane

/-- In these events the store was read for the key, with this answer. -/
def Reads (key : Key) (events : List Event) (answer : Answer) : Prop :=
  ∃ id, Event.read id ⟨key, some answer⟩ ∈ events

/-- The lane that a call makes of an answer. -/
def laneOf : Answer → Option String
  | .ok lane => lane
  | .error _ => none

/-- Whatever happens from here on, a call on the key that begins from here on returns only what was
    read from here on. -/
def Effective (s : Resolving) (key : Key) : Prop :=
  ∀ events last lane, s.Leads events last → Returns key events lane →
    ∃ answer, Reads key events answer ∧ laneOf answer = lane

/-- The moves that drop the answer kept for a key. -/
inductive Drops (key : Key) : Move → Prop
  | invalidate : Drops key (.invalidate key)
  | clear : Drops key .clear

/-- A lookup of the key is under way that has read a lane already. -/
def Stale (s : Resolving) (key : Key) : Prop :=
  ∃ id lane, s.resolver.lookups.lookup id = some ⟨key, some (.ok lane)⟩

/-- An answer that is kept now holds for a while: lifetimes are not zero, and the clock can show the
    end of this one. -/
def Keeps (s : Resolving) : Prop :=
  ∃ expires, s.now.after? s.resolver.cache.lifetime = some expires ∧ s.now < expires

/-! ## Everything a move can do -/

/-- The resolver with the lookup `id` put in the place of the one there is. -/
def withLookup (s : Resolving) (id : LookupId) (lookup : Lookup) : Resolving :=
  { s with resolver := { s.resolver with
      lookups := s.resolver.lookups.map fun l => if l.1 = id then (id, lookup) else l } }

/-- The resolver without the lookup `id`, and with this cache. -/
def ending (s : Resolving) (id : LookupId) (cache : Cache) : Resolving :=
  { s with resolver := { s.resolver with
      cache, lookups := s.resolver.lookups.filter fun l => l.1 ≠ id } }

/-- What a move can do: the state after it and what comes of it. -/
inductive Change (s : Resolving) : Move → Resolving → Event → Prop
  | answers {key : Key} {lane : Option String}
      (kept : s.resolver.cache.answer? s.now key = some lane) :
      Change s (.resolve key) s (.called key (.answered lane))
  | begins {key : Key} :
      Change s (.resolve key)
        { s with resolver := { s.resolver with
            lookups := s.resolver.lookups ++ [(s.resolver.queries, ⟨key, none⟩)]
            queries := s.resolver.queries + 1 } }
        (.called key (.waiting s.resolver.queries))
  | reads {id : LookupId} {key : Key}
      (found : s.resolver.lookups.lookup id = some ⟨key, none⟩) :
      Change s (.read id) (s.withLookup id ⟨key, some (s.store key)⟩)
        (.read id ⟨key, some (s.store key)⟩)
  | keeps {id : LookupId} {key : Key} {lane : Option String} {expires : Instant}
      (found : s.resolver.lookups.lookup id = some ⟨key, some (.ok lane)⟩)
      (shown : s.now.after? s.resolver.cache.lifetime = some expires) :
      Change s (.complete id) (s.ending id (s.resolver.cache.insert key ⟨lane, expires⟩))
        (.ended id (.lane lane))
  | overflows {id : LookupId} {key : Key} {lane : Option String}
      (found : s.resolver.lookups.lookup id = some ⟨key, some (.ok lane)⟩)
      (beyond : s.now.after? s.resolver.cache.lifetime = none) :
      Change s (.complete id) (s.ending id s.resolver.cache) (.ended id .outOfRange)
  | fails {id : LookupId} {key : Key} {fault : Fault}
      (found : s.resolver.lookups.lookup id = some ⟨key, some (.error fault)⟩) :
      Change s (.complete id) (s.ending id s.resolver.cache) (.ended id (.lane none))
  | invalidates {key : Key} :
      Change s (.invalidate key) { s with resolver := s.resolver.invalidate key } .silent
  | clears : Change s .clear { s with resolver := s.resolver.clear } .silent
  | changes {store : Store} : Change s (.change store) { s with store } .silent
  | advances {d : Duration} {now : Instant} (shown : s.now.after? d = some now) :
      Change s (.advance d) { s with now } .silent

variable {s s' : Resolving} {move : Move} {event : Event} {key : Key}

theorem change_complete {id : LookupId} {r : Resolver} {outcome : Outcome}
    (h : s.resolver.complete s.now id = some (r, outcome)) :
    s.Change (.complete id) { s with resolver := r } (.ended id outcome) := by
  unfold Resolver.complete at h
  split at h
  · next key answer found =>
    cases answer with
    | error fault =>
      cases h
      exact .fails found
    | ok lane =>
      simp only [Cache.keep?] at h
      cases shown : s.now.after? s.resolver.cache.lifetime with
      | none =>
        rw [shown] at h
        cases h
        exact .overflows found shown
      | some expires =>
        rw [shown] at h
        cases h
        exact .keeps found shown
  · exact nomatch h

theorem change_of_step (h : s.step move = some (s', event)) : s.Change move s' event := by
  cases move with
  | resolve key =>
    simp only [step, Resolver.resolve] at h
    split at h
    · next lane kept =>
      cases h
      exact .answers kept
    · cases h
      exact .begins
  | read id =>
    simp only [step, Resolver.read] at h
    split at h
    · next key found =>
      cases h
      exact .reads found
    · exact nomatch h
  | complete id =>
    simp only [step, Option.map_eq_some_iff, Prod.exists] at h
    obtain ⟨r, outcome, completed, same⟩ := h
    cases same
    exact change_complete completed
  | invalidate key =>
    cases h
    exact .invalidates
  | clear =>
    cases h
    exact .clears
  | change store =>
    cases h
    exact .changes
  | advance d =>
    simp only [step, Option.map_eq_some_iff] at h
    obtain ⟨now, shown, same⟩ := h
    cases same
    exact .advances shown

theorem Change.lifetime (h : s.Change move s' event) :
    s'.resolver.cache.lifetime = s.resolver.cache.lifetime := by
  cases h <;> rfl

theorem Change.queries_le (h : s.Change move s' event) :
    s.resolver.queries ≤ s'.resolver.queries := by
  cases h with
  | begins => exact Nat.le_succ _
  | _ => exact Nat.le_refl _

theorem Change.now_le (h : s.Change move s' event) : s.now ≤ s'.now := by
  cases h with
  | advances shown =>
    show s.now.nanoseconds ≤ _
    rw [Instant.after?_eq_some_iff.1 shown]
    exact Nat.le_add_right _ _
  | _ => exact Nat.le_refl s.now.nanoseconds

/-- A lookup under way was under way before, has just begun, or has just read the store. -/
theorem Change.lookup (h : s.Change move s' event) {id : LookupId} {l : Lookup}
    (hl : s'.resolver.lookups.lookup id = some l) :
    s.resolver.lookups.lookup id = some l ∨
      (id = s.resolver.queries ∧ s'.resolver.queries = s.resolver.queries + 1 ∧
        event = .called l.key (.waiting id) ∧ l.answer = none) ∨
      (s.resolver.lookups.lookup id = some ⟨l.key, none⟩ ∧ event = .read id l) := by
  cases h with
  | begins =>
    rw [List.lookup_append, Option.or_eq_some_iff, List.lookup_cons] at hl
    rcases hl with old | ⟨-, fresh⟩
    · exact .inl old
    · split at fresh
      · next hid =>
        cases Option.some.inj fresh
        obtain rfl := eq_of_beq hid
        exact .inr (.inl ⟨rfl, rfl, rfl, rfl⟩)
      · exact nomatch fresh
  | reads found =>
    rw [withLookup, lookup_map_replace] at hl
    split at hl
    · next hid =>
      rw [found] at hl
      cases Option.some.inj hl
      exact .inr (.inr ⟨hid ▸ found, by rw [hid]⟩)
    · exact .inl hl
  | keeps | overflows | fails =>
    rw [ending, lookup_filter_ne] at hl
    split at hl
    · exact nomatch hl
    · exact .inl hl
  | _ => exact .inl hl

/-- A lookup is under way until it ends. -/
theorem Change.underWay (h : s.Change move s' event) {id : LookupId}
    (before : (s.resolver.lookups.lookup id).isSome)
    (unended : ∀ outcome, event ≠ .ended id outcome) :
    (s'.resolver.lookups.lookup id).isSome := by
  cases h with
  | begins =>
    rw [List.lookup_append, Option.isSome_or, before]
    rfl
  | @reads other _ found =>
    rw [withLookup, lookup_map_replace]
    split
    · rw [found]
      rfl
    · exact before
  | @keeps other | @overflows other | @fails other =>
    have ne : id ≠ other := by
      rintro rfl
      exact unended _ rfl
    rw [ending, lookup_filter_ne, if_neg ne]
    exact before
  | _ => exact before

/-- An answer that is kept was kept before, or its lookup has just ended. -/
theorem Change.kept (h : s.Change move s' event) {entry : Entry}
    (kept : s'.resolver.cache.get? key = some entry) :
    s.resolver.cache.get? key = some entry ∨
      ∃ id, s.resolver.lookups.lookup id = some ⟨key, some (.ok entry.lane)⟩ ∧
        s.now.after? s.resolver.cache.lifetime = some entry.expires := by
  cases h with
  | keeps found shown =>
    change (s.resolver.cache.insert _ _).get? key = _ at kept
    rw [Cache.get?_insert] at kept
    split at kept
    · next hk =>
      cases Option.some.inj kept
      exact .inr ⟨_, hk ▸ found, shown⟩
    · exact .inl kept
  | invalidates =>
    change (s.resolver.cache.invalidate _).get? key = _ at kept
    rw [Cache.get?_invalidate] at kept
    split at kept
    · exact nomatch kept
    · exact .inl kept
  | clears => exact nomatch kept
  | _ => exact .inl kept

/-! ## Numbers of lookups -/

/-- Every lookup under way has been given its number. -/
def Numbered (s : Resolving) : Prop :=
  ∀ id, s.resolver.queries ≤ id → s.resolver.lookups.lookup id = none

theorem Numbered.lt {id : LookupId} {l : Lookup} (numbered : s.Numbered)
    (found : s.resolver.lookups.lookup id = some l) : id < s.resolver.queries := by
  refine Nat.lt_of_not_le ?_
  intro hle
  rw [numbered id hle] at found
  exact nomatch found

theorem Numbered.change (numbered : s.Numbered) (h : s.Change move s' event) : s'.Numbered := by
  intro id hle
  cases hl : s'.resolver.lookups.lookup id with
  | none => rfl
  | some l =>
    rcases h.lookup hl with old | ⟨hid, hnext, -, -⟩ | ⟨old, -⟩
    · exact absurd (Nat.le_trans h.queries_le hle) (Nat.not_le_of_lt (numbered.lt old))
    · rw [hnext, hid] at hle
      exact absurd hle (Nat.not_succ_le_self _)
    · exact absurd (Nat.le_trans h.queries_le hle) (Nat.not_le_of_lt (numbered.lt old))

theorem Leads.numbered {events : List Event} {last : Resolving} (leads : s.Leads events last)
    (numbered : s.Numbered) : last.Numbered := by
  induction leads with
  | start => exact numbered
  | next _ step ih => exact ih.change (change_of_step step)

/-! ## What a trace from a drop on keeps true -/

/-- What has happened to a key since `s`, whose answers were dropped. -/
structure Since (s : Resolving) (key : Key) (events : List Event) (last : Resolving) : Prop where
  lifetime : last.resolver.cache.lifetime = s.resolver.cache.lifetime
  now : s.now ≤ last.now
  queries : s.resolver.queries ≤ last.resolver.queries
  /-- What is kept was read since, or no longer holds. -/
  kept : ∀ entry, last.resolver.cache.get? key = some entry →
    Reads key events (.ok entry.lane) ∨ entry.expires ≤ last.now
  /-- What a lookup has read it has read since, or before. -/
  read : ∀ id answer, last.resolver.lookups.lookup id = some ⟨key, some answer⟩ →
    Event.read id ⟨key, some answer⟩ ∈ events ∨
      s.resolver.lookups.lookup id = some ⟨key, some answer⟩
  /-- The lookups of the calls since are new ones, and of the key. -/
  begun : ∀ id, Event.called key (.waiting id) ∈ events →
    s.resolver.queries ≤ id ∧ id < last.resolver.queries ∧
      ∀ l, last.resolver.lookups.lookup id = some l → l.key = key

theorem Reads.append {events : List Event} {answer : Answer} (h : Reads key events answer)
    (more : List Event) : Reads key (events ++ more) answer := by
  obtain ⟨id, hid⟩ := h
  exact ⟨id, List.mem_append_left more hid⟩

/-- When answers kept at some time do not hold, later ones do not either. -/
theorem le_of_not_keeps (missing : ¬ s.Keeps) {now expires : Instant} (later : s.now ≤ now)
    (shown : now.after? s.resolver.cache.lifetime = some expires) : expires ≤ now := by
  have hexpires := Instant.after?_eq_some_iff.1 shown
  have hlater : s.now.nanoseconds ≤ now.nanoseconds := later
  cases hs : s.now.after? s.resolver.cache.lifetime with
  | none =>
    have range := expires.range
    have beyond := Instant.after?_eq_none_iff.1 hs
    omega
  | some first =>
    have hfirst := Instant.after?_eq_some_iff.1 hs
    have expired : ¬ s.now.nanoseconds < first.nanoseconds := fun lt => missing ⟨first, hs, lt⟩
    show expires.nanoseconds ≤ now.nanoseconds
    omega

theorem Since.start (dropped : s.resolver.cache.get? key = none) : Since s key [] s where
  lifetime := rfl
  now := Nat.le_refl s.now.nanoseconds
  queries := Nat.le_refl _
  kept _ kept := nomatch dropped.symm.trans kept
  read _ _ found := .inr found
  begun _ called := nomatch called

theorem Since.next {events : List Event} {last next : Resolving} (since : Since s key events last)
    (fresh : ¬ (s.Stale key ∧ s.Keeps)) (numbered : last.Numbered)
    (h : last.Change move next event) : Since s key (events ++ [event]) next where
  lifetime := h.lifetime.trans since.lifetime
  now := Nat.le_trans since.now h.now_le
  queries := Nat.le_trans since.queries h.queries_le
  kept entry kept := by
    rcases h.kept kept with old | ⟨id, found, shown⟩
    · rcases since.kept entry old with read | expired
      · exact .inl (read.append _)
      · exact .inr (Nat.le_trans expired h.now_le)
    · rcases since.read id _ found with read | before
      · exact .inl (Reads.append ⟨id, read⟩ _)
      · -- what was read before the drop is kept too short to be used
        have missing : ¬ s.Keeps := fun keeps => fresh ⟨⟨id, entry.lane, before⟩, keeps⟩
        rw [since.lifetime] at shown
        exact .inr (Nat.le_trans (le_of_not_keeps missing since.now shown) h.now_le)
  read id answer found := by
    rcases h.lookup found with old | ⟨-, -, -, unread⟩ | ⟨-, rfl⟩
    · rcases since.read id answer old with read | before
      · exact .inl (List.mem_append_left _ read)
      · exact .inr before
    · exact nomatch unread
    · exact .inl (List.mem_append_right _ (List.mem_singleton.2 rfl))
  begun id called := by
    rcases List.mem_append.1 called with old | new
    · obtain ⟨first, begun, same⟩ := since.begun id old
      refine ⟨first, Nat.lt_of_lt_of_le begun h.queries_le, ?_⟩
      intro l found
      rcases h.lookup found with before | ⟨rfl, -⟩ | ⟨before, -⟩
      · exact same l before
      · exact absurd begun (Nat.lt_irrefl _)
      · exact same ⟨l.key, none⟩ before
    · obtain rfl := List.mem_singleton.1 new
      cases h with
      | begins =>
        refine ⟨since.queries, Nat.lt_succ_self _, ?_⟩
        intro l found
        rw [List.lookup_append, numbered _ (Nat.le_refl _), Option.none_or,
          List.lookup_cons_self] at found
        rw [← Option.some.inj found]

theorem Leads.since {events : List Event} {last : Resolving} (leads : s.Leads events last)
    (numbered : s.Numbered) (dropped : s.resolver.cache.get? key = none)
    (fresh : ¬ (s.Stale key ∧ s.Keeps)) : Since s key events last := by
  induction leads with
  | start => exact .start dropped
  | next leads step ih => exact ih.next fresh (leads.numbered numbered) (change_of_step step)

/-! ## When a drop is effective -/

theorem Leads.concat {events : List Event} {last : Resolving}
    (leads : s.Leads (events ++ [event]) last) :
    ∃ before move, s.Leads events before ∧ before.step move = some (last, event) := by
  generalize hall : events ++ [event] = all at leads
  cases leads with
  | start => exact absurd hall (List.append_ne_nil_of_right_ne_nil _ (List.cons_ne_nil _ _))
  | next leads step =>
    obtain ⟨rfl, hevent⟩ := List.append_inj' hall rfl
    obtain rfl := (List.cons.inj hevent).1
    exact ⟨_, _, leads, step⟩

theorem effective_of_fresh (numbered : s.Numbered) (dropped : s.resolver.cache.get? key = none)
    (fresh : ¬ (s.Stale key ∧ s.Keeps)) : s.Effective key := by
  intro events last lane leads returns
  cases returns with
  | kept =>
    obtain ⟨before, move, leads, step⟩ := leads.concat
    have since := leads.since numbered dropped fresh
    cases change_of_step step with
    | answers kept =>
      unfold Cache.answer? at kept
      split at kept
      · next entry found =>
        split at kept
        · next holds =>
          rcases since.kept entry found with read | expired
          · exact ⟨.ok entry.lane, read.append _, Option.some.inj kept⟩
          · exact absurd holds (Nat.not_lt_of_le expired)
        · exact nomatch kept
      · exact nomatch kept
  | @looked seen id _ begun =>
    obtain ⟨before, move, leads, step⟩ := leads.concat
    have since := leads.since numbered dropped fresh
    obtain ⟨first, -, same⟩ := since.begun id begun
    -- the number of the lookup shows that it has begun after the drop
    have read : ∀ answer, before.resolver.lookups.lookup id = some ⟨key, some answer⟩ →
        Reads key (seen ++ [.ended id (.lane lane)]) answer := by
      intro answer found
      rcases since.read id answer found with read | old
      · exact ⟨id, List.mem_append_left _ read⟩
      · exact absurd (numbered.lt old) (Nat.not_lt_of_le first)
    cases change_of_step step with
    | keeps found =>
      obtain rfl := same _ found
      exact ⟨_, read _ found, rfl⟩
    | fails found =>
      obtain rfl := same _ found
      exact ⟨_, read _ found, rfl⟩

/-- A call right after the end of a lookup that has read gets what that lookup has read. -/
theorem leads_of_stale (keeps : s.Keeps) {id : LookupId} {lane : Option String}
    (found : s.resolver.lookups.lookup id = some ⟨key, some (.ok lane)⟩) :
    ∃ last, s.Leads [.ended id (.lane lane), .called key (.answered lane)] last := by
  obtain ⟨expires, shown, holds⟩ := keeps
  have ends : s.step (.complete id) =
      some (s.ending id (s.resolver.cache.insert key ⟨lane, expires⟩), .ended id (.lane lane)) := by
    simp only [step, Resolver.complete, found, Cache.keep?, shown, Option.map_some]
    rfl
  have answers : (s.ending id (s.resolver.cache.insert key ⟨lane, expires⟩)).step (.resolve key) =
      some (s.ending id (s.resolver.cache.insert key ⟨lane, expires⟩),
        .called key (.answered lane)) := by
    have kept : (s.resolver.cache.insert key ⟨lane, expires⟩).answer? s.now key = some lane := by
      simp only [Cache.answer?, Cache.get?_insert, if_true, holds]
    simp only [step, Resolver.resolve, ending, kept]
  exact ⟨_, Leads.next (Leads.next .start ends) answers⟩

/-- What a drop leaves behind: the same resolver without an answer for the key. -/
theorem Drops.step (drops : Drops key move) (h : s.step move = some (s', event)) :
    s'.resolver.cache.get? key = none ∧ s'.resolver.lookups = s.resolver.lookups ∧
      s'.resolver.queries = s.resolver.queries ∧ s'.now = s.now ∧
      s'.resolver.cache.lifetime = s.resolver.cache.lifetime := by
  cases drops with
  | invalidate =>
    cases h
    refine ⟨?_, rfl, rfl, rfl, rfl⟩
    exact (Cache.get?_invalidate _ _ _).trans (if_pos rfl)
  | clear =>
    cases h
    exact ⟨rfl, rfl, rfl, rfl, rfl⟩

/-- Dropping the answer kept for a key is effective exactly when no lookup of the key has read a lane
    already that it could still keep: every call from then on returns only what was read from then
    on, whatever lookups, failures, changes of the store and drops come in between. -/
theorem effective_drop_iff {lifetime : Duration} {store : Store} {past : List Event}
    (run : (new lifetime store).Leads past s) (drops : Drops key move)
    (step : s.step move = some (s', event)) :
    s'.Effective key ↔ ¬ (s.Stale key ∧ s.Keeps) := by
  obtain ⟨dropped, lookups, queries, now, same⟩ := drops.step step
  have stale : s'.Stale key ↔ s.Stale key := by
    unfold Stale
    rw [lookups]
  have keeps : s'.Keeps ↔ s.Keeps := by
    unfold Keeps
    rw [now, same]
  have numbered : s'.Numbered := by
    intro id hle
    rw [lookups]
    exact run.numbered (fun _ _ => rfl) id (queries ▸ hle)
  rw [← stale, ← keeps]
  constructor
  · -- the lookup ends, and the next call gets what it has kept
    rintro effective ⟨⟨id, lane, found⟩, keeps⟩
    obtain ⟨last, leads⟩ := leads_of_stale keeps found
    have returns : Returns key ([.ended id (.lane lane)] ++ [.called key (.answered lane)]) lane :=
      .kept
    obtain ⟨answer, ⟨other, read⟩, -⟩ := effective _ last lane leads returns
    simp at read
  · exact effective_of_fresh numbered dropped

/-- A bot that is bound to another lane while its binding is looked up. -/
def rebound : Key := ⟨.bot, "rebound"⟩

/-- A lookup has read the old lane when the store gets the new one. -/
theorem leads_rebound : ∃ past s, (new Cache.defaultLifetime fun _ => .ok (some "old")).Leads past s ∧
    s.store rebound = .ok (some "new") ∧ s.Keeps ∧
      s.resolver.lookups.lookup 0 = some ⟨rebound, some (.ok (some "old"))⟩ := by
  let s₀ := new Cache.defaultLifetime fun _ => .ok (some "old")
  have asked := @Leads.next s₀ _ s₀ _ (.resolve rebound) _ .start rfl
  have read := @Leads.next s₀ _ _ _ (.read 0) _ asked rfl
  have changed := @Leads.next s₀ _ _ _ (.change fun _ => .ok (some "new")) _ read rfl
  have shown : Instant.start.after? Cache.defaultLifetime = some ⟨30 * 1000000000, by decide⟩ :=
    Instant.after?_eq_some_iff.2 rfl
  exact ⟨_, _, changed, rfl, ⟨_, shown, (by decide : 0 < 30 * 1000000000)⟩, rfl⟩

theorem effective_drop_iff_rebound : ∃ past s s' event,
    (new Cache.defaultLifetime fun _ => .ok (some "old")).Leads past s ∧
      Drops rebound (.invalidate rebound) ∧ s.step (.invalidate rebound) = some (s', event) ∧
        (s'.Effective rebound ↔ ¬ (s.Stale rebound ∧ s.Keeps)) := by
  obtain ⟨past, s, leads, -⟩ := leads_rebound
  exact ⟨past, s, _, _, leads, .invalidate, rfl, effective_drop_iff leads .invalidate rfl⟩

/-- The bot is bound to the new lane and its kept answer is dropped, and a call that begins after that
    still returns the old lane: the store has not been read since. -/
theorem stale_after_invalidate : ∃ past s s' event,
    (new Cache.defaultLifetime fun _ => .ok (some "old")).Leads past s ∧
      s.store rebound = .ok (some "new") ∧ s.step (.invalidate rebound) = some (s', event) ∧
        ∃ events last, s'.Leads events last ∧ Returns rebound events (some "old") ∧
          ∀ answer, ¬ Reads rebound events answer := by
  obtain ⟨past, s, leads, bound, keeps, found⟩ := leads_rebound
  obtain ⟨last, later⟩ :=
    @leads_of_stale { s with resolver := s.resolver.invalidate rebound } _ keeps _ _ found
  refine ⟨past, s, _, _, leads, bound, rfl, [_] ++ [_], last, later, .kept, ?_⟩
  rintro answer ⟨id, read⟩
  simp at read

end Resolving

end Laneway.Binding
