import Mathlib.Algebra.Group.Nat.Defs
import Laneway.Proofs.Binding.Staleness
import Laneway.Proofs.Configuration
import Laneway.Proofs.Routing.Stopping

set_option autoImplicit false

/-! # Deadlines that the clock cannot show

The end of a lifetime and the first tick of the poll loop are readings of the clock, a number of
seconds after the reading at which they are set. That number may be any that has 64 bits, while the
clock shows no more than 63 bits of seconds. A setting is therefore followed up to the reading at
which the two together reach `2 ^ 63`. From there on a call fails although its lookup has not, and a
loop that begins is over at once. -/

namespace Laneway

/-! ## Seconds on the clock -/

namespace Instant

/-- The whole seconds that a reading shows. -/
def seconds (t : Instant) : Nat := t.nanoseconds / 1000000000

/-- The reading at which so many seconds are over. -/
def ofSeconds (n : Nat) (shown : n < 2 ^ 63) : Instant := ⟨n * 1000000000, by omega⟩

variable {t : Instant} {n : Nat}

@[simp] theorem seconds_ofSeconds (shown : n < 2 ^ 63) : (ofSeconds n shown).seconds = n :=
  Nat.mul_div_cancel n (by decide)

theorem after?_ofSeconds_eq_none_iff :
    t.after? (.ofSeconds n) = none ↔ 2 ^ 63 ≤ t.seconds + n := by
  rw [after?_eq_none_iff]
  show 0x8000000000000000 * 1000000000 ≤ t.nanoseconds + n * 1000000000 ↔
    2 ^ 63 ≤ t.nanoseconds / 1000000000 + n
  omega

theorem exists_after?_ofSeconds (shown : t.seconds + n < 2 ^ 63) :
    ∃ u, t.after? (.ofSeconds n) = some u := by
  refine Option.ne_none_iff_exists'.1 fun beyond => ?_
  exact Nat.not_lt_of_le (after?_ofSeconds_eq_none_iff.1 beyond) shown

end Instant

/-! ## Lifetimes -/

namespace Binding.Resolving

/-- How a lookup ends that has read this, when answers are kept for so many seconds. -/
structure Ends (s : Resolving) (id : LookupId) (key : Key) (lane : Option String)
    (seconds : Nat) : Prop where
  /-- What it has read is returned, and kept until the lifetime is over. -/
  kept : s.now.seconds + seconds < 2 ^ 63 → ∃ s' expires,
    s.step (.complete id) = some (s', .ended id (.lane lane)) ∧
      s'.resolver.cache.get? key = some ⟨lane, expires⟩ ∧
        expires.nanoseconds = s.now.nanoseconds + (Duration.ofSeconds seconds).nanoseconds
  /-- The call fails, and nothing is kept. -/
  lost : 2 ^ 63 ≤ s.now.seconds + seconds → ∃ s',
    s.step (.complete id) = some (s', .ended id .outOfRange) ∧
      s'.resolver.cache = s.resolver.cache

/-- As long as the clock shows no more than so many seconds, whatever a lookup has read is returned
    to its call. -/
def Answering (lifetime : Duration) (horizon : Nat) : Prop :=
  ∀ store history s, Run lifetime store history s → s.now.seconds ≤ horizon →
    ∀ id key lane, s.resolver.lookups.lookup id = some ⟨key, some (.ok lane)⟩ →
      ∃ s', s.step (.complete id) = some (s', .ended id (.lane lane))

variable {seconds horizon : Nat} {store : Store} {history : List Moment} {s : Resolving}
  {id : LookupId} {key : Key} {lane : Option String}

theorem Run.ends (run : Run (.ofSeconds seconds) store history s)
    (found : s.resolver.lookups.lookup id = some ⟨key, some (.ok lane)⟩) :
    s.Ends id key lane seconds := by
  constructor
  · intro shown
    obtain ⟨expires, after⟩ := Instant.exists_after?_ofSeconds shown
    have completes := step_complete_of_shown found (run.cacheLifetime ▸ after)
    refine ⟨_, expires, completes, ?_, Instant.after?_eq_some_iff.1 after⟩
    show (s.resolver.cache.insert key ⟨lane, expires⟩).get? key = _
    rw [Cache.get?_insert, if_pos rfl]
  · intro beyond
    have none := Instant.after?_ofSeconds_eq_none_iff.2 beyond
    exact ⟨_, step_complete_of_beyond found (run.cacheLifetime ▸ none), rfl⟩

/-- At every reading of the clock a lookup, the first one, may have read what the store has. -/
theorem exists_read (lifetime : Duration) (now : Instant) (key : Key) (lane : Option String) :
    ∃ history s, Run lifetime (fun _ => .ok lane) history s ∧ s.now = now ∧
      s.resolver.lookups.lookup 0 = some ⟨key, some (.ok lane)⟩ ∧
        s.resolver.cache = .new lifetime := by
  have reached : Instant.start.after? ⟨now.nanoseconds⟩ = some now :=
    Instant.after?_eq_some_iff.2 (Nat.zero_add _).symm
  have waits := Run.start.next (@step_advance (new lifetime fun _ => .ok lane) _ _ reached)
  have begins := @Run.next _ _ _ _ _ (.resolve key) _ waits rfl
  have run := @Run.next _ _ _ _ _ (.read 0) _ begins rfl
  exact ⟨_, _, run, rfl, rfl, rfl⟩

theorem answering_iff (shown : horizon < 2 ^ 63) :
    Answering (.ofSeconds seconds) horizon ↔ seconds + horizon < 2 ^ 63 := by
  constructor
  · intro answering
    refine Nat.lt_of_not_le fun beyond => ?_
    obtain ⟨history, s, run, now, found, -⟩ :=
      exists_read (.ofSeconds seconds) (.ofSeconds horizon shown) ⟨.bot, "bot"⟩ none
    have reading : s.now.seconds = horizon := by rw [now, Instant.seconds_ofSeconds]
    obtain ⟨_, answered⟩ := answering _ history s run (Nat.le_of_eq reading) _ _ _ found
    obtain ⟨_, lost, -⟩ := (run.ends found).lost (by omega)
    cases answered.symm.trans lost
  · intro fits store history s run before id key lane found
    obtain ⟨s', -, answered, -⟩ := (run.ends found).kept (by omega)
    exact ⟨s', answered⟩

end Binding.Resolving

/-! ## The first tick -/

namespace Routing.Polling

/-- How a loop begins that polls every so many seconds. -/
structure Begins (p : Polling) (seconds : Nat) : Prop where
  /-- It waits for its first tick. -/
  waits : p.now.seconds + seconds < 2 ^ 63 → ∃ due,
    p.step .begin = some ({ p with loop := .waiting due }, .silent) ∧
      due.nanoseconds = p.now.nanoseconds + (Duration.ofSeconds seconds).nanoseconds
  /-- It is over, and never polls. -/
  dies : 2 ^ 63 ≤ p.now.seconds + seconds →
    p.step .begin = some ({ p with loop := .failed }, .silent) ∧
      ∀ more p', Run { p with loop := .failed } more p' → ∀ m ∈ more, ¬ m.Polls

/-- As long as the clock shows no more than so many seconds, a loop that begins waits for its first
    tick. -/
def Starting (registry : Registry) (setting : Duration) (horizon : Nat) : Prop :=
  ∀ start history p, Run (.new registry setting start) history p → p.now.seconds ≤ horizon →
    p.loop = .unstarted → ∃ p' due, p.step .begin = some (p', .silent) ∧ p'.loop = .waiting due

variable {registry : Registry} {seconds horizon : Nat} {start : Instant}
  {first p p' : Polling} {history : List Moment} {move : Move} {event : Event}

theorem pollInterval_ofSeconds (pos : 0 < seconds) :
    pollInterval (.ofSeconds seconds) = .ofSeconds seconds := by
  have some_time : seconds * 1000000000 ≠ 0 := by omega
  exact if_neg some_time

theorem Run.begins (run : Run (.new registry (.ofSeconds seconds) start) history p)
    (pos : 0 < seconds) (idle : p.loop = .unstarted) : p.Begins seconds := by
  have every : p.interval = .ofSeconds seconds := run.interval_eq.trans (pollInterval_ofSeconds pos)
  constructor
  · intro shown
    obtain ⟨due, after⟩ := Instant.exists_after?_ofSeconds shown
    refine ⟨due, ?_, Instant.after?_eq_some_iff.1 after⟩
    simp only [step, idle, every, after]
  · intro beyond
    have none := Instant.after?_ofSeconds_eq_none_iff.2 beyond
    refine ⟨by simp only [step, idle, every, none], fun more p' run => ?_⟩
    exact (run.quiet_of_over (.inr rfl)).2

theorem starting_iff (pos : 0 < seconds) (shown : horizon < 2 ^ 63) :
    Starting registry (.ofSeconds seconds) horizon ↔ seconds + horizon < 2 ^ 63 := by
  constructor
  · intro starting
    refine Nat.lt_of_not_le fun beyond => ?_
    obtain ⟨now, reading⟩ : ∃ now : Instant, now.seconds = horizon :=
      ⟨.ofSeconds horizon shown, Instant.seconds_ofSeconds shown⟩
    have run : Run (.new registry (.ofSeconds seconds) now) [] _ := .start
    obtain ⟨p', due, begun, waiting⟩ := starting now [] _ run (Nat.le_of_eq reading) rfl
    have beyond : 2 ^ 63 ≤ now.seconds + seconds := by omega
    obtain ⟨died, -⟩ := (run.begins pos rfl).dies beyond
    cases begun.symm.trans died
    cases waiting
  · intro fits start history p run before idle
    obtain ⟨due, begun, -⟩ := (run.begins pos idle).waits (by omega)
    exact ⟨_, due, begun, rfl⟩

end Routing.Polling

/-! ## Settings -/

namespace Config

open Binding (Resolving)
open Routing (Polling)

variable {env : Environment} {config : Config}

theorem sets_laneCacheSeconds (h : ofEnvironment env = .ok config) :
    Sets env "LANE_CACHE_TTL_SECS" 30 config.laneCacheSeconds := by
  simp only [ofEnvironment, bind_eq_ok_iff] at h
  obtain ⟨_, -, _, -, _, -, _, -, made⟩ := h
  cases made
  exact sets_seconds env _ _

theorem Sets.eq_of_toString {name : String} {default n value : UInt64}
    (sets : Sets env name default n) (set : env name = some (utf8 (toString value.toNat))) :
    n = value :=
  UInt64.toNat_inj.1 (sets.spelt _ _ set (spells_toString _) value.toNat_lt_size)

/-- An environment that sets only what it must, and these two numbers of seconds. -/
def timedEnvironment (lifetime poll : UInt64) : Environment :=
  environment [("DATABASE_URL", "postgresql://localhost/lanes"),
    ("REGISTRY_URL", "http://registry:8080"),
    ("REGISTRY_POLL_INTERVAL_SECS", toString poll.toNat),
    ("LANE_CACHE_TTL_SECS", toString lifetime.toNat)]

theorem timedEnvironment_clean {lifetime poll : UInt64} (pos : poll ≠ 0) (fault : Error) :
    ¬ Faulty (timedEnvironment lifetime poll) fault := by
  intro faulty
  cases faulty with
  | unset mem missing =>
    rcases List.mem_pair.1 mem with rfl | rfl <;> exact nomatch missing
  | notText mem set broken =>
    obtain ⟨text, -, same⟩ := Option.map_eq_some_iff.1 set
    exact broken text same.symm
  | @zero name text mem set zero =>
    rcases List.mem_pair.1 mem with rfl | rfl
    · have same : utf8 (toString poll.toNat) = utf8 text := Option.some.inj set
      have text_eq : toString poll.toNat = text := by
        simpa using congrArg Utf8.text? same
      subst text_eq
      exact pos (UInt64.toNat_inj.1 ((spells_toString _).unique zero))
    · exact nomatch set

/-- Every number of seconds is accepted, zero between two polls excepted. -/
theorem timedEnvironment_accepted (lifetime poll : UInt64) (pos : poll ≠ 0) :
    ∃ config, ofEnvironment (timedEnvironment lifetime poll) = .ok config ∧
      config.laneCacheSeconds = lifetime ∧ config.registryPollSeconds = poll := by
  cases read : ofEnvironment (timedEnvironment lifetime poll) with
  | error fault => exact absurd (firstFault_of_error read).faulty (timedEnvironment_clean pos fault)
  | ok config =>
    refine ⟨config, rfl, (sets_laneCacheSeconds read).eq_of_toString rfl, ?_⟩
    exact (accepted_of_ok read).1.poll.eq_of_toString rfl

/-- How long the settings hold out. Every number of seconds of 64 bits is accepted, zero between
    two polls excepted. Whatever is accepted, an answer is kept and returned, and the loop waits for
    its first tick, wherever the seconds on the clock and those of the setting come to less than
    `2 ^ 63`; everywhere else the call fails and keeps nothing, and the loop never polls. So calls
    are answered, and loops begin, as long as the clock shows no more than so many seconds, exactly
    when these and those of the setting come to less than `2 ^ 63`. -/
theorem deadlines_shown_iff {horizon : Nat} (shown : horizon < 2 ^ 63) :
    (∀ lifetime poll : UInt64, poll ≠ 0 → ∃ env config, ofEnvironment env = .ok config ∧
      config.laneCacheSeconds = lifetime ∧ config.registryPollSeconds = poll) ∧
    ∀ env config, ofEnvironment env = .ok config →
      Sets env "LANE_CACHE_TTL_SECS" 30 config.laneCacheSeconds ∧
      Sets env "REGISTRY_POLL_INTERVAL_SECS" 30 config.registryPollSeconds ∧
      (∀ store history s, Resolving.Run config.laneCacheLifetime store history s →
        ∀ id key lane, s.resolver.lookups.lookup id = some ⟨key, some (.ok lane)⟩ →
          s.Ends id key lane config.laneCacheSeconds.toNat) ∧
      (Resolving.Answering config.laneCacheLifetime horizon ↔
        config.laneCacheSeconds.toNat + horizon < 2 ^ 63) ∧
      (∀ start history p, Polling.Run
          (.new (.ofUrl config.registryUrl) config.registryPollInterval start) history p →
        p.loop = .unstarted → p.Begins config.registryPollSeconds.toNat) ∧
      (Polling.Starting (.ofUrl config.registryUrl) config.registryPollInterval horizon ↔
        config.registryPollSeconds.toNat + horizon < 2 ^ 63) := by
  refine ⟨fun lifetime poll pos => ⟨_, timedEnvironment_accepted lifetime poll pos⟩, ?_⟩
  intro env config read
  have accepted := (accepted_of_ok read).1
  have pos : 0 < config.registryPollSeconds.toNat := UInt64.le_iff_toNat_le.1 accepted.poll_pos
  refine ⟨sets_laneCacheSeconds read, accepted.poll, ?_, Resolving.answering_iff shown, ?_,
    Polling.starting_iff pos shown⟩
  · exact fun store history s run id key lane found => run.ends found
  · exact fun start history p run idle => run.begins pos idle

/-- Some seconds hold out for half of what the clock can show, and no lifetime holds out for all of
    it. -/
theorem deadlines_shown_iff_sample : ofEnvironment sampleEnvironment = .ok sampleConfig ∧
    Resolving.Answering sampleConfig.laneCacheLifetime (2 ^ 62) ∧
    Polling.Starting (.ofUrl sampleConfig.registryUrl) sampleConfig.registryPollInterval (2 ^ 62) ∧
    ¬ Resolving.Answering sampleConfig.laneCacheLifetime (2 ^ 63 - 1) := by
  have read : ofEnvironment sampleEnvironment = .ok sampleConfig := by decide +kernel
  have half : 2 ^ 62 < 2 ^ 63 := by decide
  obtain ⟨-, -, -, answering, -, starting⟩ := (deadlines_shown_iff half).2 _ _ read
  have whole : 2 ^ 63 - 1 < 2 ^ 63 := by decide
  obtain ⟨-, -, -, never, -⟩ := (deadlines_shown_iff whole).2 _ _ read
  refine ⟨read, answering.2 (by decide), starting.2 (by decide), fun always => ?_⟩
  exact absurd (never.1 always) (by decide)

/-- The largest numbers of seconds are accepted, and are beyond the clock from its start on. A
    lookup reads a lane, and its call fails; nothing is kept, so the next call asks the store again.
    The poll loop fails as it begins. -/
theorem largest_settings_overflow : ∃ config,
    ofEnvironment (timedEnvironment 18446744073709551615 18446744073709551615) = .ok config ∧
    (∃ history s s',
      Resolving.Run config.laneCacheLifetime (fun _ => .ok (some "feat-x")) history s ∧
      s.now = .start ∧
      s.resolver.lookups.lookup 0 = some ⟨⟨.bot, "bot"⟩, some (.ok (some "feat-x"))⟩ ∧
      s.step (.complete 0) = some (s', .ended 0 .outOfRange) ∧
      ∃ s'' id, s'.step (.resolve ⟨.bot, "bot"⟩) =
        some (s'', .called ⟨.bot, "bot"⟩ (.waiting id))) ∧
    ∃ p', (Polling.new (.ofUrl config.registryUrl) config.registryPollInterval .start).step
      .begin = some (p', .silent) ∧ p'.loop = .failed := by
  obtain ⟨config, read, lifetime, poll⟩ :=
    timedEnvironment_accepted 18446744073709551615 18446744073709551615 (by decide)
  refine ⟨config, read, ?_, ?_⟩
  · obtain ⟨history, s, run, now, found, empty⟩ :=
      Resolving.exists_read config.laneCacheLifetime .start ⟨.bot, "bot"⟩ (some "feat-x")
    have beyond : 2 ^ 63 ≤ s.now.seconds + config.laneCacheSeconds.toNat := by
      rw [now, lifetime]
      decide
    obtain ⟨s', lost, kept⟩ := (run.ends found).lost beyond
    refine ⟨history, s, s', run, now, found, lost, ?_⟩
    rcases s'.step_resolve ⟨.bot, "bot"⟩ with ⟨lane, answered, -⟩ | ⟨-, s'', asks, -⟩
    · rw [kept, empty] at answered
      exact nomatch answered
    · exact ⟨s'', _, asks⟩
  · have beyond : 2 ^ 63 ≤ Instant.start.seconds + config.registryPollSeconds.toNat := by
      rw [poll]
      decide
    have run : Polling.Run (.new (.ofUrl config.registryUrl) config.registryPollInterval .start)
      [] _ := .start
    have pos : 0 < config.registryPollSeconds.toNat := by
      rw [poll]
      decide
    exact ⟨_, ((run.begins pos rfl).dies beyond).1, rfl⟩

end Config

end Laneway
