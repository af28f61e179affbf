import Laneway.Routing.Polling

set_option autoImplicit false

/-! # The table that was served last

Any number of fetches are under way at once, and they end in any order, well or not. What a router
holds follows from those that ended well alone: it is the table in the answer of the latest of them,
as a whole, and the one the router started with while there is none. -/

namespace Laneway.Routing

/-! ## Answers that hold a table -/

/-- The answer holds this table: its status tells success, and its body reads as the table. -/
def Serves (answer : Except Http.Failure Http.Response) (table : Topology) : Prop :=
  ∃ response, answer = .ok response ∧ 200 ≤ response.status ∧ response.status < 300 ∧
    Topology.read response.body = .ok table

theorem taken_eq_ok_iff {answer : Except Http.Failure Http.Response} {table : Topology} :
    Registry.taken answer = .ok table ↔ Serves answer table := by
  cases answer with
  | error failure => simp [Registry.taken, Serves]
  | ok response =>
    by_cases success : 200 ≤ response.status ∧ response.status < 300
    · cases read : Topology.read response.body <;>
        simp [Registry.taken, Serves, Http.Response.isSuccess, success, read]
    · have failed : response.isSuccess = false := by
        simpa [Http.Response.isSuccess] using success
      simp only [Registry.taken, failed, Serves, Except.ok.injEq, exists_eq_left']
      simp
      omega

namespace Polling

theorem adopt_of_serves {topology table : Topology} {answer : Except Http.Failure Http.Response}
    (serves : Serves answer table) : adopt topology answer = (table, true) :=
  adopt_of_ok (taken_eq_ok_iff.2 serves)

theorem adopt_of_not_serves {topology : Topology} {answer : Except Http.Failure Http.Response}
    (fails : ∀ table, ¬ Serves answer table) : adopt topology answer = (topology, false) := by
  cases h : Registry.taken answer with
  | error fault => exact adopt_of_error h
  | ok table => exact absurd (taken_eq_ok_iff.1 h) (fails table)

/-- Whoever waits for a fetch is told that a table was adopted exactly when its answer holds one. -/
theorem adopt_snd_iff (topology : Topology) (answer : Except Http.Failure Http.Response) :
    (adopt topology answer).2 = true ↔ ∃ table, Serves answer table := by
  by_cases served : ∃ table, Serves answer table
  · obtain ⟨table, serves⟩ := served
    rw [adopt_of_serves serves]
    exact ⟨fun _ => ⟨table, serves⟩, fun _ => rfl⟩
  · rw [adopt_of_not_serves fun table serves => served ⟨table, serves⟩]
    simpa using served

/-! ## Everything a move can do -/

/-- The router after the answer of the fetch `id` was taken in. -/
def taking (p : Polling) (id : FetchId) (origin : Origin)
    (answer : Except Http.Failure Http.Response) : Polling :=
  { p with
    topology := (adopt p.topology answer).1
    loop := if origin = .loop then Loop.resume p.loop else p.loop
    fetches := p.fetches.filter fun f => f.1 ≠ id }

/-- The router after it was decided what comes of the request of the fetch `id`. -/
def answering (p : Polling) (id : FetchId) (origin : Origin)
    (answer : Except Http.Failure Http.Response) : Polling :=
  { p with fetches := p.fetches.map fun f => if f.1 = id then (id, ⟨origin, some answer⟩) else f }

/-- What a move can do: the router after it and what comes of it. -/
inductive Change (p : Polling) : Move → Polling → Event → Prop
  | begins {due : Instant} (idle : p.loop = .unstarted)
      (shown : p.now.after? p.interval = some due) :
      Change p .begin { p with loop := .waiting due } .silent
  | overruns (idle : p.loop = .unstarted) (beyond : p.now.after? p.interval = none) :
      Change p .begin { p with loop := .failed } .silent
  | asks (known : p.registry.isSome) : Change p .refresh (p.fetch .caller) (.began p.nextFetch)
  | refuses (unknown : p.registry = none) : Change p .refresh p .refused
  | ticks {due next : Instant} (waiting : p.loop = .waiting due) (reached : due ≤ p.now)
      (shown : nextTick? due p.now p.interval = some next) :
      Change p .tick { p.fetch .loop with loop := .fetching next } (.began p.nextFetch)
  | fails {due : Instant} (waiting : p.loop = .waiting due) (reached : due ≤ p.now)
      (beyond : nextTick? due p.now p.interval = none) :
      Change p .tick { p with loop := .failed } .silent
  | answers {id : FetchId} {origin : Origin} {answer : Except Http.Failure Http.Response}
      (found : p.fetches.lookup id = some ⟨origin, none⟩) :
      Change p (.answer id answer) (p.answering id origin answer) .silent
  | takes {id : FetchId} {origin : Origin} {answer : Except Http.Failure Http.Response}
      (found : p.fetches.lookup id = some ⟨origin, some answer⟩) :
      Change p (.complete id) (p.taking id origin answer)
        (.refreshed id (adopt p.topology answer).2)
  | stops : Change p .stop { p with stopped := true } .silent
  | finishes {due : Instant} (waiting : p.loop = .waiting due) (stopped : p.stopped = true) :
      Change p .finish { p with loop := .ended } .silent
  | advances {d : Duration} {now : Instant} (shown : p.now.after? d = some now) :
      Change p (.advance d) { p with now } .silent

variable {p p' : Polling} {move : Move} {event : Event}

theorem change_of_step (h : p.step move = some (p', event)) : p.Change move p' event := by
  cases move with
  | begin =>
    simp only [step] at h
    split at h
    · next idle =>
      cases shown : p.now.after? p.interval with
      | none =>
        rw [shown] at h
        cases h
        exact .overruns idle shown
      | some due =>
        rw [shown] at h
        cases h
        exact .begins idle shown
    · exact nomatch h
  | refresh =>
    simp only [step] at h
    split at h
    · next known =>
      cases h
      exact .asks known
    · next unknown =>
      cases h
      exact .refuses (by simpa using unknown)
  | tick =>
    rw [step] at h
    split at h
    · next due waiting =>
      by_cases reached : due ≤ p.now
      · rw [if_pos reached] at h
        cases shown : nextTick? due p.now p.interval with
        | none =>
          rw [shown] at h
          cases h
          exact .fails waiting reached shown
        | some next =>
          rw [shown] at h
          cases h
          exact .ticks waiting reached shown
      · rw [if_neg reached] at h
        exact nomatch h
    · exact nomatch h
  | answer id answer =>
    simp only [step] at h
    split at h
    · next origin found =>
      cases h
      exact .answers found
    · exact nomatch h
  | complete id =>
    simp only [step] at h
    split at h
    · next origin answer found =>
      cases h
      exact .takes found
    · exact nomatch h
  | stop =>
    cases h
    exact .stops
  | finish =>
    simp only [step] at h
    split at h
    · next due waiting =>
      split at h
      · next stopped =>
        cases h
        exact .finishes waiting stopped
      · exact nomatch h
    · exact nomatch h
  | advance d =>
    simp only [step, Option.map_eq_some_iff] at h
    obtain ⟨now, shown, same⟩ := h
    cases same
    exact .advances shown

/-- A fetch that has been answered can be taken in. -/
theorem step_complete {id : FetchId} {origin : Origin} {answer : Except Http.Failure Http.Response}
    (found : p.fetches.lookup id = some ⟨origin, some answer⟩) :
    p.step (.complete id) =
      some (p.taking id origin answer, .refreshed id (adopt p.topology answer).2) := by
  simp only [step, found, taking]

/-! ## Histories -/

/-- A move with the router it was made on and what came of it. -/
structure Moment where
  before : Polling
  move : Move
  event : Event

/-- The runs of a router: the history and what it has led to. -/
inductive Run (first : Polling) : List Moment → Polling → Prop
  | start : Run first [] first
  | next {history : List Moment} {p p' : Polling} {move : Move} {event : Event}
      (run : Run first history p) (step : p.step move = some (p', event)) :
      Run first (history ++ [⟨p, move, event⟩]) p'

theorem Run.interval_eq {first : Polling} {history : List Moment} (run : Run first history p) :
    p.interval = first.interval := by
  induction run with
  | start => rfl
  | next run step ih => cases change_of_step step <;> exact ih

/-- In this moment a fetch is over whose answer holds this table. -/
def Moment.Brings (m : Moment) (table : Topology) : Prop :=
  ∃ id origin answer, m.move = .complete id ∧
    m.before.fetches.lookup id = some ⟨origin, some answer⟩ ∧ Serves answer table

/-- The table of the latest fetch that has ended well; the first table while there is none. -/
inductive Latest (first : Topology) : List Moment → Topology → Prop
  | first {history : List Moment} (unserved : ∀ m ∈ history, ∀ table, ¬ m.Brings table) :
      Latest first history first
  | served {earlier later : List Moment} {m : Moment} {table : Topology} (brings : m.Brings table)
      (since : ∀ m' ∈ later, ∀ other, ¬ m'.Brings other) :
      Latest first (earlier ++ m :: later) table

variable {first : Polling} {history : List Moment} {m : Moment} {table : Topology}

theorem Latest.concat (brings : m.Brings table) (initial : Topology) :
    Latest initial (history ++ [m]) table :=
  .served brings (by simp)

theorem Latest.concat_of_not_brings {initial current : Topology}
    (latest : Latest initial history current) (fails : ∀ table, ¬ m.Brings table) :
    Latest initial (history ++ [m]) current := by
  have keeps : ∀ {moments : List Moment}, (∀ m' ∈ moments, ∀ table, ¬ m'.Brings table) →
      ∀ m' ∈ moments ++ [m], ∀ table, ¬ m'.Brings table := by
    intro moments none m' hm
    rcases List.mem_append.1 hm with old | new
    · exact none m' old
    · rw [List.mem_singleton.1 new]
      exact fails
  cases latest with
  | first unserved => exact .first (keeps unserved)
  | served brings since =>
    rw [List.append_assoc]
    exact .served brings (keeps since)

/-- A move puts in place the table it brings, and whoever waits for it is told so; every other move
    keeps the table, and tells nobody that it was replaced. -/
theorem Change.topology (change : p.Change move p' event) :
    (Moment.Brings ⟨p, move, event⟩ p'.topology ∧ ∃ id, event = .refreshed id true) ∨
      ((∀ table, ¬ Moment.Brings ⟨p, move, event⟩ table) ∧ p'.topology = p.topology ∧
        ∀ id, event ≠ .refreshed id true) := by
  cases change with
  | @takes id origin answer found =>
    by_cases served : ∃ table, Serves answer table
    · obtain ⟨table, serves⟩ := served
      left
      simp only [taking, adopt_of_serves serves]
      exact ⟨⟨id, origin, answer, rfl, found, serves⟩, id, rfl⟩
    · have fails : ∀ table, ¬ Serves answer table := fun table serves => served ⟨table, serves⟩
      right
      simp only [taking, adopt_of_not_serves fails]
      refine ⟨?_, True.intro, by simp⟩
      rintro table ⟨_, _, other, same, found', serves⟩
      cases same
      rw [found] at found'
      cases found'
      exact fails table serves
  | _ =>
    right
    exact ⟨by rintro table ⟨_, _, _, ⟨⟩, _⟩, rfl, by simp⟩

theorem Run.latest (run : Run first history p) :
    Latest first.topology history p.topology := by
  induction run with
  | start => exact .first (by simp)
  | next run step ih =>
    rcases (change_of_step step).topology with ⟨brings, -⟩ | ⟨fails, same, -⟩
    · exact .concat brings _
    · rw [same]
      exact ih.concat_of_not_brings fails

/-- The table is replaced as a whole and the last known good one stays. In every state that a run
    leads to, the table is that of the latest fetch that has ended well, or the first one. A fetch
    that is answered can be taken in at any time: if its answer holds a table, that is the table
    then, and if not, the table and every URL stay as they are; and it returns whether its answer
    holds one. No other move touches the table. -/
theorem holds_last_good_table (run : Run first history p) :
    Latest first.topology history p.topology ∧
    (∀ id origin answer, p.fetches.lookup id = some ⟨origin, some answer⟩ →
      ∃ p' replaced, p.step (.complete id) = some (p', .refreshed id replaced) ∧
        (replaced = true ↔ ∃ table, Serves answer table) ∧
        (∀ table, Serves answer table → p'.topology = table) ∧
        ((∀ table, ¬ Serves answer table) → p'.topology = p.topology ∧
          ∀ context service path lane,
            p'.topology.url context service path lane =
              p.topology.url context service path lane)) ∧
    (∀ move p' event, p.step move = some (p', event) → (∀ id, event ≠ .refreshed id true) →
      p'.topology = p.topology) := by
  refine ⟨run.latest, ?_, ?_⟩
  · intro id origin answer found
    refine ⟨_, _, step_complete found, adopt_snd_iff _ _, ?_, ?_⟩
    · intro table serves
      simp only [taking, adopt_of_serves serves]
    · intro fails
      simp only [taking, adopt_of_not_serves fails, implies_true, and_self]
  · intro move p' event step kept
    rcases (change_of_step step).topology with ⟨-, id, replaced⟩ | ⟨-, same, -⟩
    · exact absurd replaced (kept id)
    · exact same

/-- The table of an answer with one service. -/
def webTable : Topology := .ofList [("web", ⟨.ofList ["feat-x"], 8080⟩)]

def webAnswer : Http.Response :=
  ⟨200, utf8 "\x7b\"web\":\x7b\"lanes\":[\"feat-x\"],\"port\":8080\x7d\x7d"⟩

/-- Of two overlapping fetches the later one brings a table, and the end of the earlier one, which
    the registry has turned away, leaves it in place. -/
theorem holds_last_good_table_overlapping : ∃ history p p',
    Run (.new (.ofUrl "http://registry:8080/") (.ofSeconds 30) .start) history p ∧
      Latest ∅ history webTable ∧ p.topology = webTable ∧
      p.step (.complete 0) = some (p', .refreshed 0 false) ∧ p'.topology = webTable := by
  have first := @Run.next (.new (.ofUrl "http://registry:8080/") (.ofSeconds 30) .start) _ _ _
    .refresh _ .start rfl
  have second := @Run.next _ _ _ _ .refresh _ first rfl
  have answered := @Run.next _ _ _ _ (.answer 1 (.ok webAnswer)) _ second rfl
  have taken := @Run.next _ _ _ _ (.complete 1) _ answered rfl
  have run := @Run.next _ _ _ _ (.answer 0 (.ok ⟨503, []⟩)) _ taken rfl
  obtain ⟨latest, takes, -⟩ := holds_last_good_table run
  obtain ⟨p', replaced, step, told, -, keeps⟩ := takes 0 .caller (.ok ⟨503, []⟩) rfl
  have fails : ∀ table, ¬ Serves (.ok ⟨503, []⟩) table := by
    rintro table ⟨response, ⟨⟩, -, low, -⟩
    exact absurd low (by decide)
  have kept : replaced = false := by
    cases replaced with
    | false => rfl
    | true =>
      obtain ⟨table, serves⟩ := told.1 rfl
      exact absurd serves (fails table)
  subst kept
  exact ⟨_, _, p', run, latest, rfl, step, (keeps fails).1⟩

end Polling

end Laneway.Routing
