import Laneway.Proofs.History
import Laneway.Proofs.Routing.Replacement

set_option autoImplicit false

/-! # The end of polling

A loop that has noticed that it was stopped begins no fetch any more. But the stop and a tick that is
due stand side by side, and which of the two the loop goes by is open. So it may begin a fetch that
was due when it was stopped, or that has come due while its last one was still under way. -/

namespace Laneway.Routing.Polling

/-- The loop begins a fetch in the moment. -/
def Moment.Polls (m : Moment) : Prop := m.move = .tick ∧ ∃ id, m.event = .began id

variable {first p p' : Polling} {history : List Moment} {move : Move} {event : Event}

/-- A loop that has ended, or failed, stays so, and ticks no more. -/
theorem Change.kept_over (change : p.Change move p' event)
    (gone : p.loop = .ended ∨ p.loop = .failed) :
    p'.loop = p.loop ∧ move ≠ .tick := by
  cases change with
  | begins idle | overruns idle => simp [idle] at gone
  | ticks waiting | fails waiting | finishes waiting => simp [waiting] at gone
  | @takes _ origin =>
    refine ⟨?_, nofun⟩
    show (if origin = .loop then Loop.resume p.loop else p.loop) = p.loop
    rcases gone with ended | failed
    · rw [ended]
      exact ite_self _
    · rw [failed]
      exact ite_self _
  | _ => exact ⟨rfl, nofun⟩

theorem Change.loop_of_finish (change : p.Change .finish p' event) : p'.loop = .ended := by
  cases change
  rfl

/-- The loop begins a fetch only when it waits and the fetch is due. -/
theorem Change.due (change : p.Change move p' event) (polls : Moment.Polls ⟨p, move, event⟩) :
    ∃ due, p.loop = .waiting due ∧ due ≤ p.now := by
  obtain ⟨⟨⟩, id, began⟩ := polls
  cases change with
  | ticks waiting reached => exact ⟨_, waiting, reached⟩
  | fails => exact nomatch began

/-- Once the loop has noticed a stop it is at its end. -/
theorem Run.ended (run : Run first history p) (noticed : ∃ m ∈ history, m.move = .finish) :
    p.loop = .ended := by
  induction run with
  | start => simp at noticed
  | @next history p p' move event run step ih =>
    have change := change_of_step step
    obtain ⟨m, hm, finish⟩ := noticed
    rcases List.mem_append.1 hm with old | new
    · have ended := ih ⟨m, old, finish⟩
      exact (change.kept_over (.inl ended)).1.trans ended
    · cases List.mem_singleton.1 new
      cases (finish : move = .finish)
      exact change.loop_of_finish

/-- Once the loop is over it begins no fetch. -/
theorem Run.quiet_of_over (run : Run first history p)
    (gone : first.loop = .ended ∨ first.loop = .failed) :
    p.loop = first.loop ∧ ∀ m ∈ history, ¬ m.Polls := by
  induction run with
  | start => exact ⟨rfl, nofun⟩
  | next run step ih =>
    obtain ⟨same, quiet⟩ := ih
    obtain ⟨kept, other⟩ := (change_of_step step).kept_over (same ▸ gone)
    refine ⟨kept.trans same, fun m hm => ?_⟩
    rcases List.mem_append.1 hm with old | new
    · exact quiet m old
    · rw [List.mem_singleton.1 new]
      exact fun polls => other polls.1

/-- Every moment of a run was reached by a run, and its move was possible. -/
theorem Run.split {earlier later : List Moment} {m : Moment}
    (run : Run first (earlier ++ m :: later) p) :
    Run first earlier m.before ∧ ∃ p', m.before.step m.move = some (p', m.event) := by
  generalize hh : earlier ++ m :: later = history at run
  induction run generalizing later with
  | start => simp at hh
  | next run step ih =>
    rcases concat_eq_append_cons_iff.1 hh.symm with ⟨rfl, rfl, rfl⟩ | ⟨rest, rfl, rfl⟩
    · exact ⟨run, _, step⟩
    · exact ih rfl

/-- Whatever fetch the loop begins was due, and the loop has noticed no stop before. -/
theorem Run.polls_before_finish {earlier later : List Moment} {m : Moment}
    (run : Run first (earlier ++ m :: later) p) (polls : m.Polls) :
    (∃ due, m.before.loop = .waiting due ∧ due ≤ m.before.now) ∧
      ∀ m' ∈ earlier, m'.move ≠ .finish := by
  obtain ⟨before, p', step⟩ := run.split
  have change := change_of_step step
  refine ⟨change.due polls, fun m' hm finish => ?_⟩
  exact (change.kept_over (.inl (before.ended ⟨m', hm, finish⟩))).2 polls.1

/-- A stopped loop whose tick is due may go by either: it may begin a fetch, and it may end. -/
theorem polls_or_ends_of_due {due next : Instant} (stopped : p.stopped = true)
    (waiting : p.loop = .waiting due) (reached : due ≤ p.now)
    (shown : nextTick? due p.now p.interval = some next) :
    p.step .tick = some ({ p.fetch .loop with loop := .fetching next }, .began p.nextFetch) ∧
      p.step .finish = some ({ p with loop := .ended }, .silent) := by
  constructor
  · simp only [step, waiting, if_pos reached, shown]
  · simp only [step, waiting, stopped, if_true]

/-- A router is stopped while the first fetch of its loop takes longer than the time between two. The
    fetch ends, and the loop begins another. -/
theorem polls_after_stop : ∃ history p p',
    Run (.new (.ofUrl "http://registry:8080/") (.ofSeconds 30) .start) history p ∧
      p.stopped = true ∧ p.fetches = [] ∧ p.step .tick = some (p', .began 1) := by
  have begun := @Run.next (.new (.ofUrl "http://registry:8080/") (.ofSeconds 30) .start) _ _ _
    .begin _ .start rfl
  have due := @Run.next _ _ _ _ (.advance (.ofSeconds 30)) _ begun rfl
  have polled := @Run.next _ _ _ _ .tick _ due rfl
  have late := @Run.next _ _ _ _ (.advance (.ofSeconds 40)) _ polled rfl
  have stopped := @Run.next _ _ _ _ .stop _ late rfl
  have answered := @Run.next _ _ _ _ (.answer 0 (.ok webAnswer)) _ stopped rfl
  have run := @Run.next _ _ _ _ (.complete 0) _ answered rfl
  exact ⟨_, _, _, run, rfl, rfl, rfl⟩

end Laneway.Routing.Polling
