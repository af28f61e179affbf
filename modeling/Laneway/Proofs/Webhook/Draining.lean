import Laneway.Entries
import Laneway.Webhook.Tracker

set_option autoImplicit false

/-! # What a move of a tracker does to a drain

A drain keeps its deadline, and the mark that no relay was running is set at once when the last relay
finishes. It ends when it is woken up, with the mark as its answer, and without the mark only when its
time is over. Relays that are begun meanwhile, other drains and the clock leave it as it is. -/

namespace Laneway.Webhook.Tracker

variable {t t' : Tracker} {move : Move} {event : Event} {id : DrainId} {drain : Drain}

@[simp] theorem tell_running (t : Tracker) : t.tell.running = t.running := by
  unfold tell
  split <;> rfl

@[simp] theorem tell_begun (t : Tracker) : t.tell.begun = t.begun := by
  unfold tell
  split <;> rfl

@[simp] theorem tell_now (t : Tracker) : t.tell.now = t.now := by
  unfold tell
  split <;> rfl

@[simp] theorem tell_nextDrain (t : Tracker) : t.tell.nextDrain = t.nextDrain := by
  unfold tell
  split <;> rfl

theorem lookup_tell (t : Tracker) (id : DrainId) :
    t.tell.drains.lookup id =
      (t.drains.lookup id).map fun drain =>
        { drain with reached := drain.reached || t.running.isEmpty } := by
  unfold tell
  split
  · next idle =>
    rw [idle]
    simpa using lookup_map_values (fun drain : Drain => { drain with reached := true }) t.drains id
  · next busy => simp [busy]

/-! ## Moves -/

/-- Everything a move of a tracker can do. -/
inductive Change (t : Tracker) : Move → Tracker → Event → Prop
  | forwards : Change t .forward
      { t with running := t.running ++ [t.begun], begun := t.begun + 1 } (.forwarded t.begun)
  | finishes {id : RelayId} (running : id ∈ t.running) :
      Change t (.finish id) ({ t with running := t.running.erase id } : Tracker).tell .silent
  | drains (timeout : Duration) : Change t (.drain timeout)
      { t with
        drains := t.drains ++ [(t.nextDrain, ⟨t.now.after? timeout, t.running.isEmpty⟩)]
        nextDrain := t.nextDrain + 1 }
      (.draining t.nextDrain)
  | returns {id : DrainId} {drain : Drain} (found : t.drains.lookup id = some drain)
      (due : drain.reached = false → isDue t.now drain.deadline) :
      Change t (.wake id) { t with drains := t.drains.filter fun d => d.1 ≠ id }
        (.drained id drain.reached)
  | advances {d : Duration} {now : Instant} (later : t.now.after? d = some now) :
      Change t (.advance d) { t with now } .silent

theorem change_of_step (h : t.step move = some (t', event)) : Change t move t' event := by
  cases move with
  | forward =>
    cases h
    exact .forwards
  | finish id =>
    simp only [step] at h
    split at h
    · next running =>
      cases h
      exact .finishes running
    · exact nomatch h
  | drain timeout =>
    cases h
    exact .drains timeout
  | wake id =>
    simp only [step] at h
    split at h
    · next drain found =>
      split at h
      · next reached =>
        cases h
        exact reached ▸ .returns found (fun h => nomatch reached.symm.trans h)
      · next unreached =>
        rw [Bool.not_eq_true] at unreached
        split at h
        · next due =>
          cases h
          exact unreached ▸ .returns found (fun _ => due)
        · exact nomatch h
    · exact nomatch h
  | advance d =>
    obtain ⟨now, later, same⟩ := Option.map_eq_some_iff.1 h
    cases same
    exact .advances later

theorem wake_of_reached (found : t.drains.lookup id = some drain) (reached : drain.reached) :
    ∃ t', t.step (.wake id) = some (t', .drained id true) := by
  simp [step, found, reached]

theorem wake_of_due (found : t.drains.lookup id = some drain) (due : isDue t.now drain.deadline) :
    ∃ t' complete, t.step (.wake id) = some (t', .drained id complete) := by
  simp only [step, found, due, if_true]
  split <;> exact ⟨_, _, rfl⟩

/-! ## Drains -/

/-- Drains that wait were begun before. -/
def Numbered (t : Tracker) : Prop := ∀ id drain, t.drains.lookup id = some drain → id < t.nextDrain

theorem Change.numbered (h : Change t move t' event) (numbered : t.Numbered) : t'.Numbered := by
  intro id drain found
  cases h with
  | forwards | advances => exact numbered id drain found
  | finishes =>
    rw [lookup_tell] at found
    obtain ⟨before, found, -⟩ := Option.map_eq_some_iff.1 found
    rw [tell_nextDrain]
    exact numbered id before found
  | drains =>
    rw [lookup_concat, Option.or_eq_some_iff] at found
    rcases found with old | ⟨-, new⟩
    · exact Nat.lt_succ_of_lt (numbered id drain old)
    · split at new
      · next here => exact here ▸ Nat.lt_succ_self _
      · exact nomatch new
  | returns =>
    rw [lookup_filter_ne] at found
    split at found
    · exact nomatch found
    · exact numbered id drain found

/-- A drain that waits either returns with its mark, or waits on and is told when no relay is left
    running. -/
theorem Change.lookup_of_some (h : Change t move t' event)
    (found : t.drains.lookup id = some drain) (told : t.running = [] → drain.reached) :
    (event = .drained id drain.reached ∧ t'.drains.lookup id = none) ∨
      t'.drains.lookup id =
        some { drain with reached := drain.reached || t'.running.isEmpty } := by
  -- a move that leaves the relays alone brings no news
  have same (idle : t'.running = t.running) :
      some drain = some { drain with reached := drain.reached || t'.running.isEmpty } := by
    have marked : (drain.reached || t'.running.isEmpty) = drain.reached := by
      cases reached : drain.reached with
      | true => rfl
      | false =>
        rw [Bool.false_or, idle, List.isEmpty_eq_false_iff]
        exact fun idle => nomatch reached.symm.trans (told idle)
    rw [marked]
  cases h with
  | forwards =>
    have busy : (t.running ++ [t.begun]).isEmpty = false := by simp
    refine .inr (found.trans ?_)
    rw [busy, Bool.or_false]
  | finishes running =>
    refine .inr ?_
    rw [lookup_tell, found, tell_running]
    rfl
  | drains timeout =>
    refine .inr ?_
    rw [lookup_concat, found]
    exact same rfl
  | advances => exact .inr (found.trans (same rfl))
  | @returns other drain' found' due =>
    rw [lookup_filter_ne]
    by_cases here : id = other
    · subst here
      cases found.symm.trans found'
      exact .inl ⟨rfl, if_pos rfl⟩
    · rw [if_neg here]
      exact .inr (found.trans (same rfl))

/-- A drain that was begun and no longer waits never does again. -/
theorem Change.lookup_of_none (h : Change t move t' event) (gone : t.drains.lookup id = none)
    (begun : id < t.nextDrain) : t'.drains.lookup id = none := by
  cases h with
  | forwards | advances => exact gone
  | finishes =>
    rw [lookup_tell]
    exact congrArg _ gone
  | drains =>
    rw [lookup_concat, gone, if_neg (Nat.ne_of_lt begun)]
    rfl
  | returns => rw [lookup_filter_ne, gone, ite_self]

theorem Change.nextDrain_le (h : Change t move t' event) : t.nextDrain ≤ t'.nextDrain := by
  cases h with
  | drains => exact Nat.le_succ _
  | finishes => simp
  | _ => exact Nat.le_refl _

/-- The clock does not go back. -/
theorem Change.now_le (h : Change t move t' event) :
    t.now.nanoseconds ≤ t'.now.nanoseconds := by
  cases h with
  | advances later => exact Instant.after?_eq_some_iff.1 later ▸ Nat.le_add_right _ _
  | finishes => simp
  | _ => exact Nat.le_refl _

theorem isDue_after?_iff {now start : Instant} {timeout : Duration} :
    isDue now (start.after? timeout) ↔
      start.nanoseconds + timeout.nanoseconds ≤ now.nanoseconds := by
  cases h : start.after? timeout with
  | some due =>
    rw [← Instant.after?_eq_some_iff.1 h]
    exact decide_eq_true_iff
  | none =>
    have far := Instant.after?_eq_none_iff.1 h
    simp only [isDue, Bool.false_eq_true, false_iff, Nat.not_le]
    exact Nat.lt_of_lt_of_le now.range far

end Laneway.Webhook.Tracker
