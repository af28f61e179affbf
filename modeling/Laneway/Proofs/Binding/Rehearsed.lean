import Laneway.Binding.Rehearsal
import Laneway.Proofs.Binding.Record

set_option autoImplicit false

/-! # Rehearsals of a resolver

A rehearsal changes its resolver by moves only, so that what holds of every run holds of what is
rehearsed. A call whose end is waited for is answered at once, or it begins a lookup, reads the store,
and returns what its lookup ends with. -/

namespace Laneway.Binding

namespace Resolving

variable {s s' : Resolving} {key : Key}

theorem Leads.trans {earlier later : List Event} {middle last : Resolving}
    (first : s.Leads earlier middle) (second : middle.Leads later last) :
    s.Leads (earlier ++ later) last := by
  induction second with
  | start => rwa [List.append_nil]
  | next _ step ih =>
    rw [← List.append_assoc]
    exact ih.next step

variable {move : Move} {event : Event} {id : LookupId}

/-- What a lookup has read it keeps until it ends. -/
theorem Change.stays (h : s.Change move s' event) {answer : Answer}
    (found : s.resolver.lookups.lookup id = some ⟨key, some answer⟩)
    (unended : ∀ outcome, event ≠ .ended id outcome) :
    s'.resolver.lookups.lookup id = some ⟨key, some answer⟩ := by
  cases h with
  | begins =>
    rw [List.lookup_append, found]
    rfl
  | @reads other _ unread =>
    have ne : id ≠ other := by
      rintro rfl
      exact nomatch unread.symm.trans found
    exact (lookup_map_replace _ _ _ _).trans ((if_neg ne).trans found)
  | @keeps other | @overflows other | @fails other =>
    have ne : id ≠ other := by
      rintro rfl
      exact unended _ rfl
    exact (lookup_filter_ne _ _ _).trans ((if_neg ne).trans found)
  | _ => exact found

/-- A lookup that is not under way does not end, and only calls begin lookups. -/
theorem Change.gone (h : s.Change move s' event) (gone : s.resolver.lookups.lookup id = none)
    (uncalled : ∀ key, move ≠ .resolve key) :
    s'.resolver.lookups.lookup id = none ∧ ∀ outcome, event ≠ .ended id outcome := by
  constructor
  · cases found : s'.resolver.lookups.lookup id with
    | none => rfl
    | some l =>
      rcases h.lookup found with old | ⟨-, -, rfl, -⟩ | ⟨old, -⟩
      · exact nomatch gone.symm.trans old
      · cases h with
        | begins => exact absurd rfl (uncalled _)
      · exact nomatch gone.symm.trans old
  · intro outcome ended
    obtain ⟨-, key, answer, found⟩ := h.answered ended
    exact nomatch gone.symm.trans found

theorem Change.gone_of_ended {outcome : Outcome} (h : s.Change move s' (.ended id outcome)) :
    s'.resolver.lookups.lookup id = none := by
  cases h with
  | keeps | overflows | fails => exact (lookup_filter_ne _ _ _).trans (if_pos rfl)

/-- Some moves lead from one state to another. -/
def Reaches (s s' : Resolving) : Prop := ∃ events, s.Leads events s'

theorem Reaches.refl (s : Resolving) : s.Reaches s := ⟨[], .start⟩

theorem Reaches.trans {s'' : Resolving} (first : s.Reaches s') (second : s'.Reaches s'') :
    s.Reaches s'' := by
  obtain ⟨_, leads⟩ := first
  obtain ⟨_, leads'⟩ := second
  exact ⟨_, leads.trans leads'⟩

end Resolving

namespace Rehearsal.Stage

open Resolving (Move Event Leads Reaches)

variable {s : Stage} {key : Key}

/-! ## Rehearsals move the resolver -/

/-- A move is made if it is possible. -/
theorem move_cases (s : Stage) (m : Move) :
    (∃ event, s.resolving.step m = some ((s.move m).resolving, event)) ∨
      s.resolving.step m = none ∧ s.move m = s := by
  unfold move
  cases moved : s.resolving.step m with
  | none => exact .inr ⟨rfl, rfl⟩
  | some next =>
    obtain ⟨resolving, event⟩ := next
    cases event <;> exact .inl ⟨_, rfl⟩

theorem reaches_move (s : Stage) (m : Move) : s.resolving.Reaches (s.move m).resolving := by
  rcases s.move_cases m with ⟨event, step⟩ | ⟨-, same⟩
  · exact ⟨_, Leads.next .start step⟩
  · rw [same]
    exact .refl _

theorem reaches_call (s : Stage) (key : Key) : s.resolving.Reaches (s.call key).1.resolving := by
  unfold call
  rcases s.resolving.step_resolve key with ⟨lane, -, step⟩ | ⟨-, s', step, -⟩
  · rw [step]
    exact ⟨_, Leads.next .start step⟩
  · rw [step]
    let asked : Stage := { s with resolving := s' }
    have read : s.resolving.Reaches (asked.move (.read s.resolving.resolver.queries)).resolving :=
      Reaches.trans ⟨_, Leads.next .start step⟩ (asked.reaches_move _)
    show Reaches _ (if _ then _ else _ : Stage × Call).1.resolving
    split
    · exact read.trans (reaches_move _ _)
    · exact read

theorem reaches_callAll (s : Stage) (keys : List Key) :
    s.resolving.Reaches (s.callAll keys).1.resolving := by
  induction keys generalizing s with
  | nil => exact .refl _
  | cons key rest ih => exact (s.reaches_call key).trans (ih _)

theorem reaches_runUntil (s : Stage) (moment : Instant) :
    s.resolving.Reaches (s.runUntil moment).resolving := by
  unfold runUntil
  refine Reaches.trans ?_ (reaches_move _ _)
  generalize (s.due.filter fun d => d.2 ≤ moment).mergeSort (fun a b => a.2 ≤ b.2) = due
  induction due generalizing s with
  | nil => exact .refl _
  | cons entry rest ih =>
    exact ((s.reaches_move _).trans ((s.moveClock entry.2).reaches_move _)).trans (ih _)

theorem reaches_await (s : Stage) (call : Call) :
    s.resolving.Reaches (s.await call).1.resolving := by
  cases call with
  | answered lane => exact .refl _
  | waiting id =>
    simp only [await]
    cases s.due.lookup id with
    | none => exact .refl _
    | some moment => exact s.reaches_runUntil moment

theorem reaches_awaitAll (s : Stage) (calls : List Call) :
    s.resolving.Reaches (s.awaitAll calls).1.resolving := by
  induction calls generalizing s with
  | nil => exact .refl _
  | cons call rest ih => exact (s.reaches_await call).trans (ih _)

/-- Whatever a step of a rehearsal does to the resolver, moves do it. -/
theorem reaches_play (s : Stage) (step : Step) :
    s.resolving.Reaches (s.play step).1.resolving := by
  cases step with
  | bind | unbind | outage | invalidate | clear | jump => exact s.reaches_move _
  | latency | queries => exact .refl _
  | resolve key => exact (s.reaches_call key).trans (reaches_await _ _)
  | resolveMany keys => exact (s.reaches_callAll keys).trans (reaches_awaitAll _ _)
  | start name key => exact s.reaches_call key
  | join name =>
    simp only [play]
    cases s.calls.lookup name with
    | none => exact .refl _
    | some call => exact s.reaches_await call
  | advance d => exact s.reaches_runUntil _

/-! ## What a call comes to -/

/-- A lookup that had read the store at first has not ended since. -/
inductive Pending (first : Resolving) (id : LookupId) (s : Stage) : Prop
  | intro {events : List Event} {key : Key} {answer : Answer}
      (leads : first.Leads events s.resolving) (unended : ∀ outcome, .ended id outcome ∉ events)
      (found : s.resolving.resolver.lookups.lookup id = some ⟨key, some answer⟩)

/-- From one state to another the lookup ends with this outcome, for the first time. -/
inductive Ends (first : Resolving) (id : LookupId) (outcome : Outcome) (last : Resolving) : Prop
  | intro {earlier later : List Event} {before after : Resolving}
      (leads : first.Leads earlier before) (unended : ∀ outcome, .ended id outcome ∉ earlier)
      (ends : before.step (.complete id) = some (after, .ended id outcome))
      (leads' : after.Leads later last)

/-- A lookup has ended since, and its outcome is noted. -/
inductive Over (first : Resolving) (id : LookupId) (s : Stage) : Prop
  | intro {outcome : Outcome} (ended : Ends first id outcome s.resolving)
      (gone : s.resolving.resolver.lookups.lookup id = none)
      (noted : s.ended.lookup id = some outcome)

variable {first : Resolving} {id : LookupId} {m : Move}

theorem move_of_step {resolving : Resolving} {event : Event}
    (step : s.resolving.step m = some (resolving, event)) :
    (s.move m).resolving = resolving ∧
      ∀ id, (∀ outcome, event ≠ .ended id outcome) →
        (s.move m).ended.lookup id = s.ended.lookup id := by
  simp only [move, step]
  cases event with
  | ended other outcome =>
    refine ⟨rfl, fun id apart => ?_⟩
    have ne : id ≠ other := by
      rintro rfl
      exact apart outcome rfl
    rw [List.lookup_cons, beq_false_of_ne ne]
  | called | read | silent => exact ⟨rfl, fun _ _ => rfl⟩

/-- A lookup that is over stays so while no calls are made. -/
theorem Over.move (ended : Over first id s) (uncalled : ∀ key, m ≠ .resolve key) :
    Over first id (s.move m) := by
  obtain ⟨⟨leads, unended, ends, leads'⟩, gone, noted⟩ := ended
  cases moved : s.resolving.step m with
  | none =>
    rw [Stage.move, moved]
    exact ⟨⟨leads, unended, ends, leads'⟩, gone, noted⟩
  | some next =>
    obtain ⟨resolving, event⟩ := next
    obtain ⟨same, kept⟩ := move_of_step moved
    obtain ⟨gone', apart⟩ := (Resolving.change_of_step moved).gone gone uncalled
    exact ⟨⟨leads, unended, ends, same ▸ leads'.next moved⟩, same ▸ gone',
      (kept id apart).trans noted⟩

/-- A lookup is pending until it ends. -/
theorem Pending.move (pending : Pending first id s) (other : m ≠ .complete id) :
    Pending first id (s.move m) := by
  obtain ⟨leads, unended, found⟩ := pending
  cases moved : s.resolving.step m with
  | none =>
    rw [Stage.move, moved]
    exact ⟨leads, unended, found⟩
  | some next =>
    obtain ⟨resolving, event⟩ := next
    obtain ⟨same, -⟩ := move_of_step moved
    have change := Resolving.change_of_step moved
    have apart : ∀ outcome, event ≠ .ended id outcome := fun outcome ended =>
      other (change.answered ended).1
    refine ⟨same ▸ leads.next moved, fun outcome mem => ?_, same ▸ change.stays found apart⟩
    rcases List.mem_append.1 mem with old | new
    · exact unended outcome old
    · exact apart outcome (List.mem_singleton.1 new).symm

theorem Pending.complete (pending : Pending first id s) :
    Over first id (s.move (.complete id)) := by
  obtain @⟨_, _, answer, leads, unended, found⟩ := pending
  obtain ⟨resolving, ends, -⟩ := Resolving.step_complete found
  have noted : (s.move (.complete id)).ended.lookup id = some (s.resolving.outcome answer) := by
    simp only [Stage.move, ends]
    exact List.lookup_cons_self
  obtain ⟨rfl, -⟩ := move_of_step ends
  exact ⟨⟨leads, unended, ends, .start⟩, (Resolving.change_of_step ends).gone_of_ended, noted⟩

theorem Over.foldl (entries : List (LookupId × Instant)) (ended : Over first id s) :
    Over first id (entries.foldl (fun s d => (s.moveClock d.2).move (.complete d.1)) s) := by
  induction entries generalizing s with
  | nil => exact ended
  | cons entry rest ih =>
    have later : Over first id (s.moveClock entry.2) := ended.move nofun
    have next : Over first id ((s.moveClock entry.2).move (.complete entry.1)) :=
      later.move nofun
    exact ih next

/-- A lookup is over when everything has ended that is due. -/
theorem Pending.foldl {entries : List (LookupId × Instant)} (pending : Pending first id s)
    (due : id ∈ entries.map Prod.fst) :
    Over first id (entries.foldl (fun s d => (s.moveClock d.2).move (.complete d.1)) s) := by
  induction entries generalizing s with
  | nil => exact nomatch due
  | cons entry rest ih =>
    have later : Pending first id (s.moveClock entry.2) := pending.move nofun
    by_cases same : entry.1 = id
    · have ended : Over first id ((s.moveClock entry.2).move (.complete entry.1)) :=
        same ▸ later.complete
      exact ended.foldl rest
    · have waits : Pending first id ((s.moveClock entry.2).move (.complete entry.1)) := by
        refine later.move ?_
        rintro ⟨⟩
        exact same rfl
      rcases List.mem_cons.1 due with rfl | due'
      · exact absurd rfl same
      · exact ih waits due'

/-- A lookup that is due is over when it is waited for. -/
theorem Pending.runUntil (pending : Pending first id s) {moment : Instant}
    (due : s.due.lookup id = some moment) : Over first id (s.runUntil moment) := by
  have mem : (id, moment) ∈ (s.due.filter fun d => d.2 ≤ moment).mergeSort
      (fun a b => a.2 ≤ b.2) := by
    rw [List.mem_mergeSort, List.mem_filter]
    exact ⟨mem_of_lookup due, decide_eq_true (Nat.le_refl _)⟩
  have ended := pending.foldl (List.mem_map.2 ⟨_, mem, rfl⟩)
  exact ended.move nofun

/-- A lookup that is over is not due any more. -/
theorem lookup_due_complete {resolving : Resolving} {outcome : Outcome}
    (ends : s.resolving.step (.complete id) = some (resolving, .ended id outcome)) :
    (s.move (.complete id)).due.lookup id = none := by
  simp only [move, ends]
  exact (lookup_filter_ne _ _ _).trans (if_pos rfl)

/-- A lookup that has just begun reads the store. -/
theorem pending_of_begun (unread : s.resolving.resolver.lookups.lookup id = some ⟨key, none⟩) :
    Pending s.resolving id (s.move (.read id)) := by
  have reads := Resolving.step_read unread
  obtain ⟨same, -⟩ := move_of_step reads
  have found : (s.move (.read id)).resolving.resolver.lookups.lookup id =
      some ⟨key, some (s.resolving.store key)⟩ := by
    rw [same]
    exact lookup_replaced unread _
  exact ⟨same ▸ Leads.next .start reads, by simp, found⟩

theorem await_waiting (s : Stage) (id : LookupId) : (s.await (.waiting id)).2 =
    ((s.await (.waiting id)).1.ended.lookup id).getD .outOfRange := rfl

theorem Pending.await (pending : Pending first id s) {moment : Instant}
    (due : s.due.lookup id = some moment) : Over first id (s.await (.waiting id)).1 := by
  simp only [Stage.await, due]
  exact pending.runUntil due

/-- A call that begins a lookup reads the store, and the lookup is over when the call has been waited
    for. -/
theorem call_of_waiting {asked : Resolving}
    (step : s.resolving.step (.resolve key) = some (asked, .called key (.waiting id)))
    (unread : asked.resolver.lookups.lookup id = some ⟨key, none⟩) :
    ∃ s', s.call key = (s', .waiting id) ∧ Over asked id (s'.await (.waiting id)).1 := by
  let called : Stage := { s with resolving := asked }
  let read : Stage := called.move (.read id)
  have pending : Pending asked id read := pending_of_begun (s := called) unread
  simp only [call, step]
  split
  · refine ⟨read.move (.complete id), rfl, ?_⟩
    have ended := pending.complete
    obtain ⟨-, -, found⟩ := pending
    obtain ⟨_, ends, -⟩ := Resolving.step_complete found
    simp only [await, lookup_due_complete ends]
    exact ended
  · let waiting : Stage := { read with due := read.due ++ [(id, read.timer read.latency)] }
    have waits : Pending asked id waiting := by
      obtain ⟨leads, unended, found⟩ := pending
      exact ⟨leads, unended, found⟩
    obtain ⟨moment, due⟩ : ∃ moment, waiting.due.lookup id = some moment := by
      rw [← Option.isSome_iff_exists]
      simp [waiting, List.lookup_append]
    exact ⟨waiting, rfl, waits.await due⟩

/-- What a rehearsed call comes to: it is answered at once, or it begins a lookup and returns what
    this ends with. -/
theorem play_resolve (numbered : s.resolving.Numbered) (key : Key) :
    (∃ lane, (s.play (.resolve key)).2 = .outcome (.lane lane) ∧
      s.resolving.step (.resolve key) =
        some ((s.play (.resolve key)).1.resolving, .called key (.answered lane))) ∨
    ∃ asked id outcome, (s.play (.resolve key)).2 = .outcome outcome ∧
      s.resolving.step (.resolve key) = some (asked, .called key (.waiting id)) ∧
      Ends asked id outcome (s.play (.resolve key)).1.resolving := by
  rcases s.resolving.step_resolve key with ⟨lane, -, step⟩ | ⟨-, asked, step, -⟩
  · left
    have answered : s.call key = (s, .answered lane) := by
      simp only [call, step]
    simp only [play, answered]
    exact ⟨lane, rfl, step⟩
  · right
    have unread : asked.resolver.lookups.lookup s.resolving.resolver.queries =
        some ⟨key, none⟩ := by
      cases Resolving.change_of_step step with
      | begins =>
        refine (lookup_concat _ _ _ _).trans ?_
        rw [numbered _ (Nat.le_refl _), if_pos rfl]
        rfl
    obtain ⟨s', waits, @⟨outcome, ended, -, noted⟩⟩ := call_of_waiting step unread
    have returned : (s'.await (.waiting s.resolving.resolver.queries)).2 = outcome := by
      rw [await_waiting, noted]
      rfl
    simp only [play, waits, returned]
    exact ⟨asked, _, outcome, rfl, step, ended⟩

end Rehearsal.Stage

end Laneway.Binding
