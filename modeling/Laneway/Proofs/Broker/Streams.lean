import Mathlib.Algebra.Order.Group.Multiset
import Mathlib.Tactic.Abel
import Laneway.Proofs.Broker.Queue

set_option autoImplicit false

/-! # Streams begin and end

A consumer is attached to a session when a step starts the task that streams from it. From then on
the task goes on as it is until the stream ends, whatever else happens: the consumers that stream from
a session and those whose streams have ended are, each as often, the ones attached to it. -/

namespace Laneway.Broker

/-! ## What a history says about streams -/

/-- The consumer that streams from the session. -/
def Task.consumer? (n : SessionId) : Task → Option Registration
  | .streaming session registration => if session = n then some registration else none
  | _ => none

/-- The consumers that stream from the session. -/
def System.consumers (s : System) (n : SessionId) : List Registration :=
  s.tasks.filterMap fun entry => entry.2.consumer? n

namespace Moment

/-- The consumers attached to the session in the moment. -/
def attaches (n : SessionId) (m : Moment) : List Registration :=
  (m.activity.map Activity.started |>.getD []).filterMap fun entry => entry.2.consumer? n

/-- The consumer of the session whose stream ends in the moment. -/
def ends? (n : SessionId) (m : Moment) : Option Registration :=
  m.activity.bind fun activity => match activity.next with
    | .error _ => activity.before.consumer? n
    | .ok _ => none

end Moment

/-- The consumers attached to the session so far. -/
def attached (n : SessionId) (history : List Moment) : List Registration :=
  history.flatMap (Moment.attaches n)

/-- The consumers of the session whose streams have ended. -/
def ended (n : SessionId) (history : List Moment) : List Registration :=
  history.filterMap (Moment.ends? n)

section Concat

variable {n : SessionId} {history : List Moment} {m : Moment}

theorem filterMap_concat {α β : Type} (f : α → Option β) (l : List α) (a : α) :
    (l ++ [a]).filterMap f = l.filterMap f ++ (f a).toList := by
  cases h : f a <;> simp [h]

theorem attached_concat : attached n (history ++ [m]) = attached n history ++ m.attaches n := by
  simp [attached]

theorem ended_concat : ended n (history ++ [m]) = ended n history ++ (m.ends? n).toList :=
  filterMap_concat _ _ _

end Concat

/-! ## Tasks that stream -/

theorem Task.consumer?_of_streams? {t : Task} {n : SessionId} (h : t.streams? ≠ some n) :
    t.consumer? n = none := by
  cases t with
  | streaming session registration => exact if_neg fun same => h (congrArg some same)
  | _ => rfl

theorem Task.streams?_of_isOperation {t : Task} (h : t.isOperation) : t.streams? = none := by
  cases t with
  | streaming => exact nomatch h
  | _ => rfl

namespace Client

variable {c : Client} {now : Duration} {id : TaskId} {before : Task} {signal : Signal}
  {reaction : Reaction}

theorem streams?_conclusion {owner : Owner} {result : Except Fault Unit} {t : Task}
    (ht : c.conclusion now owner result = .ok t) : t.streams? = none := by
  rw [(concludes_conclusion owner result).resting ht]
  rfl

/-- A stream goes on as the same stream, and nothing else goes on as a stream. -/
theorem Transition.streams? (h : Transition c now id before signal reaction) {t : Task}
    (ht : reaction.next = .ok t) : t = before ∨ t.streams? = none ∧ before.streams? = none := by
  cases h with
  | streams =>
    cases ht
    exact .inl rfl
  | finds takes | unconfigured takes =>
    refine .inr ⟨streams?_conclusion ht, ?_⟩
    cases takes <;> rfl
  | installs completes =>
    refine .inr ⟨streams?_conclusion ht, ?_⟩
    cases completes <;> rfl
  | unopened | fails => exact .inr ⟨streams?_conclusion ht, rfl⟩
  | connects takes | reconnects takes =>
    cases ht
    refine .inr ⟨rfl, ?_⟩
    cases takes <;> rfl
  | queues queues =>
    cases ht
    refine .inr ⟨rfl, ?_⟩
    cases queues <;> rfl
  | settles => exact .inr ⟨((attends_settle _ _).aside.next t ht).2.2, rfl⟩
  | judges => exact .inr ⟨((attends_judge _ _).aside.next t ht).2.2, rfl⟩
  | handles goesOn =>
    refine .inr ⟨((attends_handle _ _).aside.next t ht).2.2, ?_⟩
    cases goesOn <;> rfl
  | observes waits seen =>
    rcases seen with rfl | rfl
    · exact nomatch ht
    · cases ht
      refine .inr ⟨rfl, ?_⟩
      rcases waits with rfl | rfl <;> rfl
  | limits | restores | declares | attaches | reattaches | abandons | closes | plans | continues |
    publishes | consumes =>
    cases ht
    exact .inr ⟨rfl, rfl⟩
  | _ => exact nomatch ht

end Client

/-! ## Tasks by number, counted -/

namespace System

theorem map_fst_number (tasks : List Task) (next : TaskId) :
    (number next tasks).map Prod.fst = List.range' next tasks.length := by
  induction tasks generalizing next with
  | nil => rfl
  | cons task rest ih => rw [number, List.map_cons, ih, List.length_cons, List.range'_succ]

theorem filterMap_number {α : Type} (f : Task → Option α) (tasks : List Task) (next : TaskId) :
    (number next tasks).filterMap (fun entry => f entry.2) = tasks.filterMap f := by
  induction tasks generalizing next with
  | nil => rfl
  | cons task rest ih => simp only [number, List.filterMap_cons, ih]

theorem Readies.tasks {s ready : System} {move : Move} {id : TaskId} {task : Task}
    {signal : Signal} (h : s.Readies move id task signal ready) : ready.tasks = s.tasks := by
  cases h <;> rfl

theorem Numbered.lt_of_mem {s : System} (numbered : s.Numbered) {id : TaskId}
    (mem : id ∈ s.tasks.map Prod.fst) : id < s.nextTask := by
  refine Nat.lt_of_not_le fun le => ?_
  obtain ⟨entry, hentry, rfl⟩ := List.mem_map.1 mem
  have absent := List.lookup_eq_none_iff.1 (numbered entry.1 le) entry hentry
  simp at absent

theorem map_fst_replace (tasks : List (TaskId × Task)) (id : TaskId) (next : Except Ending Task) :
    ((replace tasks id next).map Prod.fst).Sublist (tasks.map Prod.fst) := by
  cases next with
  | error ending => exact List.filter_sublist.map _
  | ok task =>
    have same : (replace tasks id (.ok task)).map Prod.fst = tasks.map Prod.fst := by
      rw [replace, List.map_map]
      refine List.map_congr_left ?_
      intro entry _
      by_cases here : entry.1 = id <;> simp [here]
    rw [same]

theorem replace_of_notMem {tasks : List (TaskId × Task)} {id : TaskId}
    (absent : id ∉ tasks.map Prod.fst) (next : Except Ending Task) :
    replace tasks id next = tasks := by
  have other : ∀ entry ∈ tasks, entry.1 ≠ id := by
    rintro entry mem rfl
    exact absent (List.mem_map_of_mem mem)
  cases next with
  | error ending => exact List.filter_eq_self.2 fun entry mem => decide_eq_true (other entry mem)
  | ok task =>
    refine (List.map_congr_left ?_).trans (List.map_id tasks)
    intro entry mem
    exact if_neg (other entry mem)

theorem replace_append (one two : List (TaskId × Task)) (id : TaskId) (next : Except Ending Task) :
    replace (one ++ two) id next = replace one id next ++ replace two id next := by
  cases next with
  | error ending => exact List.filter_append ..
  | ok task => exact List.map_append ..

/-- What is counted over all tasks changes by what counts for the one that goes on. -/
theorem filterMap_replace {α : Type} (f : Task → Option α) {tasks : List (TaskId × Task)}
    (distinct : (tasks.map Prod.fst).Nodup) {id : TaskId} {before : Task}
    (found : tasks.lookup id = some before) (next : Except Ending Task) :
    ((replace tasks id next).filterMap (fun entry => f entry.2) ++ (f before).toList).Perm
      (tasks.filterMap (fun entry => f entry.2) ++ (next.toOption.bind f).toList) := by
  obtain ⟨one, two, rfl, -⟩ := List.lookup_eq_some_iff.1 found
  rw [List.map_append, List.map_cons, List.nodup_append, List.nodup_cons] at distinct
  obtain ⟨-, ⟨absent₂, -⟩, apart⟩ := distinct
  have absent₁ : id ∉ one.map Prod.fst := fun mem => apart id mem id List.mem_cons_self rfl
  have split : replace (one ++ (id, before) :: two) id next =
      one ++ (next.toOption.toList.map fun task => (id, task)) ++ two := by
    rw [← List.singleton_append, ← List.append_assoc, replace_append, replace_append,
      replace_of_notMem absent₁, replace_of_notMem absent₂]
    cases next <;> simp [replace, Except.toOption]
  have own : (next.toOption.toList.map fun task => (id, task)).filterMap (fun entry => f entry.2) =
      (next.toOption.bind f).toList := by
    cases next with
    | error ending => rfl
    | ok task => cases h : f task <;> simp [Except.toOption, h]
  have here : ((id, before) :: two).filterMap (fun entry => f entry.2) =
      (f before).toList ++ two.filterMap fun entry => f entry.2 := by
    cases h : f before <;> simp [h]
  rw [split, List.filterMap_append, List.filterMap_append, List.filterMap_append, own, here,
    ← Multiset.coe_eq_coe]
  simp only [← Multiset.coe_add]
  abel

end System

/-- Every task stands once in the list of tasks. -/
theorem Run.distinct {settings : Settings} {history : List Moment} {s : System}
    (run : Run settings history s) : (s.tasks.map Prod.fst).Nodup := by
  induction run with
  | start => exact List.nodup_nil
  | @next history s s' move activity run step ih =>
    have fresh : ∀ tasks : List Task, ∀ old ∈ s.tasks.map Prod.fst,
        ∀ new ∈ (System.number s.nextTask tasks).map Prod.fst, old ≠ new := by
      intro tasks old hold new hnew
      rw [System.map_fst_number] at hnew
      exact Nat.ne_of_lt (Nat.lt_of_lt_of_le (run.numbered.lt_of_mem hold) (List.mem_range'_1.1 hnew).1)
    have numbers : ∀ tasks : List Task, ((System.number s.nextTask tasks).map Prod.fst).Nodup := by
      intro tasks
      rw [System.map_fst_number]
      exact List.nodup_range'
    rcases System.step_cases step with ⟨-, drift⟩ | ⟨id, task, signal, ready, h, rfl, -⟩
    · cases drift with
      | begin operation =>
        show ((s.tasks ++ System.number s.nextTask _).map Prod.fst).Nodup
        rw [List.map_append]
        exact List.nodup_append.2 ⟨ih, numbers _, fresh _⟩
      | cancel => exact (List.filter_sublist.map _).nodup ih
      | forge | lose | pass => exact ih
    · show ((System.replace ready.tasks id _ ++ System.number ready.nextTask _).map Prod.fst).Nodup
      rw [h.tasks, h.nextTask, List.map_append]
      have kept := System.map_fst_replace s.tasks id
        (ready.client.resume ready.now id task signal).next
      exact List.nodup_append.2 ⟨kept.nodup ih, numbers _, fun old hold => fresh _ old (kept.subset hold)⟩

/-! ## Streams begin and end -/

section Streams

variable {settings : Settings} {history : List Moment} {s s' ready : System} {move : Move}
  {id : TaskId} {task : Task} {signal : Signal} {n : SessionId}

theorem attaches_activity : Moment.attaches n ⟨s, move, some (ready.activity id task signal)⟩ =
    (ready.client.resume ready.now id task signal).started.filterMap (Task.consumer? n) :=
  System.filterMap_number _ _ _

theorem consumers_drift (run : Run settings history s) (drift : s.Drifts move s') :
    (s'.consumers n).Perm (s.consumers n) := by
  cases drift with
  | begin operation =>
    refine .of_eq ?_
    show (s.tasks ++ System.number s.nextTask [.begin operation]).filterMap _ = _
    simp [System.number, Task.consumer?, System.consumers]
  | @cancel id task found operation =>
    have quiet : task.consumer? n = none := by
      refine Task.consumer?_of_streams? ?_
      rw [Task.streams?_of_isOperation operation]
      exact (Option.some_ne_none n).symm
    have counted := System.filterMap_replace (Task.consumer? n) run.distinct found (.error .quiet)
    rw [quiet, Option.toList_none, List.append_nil] at counted
    exact counted.trans (.of_eq (List.append_nil _))
  | forge | lose | pass => exact .refl _

/-- The streams that begin and end with a step. -/
theorem consumers_absorb (run : Run settings history s) (h : s.Readies move id task signal ready) :
    ((ready.absorb id (ready.client.resume ready.now id task signal)).consumers n ++
        (Moment.ends? n ⟨s, move, some (ready.activity id task signal)⟩).toList).Perm
      (s.consumers n ++ Moment.attaches n ⟨s, move, some (ready.activity id task signal)⟩) := by
  have transition := Client.transition_of_readies h
  have counted := System.filterMap_replace (Task.consumer? n) run.distinct h.found
    (ready.client.resume ready.now id task signal).next
  have split : (ready.absorb id (ready.client.resume ready.now id task signal)).consumers n =
      (System.replace s.tasks id (ready.client.resume ready.now id task signal).next).filterMap
          (fun entry => entry.2.consumer? n) ++
        Moment.attaches n ⟨s, move, some (ready.activity id task signal)⟩ := by
    rw [attaches_activity, ← System.filterMap_number _ _ ready.nextTask, ← h.tasks]
    exact List.filterMap_append ..
  have ends : Moment.ends? n ⟨s, move, some (ready.activity id task signal)⟩ =
      match (ready.client.resume ready.now id task signal).next with
      | .error _ => task.consumer? n
      | .ok _ => none := rfl
  have kept : (System.replace s.tasks id
        (ready.client.resume ready.now id task signal).next).filterMap
          (fun entry => entry.2.consumer? n) ++
        (Moment.ends? n ⟨s, move, some (ready.activity id task signal)⟩).toList |>.Perm
      (s.consumers n) := by
    rw [ends]
    cases hnext : (ready.client.resume ready.now id task signal).next with
    | error ending =>
      rw [hnext] at counted
      exact counted.trans (.of_eq (List.append_nil _))
    | ok t =>
      have same : t.consumer? n = task.consumer? n := by
        rcases transition.streams? hnext with rfl | ⟨after, before⟩
        · rfl
        · rw [Task.consumer?_of_streams? (after ▸ nofun), Task.consumer?_of_streams? (before ▸ nofun)]
      rw [hnext] at counted
      change (_ ++ (task.consumer? n).toList).Perm (_ ++ (t.consumer? n).toList) at counted
      rw [same, List.perm_append_right_iff] at counted
      exact (List.Perm.of_eq (List.append_nil _)).trans counted
  rw [split]
  rw [← Multiset.coe_eq_coe] at kept ⊢
  simp only [← Multiset.coe_add] at kept ⊢
  rw [← kept]
  abel

end Streams

/-- Every consumer that was attached to a session streams from it, or its stream has ended. -/
theorem Run.streaming {settings : Settings} {history : List Moment} {s : System}
    (run : Run settings history s) (n : SessionId) :
    (s.consumers n ++ ended n history).Perm (attached n history) := by
  induction run with
  | start => exact .refl _
  | @next history s s' move activity run step ih =>
    rw [attached_concat, ended_concat]
    rcases System.step_cases step with ⟨rfl, drift⟩ | ⟨id, task, signal, ready, h, rfl, rfl⟩
    · have same := (consumers_drift (n := n) run drift).append_right (ended n history)
      have silent : ended n history ++ (Moment.ends? n ⟨s, move, none⟩).toList = ended n history :=
        List.append_nil _
      have none : attached n history ++ Moment.attaches n ⟨s, move, none⟩ = attached n history :=
        List.append_nil _
      rw [silent, none]
      exact same.trans ih
    · have counted := consumers_absorb (n := n) run h
      rw [← Multiset.coe_eq_coe] at ih counted ⊢
      simp only [← Multiset.coe_add] at ih counted ⊢
      rw [← ih, add_right_comm, ← counted]
      abel

end Laneway.Broker
