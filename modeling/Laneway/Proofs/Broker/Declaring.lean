import Laneway.Proofs.Broker.Names
import Laneway.Proofs.Broker.Restoration

set_option autoImplicit false

/-! # Declaring the plan

Declarations are made one at a time, each once the one before it has succeeded: for a caller that
asks for them, and for a recovery. Either may stop anywhere, because a declaration fails, the session
is lost or the caller gives up. What a task has declared on a session by then are the first
declarations of the client's plan in their order, and an operation that reports success has declared
all of it. -/

namespace Laneway.Broker

/-- What a task has left to declare once its call has been answered, and on which session. -/
def Task.left? : Task → Option (SessionId × List Declaration)
  | .calling _ _ (.declared session rest) => some (session, rest)
  | .calling _ _ (.restored _ channel rest) => some (channel.session, rest)
  | _ => none

/-- The task may come to declare, or is about to. -/
def Task.concerned : Task → Bool
  | .begin _ | .calling _ (.declare _) _ | .calling _ _ (.limited _ _)
  | .calling _ _ (.declared _ _) | .calling _ _ (.restored _ _ _) => true
  | _ => false

theorem Task.concerned_of_left? {t : Task} {left : SessionId × List Declaration}
    (h : t.left? = some left) : t.concerned := by
  cases t with
  | calling session call after =>
    cases after with
    | declared | restored => cases call <;> rfl
    | _ => exact nomatch h
  | _ => exact nomatch h

/-- The declaration on a session that a task waits to be answered. -/
def Task.declaring? (n : SessionId) : Task → Option Declaration
  | .calling session (.declare step) _ => if session = n then some step else none
  | _ => none

theorem Task.exists_calling_of_declaring? {t : Task} {n : SessionId} {step : Declaration}
    (h : t.declaring? n = some step) : ∃ after, t = .calling n (.declare step) after := by
  unfold Task.declaring? at h
  split at h
  · next session made after =>
    split at h
    · next same =>
      cases h
      exact ⟨after, same ▸ rfl⟩
    · exact nomatch h
  · exact nomatch h

/-- The task is still to make its first declaration on the session. -/
def Task.Unbegun (n : SessionId) : Task → Prop
  | .begin _ => True
  | .calling session _ (.limited _ _) => session = n
  | _ => False

theorem Task.concerned_of_unbegun {t : Task} {n : SessionId} (h : t.Unbegun n) : t.concerned := by
  cases t with
  | begin => rfl
  | calling session call after =>
    cases after with
    | limited => cases call <;> rfl
    | _ => exact h.elim
  | _ => exact h.elim

/-- How far a task has come on a session when `made` is what it has declared there. -/
structure Progress (plan : List Declaration) (n : SessionId) (made : List Declaration) (t : Task) :
    Prop where
  left : ∀ rest, t.left? = some (n, rest) → made ++ rest = plan
  unbegun : t.Unbegun n → made = []

/-- The declaration that a task makes on a session in this moment. -/
def Moment.declares? (id : TaskId) (n : SessionId) (m : Moment) : Option Declaration :=
  match m.activity with
  | some activity =>
    if activity.id = id then activity.next.toOption.bind (Task.declaring? n) else none
  | none => none

/-- What a task has declared on a session, in this order. -/
def declaredBy (id : TaskId) (n : SessionId) (history : List Moment) : List Declaration :=
  history.filterMap (Moment.declares? id n)

/-- A caller has asked for the declarations, and the task `id` is to make them. -/
def Asked (history : List Moment) (id : TaskId) : Prop :=
  ∃ m ∈ history, m.move = .begin .declareTopology ∧ m.system.nextTask = id

/-! ## Steps that declare -/

namespace Client

variable {c : Client} {now : Duration} {id : TaskId}

/-- Where a task comes from that goes on as another, as far as declarations are concerned. -/
inductive Plans (c : Client) : Task → Signal → Task → Prop
  /-- It limits a session that has just been opened. -/
  | opens {owner : Owner} {restoring : Bool} {session : SessionId} {count : UInt16} :
      Plans c (.opening owner restoring) (.opened (.ok session))
        (.calling session (.prefetch count) (.limited owner restoring))
  /-- It makes the first declaration of the plan. -/
  | first {before : Task} {signal : Signal} {session : SessionId} {step : Declaration}
      {rest : List Declaration} {after : After} (plan : c.plan = step :: rest)
      (ready : before = .begin .declareTopology ∨
        ∃ call owner, before = .calling session call (.limited owner true))
      (left : (Task.calling session (.declare step) after).left? = some (session, rest)) :
      Plans c before signal (.calling session (.declare step) after)
  /-- It makes the next of the declarations left. -/
  | next {before : Task} {signal : Signal} {session : SessionId} {step : Declaration}
      {rest : List Declaration} {after : After} (due : before.left? = some (session, step :: rest))
      (left : (Task.calling session (.declare step) after).left? = some (session, rest)) :
      Plans c before signal (.calling session (.declare step) after)
  | other {before t : Task} {signal : Signal} (apart : t.concerned = false) : Plans c before signal t

/-- The step declares nothing, and leaves no task behind that might. -/
structure Unconcerned (reaction : Reaction) : Prop where
  next : ∀ t, reaction.next = .ok t → t.concerned = false
  started : ∀ t ∈ reaction.started, t.concerned = false

theorem unconcerned_wait {called : Client} {task : Task} (apart : task.concerned = false) :
    Unconcerned (called.wait task) :=
  ⟨fun _ ht => Except.ok.inj ht ▸ apart, fun _ ht => nomatch ht⟩

theorem unconcerned_stop {stopped : Client} (ending : Ending) :
    Unconcerned (stopped.stop ending) :=
  ⟨fun _ ht => (nomatch ht), fun _ ht => (nomatch ht)⟩

theorem Unconcerned.noting {reaction : Reaction} (h : Unconcerned reaction)
    (settlement : Settlement) : Unconcerned (reaction.noting settlement) :=
  ⟨h.next, h.started⟩

theorem Attends.unconcerned {delivery : DeliveryId} {reaction : Reaction}
    (h : Attends c delivery reaction) : Unconcerned reaction := by
  induction h with
  | stops => exact unconcerned_stop _
  | judging | sleeping | holding => exact unconcerned_wait rfl
  | publishing made =>
    obtain ⟨-, _, _, _, rfl⟩ := publishCall_makes made
    exact unconcerned_wait rfl
  | passed _ h teller =>
    obtain ⟨-, -, -, rfl⟩ := settleCall_eq_ok h
    refine (unconcerned_wait ?_).noting _
    rcases teller with rfl | ⟨next, rfl⟩ <;> rfl
  | refused _ _ _ ih => exact ih.noting _

theorem unconcerned_conclusion {owner : Owner} {result : Except Fault Unit} {t : Task}
    (ht : c.conclusion now owner result = .ok t) : t.concerned = false := by
  rw [(concludes_conclusion owner result).resting ht]
  rfl

/-- Every step of a task declares by the plan or not at all. -/
theorem plans_of_transition {before : Task} {signal : Signal} {reaction : Reaction}
    (h : Transition c now id before signal reaction) {t : Task} (ht : reaction.next = .ok t) :
    Plans c before signal t := by
  cases h with
  | limits =>
    cases ht
    exact .opens
  | restores plan =>
    cases ht
    exact .first plan (.inr ⟨_, _, rfl⟩) rfl
  | plans _ plan =>
    cases ht
    exact .first plan (.inl rfl) rfl
  | declares | continues =>
    cases ht
    exact .next rfl rfl
  | finds | unconfigured | unopened | installs | fails =>
    exact .other (unconcerned_conclusion ht)
  | publishes _ made =>
    obtain ⟨-, _, _, _, rfl⟩ := publishCall_makes made
    cases ht
    exact .other rfl
  | settles => exact .other ((attends_settle _ _).unconcerned.next t ht)
  | handles => exact .other ((attends_handle _ _).unconcerned.next t ht)
  | judges => exact .other ((attends_judge _ _).unconcerned.next t ht)
  | observes _ seen =>
    rcases seen with rfl | rfl
    · exact nomatch ht
    · cases ht
      exact .other rfl
  | queues | connects | reconnects | attaches | reattaches | closes | consumes | abandons
  | streams =>
    cases ht
    exact .other rfl
  | _ => exact nomatch ht

theorem concerned_of_started {before : Task} {signal : Signal} {reaction : Reaction}
    (h : Transition c now id before signal reaction) {t : Task} (ht : t ∈ reaction.started) :
    t.concerned = false := by
  cases h with
  | restores | reattaches | registers | streams =>
    rw [List.mem_singleton.1 ht]
    rfl
  | installs completes =>
    cases completes with
    | restored => exact nomatch ht
    | limited | attached =>
      rw [List.mem_singleton.1 ht]
      rfl
  | loses =>
    dsimp only at ht
    split at ht
    · exact nomatch ht
    · rw [List.mem_singleton.1 ht]
      rfl
  | settles => exact (attends_settle _ _).unconcerned.started t ht
  | handles => exact (attends_handle _ _).unconcerned.started t ht
  | judges => exact (attends_judge _ _).unconcerned.started t ht
  | observes _ seen => rcases seen with rfl | rfl <;> exact nomatch ht
  | _ => exact nomatch ht

theorem progress_of_not_concerned {plan made : List Declaration} {n : SessionId} {t : Task}
    (apart : t.concerned = false) : Progress plan n made t where
  left _ last := nomatch apart.symm.trans (Task.concerned_of_left? last)
  unbegun h := nomatch apart.symm.trans (Task.concerned_of_unbegun h)

/-- A declaration is made that comes next in the plan on its session. -/
theorem progress_of_declare {plan made rest : List Declaration} {n session : SessionId}
    {step : Declaration} {after : After} (first : made <+: plan)
    (due : session = n → made ++ step :: rest = plan)
    (last : (Task.calling session (.declare step) after).left? = some (session, rest)) :
    made ++ ((Task.calling session (.declare step) after).declaring? n).toList <+: plan ∧
      Progress plan n (made ++ ((Task.calling session (.declare step) after).declaring? n).toList)
        (.calling session (.declare step) after) := by
  refine ⟨?_, ?_, ?_⟩
  · by_cases same : session = n
    · rw [← due same]
      exact ⟨rest, by simp [Task.declaring?, same]⟩
    · simpa [Task.declaring?, same] using first
  · intro rest' left
    rw [last] at left
    cases left
    rw [← due rfl]
    simp [Task.declaring?]
  · intro unbegun
    cases after with
    | limited => exact nomatch last
    | _ => exact unbegun.elim

/-- What a task has declared stays the first part of the plan, and what it has left the rest. -/
theorem Plans.progress {before t : Task} {signal : Signal} (h : Plans c before signal t)
    {n : SessionId} {made plan : List Declaration} (planned : c.plan = plan)
    (first : made <+: plan) (progress : Progress plan n made before)
    (opened : signal = .opened (.ok n) → made = []) :
    made ++ (t.declaring? n).toList <+: plan ∧
      Progress plan n (made ++ (t.declaring? n).toList) t := by
  cases h with
  | opens =>
    refine ⟨by simpa [Task.declaring?] using first, nofun, ?_⟩
    rintro rfl
    simpa [Task.declaring?] using opened rfl
  | first steps ready last =>
    refine progress_of_declare first ?_ last
    rintro rfl
    have none : made = [] := by
      refine progress.unbegun ?_
      rcases ready with rfl | ⟨call, owner, rfl⟩
      · trivial
      · rfl
    rw [none, ← planned, steps]
    rfl
  | next due last =>
    refine progress_of_declare first ?_ last
    rintro rfl
    exact progress.left _ due
  | other apart =>
    have silent : t.declaring? n = none := by
      cases h : t.declaring? n with
      | none => rfl
      | some step =>
        obtain ⟨after, rfl⟩ := Task.exists_calling_of_declaring? h
        exact nomatch apart
    rw [silent, Option.toList_none, List.append_nil]
    exact ⟨first, progress_of_not_concerned apart⟩

/-- An operation that declares the plan is about to make its first declaration, or waits for the
    answer to one. -/
inductive Declares : Task → Prop
  | asked : Declares (.begin .declareTopology)
  | declared {n session : SessionId} {call : Call} {rest : List Declaration} :
      Declares (.calling n call (.declared session rest))

/-- Such an operation goes on with declarations until it fails or none is left. -/
theorem declares_of_transition {before : Task} {signal : Signal} {reaction : Reaction}
    (h : Transition c now id before signal reaction) (declares : Declares before) :
    (∀ t, reaction.next = .ok t → Declares t) ∧
      (reaction.next = .error (.answered (.ok ())) →
        ∃ n call session, before = .calling n call (.declared session [])) := by
  cases h with
  | plans | continues => exact ⟨fun t ht => Except.ok.inj ht ▸ .declared, nofun⟩
  | answers h =>
    refine ⟨fun _ ht => (nomatch ht), fun ended => ?_⟩
    cases h with
    | declared => exact ⟨_, _, _, rfl⟩
    | detached | undeclared => exact nomatch ended
    | unpublished | unconsumed | passed => exact nomatch declares
  | finds takes | unconfigured takes | connects takes | reconnects takes =>
    cases takes <;> exact nomatch declares
  | queues queues => cases queues <;> exact nomatch declares
  | installs completes => cases completes <;> exact nomatch declares
  | abandons restores => cases restores <;> exact nomatch declares
  | observes waits => rcases waits with rfl | rfl <;> exact nomatch declares
  | handles goesOn => cases goesOn <;> exact nomatch declares
  | _ => exact nomatch declares

end Client

/-! ## What is declared along a run -/

section Append

variable {id : TaskId} {n : SessionId} {history : List Moment} {m : Moment}

theorem declaredBy_concat :
    declaredBy id n (history ++ [m]) = declaredBy id n history ++ (m.declares? id n).toList := by
  rw [declaredBy, List.filterMap_append]
  cases h : m.declares? id n <;> simp [declaredBy, h]

theorem declares?_of_activity {activity : Activity} (did : m.activity = some activity) :
    m.declares? id n =
      if activity.id = id then activity.next.toOption.bind (Task.declaring? n) else none := by
  rw [Moment.declares?, did]

theorem call?_of_declares? {step : Declaration} (h : m.declares? id n = some step) :
    m.call? n = some (.declare step) := by
  unfold Moment.declares? at h
  split at h
  · next activity did =>
    split at h
    · obtain ⟨t, goesOn, declares⟩ := Option.bind_eq_some_iff.1 h
      obtain ⟨after, rfl⟩ := Task.exists_calling_of_declaring? declares
      refine call?_eq_some_iff.2 ⟨activity, after, did, ?_⟩
      cases next : activity.next with
      | error =>
        rw [next] at goesOn
        exact nomatch goesOn
      | ok =>
        rw [next] at goesOn
        cases goesOn
        rfl
    · exact nomatch h
  · exact nomatch h

/-- Without a call on the session nothing has been declared on it. -/
theorem declaredBy_eq_nil (uncalled : calls n history = []) : declaredBy id n history = [] := by
  rw [declaredBy, List.filterMap_eq_nil_iff]
  intro m hm
  cases h : m.declares? id n with
  | none => rfl
  | some step =>
    have silent := List.filterMap_eq_nil_iff.1 uncalled m hm
    exact nomatch silent.symm.trans (call?_of_declares? h)

end Append

/-- Nothing is called on a session before it is opened. -/
theorem Run.calls_eq_nil {settings : Settings} {history : List Moment} {s : System}
    (run : Run settings history s) {n : SessionId} (unopened : s.sessions < n) :
    calls n history = [] := by
  rcases beforeInstall_cases n history with whole | ⟨m, later, parts, installed⟩
  · have prepared := run.prepared n (whole ▸ uninstalled_beforeInstall n history)
    exact (prepared.underway.unopened fun opened => Nat.not_lt_of_le opened.2 unopened).1
  · have run₁ := (parts ▸ run).split.1
    have prepared := run₁.prepared n (uninstalled_beforeInstall n history)
    have known := (prepared.underway.installed installed).1.2
    have mem : m ∈ history := parts ▸ List.mem_append_right _ List.mem_cons_self
    exact absurd unopened (Nat.not_lt_of_le (Nat.le_trans known (run.sessions_le m mem).1))

/-- A session that answers an attempt has just been opened. -/
theorem System.Readies.unopened {s ready : System} {move : Move} {id : TaskId} {task : Task}
    {n : SessionId} (h : s.Readies move id task (.opened (.ok n)) ready) : s.sessions < n := by
  cases h with
  | resume found admitted => cases task <;> exact nomatch admitted
  | connect => exact Nat.lt_succ_self _

theorem Run.plan_eq {settings : Settings} {history : List Moment} {s : System}
    (run : Run settings history s) : s.client.plan = plan settings.lane settings.queues := by
  rw [Client.plan, Client.lane, run.settings, plan_normalize]

/-- Where the task `id` is with its declarations on a session. -/
structure Planned (plan : List Declaration) (history : List Moment) (s : System) (id : TaskId)
    (n : SessionId) : Prop where
  first : declaredBy id n history <+: plan
  unborn : s.nextTask ≤ id → declaredBy id n history = []
  progress : ∀ t, s.task? id = some t → Progress plan n (declaredBy id n history) t

section Step

variable {settings : Settings} {history : List Moment} {s s' ready : System} {move : Move}
  {id other : TaskId} {task : Task} {signal : Signal} {n : SessionId}

theorem Planned.drift (planned : Planned (plan settings.lane settings.queues) history s id n)
    (numbered : s.Numbered) (drift : s.Drifts move s') :
    Planned (plan settings.lane settings.queues) (history ++ [⟨s, move, none⟩]) s' id n := by
  have same : declaredBy id n (history ++ [⟨s, move, none⟩]) = declaredBy id n history :=
    declaredBy_concat.trans (List.append_nil _)
  refine ⟨same ▸ planned.first, fun later => same ▸ planned.unborn ?_, fun t ht => same ▸ ?_⟩
  · cases drift with
    | begin => exact Nat.le_of_succ_le later
    | _ => exact later
  · rcases drift.origin numbered ht with old | ⟨rfl, operation, -, rfl⟩
    · exact planned.progress t old
    · exact ⟨nofun, fun _ => planned.unborn (Nat.le_refl _)⟩

/-- A step of another task leaves a task where it is. -/
theorem Planned.absorb_of_ne (planned : Planned (plan settings.lane settings.queues) history s id n)
    (numbered : s.Numbered) (h : s.Readies move other task signal ready) (ne : other ≠ id) :
    Planned (plan settings.lane settings.queues)
      (history ++ [⟨s, move, some (ready.activity other task signal)⟩])
      (ready.absorb other (ready.client.resume ready.now other task signal)) id n := by
  have silent : Moment.declares? id n ⟨s, move, some (ready.activity other task signal)⟩ = none := by
    rw [declares?_of_activity rfl]
    exact if_neg ne
  have same : declaredBy id n (history ++ [⟨s, move, some (ready.activity other task signal)⟩]) =
      declaredBy id n history := by
    rw [declaredBy_concat, silent, Option.toList_none, List.append_nil]
  refine ⟨same ▸ planned.first, fun le => same ▸ planned.unborn ?_, fun t ht => same ▸ ?_⟩
  · exact h.nextTask ▸ Nat.le_trans (Nat.le_add_right _ _) le
  · rcases (h.follows numbered _).origin id t ht with ⟨-, old⟩ | ⟨rfl, -⟩ | ⟨k, -, starts⟩
    · exact planned.progress t old
    · exact absurd rfl ne
    · exact Client.progress_of_not_concerned (Client.concerned_of_started
        (Client.transition_of_readies h) (List.mem_of_getElem? starts))

/-- The task makes its next declaration where the ones before it end in the plan. -/
theorem Planned.absorb (planned : Planned (plan settings.lane settings.queues) history s id n)
    (run : Run settings history s) (h : s.Readies move id task signal ready) :
    Planned (plan settings.lane settings.queues)
      (history ++ [⟨s, move, some (ready.activity id task signal)⟩])
      (ready.absorb id (ready.client.resume ready.now id task signal)) id n := by
  have transition := Client.transition_of_readies h
  have agreed : ready.client.plan = plan settings.lane settings.queues := by
    rw [Client.plan, Client.lane, h.client]
    exact run.plan_eq
  have opened : signal = .opened (.ok n) → declaredBy id n history = [] := by
    rintro rfl
    exact declaredBy_eq_nil (run.calls_eq_nil h.unopened)
  have started : ∀ made t, t ∈ (ready.client.resume ready.now id task signal).started →
      Progress (plan settings.lane settings.queues) n made t := fun made t starts =>
    Client.progress_of_not_concerned (Client.concerned_of_started transition starts)
  have declares : Moment.declares? id n ⟨s, move, some (ready.activity id task signal)⟩ =
      (ready.client.resume ready.now id task signal).next.toOption.bind (Task.declaring? n) := by
    rw [declares?_of_activity rfl]
    exact if_pos rfl
  have born : ¬ (ready.absorb id (ready.client.resume ready.now id task signal)).nextTask ≤ id := by
    refine Nat.not_le_of_lt (Nat.lt_of_lt_of_le (run.numbered.lt h.found) ?_)
    exact h.nextTask ▸ Nat.le_add_right _ _
  have origin := (h.follows run.numbered (ready.client.resume ready.now id task signal)).origin id
  cases next : (ready.client.resume ready.now id task signal).next with
  | error ending =>
    have same : declaredBy id n (history ++ [⟨s, move, some (ready.activity id task signal)⟩]) =
        declaredBy id n history := by
      rw [declaredBy_concat, declares, next]
      exact List.append_nil _
    refine ⟨same ▸ planned.first, fun le => absurd le born, fun t ht => ?_⟩
    rcases origin t ht with ⟨ne, -⟩ | ⟨-, goesOn⟩ | ⟨k, -, starts⟩
    · exact absurd rfl ne
    · cases next.symm.trans goesOn
    · exact started _ t (List.mem_of_getElem? starts)
  | ok t =>
    have more : declaredBy id n (history ++ [⟨s, move, some (ready.activity id task signal)⟩]) =
        declaredBy id n history ++ (t.declaring? n).toList := by
      rw [declaredBy_concat, declares, next]
      rfl
    obtain ⟨first, progress⟩ := (Client.plans_of_transition transition next).progress agreed
      planned.first (planned.progress task h.found) opened
    refine ⟨more ▸ first, fun le => absurd le born, fun t' ht => ?_⟩
    rcases origin t' ht with ⟨ne, -⟩ | ⟨-, goesOn⟩ | ⟨k, -, starts⟩
    · exact absurd rfl ne
    · cases next.symm.trans goesOn
      exact more ▸ progress
    · exact started _ t' (List.mem_of_getElem? starts)

end Step

/-- Along every run each task declares on each session by the plan. -/
theorem Run.planned {settings : Settings} {history : List Moment} {s : System}
    (run : Run settings history s) (id : TaskId) (n : SessionId) :
    Planned (plan settings.lane settings.queues) history s id n := by
  induction run with
  | start => exact ⟨List.nil_prefix, fun _ => rfl, fun _ ht => (nomatch ht)⟩
  | next run step ih =>
    rcases System.step_cases step with ⟨rfl, drift⟩ | ⟨other, task, signal, ready, h, rfl, rfl⟩
    · exact ih.drift run.numbered drift
    · by_cases same : other = id
      · subst same
        exact ih.absorb run h
      · exact ih.absorb_of_ne run.numbered h same

/-- An operation that a caller asked to declare the plan is at nothing else. -/
theorem Run.declares_of_asked {settings : Settings} {history : List Moment} {s : System}
    (run : Run settings history s) {id : TaskId} (asked : Asked history id) :
    id < s.nextTask ∧ ∀ t, s.task? id = some t → Client.Declares t := by
  induction run with
  | start =>
    obtain ⟨m, hm, -⟩ := asked
    exact nomatch hm
  | @next history s s' move activity run step ih =>
    obtain ⟨m, hm, begins, here⟩ := asked
    rcases List.mem_append.1 hm with old | new
    · obtain ⟨lt, declares⟩ := ih ⟨m, old, begins, here⟩
      rcases System.step_cases step with ⟨rfl, drift⟩ | ⟨other, task, signal, ready, h, rfl, rfl⟩
      · refine ⟨?_, fun t ht => ?_⟩
        · cases drift with
          | begin => exact Nat.lt_succ_of_lt lt
          | _ => exact lt
        · rcases drift.origin run.numbered ht with old | ⟨rfl, -⟩
          · exact declares t old
          · exact absurd lt (Nat.lt_irrefl _)
      · refine ⟨Nat.lt_of_lt_of_le lt (h.nextTask ▸ Nat.le_add_right _ _), fun t ht => ?_⟩
        rcases (h.follows run.numbered _).origin id t ht with
          ⟨-, old⟩ | ⟨rfl, goesOn⟩ | ⟨k, rfl, -⟩
        · exact declares t old
        · exact (Client.declares_of_transition (Client.transition_of_readies h)
            (declares task h.found)).1 t goesOn
        · exact absurd lt (Nat.not_lt_of_le (Nat.le_add_right _ _))
    · cases List.mem_singleton.1 new
      cases begins
      cases here
      rcases System.step_cases step with ⟨rfl, drift⟩ | ⟨other, task, signal, ready, h, rfl, rfl⟩
      · cases drift with
        | begin =>
          refine ⟨Nat.lt_succ_self _, fun t ht => ?_⟩
          rw [System.task?_start run.numbered, if_pos rfl] at ht
          cases ht
          exact .asked
      · exact nomatch h

/-- An operation that reports success has declared the whole plan on one session. -/
theorem Run.declaredBy_of_answered {settings : Settings} {earlier later : List Moment} {m : Moment}
    {s : System} (run : Run settings (earlier ++ m :: later) s) {activity : Activity}
    (did : m.activity = some activity) (asked : Asked earlier activity.id)
    (ended : activity.next = .error (.answered (.ok ()))) :
    ∃ n, declaredBy activity.id n earlier = plan settings.lane settings.queues := by
  obtain ⟨before, s', step⟩ := run.split
  rcases System.step_cases step with ⟨none, -⟩ | ⟨id, task, signal, ready, h, -, acts⟩
  · exact nomatch did.symm.trans none
  · cases did.symm.trans acts
    obtain ⟨-, declares⟩ := before.declares_of_asked asked
    obtain ⟨n, call, session, rfl⟩ := (Client.declares_of_transition
      (Client.transition_of_readies h) (declares task h.found)).2 ended
    have done := ((before.planned id session).progress _ h.found).left [] rfl
    exact ⟨session, by rwa [List.append_nil] at done⟩

end Laneway.Broker
