import Laneway.Proofs.Broker.Handling

set_option autoImplicit false

/-! # Deliveries are settled once

A delivery taken from a stream goes to its handler once and is settled once, on the session it
arrived on, whoever settles it and whatever becomes of the connection meanwhile. The call that is
passed on is the first that is performed: the one that a caller or the handler asked for, and if
nobody did, the one that the outcome of the handler calls for. All of this is kept by every move; that
it happens at last is shown for handlers that do not wait forever. -/

namespace Laneway.Broker

/-! ## Deliveries that have arrived -/

/-- What a history says about the settle calls on a delivery, by its mark: none yet, or one that was
    passed on to the session and others after it that were refused. -/
inductive Accounts (history : List Moment) (delivery : DeliveryId) (session : SessionId)
    (tag : Nat) : (settled : Bool) → Prop
  | unsettled (none : settlements delivery history = [])
      (quiet : settleCalls delivery history = []) : Accounts history delivery session tag false
  | settled (verdict : Verdict) (rest : List Settlement)
      (first : settlements delivery history = ⟨delivery, verdict, .ok session⟩ :: rest)
      (refused : ∀ x ∈ rest, x.result = .error (.alreadySettled tag))
      (called : settleCalls delivery history = [(session, tag, verdict)]) :
      Accounts history delivery session tag true

/-- A delivery that was taken for a handler has been handed to it, or its task has yet to do so. -/
inductive Begun (history : List Moment) (s : System) (delivery : DeliveryId)
    (handler : Delivery → Handler) : Prop
  | waiting {id : TaskId} (task : s.task? id = some (.invoking delivery handler))
      (none : invocations delivery history = [])
  | invoked (gone : ∀ id h, s.task? id ≠ some (.invoking delivery h))
      (once : invocations delivery history = [handler])

/-- What is true of a delivery from the moment on in which it was taken from a stream. -/
structure Tracked (history : List Moment) (s : System) (delivery : DeliveryId) (held : Held)
    (session : SessionId) (handler : Delivery → Handler) : Prop where
  found : s.client.deliveries[delivery]? = some held
  bound : held.delivery.session = some session
  accounts : Accounts history delivery session held.delivery.tag held.settled
  begun : Begun history s delivery handler
  /-- One task at most handles the delivery. -/
  one : ∀ id other t u, s.task? id = some t → s.task? other = some u →
    t.dispatch? = some delivery → u.dispatch? = some delivery → id = other
  /-- There is such a task as long as the delivery has not been settled. -/
  alive : held.settled = true ∨ ∃ id t, s.task? id = some t ∧ t.dispatch? = some delivery
  /-- It has come to where the handler has, as far as the history goes. -/
  conduct : ∃ waits, Conducts delivery held.delivery handler (handling delivery history) waits ∧
    ∀ id t, s.task? id = some t → t.dispatch? = some delivery → waits = some t
  decided : ∀ first rest, settlements delivery history = first :: rest →
    Decided delivery held.delivery handler history first.verdict

section Accounts

variable {history : List Moment} {m : Moment} {delivery : DeliveryId} {session : SessionId}
  {tag : Nat} {settled : Bool}

/-- A moment that performs no settle call on the delivery changes nothing. -/
theorem Accounts.quiet (accounts : Accounts history delivery session tag settled)
    (none : m.settlements delivery = []) (no_call : m.settleCall? delivery = .none) :
    Accounts (history ++ [m]) delivery session tag settled := by
  have same : settlements delivery (history ++ [m]) = settlements delivery history := by
    rw [settlements_append, none, List.append_nil]
  have same_calls : settleCalls delivery (history ++ [m]) = settleCalls delivery history := by
    rw [settleCalls_append, no_call]
    exact List.append_nil _
  cases accounts with
  | unsettled none quiet => exact .unsettled (same.trans none) (same_calls.trans quiet)
  | settled verdict rest first refused called =>
    exact .settled verdict rest (same.trans first) refused (same_calls.trans called)

/-- Settle calls that are refused come after the one that was passed on. -/
theorem Accounts.refusing (accounts : Accounts history delivery session tag true)
    (all : ∀ x ∈ m.settlements delivery, x.result = .error (.alreadySettled tag))
    (no_call : m.settleCall? delivery = .none) :
    Accounts (history ++ [m]) delivery session tag true := by
  cases accounts with
  | settled verdict rest first refused called =>
    refine .settled verdict (rest ++ m.settlements delivery) ?_ ?_ ?_
    · rw [settlements_append, first, List.cons_append]
    · intro x hx
      rcases List.mem_append.1 hx with old | new
      · exact refused x old
      · exact all x new
    · rw [settleCalls_append, no_call, called]
      rfl

/-- The first settle call is passed on. -/
theorem Accounts.passing (accounts : Accounts history delivery session tag false)
    {verdict : Verdict} (one : m.settlements delivery = [⟨delivery, verdict, .ok session⟩])
    (call : m.settleCall? delivery = some (session, tag, verdict)) :
    Accounts (history ++ [m]) delivery session tag true := by
  cases accounts with
  | unsettled none quiet =>
    refine .settled verdict [] ?_ (fun x hx => nomatch hx) ?_
    · rw [settlements_append, none, one]
      rfl
    · rw [settleCalls_append, quiet, call]
      rfl

end Accounts

namespace Tracked

variable {history : List Moment} {s ready : System} {delivery : DeliveryId} {held : Held}
  {session : SessionId} {handler : Delivery → Handler} {move : Move} {id : TaskId} {task : Task}
  {signal : Signal}

/-- What a step does about the delivery, and how the history tells of it. -/
theorem account (tracked : Tracked history s delivery held session handler)
    (h : s.Readies move id task signal ready) :
    ∃ settled, (ready.client.resume ready.now id task signal).client.deliveries[delivery]? =
        some { held with settled } ∧ (held.settled = true → settled = true) ∧
      Accounts (history ++ [⟨s, move, some (ready.activity id task signal)⟩]) delivery session
        held.delivery.tag settled := by
  have found := h.deliveries tracked.found
  -- a task makes settle calls on one delivery only, so any other step is quiet about this one
  by_cases on : task.settles? = some delivery
  · have minds := h.turn.minds on
    have all : Moment.settlements delivery ⟨s, move, some (ready.activity id task signal)⟩ =
        (ready.client.resume ready.now id task signal).settlements :=
      List.filter_eq_self.2 fun x hx => decide_eq_true (minds.settlements x hx)
    have call : ∀ t, (ready.client.resume ready.now id task signal).next = .ok t →
        Moment.settleCall? delivery ⟨s, move, some (ready.activity id task signal)⟩ =
          t.settleCall? := by
      intro t ht
      simp only [Moment.settleCall?, System.activity, ht, on, if_true]
    have no_call : ∀ ending, (ready.client.resume ready.now id task signal).next = .error ending →
        Moment.settleCall? delivery ⟨s, move, some (ready.activity id task signal)⟩ = none := by
      intro ending ht
      simp only [Moment.settleCall?, System.activity, ht]
    cases h.turn.treats on found tracked.bound with
    | leaves same refused quiet =>
      refine ⟨held.settled, same, fun h => h, ?_⟩
      have silent :
          Moment.settleCall? delivery ⟨s, move, some (ready.activity id task signal)⟩ = none := by
        cases hn : (ready.client.resume ready.now id task signal).next with
        | ok t => rw [call t hn, quiet t hn]
        | error ending => exact no_call ending hn
      have accounts := tracked.accounts
      cases hs : held.settled with
      | false =>
        -- a call is only refused by the mark, so there was none
        rw [hs] at accounts
        refine accounts.quiet (all.trans (List.eq_nil_iff_forall_not_mem.2 ?_)) silent
        intro x hx
        exact Bool.noConfusion (hs.symm.trans (refused x hx).1)
      | true =>
        rw [hs] at accounts
        exact accounts.refusing (fun x hx => (refused x (all ▸ hx)).2.2) silent
    | passes unmarked marks one goesOn calls =>
      refine ⟨true, marks, fun _ => rfl, ?_⟩
      have accounts := tracked.accounts
      rw [unmarked] at accounts
      exact accounts.passing (all.trans one) ((call _ goesOn).trans calls)
  · have still := h.apart on
    refine ⟨held.settled, (h.turn.apart on).trans found, fun h => h, ?_⟩
    exact tracked.accounts.quiet still.settlements still.settleCall

/-- No delivery that there is arrives again. -/
theorem not_arrived (tracked : Tracked history s delivery held session handler)
    (h : s.Readies move id task signal ready) : signal ≠ .arrived delivery := by
  intro arrives
  have hlt := (List.getElem?_eq_some_iff.1 tracked.found).1
  rw [← (h.arrived arrives).1] at hlt
  exact Nat.lt_irrefl _ hlt

/-- After a step the task of the delivery is where it was, or it is the task that went on. -/
theorem dispatch_origin (tracked : Tracked history s delivery held session handler)
    (numbered : s.Numbered) (h : s.Readies move id task signal ready) {other : TaskId} {t : Task}
    (ht : (ready.absorb id (ready.client.resume ready.now id task signal)).task? other = some t)
    (dispatch : t.dispatch? = some delivery) :
    (other ≠ id ∧ s.task? other = some t) ∨
      (other = id ∧ task.dispatch? = some delivery ∧ ∀ d h, t ≠ .invoking d h) := by
  have on := Task.settles?_of_dispatch? dispatch
  rcases (h.follows numbered _).origin other t ht with old | ⟨same, goesOn⟩ | ⟨k, -, starts⟩
  · exact .inl old
  · exact .inr ⟨same, h.turn.next goesOn on⟩
  · exact absurd (h.turn.started (List.mem_of_getElem? starts) on).1 (tracked.not_arrived h)

theorem begin (tracked : Tracked history s delivery held session handler)
    (numbered : s.Numbered) (h : s.Readies move id task signal ready) :
    Begun (history ++ [⟨s, move, some (ready.activity id task signal)⟩])
      (ready.absorb id (ready.client.resume ready.now id task signal)) delivery handler := by
  have follows := h.follows numbered (ready.client.resume ready.now id task signal)
  cases tracked.begun with
  | @waiting first waits none =>
    by_cases hid : first = id
    · -- the task of the delivery hands it to its handler now
      subst hid
      cases Option.some.inj (waits.symm.trans h.found)
      refine .invoked ?_ ?_
      · intro other g ht
        rcases tracked.dispatch_origin numbered h ht rfl with ⟨ne, old⟩ | ⟨-, -, begun⟩
        · exact ne (tracked.one other first _ _ old waits rfl rfl)
        · exact begun _ _ rfl
      · rw [invocations_append, none]
        simp [Moment.invoked?, System.activity]
    · refine .waiting (follows.others first _ hid waits) ?_
      have elsewhere : ∀ g, task ≠ .invoking delivery g := by
        rintro g rfl
        exact hid (tracked.one first id _ _ waits h.found rfl rfl)
      rw [invocations_append, none, h.invoked? elsewhere]
      rfl
  | invoked gone once =>
    refine .invoked ?_ ?_
    · intro other g ht
      rcases tracked.dispatch_origin numbered h ht rfl with ⟨-, old⟩ | ⟨-, -, begun⟩
      · exact gone other g old
      · exact begun _ _ rfl
    · have elsewhere : ∀ g, task ≠ .invoking delivery g := by
        rintro g rfl
        exact gone id g h.found
      rw [invocations_append, once, h.invoked? elsewhere]
      rfl

/-- A step of the task that handles the delivery goes on with the handler from where it was. -/
theorem conducts (tracked : Tracked history s delivery held session handler)
    (numbered : s.Numbered) (h : s.Readies move id task signal ready) :
    ∃ waits, Conducts delivery held.delivery handler
        (handling delivery (history ++ [⟨s, move, some (ready.activity id task signal)⟩])) waits ∧
      ∀ other t,
        (ready.absorb id (ready.client.resume ready.now id task signal)).task? other = some t →
        t.dispatch? = some delivery → waits = some t := by
  obtain ⟨waits, past, here⟩ := tracked.conduct
  by_cases on : task.dispatch? = some delivery
  · obtain rfl := here id task h.found on
    -- no other task handles the delivery, before the step or after it
    have only : ∀ other t,
        (ready.absorb id (ready.client.resume ready.now id task signal)).task? other = some t →
        t.dispatch? = some delivery →
          (ready.client.resume ready.now id task signal).next = .ok t := by
      intro other t ht dispatch
      rcases (h.follows numbered _).origin other t ht with
        ⟨ne, old⟩ | ⟨-, goesOn⟩ | ⟨k, -, starts⟩
      · exact absurd (tracked.one other id t task old h.found dispatch on) ne
      · exact goesOn
      · have on := Task.settles?_of_dispatch? dispatch
        exact absurd (h.turn.started (List.mem_of_getElem? starts) on).1 (tracked.not_arrived h)
    rw [handling_append, System.handled?_of_dispatch? on]
    cases h.turn.steps on (h.deliveries tracked.found) with
    | goesOn resumes runs waits =>
      refine ⟨_, .goesOn past resumes runs waits, fun other t ht dispatch => ?_⟩
      rw [Except.ok.inj (waits.symm.trans (only other t ht dispatch))]
    | judged ended judges idle =>
      refine ⟨_, .judged past ended judges, fun other t ht dispatch => ?_⟩
      exact nomatch (idle t (only other t ht dispatch)).symm.trans dispatch
  · rw [handling_append, System.handled?_of_apart on, Option.toList_none, List.append_nil]
    refine ⟨waits, past, fun other t ht dispatch => ?_⟩
    rcases tracked.dispatch_origin numbered h ht dispatch with ⟨-, old⟩ | ⟨-, before, -⟩
    · exact here other t old dispatch
    · exact absurd before on

/-- The first settle call on the delivery is of the kind that whoever performs it has chosen. -/
theorem decides (tracked : Tracked history s delivery held session handler)
    (h : s.Readies move id task signal ready) {first : Settlement} {rest : List Settlement}
    (performed : settlements delivery
      (history ++ [⟨s, move, some (ready.activity id task signal)⟩]) = first :: rest) :
    Decided delivery held.delivery handler
      (history ++ [⟨s, move, some (ready.activity id task signal)⟩]) first.verdict := by
  rw [settlements_append] at performed
  cases before : settlements delivery history with
  | cons x more =>
    rw [before] at performed
    obtain ⟨rfl, -⟩ := List.cons.inj performed
    exact (tracked.decided _ _ before).append _
  | nil =>
    rw [before, List.nil_append] at performed
    have on : task.settles? = some delivery := by
      refine Decidable.byContradiction fun apart => ?_
      exact nomatch (h.apart apart).settlements.symm.trans performed
    have minds := h.turn.minds on
    have all : (ready.client.resume ready.now id task signal).settlements = first :: rest :=
      (List.filter_eq_self.2 fun x hx => decide_eq_true (minds.settlements x hx)).symm.trans
        performed
    obtain rfl : first.delivery = delivery :=
      minds.settlements first (all ▸ List.mem_cons_self)
    obtain ⟨waits, past, here⟩ := tracked.conduct
    refine ⟨history, _, [], ready.activity id task signal, first.result, rest, rfl, before, rfl,
      all, h.turn.chooses on (h.deliveries tracked.found) all ⟨rfl, rfl⟩ fun dispatch => ?_⟩
    exact here id task h.found dispatch ▸ past

/-- A step keeps track of the delivery. -/
theorem absorb (tracked : Tracked history s delivery held session handler)
    (numbered : s.Numbered) (h : s.Readies move id task signal ready) :
    ∃ settled, Tracked (history ++ [⟨s, move, some (ready.activity id task signal)⟩])
      (ready.absorb id (ready.client.resume ready.now id task signal)) delivery
      { held with settled } session handler := by
  obtain ⟨settled, found, stays, accounts⟩ := tracked.account h
  have follows := h.follows numbered (ready.client.resume ready.now id task signal)
  refine ⟨settled, {
    found
    bound := tracked.bound
    accounts
    begun := tracked.begin numbered h
    one := ?_
    alive := ?_
    conduct := tracked.conducts numbered h
    decided := fun _ _ => tracked.decides h }⟩
  · -- no step starts a second task on the delivery, so both go back to tasks before the step
    intro one two t u h₁ h₂ d₁ d₂
    rcases tracked.dispatch_origin numbered h h₁ d₁ with ⟨ne₁, old₁⟩ | ⟨rfl, before₁, -⟩
    · rcases tracked.dispatch_origin numbered h h₂ d₂ with ⟨-, old₂⟩ | ⟨rfl, before₂, -⟩
      · exact tracked.one one two t u old₁ old₂ d₁ d₂
      · exact tracked.one one two t task old₁ h.found d₁ before₂
    · rcases tracked.dispatch_origin numbered h h₂ d₂ with ⟨-, old₂⟩ | ⟨rfl, -, -⟩
      · exact tracked.one one two task u h.found old₂ before₁ d₂
      · rfl
  · rcases tracked.alive with marked | ⟨other, t, ht, dispatch⟩
    · exact .inl (stays marked)
    · by_cases hid : other = id
      · subst hid
        cases Option.some.inj (ht.symm.trans h.found)
        rcases h.turn.dispatch dispatch (h.deliveries tracked.found) tracked.bound with
          ⟨t', goesOn, dispatch', -⟩ | ⟨held', found', marked⟩
        · exact .inr ⟨other, t', follows.goesOn t' goesOn, dispatch'⟩
        · cases Option.some.inj (found.symm.trans found')
          exact .inl marked
      · exact .inr ⟨other, t, follows.others other t hid ht, dispatch⟩

/-- A move without any task going on keeps track of the delivery. -/
theorem drift {s' : System} (tracked : Tracked history s delivery held session handler)
    (numbered : s.Numbered) (drift : s.Drifts move s') :
    Tracked (history ++ [⟨s, move, none⟩]) s' delivery held session handler := by
  obtain ⟨⟨more, grows⟩, back, stay⟩ := drift.keeps numbered
  have still := System.still_moment s move delivery
  have old : ∀ id t, s'.task? id = some t → t.dispatch? = some delivery → s.task? id = some t := by
    intro id t ht dispatch
    rcases back id t ht with old | ⟨apart, -⟩
    · exact old
    · exact nomatch apart.symm.trans dispatch
  refine {
    found := ?_
    bound := tracked.bound
    accounts := tracked.accounts.quiet still.settlements still.settleCall
    begun := ?_
    one := fun one two t u h₁ h₂ d₁ d₂ =>
      tracked.one one two t u (old one t h₁ d₁) (old two u h₂ d₂) d₁ d₂
    alive := ?_
    conduct := ?_
    decided := ?_ }
  · rw [grows, List.getElem?_append_left (List.getElem?_eq_some_iff.1 tracked.found).1]
    exact tracked.found
  · cases tracked.begun with
    | waiting waits none =>
      refine .waiting (stay _ _ delivery waits rfl) ?_
      rw [invocations_append, none, still.invoked]
      rfl
    | invoked gone once =>
      refine .invoked (fun id h ht => gone id h (old id _ ht rfl)) ?_
      rw [invocations_append, once, still.invoked]
      rfl
  · rcases tracked.alive with marked | ⟨id, t, ht, dispatch⟩
    · exact .inl marked
    · exact .inr ⟨id, t, stay id t delivery ht dispatch, dispatch⟩
  · obtain ⟨waits, past, here⟩ := tracked.conduct
    refine ⟨waits, ?_, fun id t ht dispatch => here id t (old id t ht dispatch) dispatch⟩
    rw [handling_append, still.handled, Option.toList_none, List.append_nil]
    exact past
  · intro first rest performed
    rw [settlements_append, still.settlements, List.append_nil] at performed
    exact (tracked.decided first rest performed).append _

/-- A delivery is tracked from the moment on in which it is taken. -/
theorem start {registration : Registration} {message : Delivery} (known : Known history s)
    (numbered : s.Numbered) (found : s.task? id = some (.streaming session registration)) :
    let ready := (s.receive { message with session := some session }).1
    let signal := Signal.arrived s.client.deliveries.length
    Tracked
      (history ++ [⟨s, .deliver id message,
        some (ready.activity id (.streaming session registration) signal)⟩])
      (ready.absorb id (ready.client.resume ready.now id (.streaming session registration) signal))
      s.client.deliveries.length ⟨{ message with session := some session }, false⟩ session
      registration.handler := by
  intro ready signal
  have h : s.Readies (.deliver id message) id (.streaming session registration) signal ready :=
    .deliver message found
  have follows := h.follows numbered
    (ready.client.resume ready.now id (.streaming session registration) signal)
  obtain ⟨none, quiet, no_begin, no_step⟩ := known.nothing (Nat.le_refl s.client.deliveries.length)
  have apart : (Task.streaming session registration).settles? ≠ some s.client.deliveries.length :=
    fun on => nomatch on
  have still := h.apart apart
  -- the number is new, so of the tasks there are only the one that has just been started has it
  have fresh : ∀ other t,
      (ready.absorb id
        (ready.client.resume ready.now id (.streaming session registration) signal)).task? other =
          some t →
      t.dispatch? = some s.client.deliveries.length → other = s.nextTask + 0 := by
    intro other t ht dispatch
    rcases follows.origin other t ht with ⟨-, old⟩ | ⟨-, goesOn⟩ | ⟨k, rfl, starts⟩
    · have on := Task.settles?_of_dispatch? dispatch
      exact absurd (known.tasks other t _ old on) (Nat.lt_irrefl _)
    · cases goesOn
      exact nomatch dispatch
    · have hk : k < 1 := (List.getElem?_eq_some_iff.1 starts).1
      rw [Nat.lt_one_iff.1 hk]
  have waits := follows.starts 0 (.invoking s.client.deliveries.length registration.handler) rfl
  exact {
    found := List.getElem?_concat_length
    bound := rfl
    accounts := (Accounts.unsettled none quiet).quiet still.settlements still.settleCall
    begun := .waiting waits (by rw [invocations_append, no_begin, still.invoked]; rfl)
    one := fun one two t u h₁ h₂ d₁ d₂ => (fresh one t h₁ d₁).trans (fresh two u h₂ d₂).symm
    alive := .inr ⟨_, _, waits, rfl⟩
    conduct := by
      refine ⟨some (.invoking s.client.deliveries.length registration.handler), ?_, ?_⟩
      · rw [handling_append, no_step, still.handled]
        exact .start
      · intro other t ht dispatch
        rw [fresh other t ht dispatch] at ht
        exact waits.symm.trans ht
    decided := by
      intro first rest performed
      rw [settlements_append, none, still.settlements] at performed
      exact nomatch performed }

end Tracked

theorem Run.tracked {settings : Settings} {history : List Moment} {s : System}
    (run : Run settings history s) {delivery : DeliveryId} {session : SessionId}
    {message : Delivery} {registration : Registration} {m : Moment} (hm : m ∈ history)
    (taken : m.Takes delivery session message registration) :
    ∃ settled, Tracked history s delivery ⟨{ message with session := some session }, settled⟩ session
      registration.handler := by
  induction run with
  | start => exact nomatch hm
  | @next history s s' move activity run step ih =>
    rcases List.mem_append.1 hm with old | new
    · obtain ⟨settled, tracked⟩ := ih old
      rcases System.step_cases step with ⟨rfl, drift⟩ | ⟨id, task, signal, ready, h, rfl, rfl⟩
      · exact ⟨settled, tracked.drift run.numbered drift⟩
      · exact tracked.absorb run.numbered h
    · obtain ⟨id, hmove, found, rfl⟩ := taken
      cases List.mem_singleton.1 new
      obtain rfl : move = .deliver id message := hmove
      rcases System.step_cases step with ⟨rfl, drift⟩ | ⟨_, _, _, _, h, rfl, rfl⟩
      · exact nomatch drift
      · cases h with
        | deliver _ found' =>
          cases Option.some.inj (found.symm.trans found')
          exact ⟨false, .start run.known run.numbered found⟩

/-! ## Handlers come to their end -/

namespace Execution

variable {settings : Settings} {e : Execution settings} {delivery : DeliveryId}

/-- No task that handles the delivery waits forever: it is let run, and its calls, its sleeps and its
    holds end at last. -/
def Fair (e : Execution settings) (delivery : DeliveryId) : Prop :=
  ∀ i id t, (e.system i).task? id = some t → t.dispatch? = some delivery →
    ∃ j activity, i ≤ j ∧ e.activity j = some activity ∧ activity.id = id

/-- The task `id` goes on with the `k`-th move, from the point `t`. -/
def GoesOn (e : Execution settings) (k : Nat) (id : TaskId) (t : Task) : Prop :=
  ∃ signal ready, (e.system k).Readies (e.move k) id t signal ready ∧
    e.system (k + 1) = ready.absorb id (ready.client.resume ready.now id t signal) ∧
    e.activity k = some (ready.activity id t signal)

/-- The task of a delivery stays where it waits until it goes on. -/
theorem goesOn_or_stays {k : Nat} {id : TaskId} {t : Task}
    (found : (e.system k).task? id = some t) (dispatch : t.dispatch? = some delivery) :
    e.GoesOn k id t ∨ ((∀ activity, e.activity k = some activity → activity.id ≠ id) ∧
      (e.system (k + 1)).task? id = some t) := by
  have numbered := (e.run k).numbered
  rcases System.step_cases (e.step k) with ⟨still, drift⟩ | ⟨other, task, signal, ready, h, hs, ha⟩
  · obtain ⟨-, -, stay⟩ := drift.keeps numbered
    refine .inr ⟨?_, stay id t delivery found dispatch⟩
    intro activity hactivity
    exact nomatch still.symm.trans hactivity
  · by_cases hid : other = id
    · subst hid
      cases Option.some.inj (found.symm.trans h.found)
      exact .inl ⟨signal, ready, h, hs, ha⟩
    · refine .inr ⟨?_, ?_⟩
      · intro activity hactivity
        cases Option.some.inj (ha.symm.trans hactivity)
        exact hid
      · rw [hs]
        exact (h.follows numbered _).others id t (Ne.symm hid) found

theorem Fair.goesOn (fair : e.Fair delivery) {k : Nat} {id : TaskId} {t : Task}
    (found : (e.system k).task? id = some t) (dispatch : t.dispatch? = some delivery) :
    ∃ j, k ≤ j ∧ e.GoesOn j id t := by
  obtain ⟨last, activity, hle, hactivity, hid⟩ := fair k id t found dispatch
  -- by induction on how far off the move is that the task surely goes on with
  obtain ⟨n, rfl⟩ := Nat.exists_eq_add_of_le hle
  clear hle
  induction n generalizing k with
  | zero =>
    rcases goesOn_or_stays found dispatch with goesOn | ⟨other, -⟩
    · exact ⟨k, Nat.le_refl k, goesOn⟩
    · exact absurd hid (other activity hactivity)
  | succ n ih =>
    rcases goesOn_or_stays found dispatch with goesOn | ⟨-, stays⟩
    · exact ⟨k, Nat.le_refl k, goesOn⟩
    · obtain ⟨j, hj, goesOn⟩ := ih stays (by rwa [Nat.succ_add_eq_add_succ])
      exact ⟨j, Nat.le_of_succ_le hj, goesOn⟩

/-- An execution is fair to a delivery that no task handles from some move on. -/
theorem fair_of_gone (last : Nat)
    (gone : ∀ i, last ≤ i → ∀ id t, (e.system i).task? id = some t →
      t.dispatch? ≠ some delivery) : e.Fair delivery := by
  intro i id t found dispatch
  by_cases hi : last ≤ i
  · exact absurd dispatch (gone i hi id t found)
  · obtain ⟨n, hn⟩ := Nat.exists_eq_add_of_le (Nat.le_of_not_le hi)
    clear hi
    induction n generalizing i with
    | zero => exact absurd dispatch (gone i (Nat.le_of_eq hn) id t found)
    | succ n ih =>
      rcases goesOn_or_stays found dispatch with ⟨signal, ready, -, -, hactivity⟩ | ⟨-, stays⟩
      · exact ⟨i, _, Nat.le_refl i, hactivity, rfl⟩
      · obtain ⟨j, activity, hj, later⟩ := ih (i + 1) stays (by rwa [Nat.succ_add_eq_add_succ])
        exact ⟨j, activity, Nat.le_of_succ_le hj, later⟩

/-- The delivery has been settled. -/
def Settled (s : System) (delivery : DeliveryId) : Prop :=
  ∃ held, s.client.deliveries[delivery]? = some held ∧ held.settled = true

/-- With the `k`-th move the task `id` has run the handler of the delivery up to its next wait. -/
def Handles (e : Execution settings) (k : Nat) (id : TaskId) (delivery : DeliveryId)
    (session : SessionId) (handler : Handler) : Prop :=
  ∃ (c : Client) (now : Duration) (held : Held),
    c.deliveries[delivery]? = some held ∧ held.delivery.session = some session ∧
    (e.system (k + 1)).task? id = (c.handle now delivery handler).next.toOption ∧
    (e.system (k + 1)).client.deliveries[delivery]? =
      (c.handle now delivery handler).client.deliveries[delivery]?

section Taken

variable {first : Nat} {session : SessionId} {handler : Delivery → Handler}
  (fair : e.Fair delivery)
  (tracked : ∀ k, first ≤ k → ∃ held,
    Tracked (e.history k) (e.system k) delivery held session handler)

include fair tracked

/-- The task of a delivery goes on with what is left of the handler, or the delivery is settled. -/
theorem settled_or_handles {k : Nat} (hk : first ≤ k) {id : TaskId} {t : Task}
    (found : (e.system k).task? id = some t) (dispatch : t.dispatch? = some delivery) :
    (∃ j, first ≤ j ∧ Settled (e.system j) delivery) ∨
      ∃ j, k ≤ j ∧ ∃ c signal rest, Client.GoesOn c t signal delivery rest ∧
        e.Handles j id delivery session rest := by
  obtain ⟨j, hj, signal, ready, h, hs, -⟩ := fair.goesOn found dispatch
  obtain ⟨held, here⟩ := tracked j (Nat.le_trans hk hj)
  have follows := h.follows (e.run j).numbered (ready.client.resume ready.now id t signal)
  have held_found := h.deliveries here.found
  have turn := h.turn
  revert hs follows turn
  generalize ready.client.resume ready.now id t signal = reaction
  intro hs follows turn
  cases turn with
  | rests apart => exact nomatch apart.symm.trans (Task.settles?_of_dispatch? dispatch)
  | streams | settles => exact nomatch dispatch
  | @handles _ _ other rest goesOn =>
    cases Option.some.inj (goesOn.dispatch?.symm.trans dispatch)
    refine .inr ⟨j, hj, ready.client, signal, rest, goesOn, ready.client, ready.now, held,
      held_found, here.bound, ?_, ?_⟩
    · obtain ⟨u, hu, -⟩ := Client.handle_continues held_found rest
      rw [hs, follows.goesOn u hu, hu]
      rfl
    · rw [hs]
      rfl
  | misses unknown =>
    cases Option.some.inj dispatch
    exact nomatch unknown.symm.trans held_found
  | judges =>
    cases Option.some.inj dispatch
    refine .inl ⟨j + 1, Nat.le_succ_of_le (Nat.le_trans hk hj), ?_⟩
    rw [hs]
    exact Client.settled_judge held_found here.bound _

/-- Whatever a handler does, its delivery is settled in the end: by induction on what is left of it,
    since every wait is followed by less of the handler. -/
theorem settled_of_handles (rest : Handler) {k : Nat} (hk : first ≤ k) {id : TaskId}
    (handles : e.Handles k id delivery session rest) :
    ∃ j, first ≤ j ∧ Settled (e.system j) delivery := by
  induction rest generalizing k with
  | done outcome =>
    obtain ⟨c, now, held, -, -, next, -⟩ := handles
    rcases settled_or_handles fair tracked (Nat.le_succ_of_le hk) next rfl with
      settled | ⟨_, _, _, _, _, goesOn, _⟩
    · exact settled
    · exact nomatch goesOn
  | settle verdict after ih =>
    -- a refused call is followed by the rest of the handler in the same step
    obtain ⟨c, now, held, found, bound, next, client⟩ := handles
    rw [Client.handle, Client.withHeld_of_found found] at next client
    split at next
    · next marked n call passed =>
      rw [passed] at client
      obtain ⟨_, _, rfl, _⟩ := Client.settleCall_eq_ok passed
      exact ⟨k + 1, Nat.le_succ_of_le hk, _, client.trans (Client.getElem?_marking_self found), rfl⟩
    · next fault refused =>
      rw [refused] at client
      exact ih _ hk ⟨c, now, held, found, bound, next, client⟩
  | publish p after ih =>
    obtain ⟨c, now, held, found, bound, next, client⟩ := handles
    unfold Client.handle at next client
    split at next
    · rcases settled_or_handles fair tracked (Nat.le_succ_of_le hk) next rfl with
        settled | ⟨j, hj, c', signal, more, goesOn, handles⟩
      · exact settled
      · cases goesOn
        exact ih _ (Nat.le_trans (Nat.le_succ_of_le hk) hj) handles
    · next fault missing =>
      rw [missing] at client
      exact ih _ hk ⟨c, now, held, found, bound, next, client⟩
  | sleep span after ih =>
    obtain ⟨c, now, held, -, -, next, -⟩ := handles
    rcases settled_or_handles fair tracked (Nat.le_succ_of_le hk) next rfl with
      settled | ⟨j, hj, c', signal, more, goesOn, handles⟩
    · exact settled
    · cases goesOn
      exact ih (Nat.le_trans (Nat.le_succ_of_le hk) hj) handles
  | hold after ih =>
    obtain ⟨c, now, held, -, -, next, -⟩ := handles
    rcases settled_or_handles fair tracked (Nat.le_succ_of_le hk) next rfl with
      settled | ⟨j, hj, c', signal, more, goesOn, handles⟩
    · exact settled
    · cases goesOn
      exact ih _ (Nat.le_trans (Nat.le_succ_of_le hk) hj) handles

theorem eventually_settled : ∃ j, first ≤ j ∧ Settled (e.system j) delivery := by
  obtain ⟨held, here⟩ := tracked first (Nat.le_refl first)
  rcases here.alive with marked | ⟨id, t, found, dispatch⟩
  · exact ⟨first, Nat.le_refl first, held, here.found, marked⟩
  · rcases settled_or_handles fair tracked (Nat.le_refl first) found dispatch with
      settled | ⟨j, hj, -, -, rest, -, handles⟩
    · exact settled
    · exact settled_of_handles fair tracked rest hj handles

theorem eventually_invoked : ∃ j, first ≤ j ∧ invocations delivery (e.history j) = [handler] := by
  obtain ⟨held, here⟩ := tracked first (Nat.le_refl first)
  cases here.begun with
  | invoked _ once => exact ⟨first, Nat.le_refl first, once⟩
  | waiting waits =>
    obtain ⟨j, hj, signal, ready, h, hs, -⟩ := fair.goesOn waits rfl
    obtain ⟨held', before⟩ := tracked j hj
    obtain ⟨held'', after⟩ := tracked (j + 1) (Nat.le_succ_of_le hj)
    cases after.begun with
    | invoked _ once => exact ⟨j + 1, Nat.le_succ_of_le hj, once⟩
    | waiting again =>
      -- the only task that could still wait to call the handler is the one that has just gone on
      rw [hs] at again
      rcases before.dispatch_origin (e.run j).numbered h again rfl with ⟨ne, old⟩ | ⟨-, -, begun⟩
      · exact absurd (before.one _ _ _ _ old h.found rfl rfl) ne
      · exact absurd rfl (begun _ _)

end Taken

theorem history_prefix (e : Execution settings) {i j : Nat} (h : i ≤ j) :
    e.history i <+: e.history j := by
  rw [history, history, ← Nat.add_sub_cancel' h, List.range_add, List.map_append]
  exact List.prefix_append _ _

end Execution

/-! ## Exactly once -/

/-- A caller's settle call is performed, and when it is refused the caller is told why. A settle call
    that is passed on is on a delivery of its tag, and goes to the session that the delivery arrived
    on, if it arrived on one. -/
structure Moment.Honest (m : Moment) (delivery : DeliveryId) : Prop where
  asked : ∀ activity verdict, m.activity = some activity →
    activity.before = .begin (.settle delivery verdict) →
      ∃ result, m.settlements delivery = [⟨delivery, verdict, result⟩] ∧
        ∀ fault, result = .error fault → activity.next = .error (.answered (.error fault))
  made : ∀ activity t session tag verdict, m.activity = some activity →
    activity.next = .ok t → t.settleCall? = some (session, tag, verdict) →
      ∃ on held, activity.before.settles? = some on ∧
        m.system.client.deliveries[on]? = some held ∧ held.delivery.tag = tag ∧
        ∀ n, held.delivery.session = some n → n = session

theorem System.Readies.honest {history : List Moment} {s ready : System} {move : Move}
    {id : TaskId} {task : Task} {signal : Signal} (h : s.Readies move id task signal ready)
    (known : Known history s) (delivery : DeliveryId) :
    Moment.Honest ⟨s, move, some (ready.activity id task signal)⟩ delivery := by
  have turn := h.turn
  refine ⟨?_, ?_⟩
  · -- a settle call of a caller
    intro activity verdict hactivity hbefore
    cases Option.some.inj hactivity
    obtain rfl : task = .begin (.settle delivery verdict) := hbefore
    have minds := turn.minds rfl
    have all : Moment.settlements delivery ⟨s, move, some (ready.activity id _ signal)⟩ =
        (ready.client.resume ready.now id (.begin (.settle delivery verdict)) signal).settlements :=
      List.filter_eq_self.2 fun x hx => decide_eq_true (minds.settlements x hx)
    have found := h.deliveries
      (List.getElem?_eq_getElem (known.tasks id _ delivery h.found rfl))
    rw [all]
    simp only [System.activity]
    generalize ready.client.resume ready.now id (.begin (.settle delivery verdict)) signal =
      reaction at turn
    cases turn with
    | rests apart => exact nomatch apart
    | settles => exact Client.settlements_settle found _
    | handles goesOn => exact nomatch goesOn.dispatch?
  · -- where the call goes
    intro activity t session tag verdict hactivity hnext call
    cases Option.some.inj hactivity
    obtain ⟨on, held, settles, found, htag, target⟩ := turn.makes hnext call
    have here : s.client.deliveries[on]? = some held := by
      cases h with
      | resume => exact found
      | connect => exact nomatch settles
      | deliver => exact nomatch settles
    refine ⟨on, held, settles, here, htag, ?_⟩
    intro n bound
    rw [Client.target, bound] at target
    exact Except.ok.inj target

theorem Run.honest {settings : Settings} {history : List Moment} {s : System}
    (run : Run settings history s) (delivery : DeliveryId) :
    ∀ m ∈ history, m.Honest delivery := by
  induction run with
  | start => exact fun _ hm => nomatch hm
  | next run step ih =>
    intro m hm
    rcases List.mem_append.1 hm with old | new
    · exact ih m old
    · rw [List.mem_singleton.1 new]
      rcases System.step_cases step with ⟨rfl, -⟩ | ⟨_, _, _, _, h, -, rfl⟩
      · exact ⟨fun _ _ h => (nomatch h), fun _ _ _ _ _ h => nomatch h⟩
      · exact h.honest run.known delivery

/-- Before a delivery is taken, the history does not tell of it. -/
theorem nothing_before {settings : Settings} {e : Execution settings} {i : Nat}
    {delivery : DeliveryId} {session : SessionId} {message : Delivery} {registration : Registration}
    (taken :
      Moment.Takes ⟨e.system i, e.move i, e.activity i⟩ delivery session message registration)
    {k : Nat} (hk : k ≤ i) :
    settlements delivery (e.history k) = [] ∧ settleCalls delivery (e.history k) = [] ∧
      invocations delivery (e.history k) = [] ∧ handling delivery (e.history k) = [] := by
  obtain ⟨-, -, -, rfl⟩ := taken
  obtain ⟨none, quiet, no_begin, no_step⟩ := (e.run i).known.nothing (Nat.le_refl _)
  have earlier := e.history_prefix hk
  refine ⟨?_, ?_, ?_, ?_⟩
  · exact List.prefix_nil.1 (none ▸ settlements_prefix _ earlier)
  · exact List.prefix_nil.1 (quiet ▸ settleCalls_prefix _ earlier)
  · exact List.prefix_nil.1 (no_begin ▸ invocations_prefix _ earlier)
  · exact List.prefix_nil.1 (no_step ▸ earlier.filterMap _)

/-- The first settle call on a delivery stays the one that is passed on. -/
theorem Accounts.lasts {earlier later : List Moment} {delivery : DeliveryId} {session : SessionId}
    {tag : Nat} {settled : Bool} (accounts : Accounts later delivery session tag settled)
    (grown : earlier <+: later) {verdict : Verdict} {rest : List Settlement}
    (first : settlements delivery earlier = ⟨delivery, verdict, .ok session⟩ :: rest) :
    settleCalls delivery later = [(session, tag, verdict)] ∧
      ∃ rest, settlements delivery later = ⟨delivery, verdict, .ok session⟩ :: rest ∧
        ∀ x ∈ rest, x.result = .error (.alreadySettled tag) := by
  have kept := settlements_prefix delivery grown
  rw [first] at kept
  cases accounts with
  | unsettled none =>
    rw [none] at kept
    exact absurd (List.prefix_nil.1 kept) (List.cons_ne_nil _ _)
  | settled verdict' rest' first' refused called =>
    rw [first'] at kept
    obtain ⟨same, -⟩ := List.cons_prefix_cons.1 kept
    cases same
    exact ⟨called, rest', first', refused⟩

/-- A delivery that has been handed to its handler is not handed to it again. -/
theorem Begun.lasts {earlier later : List Moment} {s : System} {delivery : DeliveryId}
    {handler : Delivery → Handler} (begun : Begun later s delivery handler)
    (grown : earlier <+: later) (once : invocations delivery earlier = [handler]) :
    invocations delivery later = [handler] := by
  have kept := invocations_prefix delivery grown
  rw [once] at kept
  cases begun with
  | waiting _ none =>
    rw [none] at kept
    exact absurd (List.prefix_nil.1 kept) (List.cons_ne_nil _ _)
  | invoked _ again => exact again

/-- What a history tells of a delivery that is taken from a stream of a session for a handler: how
    often it was handed over, what became of the settle calls on it, and by whom and of what kind they
    were. -/
structure Treatment (history : List Moment) (delivery : DeliveryId) (session : SessionId)
    (message : Delivery) (handler : Delivery → Handler) : Prop where
  /-- The delivery is handed to the handler, and to it only, once at most. -/
  invoked : invocations delivery history = [] ∨ invocations delivery history = [handler]
  /-- The first settle call is passed on to the session under the tag, all others are refused. -/
  accounts : ∃ settled, Accounts history delivery session message.tag settled
  /-- The handler does what it says, and after it its outcome is judged. -/
  conduct : ∃ waits, Conducts delivery { message with session := some session } handler
    (handling delivery history) waits
  /-- The first settle call is of the kind that a caller or the handler asked for, or else of the one
      that the outcome of the handler calls for. -/
  decided : ∀ first rest, settlements delivery history = first :: rest →
    Decided delivery { message with session := some session } handler history first.verdict
  honest : ∀ m ∈ history, m.Honest delivery

/-- A delivery taken from a stream is handed to the handler of its consumer once at most, and of the
    settle calls on it the first is passed on to the session it came from, under its tag and of the
    kind that was asked for or that the outcome of the handler calls for, and all others are refused.
    When its handler does not wait forever, both happen at last. -/
theorem settled_exactly_once {settings : Settings} (e : Execution settings) {i : Nat}
    {delivery : DeliveryId} {session : SessionId} {message : Delivery} {registration : Registration}
    (taken :
      Moment.Takes ⟨e.system i, e.move i, e.activity i⟩ delivery session message registration) :
    (∀ k, Treatment (e.history k) delivery session message registration.handler) ∧
      (e.Fair delivery → ∃ verdict last, ∀ k, last ≤ k →
        invocations delivery (e.history k) = [registration.handler] ∧
        settleCalls delivery (e.history k) = [(session, message.tag, verdict)] ∧
        Decided delivery { message with session := some session } registration.handler (e.history k)
          verdict ∧
        ∃ rest, settlements delivery (e.history k) = ⟨delivery, verdict, .ok session⟩ :: rest ∧
          ∀ x ∈ rest, x.result = .error (.alreadySettled message.tag)) := by
  have tracked : ∀ k, i + 1 ≤ k → ∃ settled, Tracked (e.history k) (e.system k) delivery
      ⟨{ message with session := some session }, settled⟩ session registration.handler :=
    fun k hk => (e.run k).tracked (List.mem_map.2 ⟨i, List.mem_range.2 hk, rfl⟩) taken
  constructor
  · intro k
    have honest := (e.run k).honest delivery
    by_cases hk : i + 1 ≤ k
    · obtain ⟨settled, here⟩ := tracked k hk
      obtain ⟨waits, conducts, -⟩ := here.conduct
      refine ⟨?_, ⟨settled, here.accounts⟩, ⟨waits, conducts⟩, here.decided, honest⟩
      cases here.begun with
      | waiting _ none => exact .inl none
      | invoked _ once => exact .inr once
    · obtain ⟨none, quiet, no_begin, no_step⟩ := nothing_before taken (Nat.le_of_not_lt hk)
      refine ⟨.inl no_begin, ⟨false, .unsettled none quiet⟩, ?_, ?_, honest⟩
      · rw [no_step]
        exact ⟨_, .start⟩
      · exact fun first rest performed => nomatch none.symm.trans performed
  · intro fair
    have follow : ∀ k, i + 1 ≤ k → ∃ held,
        Tracked (e.history k) (e.system k) delivery held session registration.handler :=
      fun k hk => ⟨_, (tracked k hk).choose_spec⟩
    obtain ⟨j, hj, held, found, marked⟩ := Execution.eventually_settled fair follow
    obtain ⟨b, hb, begun⟩ := Execution.eventually_invoked fair follow
    obtain ⟨settled, there⟩ := tracked j hj
    cases Option.some.inj (there.found.symm.trans found)
    obtain rfl : settled = true := marked
    cases there.accounts with
    | settled verdict rest first =>
      -- from the later of both moments on nothing changes any more
      refine ⟨verdict, max j b, ?_⟩
      intro k hk
      have hjk : j ≤ k := Nat.le_trans (Nat.le_max_left j b) hk
      have hbk : b ≤ k := Nat.le_trans (Nat.le_max_right j b) hk
      obtain ⟨_, here⟩ := tracked k (Nat.le_trans hj hjk)
      obtain ⟨called, rest, performed, refused⟩ :=
        here.accounts.lasts (e.history_prefix hjk) first
      exact ⟨here.begun.lasts (e.history_prefix hbk) begun, called, here.decided _ _ performed,
        rest, performed, refused⟩

/-- A handler that sends its delivery back to the queue and fails. -/
def sendsBack : Registration := ⟨"recall", fun _ => .settle (.nack true) fun _ => .done .failed⟩

def letter : Delivery := ⟨7, "recall", "recall", false, [], [], none⟩

/-- A consumer that sends its deliveries back, and one delivery for it. -/
def sentBack : List Move :=
  [.begin .connect, .resume 0 .turn, .connect 0, .resume 0 (.answered (.ok ())),
    .begin (.consume sendsBack), .resume 2 .turn, .resume 2 (.answered (.ok ())),
    .deliver 3 letter, .resume 4 .turn, .resume 4 (.answered (.ok ())), .resume 4 .turn]

def sendingBack : Execution bareSettings :=
  .ofMoves bareSettings sentBack (by decide +kernel)

theorem fair_sendingBack : sendingBack.Fair 0 := by
  have ended : ((System.new bareSettings).perform sentBack).any
      (fun r => r.2.tasks.all fun entry => entry.2.dispatch?.isNone) := by decide +kernel
  obtain ⟨⟨history, s⟩, performed, none_left⟩ := (Option.any_eq_true _ _).1 ended
  refine Execution.fair_of_gone sentBack.length ?_
  intro i hi id t ht dispatch
  have here : sendingBack.system i = s := System.stateAt_of_le performed hi
  rw [here, System.task?] at ht
  obtain ⟨before, after, hs, -⟩ := List.lookup_eq_some_iff.1 ht
  have mem : (id, t) ∈ s.tasks := hs ▸ List.mem_append_right before List.mem_cons_self
  have isNone := List.all_eq_true.1 none_left (id, t) mem
  simp only [dispatch] at isNone
  exact nomatch isNone

/-- The kind of the one call is that of the handler's own, not the one that its failure calls for. -/
theorem settled_exactly_once_sentBack :
    Moment.Takes ⟨sendingBack.system 7, sendingBack.move 7, sendingBack.activity 7⟩ 0 1 letter
        sendsBack ∧ sendingBack.Fair 0 ∧
      (∀ k, Treatment (sendingBack.history k) 0 1 letter sendsBack.handler) ∧
      ∃ last, ∀ k, last ≤ k →
        invocations 0 (sendingBack.history k) = [sendsBack.handler] ∧
        settleCalls 0 (sendingBack.history k) = [(1, 7, .nack true)] ∧
        Decided 0 { letter with session := some 1 } sendsBack.handler (sendingBack.history k)
          (.nack true) ∧
        ∃ rest, settlements 0 (sendingBack.history k) = ⟨0, .nack true, .ok 1⟩ :: rest ∧
          ∀ x ∈ rest, x.result = .error (.alreadySettled 7) := by
  have taken : Moment.Takes ⟨sendingBack.system 7, sendingBack.move 7, sendingBack.activity 7⟩ 0 1
      letter sendsBack := ⟨3, rfl, rfl, rfl⟩
  obtain ⟨treated, settles⟩ := settled_exactly_once sendingBack taken
  obtain ⟨verdict, last, settled⟩ := settles fair_sendingBack
  have called : settleCalls 0 (sendingBack.history 9) = [(1, 7, .nack true)] := by decide +kernel
  obtain rfl : verdict = .nack true := by
    have later := settleCalls_prefix 0 (sendingBack.history_prefix (Nat.le_max_right last 9))
    rw [called, (settled (max last 9) (Nat.le_max_left last 9)).2.1] at later
    exact (congrArg (·.2.2) (List.cons_prefix_cons.1 later).1).symm
  exact ⟨taken, fair_sendingBack, treated, last, settled⟩

end Laneway.Broker
