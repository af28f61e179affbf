import Laneway.Proofs.Broker.Exclusion
import Laneway.Proofs.Broker.Streams

set_option autoImplicit false

/-! # The consumers of a session

A consumer is attached to a session when a `consume` call on it succeeds: one made for a caller, who
then has it registered, or one made by a recovery, which goes through the registrations there were
when it had made the last declaration. The consumers attached to the installed session and those
registered since the last close differ by the ones that came in on another session after that
moment, and by the ones that a close has dropped after it. -/

namespace Laneway.Broker

/-! ## What a history says about consumers -/

namespace Task

/-- The task begins a `close()`. -/
def clears : Task → Bool
  | .begin .close => true
  | _ => false

/-- The consumer that the task is a `consume()` of, and its session, if it ends with Ok. -/
def registers? (next : Except Ending Task) : Task → Option (SessionId × Registration)
  | .calling _ _ (.consumed session registration) => match next with
    | .error (.answered (.ok ())) => some (session, registration)
    | _ => none
  | _ => none

/-- The task learns that the last declaration on the session has succeeded. -/
def clones (n : SessionId) (signal : Signal) : Task → Bool
  | .calling session _ (.restored _ _ []) => match signal with
    | .answered (.ok ()) => session = n
    | _ => false
  | _ => false

end Task

namespace Moment

/-- The consumer that a `consume()` returns Ok for in the moment, and its session. -/
def registers? (m : Moment) : Option (SessionId × Registration) :=
  m.activity.bind fun activity => activity.before.registers? activity.next

/-- A `close()` begins in the moment. -/
def clears (m : Moment) : Bool := m.activity.any fun activity => activity.before.clears

/-- The registrations are cloned for the session in the moment. -/
def clones (n : SessionId) (m : Moment) : Bool :=
  m.activity.any fun activity => activity.before.clones n activity.signal

/-- The consumer that a `consume()` on another session returns Ok for in the moment. -/
def misses? (n : SessionId) (m : Moment) : Option Registration :=
  (m.registers?.filter fun entry => entry.1 ≠ n).map Prod.snd

end Moment

/-- The moments after the last one of a kind. -/
def sinceLast (p : Moment → Bool) (history : List Moment) : List Moment :=
  (history.reverse.takeWhile fun m => !p m).reverse

/-- The moments up to the last one of a kind. -/
def untilLast (p : Moment → Bool) (history : List Moment) : List Moment :=
  (history.reverse.dropWhile fun m => !p m).reverse

/-- The consumers whose `consume()` has returned Ok since the last `close()`. -/
def registered (history : List Moment) : List Registration :=
  (sinceLast Moment.clears history).filterMap fun m => m.registers?.map Prod.snd

/-- The registrations cloned for the session. -/
def cloned (n : SessionId) (history : List Moment) : List Registration :=
  history.flatMap fun m => if m.clones n then m.system.client.registrations else []

/-- The consumers whose `consume()` has returned Ok on another session since the last `close()` and
    since the registrations were cloned for this one. -/
def missed (n : SessionId) (history : List Moment) : List Registration :=
  (sinceLast (fun m => m.clears || m.clones n) history).filterMap (Moment.misses? n)

/-- The consumers that were cloned for the session before the last `close()`. -/
def leftover (n : SessionId) (history : List Moment) : List Registration :=
  cloned n (untilLast Moment.clears history)

/-! ## Appending a moment -/

section Concat

variable {n : SessionId} {history : List Moment} {m : Moment}

theorem sinceLast_concat (p : Moment → Bool) :
    sinceLast p (history ++ [m]) = if p m then [] else sinceLast p history ++ [m] := by
  unfold sinceLast
  rw [List.reverse_append, List.reverse_singleton, List.singleton_append, List.takeWhile_cons]
  cases p m <;> simp

theorem untilLast_concat (p : Moment → Bool) :
    untilLast p (history ++ [m]) = if p m then history ++ [m] else untilLast p history := by
  unfold untilLast
  rw [List.reverse_append, List.reverse_singleton, List.singleton_append, List.dropWhile_cons]
  cases p m <;> simp

theorem registered_concat : registered (history ++ [m]) =
    if m.clears then [] else registered history ++ (m.registers?.map Prod.snd).toList := by
  unfold registered
  rw [sinceLast_concat]
  cases m.clears with
  | true => rfl
  | false => exact filterMap_concat _ _ _

theorem cloned_concat : cloned n (history ++ [m]) =
    cloned n history ++ if m.clones n then m.system.client.registrations else [] := by
  simp [cloned]

theorem missed_concat : missed n (history ++ [m]) =
    if m.clears || m.clones n then [] else missed n history ++ (m.misses? n).toList := by
  unfold missed
  rw [sinceLast_concat]
  cases m.clears || m.clones n with
  | true => rfl
  | false => exact filterMap_concat _ _ _

theorem leftover_concat : leftover n (history ++ [m]) =
    if m.clears then cloned n (history ++ [m]) else leftover n history := by
  unfold leftover
  rw [untilLast_concat]
  cases m.clears <;> rfl

end Concat

/-! ## What a step does to the consumers -/

theorem Task.eq_of_clears {t : Task} (h : t.clears) : t = .begin .close := by
  unfold Task.clears at h
  split at h
  · rfl
  · exact nomatch h

theorem Task.uses?_of_registers? {t : Task} {next : Except Ending Task}
    {entry : SessionId × Registration} (h : t.registers? next = some entry) :
    t.uses? = some entry.1 := by
  unfold Task.registers? at h
  split at h
  · split at h
    · cases h
      rfl
    · exact nomatch h
  · exact nomatch h

namespace Client

variable {c : Client} {now : Duration} {id : TaskId} {before : Task} {signal : Signal}
  {reaction : Reaction} {n : SessionId}

/-- A close drops the registrations, and a `consume()` that returns Ok adds its own. -/
theorem Transition.registrations (h : Transition c now id before signal reaction) :
    reaction.client.registrations = if before.clears then [] else
      c.registrations ++ ((before.registers? reaction.next).map Prod.snd).toList := by
  cases h with
  | closes | shuts | registers => rfl
  | queues queues => cases queues <;> exact (List.append_nil _).symm
  | finds takes | unconfigured takes | connects takes | reconnects takes =>
    cases takes <;> exact (List.append_nil _).symm
  | installs completes => cases completes <;> exact (List.append_nil _).symm
  | answers answers =>
    cases answers with
    | @detached operation _ _ kind =>
      cases operation <;> first | exact (List.append_nil _).symm | exact nomatch kind
    | _ => exact (List.append_nil _).symm
  | abandons restores => cases restores <;> exact (List.append_nil _).symm
  | settles =>
    rw [(attends_settle _ _).client]
    exact (List.append_nil _).symm
  | judges =>
    rw [(attends_judge _ _).client]
    exact (List.append_nil _).symm
  | handles goesOn =>
    rw [(attends_handle _ _).client]
    cases goesOn <;> exact (List.append_nil _).symm
  | observes waits seen =>
    rcases waits with rfl | rfl <;> rcases seen with rfl | rfl <;> exact (List.append_nil _).symm
  | _ => exact (List.append_nil _).symm

theorem consumers_of_streaming (session : SessionId) (registration : Registration) :
    [Task.streaming session registration].filterMap (Task.consumer? n) =
      (((some (session, registration)).filter fun entry => entry.1 = n).map Prod.snd).toList := by
  by_cases same : session = n <;> simp [Task.consumer?, Option.filter, same]

/-- Outside an attempt a consumer is only attached by the `consume()` that registers it. -/
theorem Transition.starts_consumers (h : Transition c now id before signal reaction)
    (outside : before.owner? = none) : reaction.started.filterMap (Task.consumer? n) =
      (((before.registers? reaction.next).filter fun entry => entry.1 = n).map Prod.snd).toList := by
  cases h with
  | registers => exact consumers_of_streaming _ _
  | limits | unopened | restores | declares | attaches | reattaches | fails => exact nomatch outside
  | installs completes => cases completes <;> exact nomatch outside
  | abandons restores => cases restores <;> exact nomatch outside
  | queues queues => cases queues <;> rfl
  | finds takes | unconfigured takes | connects takes | reconnects takes => cases takes <;> rfl
  | loses =>
    show (if c.reconnecting then [] else [Task.resting _]).filterMap _ = []
    split <;> rfl
  | settles =>
    rw [(attends_settle _ _).aside.started]
    rfl
  | judges =>
    rw [(attends_judge _ _).aside.started]
    rfl
  | handles goesOn =>
    rw [(attends_handle _ _).aside.started]
    cases goesOn <;> rfl
  | answers answers =>
    cases answers with
    | @detached operation _ _ kind => cases operation <;> rfl
    | _ => rfl
  | observes waits seen => rcases waits with rfl | rfl <;> rcases seen with rfl | rfl <;> rfl
  | _ => rfl

/-- A close leaves no channel behind. -/
theorem Transition.channel_of_clears (h : Transition c now id before signal reaction)
    (clears : before.clears) : reaction.client.channel = none := by
  obtain rfl := Task.eq_of_clears clears
  cases h with
  | closes | shuts => rfl
  | queues queues => exact nomatch queues
  | finds takes | unconfigured takes | connects takes | reconnects takes => exact nomatch takes
  | installs completes => exact nomatch completes
  | handles goesOn => exact nomatch goesOn
  | observes waits => rcases waits with waits | waits <;> exact nomatch waits
  | answers answers =>
    cases answers with
    | detached _ kind => exact nomatch kind

/-- A channel that is installed was installed before, or its attempt has installed it. -/
theorem Transition.channel_of_installed (h : Transition c now id before signal reaction)
    {channel : Channel} (installed : reaction.client.channel = some channel) :
    c.channel = some channel ∨ before.setsUp? = some channel.session := by
  cases h with
  | installs completes =>
    cases installed
    refine .inr ?_
    cases completes <;> rfl
  | finds takes | unconfigured takes | connects takes | reconnects takes =>
    exact .inl (takes.channel.1.symm.trans installed)
  | loses => exact .inl (Option.filter_eq_some_iff.1 installed).1
  | closes | shuts => exact nomatch installed
  | settles =>
    rw [(attends_settle _ _).client] at installed
    exact .inl installed
  | judges =>
    rw [(attends_judge _ _).client] at installed
    exact .inl installed
  | handles =>
    rw [(attends_handle _ _).client] at installed
    exact .inl installed
  | observes _ seen => rcases seen with rfl | rfl <;> exact .inl installed
  | _ => exact .inl installed

end Client

/-! ## The registrations are those of the history -/

theorem Run.registered {settings : Settings} {history : List Moment} {s : System}
    (run : Run settings history s) : s.client.registrations = registered history := by
  induction run with
  | start => rfl
  | @next history s s' move activity run step ih =>
    rw [registered_concat]
    rcases System.step_cases step with ⟨rfl, drift⟩ | ⟨id, task, signal, ready, h, rfl, rfl⟩
    · have same : s'.client.registrations = s.client.registrations := by cases drift <;> rfl
      rw [same, ih]
      exact (List.append_nil _).symm
    · have before : ready.client.registrations = Broker.registered history := by
        rw [h.client]
        exact ih
      have after := (Client.transition_of_readies h).registrations
      rw [before] at after
      exact after

/-! ## Sessions that have been installed -/

section Installed

variable {settings : Settings} {history : List Moment} {s : System} {n : SessionId}

theorem Task.knows?_of_setsUp? {t : Task} (h : t.setsUp? = some n) : t.knows? = some n := by
  cases t with
  | watching => exact nomatch h
  | _ => exact h

/-- A session that is installed after a step was installed before, or its attempt has installed
    it. -/
theorem System.Readies.installs? {ready : System} {move : Move} {id : TaskId} {task : Task}
    {signal : Signal} (h : s.Readies move id task signal ready)
    (installed : (ready.absorb id (ready.client.resume ready.now id task signal)).installed n) :
    s.installed n ∨ task.setsUp? = some n := by
  obtain ⟨channel, here, rfl⟩ := System.installed_iff.1 installed
  rcases (Client.transition_of_readies h).channel_of_installed here with before | own
  · rw [h.client] at before
    exact .inl (System.installed_iff.2 ⟨channel, before, rfl⟩)
  · exact .inr own

theorem System.Drifts.installed {s' : System} {move : Move} (drift : s.Drifts move s') :
    s'.installed n = s.installed n :=
  congrArg (Option.any fun channel : Channel => channel.session = n)
    (congrArg Link.channel drift.link.1)

theorem Run.opened_of_installed (run : Run settings history s) (installed : s.installed n) :
    0 < n ∧ n ≤ s.sessions := by
  induction run with
  | start => exact nomatch installed
  | @next history s s' move activity run step ih =>
    have grown := (System.sessions_step step).1
    rcases System.step_cases step with ⟨-, drift⟩ | ⟨id, task, signal, ready, h, rfl, -⟩
    · obtain ⟨pos, le⟩ := ih (drift.installed (n := n) ▸ installed)
      exact ⟨pos, Nat.le_trans le grown⟩
    · have opened : 0 < n ∧ n ≤ s.sessions := by
        rcases h.installs? installed with before | own
        · exact ih before
        · exact run.opened h.found (Task.knows?_of_setsUp? own)
      exact ⟨opened.1, Nat.le_trans opened.2 grown⟩

/-- What has been installed had been opened. -/
theorem Run.opened_of_mem (run : Run settings history s) {m : Moment} (mem : m ∈ history)
    (installed : m.system.installed n) : n ≤ s.sessions := by
  obtain ⟨earlier, later, rfl⟩ := List.append_of_mem mem
  exact Nat.le_trans (run.split.1.opened_of_installed installed).2 (run.sessions_le m mem).1

/-- Whoever sets up a session after a step was setting it up before, or has only just been given
    it. -/
theorem Run.setsUp?_of_absorb (run : Run settings history s) {ready : System} {move : Move}
    {id other : TaskId} {task t : Task} {signal : Signal}
    (h : s.Readies move id task signal ready)
    (found : (ready.absorb id (ready.client.resume ready.now id task signal)).task? other = some t)
    (own : t.setsUp? = some n) :
    (∃ before, s.task? other = some before ∧ before.setsUp? = some n) ∨ n = s.sessions + 1 := by
  have transition := Client.transition_of_readies h
  have attempt := Task.owner?_of_setsUp? own
  rcases (h.follows run.numbered _).origin other t found with
    ⟨-, old⟩ | ⟨rfl, goesOn⟩ | ⟨k, -, starts⟩
  · exact .inl ⟨t, old, own⟩
  · rcases transition.knows? (run.consistent other task h.found) (.inl goesOn)
      (Task.knows?_of_setsUp? own) with known | answer
    · -- the step goes on with the attempt it was in
      refine .inl ⟨task, h.found, ?_⟩
      cases Client.attempts_of_transition transition goesOn attempt with
      | opens => exact nomatch own
      | calls before =>
        cases task with
        | watching => exact nomatch before
        | _ => exact known
    · exact .inr (h.opened answer).1
  · have outside := (shift_of_readies h).owner?_started (List.mem_of_getElem? starts)
    rw [outside] at attempt
    exact nomatch attempt

/-- The session that an attempt sets up has never been installed. -/
theorem Run.uninstalled_of_setsUp? (run : Run settings history s) {id : TaskId} {t : Task}
    (found : s.task? id = some t) (own : t.setsUp? = some n) :
    ∀ m ∈ history, ¬ m.system.installed n := by
  induction run generalizing id t with
  | start => exact nomatch found
  | @next history s s' move activity run step ih =>
    have kept : ∀ id t, s.task? id = some t → t.setsUp? = some n →
        ∀ m ∈ history ++ [⟨s, move, activity⟩], ¬ m.system.installed n := by
      intro id t found own m mem
      rcases List.mem_append.1 mem with old | new
      · exact ih found own m old
      · rw [List.mem_singleton.1 new]
        exact run.uninstalled_of_attempt found (Task.owner?_of_setsUp? own) n
    rcases System.step_cases step with ⟨-, drift⟩ | ⟨other, task, signal, ready, h, rfl, -⟩
    · rcases drift.origin run.numbered found with old | ⟨-, operation, -, rfl⟩
      · exact kept id t old own
      · exact nomatch own
    · rcases run.setsUp?_of_absorb h found own with ⟨before, old, own'⟩ | rfl
      · exact kept id before old own'
      · -- the session has only just been opened
        intro m mem installed
        rcases List.mem_append.1 mem with old | new
        · exact Nat.not_succ_le_self _ (run.opened_of_mem old installed)
        · rw [List.mem_singleton.1 new] at installed
          exact Nat.not_succ_le_self _ (run.opened_of_installed installed).2

end Installed

/-! ## What is booked for a session -/

/-- Nothing has been attached to the session, and nothing has been cloned for it. -/
structure Blank (n : SessionId) (history : List Moment) : Prop where
  attached : attached n history = []
  cloned : cloned n history = []
  leftover : leftover n history = []
  missed : missed n history = registered history

/-- With those missed, the consumers are the ones registered and the ones left over. -/
def Balanced (n : SessionId) (history : List Moment) (consumers : List Registration) : Prop :=
  (consumers ++ missed n history).Perm (registered history ++ leftover n history)

/-- What is booked for a session while a task sets it up: nothing until the registrations are
    cloned, and from then on what has been attached and what is still to attach. -/
inductive Books (n : SessionId) (history : List Moment) : Task → Prop
  | limited {session : SessionId} {call : Call} {owner : Owner} {restoring : Bool}
      (blank : Blank n history) : Books n history (.calling session call (.limited owner restoring))
  | restored {session : SessionId} {call : Call} {owner : Owner} {channel : Channel}
      {rest : List Declaration} (blank : Blank n history) :
      Books n history (.calling session call (.restored owner channel rest))
  | attached {session : SessionId} {call : Call} {owner : Owner} {channel : Channel}
      {current : Registration} {rest : List Registration}
      (split : attached n history ++ current :: rest = cloned n history)
      (balanced : Balanced n history (cloned n history)) :
      Books n history (.calling session call (.attached owner channel current rest))
  | abandoned {session : SessionId} {call : Call} {owner : Owner} {fault : Fault} :
      Books n history (.calling session call (.abandoned owner fault))

/-- The moment has no part in attaching consumers to the session. -/
structure Moment.Passes (n : SessionId) (m : Moment) : Prop where
  attaches : m.attaches n = []
  clones : m.clones n = false
  registers : ∀ entry, m.registers? = some entry → entry.1 ≠ n

section Passes

variable {n : SessionId} {history : List Moment} {m : Moment} {consumers : List Registration}

/-- The consumers on a session stay balanced when each that is registered is attached or missed. -/
theorem Balanced.step (balanced : Balanced n history consumers) (uncleared : m.clears = false)
    (uncloned : m.clones n = false) {more : List Registration}
    (split : more ++ (m.misses? n).toList = (m.registers?.map Prod.snd).toList) :
    Balanced n (history ++ [m]) (consumers ++ more) := by
  unfold Balanced at balanced ⊢
  rw [missed_concat, registered_concat, leftover_concat, uncleared, uncloned, ← split]
  simp only [Bool.or_self, Bool.false_eq_true, if_false]
  rw [← Multiset.coe_eq_coe] at balanced ⊢
  simp only [← Multiset.coe_add] at balanced ⊢
  calc (consumers + more + (missed n history + (m.misses? n).toList) : Multiset Registration)
      = (consumers + missed n history) + (more + (m.misses? n).toList) := by abel
    _ = _ := by rw [balanced]; abel

/-- After a close all that was cloned for a session is left over. -/
theorem balanced_of_clears (cleared : m.clears) :
    Balanced n (history ++ [m]) (cloned n (history ++ [m])) := by
  unfold Balanced
  rw [missed_concat, registered_concat, leftover_concat, cleared]
  simp

theorem Moment.Passes.misses? (passes : m.Passes n) : m.misses? n = m.registers?.map Prod.snd := by
  unfold Moment.misses?
  cases h : m.registers? with
  | none => rfl
  | some entry =>
    have other := passes.registers entry h
    simp [Option.filter, other]

theorem Moment.Passes.cloned_concat (passes : m.Passes n) :
    cloned n (history ++ [m]) = cloned n history := by
  rw [Broker.cloned_concat, passes.clones]
  exact List.append_nil _

theorem Moment.Passes.attached_concat (passes : m.Passes n) :
    attached n (history ++ [m]) = attached n history := by
  rw [Broker.attached_concat, passes.attaches, List.append_nil]

theorem Blank.passes (blank : Blank n history) (passes : m.Passes n) : Blank n (history ++ [m]) where
  attached := passes.attached_concat.trans blank.attached
  cloned := passes.cloned_concat.trans blank.cloned
  leftover := by
    rw [leftover_concat, passes.cloned_concat, blank.cloned, blank.leftover, ite_self]
  missed := by
    rw [missed_concat, registered_concat, passes.clones, passes.misses?, blank.missed,
      Bool.or_false]

theorem Books.passes {t : Task} (books : Books n history t) (passes : m.Passes n) :
    Books n (history ++ [m]) t := by
  cases books with
  | limited blank => exact .limited (blank.passes passes)
  | restored blank => exact .restored (blank.passes passes)
  | attached split balanced =>
    refine .attached (by rw [passes.attached_concat, passes.cloned_concat, split]) ?_
    cases cleared : m.clears with
    | true => exact balanced_of_clears cleared
    | false =>
      have same : Balanced n (history ++ [m]) (cloned n history ++ []) :=
        balanced.step cleared passes.clones (by rw [passes.misses?]; rfl)
      rwa [List.append_nil, ← passes.cloned_concat] at same
  | abandoned => exact .abandoned

theorem Blank.balanced (blank : Blank n history) :
    Balanced n history (Broker.attached n history) := by
  unfold Balanced
  rw [blank.attached, blank.missed, blank.leftover, List.append_nil]
  exact .refl _

end Passes

/-! ## What a step does to the bookings -/

/-- The moment shows the step of a task to its reaction. -/
structure Moment.Shows (m : Moment) (c : Client) (before : Task) (signal : Signal)
    (reaction : Reaction) : Prop where
  attaches : ∀ n, m.attaches n = reaction.started.filterMap (Task.consumer? n)
  clones : ∀ n, m.clones n = before.clones n signal
  clears : m.clears = before.clears
  registers? : m.registers? = before.registers? reaction.next
  registrations : m.system.client.registrations = c.registrations

theorem shows_activity {s ready : System} {move : Move} {id : TaskId} {task : Task}
    {signal : Signal} (h : s.Readies move id task signal ready) :
    Moment.Shows ⟨s, move, some (ready.activity id task signal)⟩ ready.client task signal
      (ready.client.resume ready.now id task signal) where
  attaches _ := attaches_activity
  clones _ := rfl
  clears := rfl
  registers? := rfl
  registrations := by rw [h.client]

theorem passes_still {n : SessionId} {s : System} {move : Move} :
    Moment.Passes n ⟨s, move, none⟩ := ⟨rfl, rfl, fun _ h => nomatch h⟩

section Step

variable {n : SessionId} {history : List Moment} {m : Moment} {c : Client} {now : Duration}
  {before : Task} {signal : Signal} {reaction : Reaction}

/-- The registrations are only cloned for a session by its attempt. -/
theorem Task.setsUp?_of_clones (clones : before.clones n signal) (consistent : before.Consistent) :
    before.setsUp? = some n := by
  unfold Task.clones at clones
  split at clones
  · split at clones
    · exact congrArg some (consistent.trans (of_decide_eq_true clones))
    · exact nomatch clones
  · exact nomatch clones

theorem Moment.Shows.passes (shows : m.Shows c before signal reaction)
    (spares : Client.Spares n before reaction) (other : before.setsUp? ≠ some n)
    (consistent : before.Consistent) (unused : before.uses? ≠ some n) : m.Passes n where
  attaches := by
    rw [shows.attaches]
    exact List.filterMap_eq_nil_iff.2 fun t ht =>
      Task.consumer?_of_streams? (spares.starts t ht).2.2.2
  clones := by
    rw [shows.clones]
    exact Bool.eq_false_iff.2 fun clones => other (Task.setsUp?_of_clones clones consistent)
  registers entry registers same := by
    rw [shows.registers?] at registers
    exact unused (same ▸ Task.uses?_of_registers? registers)

/-- A step of an attempt registers nothing and drops nothing. -/
theorem Moment.Shows.aside (shows : m.Shows c before signal reaction) (own : before.setsUp? = some n) :
    m.clears = false ∧ m.registers? = none := by
  rw [shows.clears, shows.registers?]
  cases before with
  | begin => exact nomatch own
  | calling session call after => cases after <;> first | exact ⟨rfl, rfl⟩ | exact nomatch own
  | _ => exact ⟨rfl, rfl⟩

/-- A step of an attempt that neither clones nor attaches. -/
theorem Moment.Shows.passes_own (shows : m.Shows c before signal reaction)
    (own : before.setsUp? = some n) (uncloned : before.clones n signal = false)
    (unattached : reaction.started.filterMap (Task.consumer? n) = []) : m.Passes n where
  attaches := (shows.attaches n).trans unattached
  clones := (shows.clones n).trans uncloned
  registers _ registers := nomatch registers.symm.trans (shows.aside own).2

/-- When the registrations are cloned for a session, nothing has been attached to it, missed on it or
    left over. -/
theorem Moment.Shows.cloned (shows : m.Shows c before signal reaction) (blank : Blank n history)
    (own : before.setsUp? = some n) (clones : before.clones n signal)
    (unattached : reaction.started.filterMap (Task.consumer? n) = [])
    (known : c.registrations = registered history) :
    Broker.attached n (history ++ [m]) = [] ∧ Broker.cloned n (history ++ [m]) = c.registrations ∧
      Balanced n (history ++ [m]) c.registrations := by
  obtain ⟨uncleared, unregistered⟩ := shows.aside own
  refine ⟨?_, ?_, ?_⟩
  · rw [attached_concat, blank.attached, shows.attaches, unattached, List.append_nil]
  · rw [cloned_concat, blank.cloned, shows.clones, clones, if_pos rfl, shows.registrations,
      List.nil_append]
  · unfold Balanced
    rw [missed_concat, registered_concat, leftover_concat, uncleared, shows.clones, clones,
      unregistered, blank.leftover, known]
    simp

/-- When a consumer of a session is attached, it is one more of those that were cloned. -/
theorem Moment.Shows.attached (shows : m.Shows c before signal reaction)
    (own : before.setsUp? = some n) (uncloned : before.clones n signal = false)
    {current : Registration} {rest : List Registration}
    (attaches : reaction.started.filterMap (Task.consumer? n) = [current])
    (split : Broker.attached n history ++ current :: rest = Broker.cloned n history)
    (balanced : Balanced n history (Broker.cloned n history)) :
    Broker.attached n (history ++ [m]) ++ rest = Broker.cloned n (history ++ [m]) ∧
      Balanced n (history ++ [m]) (Broker.cloned n (history ++ [m])) := by
  obtain ⟨uncleared, unregistered⟩ := shows.aside own
  have clones : m.clones n = false := (shows.clones n).trans uncloned
  have same : Broker.cloned n (history ++ [m]) = Broker.cloned n history := by
    rw [cloned_concat, clones]
    exact List.append_nil _
  refine ⟨?_, ?_⟩
  · rw [same, attached_concat, shows.attaches, attaches, List.append_assoc]
    exact split
  · have kept : Balanced n (history ++ [m]) (Broker.cloned n history ++ []) := by
      refine balanced.step uncleared clones ?_
      rw [Moment.misses?, unregistered]
      rfl
    rwa [List.append_nil, ← same] at kept

theorem filterMap_streaming (n : SessionId) (registration : Registration) :
    [Task.streaming n registration].filterMap (Task.consumer? n) = [registration] := by
  simp [Task.consumer?]

/-- The attempt of a session books its consumers one by one. -/
theorem Books.advance (books : Books n history before) (shows : m.Shows c before signal reaction)
    (serves : Client.Serves c now n before signal reaction) (own : before.setsUp? = some n)
    (known : c.registrations = registered history) {t : Task} (ht : reaction.next = .ok t)
    (goesOn : t.setsUp? = some n) : Books n (history ++ [m]) t := by
  cases serves with
  | spares other => exact absurd own other
  | limits => exact nomatch own
  | restores =>
    cases ht
    cases books with
    | limited blank => exact .restored (blank.passes (shows.passes_own own rfl rfl))
  | declares =>
    cases ht
    cases books with
    | restored blank => exact .restored (blank.passes (shows.passes_own own rfl rfl))
  | attaches same clone =>
    cases ht
    cases books with
    | restored blank =>
      obtain ⟨unattached, all, balanced⟩ :=
        shows.cloned blank own (decide_eq_true rfl) rfl known
      refine .attached ?_ (all ▸ balanced)
      rw [unattached, all, clone]
      rfl
  | reattaches =>
    cases ht
    cases books with
    | attached split balanced =>
      obtain ⟨split, balanced⟩ :=
        shows.attached own rfl (filterMap_streaming n _) split balanced
      exact .attached split balanced
  | installs | fails =>
    rw [(Client.concludes_conclusion _ _).resting ht] at goesOn
    exact nomatch goesOn
  | abandons =>
    cases ht
    exact .abandoned

/-- A session is installed with its bookings balanced. -/
theorem Books.complete {owner : Owner} {channel : Channel} {ready : Client} {started : List Task}
    (books : Books n history before) (shows : m.Shows c before signal reaction)
    (completes : Client.Completes c before signal owner channel ready started)
    (starts : reaction.started = started) (own : before.setsUp? = some n)
    (consistent : before.Consistent) (known : c.registrations = registered history) :
    Balanced n (history ++ [m]) (Broker.attached n (history ++ [m])) := by
  cases completes with
  | limited =>
    cases books with
    | limited blank =>
      have unattached : reaction.started.filterMap (Task.consumer? n) = [] := by
        rw [starts]
        rfl
      exact (blank.passes (shows.passes_own own rfl unattached)).balanced
  | restored missing =>
    obtain rfl : channel.session = _ := consistent
    obtain rfl : channel.session = n := Option.some.inj own
    cases books with
    | restored blank =>
      have unattached : reaction.started.filterMap (Task.consumer? channel.session) = [] := by
        rw [starts]
        rfl
      obtain ⟨none, -, balanced⟩ :=
        shows.cloned blank own (decide_eq_true rfl) unattached known
      rwa [none, ← missing]
  | @attached _ _ _ _ current =>
    obtain rfl : channel.session = _ := consistent
    obtain rfl : channel.session = n := Option.some.inj own
    cases books with
    | attached split balanced =>
      have attaches : reaction.started.filterMap (Task.consumer? channel.session) = [current] := by
        rw [starts]
        exact filterMap_streaming _ current
      obtain ⟨split, balanced⟩ := shows.attached own rfl attaches split balanced
      rw [List.append_nil] at split
      rwa [split]

/-- Outside an attempt a consumer that is registered is attached to the session or missed on it. -/
theorem Balanced.absorb (balanced : Balanced n history (Broker.attached n history))
    (shows : m.Shows c before signal reaction) {id : TaskId}
    (transition : Client.Transition c now id before signal reaction)
    (outside : before.owner? = none) (consistent : before.Consistent)
    (unclosed : reaction.client.channel.isSome) :
    Balanced n (history ++ [m]) (Broker.attached n (history ++ [m])) := by
  have uncleared : m.clears = false := by
    rw [shows.clears]
    refine Bool.eq_false_iff.2 fun clears => ?_
    rw [transition.channel_of_clears clears] at unclosed
    exact nomatch unclosed
  have uncloned : m.clones n = false := by
    rw [shows.clones]
    refine Bool.eq_false_iff.2 fun clones => ?_
    have attempt := Task.owner?_of_setsUp? (Task.setsUp?_of_clones clones consistent)
    rw [outside] at attempt
    exact nomatch attempt
  rw [attached_concat]
  refine balanced.step uncleared uncloned ?_
  rw [shows.attaches, transition.starts_consumers outside, Moment.misses?, shows.registers?]
  cases before.registers? reaction.next with
  | none => rfl
  | some entry => by_cases same : entry.1 = n <;> simp [Option.filter, same]

end Step

/-! ## The bookings of a run -/

/-- What is booked for a session at a point of a run. -/
structure Booked (history : List Moment) (s : System) (n : SessionId) : Prop where
  unopened : s.sessions < n → Blank n history
  books : ∀ id t, s.task? id = some t → t.setsUp? = some n → Books n history t
  installed : s.installed n → Balanced n history (attached n history)

section Booked

variable {settings : Settings} {history : List Moment} {s s' ready : System} {move : Move}
  {id : TaskId} {task : Task} {signal : Signal} {n : SessionId}

theorem Booked.drift (booked : Booked history s n) (numbered : s.Numbered)
    (drift : s.Drifts move s') : Booked (history ++ [⟨s, move, none⟩]) s' n where
  unopened unopened := (booked.unopened (by cases drift <;> exact unopened)).passes passes_still
  books id t ht own := by
    rcases drift.origin numbered ht with old | ⟨-, operation, -, rfl⟩
    · exact (booked.books id t old own).passes passes_still
    · exact nomatch own
  installed installed := by
    rw [drift.installed] at installed
    rw [attached_concat]
    exact (booked.installed installed).step rfl rfl rfl

theorem Booked.spares (booked : Booked history s n) (run : Run settings history s)
    (h : s.Readies move id task signal ready) (uninstalled : ¬ s.installed n)
    (other : task.setsUp? ≠ some n) (unused : task.uses? ≠ some n)
    (spares : Client.Spares n task (ready.client.resume ready.now id task signal)) :
    Booked (history ++ [⟨s, move, some (ready.activity id task signal)⟩])
      (ready.absorb id (ready.client.resume ready.now id task signal)) n := by
  have passes := (shows_activity h).passes spares other (run.consistent id task h.found) unused
  refine ⟨?_, ?_, ?_⟩
  · intro unopened
    exact (booked.unopened (Nat.lt_of_le_of_lt h.sessions.1 unopened)).passes passes
  · intro id t ht on
    rcases (h.follows run.numbered _).origin id t ht with ⟨-, old⟩ | ⟨-, goesOn⟩ | ⟨k, -, starts⟩
    · exact (booked.books id t old on).passes passes
    · exact absurd on (spares.setsUp t goesOn)
    · exact nomatch (spares.starts t (List.mem_of_getElem? starts)).2.1.symm.trans on
  · intro installed
    rcases h.installs? installed with before | own
    · exact absurd before uninstalled
    · exact absurd own other

/-- Nothing is booked for a session when the connector returns it. -/
theorem Booked.limits (booked : Booked history s n) (run : Run settings history s)
    (h : s.Readies move id task signal ready) (uninstalled : ¬ s.installed n) {owner : Owner}
    {restoring : Bool} (before : task = .opening owner restoring)
    (answer : signal = .opened (.ok n)) :
    Booked (history ++ [⟨s, move, some (ready.activity id task signal)⟩])
      (ready.absorb id (ready.client.resume ready.now id task signal)) n := by
  have unopened : s.sessions < n := by
    rw [(h.opened answer).1]
    exact Nat.lt_succ_self _
  subst before answer
  have passes : Moment.Passes n
      ⟨s, move, some (ready.activity id (.opening owner restoring) (.opened (.ok n)))⟩ :=
    ⟨rfl, rfl, fun _ registers => nomatch registers⟩
  have blank := (booked.unopened unopened).passes passes
  refine ⟨fun _ => blank, ?_, ?_⟩
  · intro other t ht on
    rcases (h.follows run.numbered _).origin other t ht with
      ⟨-, old⟩ | ⟨-, goesOn⟩ | ⟨k, -, starts⟩
    · exact (booked.books other t old on).passes passes
    · cases goesOn
      exact .limited blank
    · exact nomatch starts
  · intro installed
    rcases h.installs? installed with before | own
    · exact absurd before uninstalled
    · exact nomatch own

/-- The attempt of a session goes on with its bookings, and installs the session with them. -/
theorem Booked.advances (booked : Booked history s n) (run : Run settings history s)
    (h : s.Readies move id task signal ready) (uninstalled : ¬ s.installed n)
    (own : task.setsUp? = some n)
    (serves : Client.Serves ready.client ready.now n task signal
      (ready.client.resume ready.now id task signal)) :
    Booked (history ++ [⟨s, move, some (ready.activity id task signal)⟩])
      (ready.absorb id (ready.client.resume ready.now id task signal)) n := by
  have books := booked.books id task h.found own
  have shows := shows_activity h
  have known : ready.client.registrations = registered history := by
    rw [h.client]
    exact run.registered
  refine ⟨?_, ?_, ?_⟩
  · intro unopened
    have opened := (run.opened h.found (Task.knows?_of_setsUp? own)).2
    exact absurd (Nat.le_trans opened h.sessions.1) (Nat.not_le_of_lt unopened)
  · intro other t ht on
    rcases (h.follows run.numbered _).origin other t ht with
      ⟨ne, old⟩ | ⟨-, goesOn⟩ | ⟨k, -, starts⟩
    · exact absurd (run.sound.same_attempt old (Task.owner?_of_setsUp? on) h.found
        (Task.owner?_of_setsUp? own)) ne
    · exact books.advance shows serves own known goesOn on
    · exact nomatch (serves.starts (List.mem_of_getElem? starts)).2.1.symm.trans on
  · intro installed
    obtain ⟨channel, here, on⟩ := System.installed_iff.1 installed
    rcases serves.installs? here on with before | ⟨-, _, _, completes⟩
    · rw [h.client] at before
      exact absurd (System.installed_iff.2 ⟨channel, before, on⟩) uninstalled
    · exact books.complete shows completes rfl own (run.consistent id task h.found) known

/-- A step while the session has never been installed. -/
theorem Booked.serves (booked : Booked history s n) (run : Run settings history s)
    (h : s.Readies move id task signal ready)
    (never : ∀ m ∈ history, ¬ m.system.installed n) (uninstalled : ¬ s.installed n) :
    Booked (history ++ [⟨s, move, some (ready.activity id task signal)⟩])
      (ready.absorb id (ready.client.resume ready.now id task signal)) n := by
  have prepared := run.prepared n never
  have serves := prepared.serves run h uninstalled
  rcases serves.kinds with ⟨other, spares⟩ | ⟨owner, restoring, before, answer, -⟩ | own
  · exact booked.spares run h uninstalled other (prepared.unused id task h.found) spares
  · exact booked.limits run h uninstalled before answer
  · exact booked.advances run h uninstalled own serves

/-- A step when the session is installed, or has been and is no more. -/
theorem Booked.absorb (booked : Booked history s n) (run : Run settings history s)
    (h : s.Readies move id task signal ready)
    (run' : Run settings (history ++ [⟨s, move, some (ready.activity id task signal)⟩])
      (ready.absorb id (ready.client.resume ready.now id task signal)))
    {m : Moment} (mem : m ∈ history ++ [⟨s, move, some (ready.activity id task signal)⟩])
    (past : m.system.installed n) :
    Booked (history ++ [⟨s, move, some (ready.activity id task signal)⟩])
      (ready.absorb id (ready.client.resume ready.now id task signal)) n where
  unopened unopened := absurd (run'.opened_of_mem mem past) (Nat.not_le_of_lt unopened)
  books other t ht own := absurd past (run'.uninstalled_of_setsUp? ht own m mem)
  installed installed := by
    have before : s.installed n := by
      rcases h.installs? installed with before | own
      · exact before
      · rcases List.mem_append.1 mem with old | new
        · exact absurd past (run.uninstalled_of_setsUp? h.found own m old)
        · rwa [List.mem_singleton.1 new] at past
    have outside : task.owner? = none := Option.not_isSome_iff_eq_none.1 fun attempt =>
      run.uninstalled_of_attempt h.found attempt n before
    obtain ⟨channel, here, -⟩ := System.installed_iff.1 installed
    exact (booked.installed before).absorb (shows_activity h) (Client.transition_of_readies h)
      outside (run.consistent id task h.found) (Option.isSome_of_eq_some here)

end Booked

theorem Run.booked {settings : Settings} {history : List Moment} {s : System}
    (run : Run settings history s) (n : SessionId) : Booked history s n := by
  induction run with
  | start => exact ⟨fun _ => ⟨rfl, rfl, rfl, rfl⟩, fun _ _ ht => (nomatch ht), fun on => nomatch on⟩
  | @next history s s' move activity run step ih =>
    have run' := run.next step
    rcases System.step_cases step with ⟨rfl, drift⟩ | ⟨id, task, signal, ready, h, rfl, rfl⟩
    · exact ih.drift run.numbered drift
    · by_cases never : ∀ m ∈ history, ¬ m.system.installed n
      · by_cases here : s.installed n
        · exact ih.absorb run h run' (List.mem_append_right _ (List.mem_singleton.2 rfl)) here
        · exact ih.serves run h never here
      · obtain ⟨m, mem, past⟩ : ∃ m ∈ history, m.system.installed n := by simpa using never
        exact ih.absorb run h run' (List.mem_append_left _ mem) past

/-! ## The consumers of the installed session -/

/-- On the installed session stream, with those whose streams have ended and those missed, the
    consumers that are registered and those left over; it has exactly the registered ones if and only
    if the rest cancels out. -/
theorem consumers_perm_iff {settings : Settings} {history : List Moment} {s : System}
    (run : Run settings history s) {channel : Channel} (installed : s.client.channel = some channel) :
    (s.consumers channel.session ++ ended channel.session history ++
        missed channel.session history).Perm
      (registered history ++ leftover channel.session history) ∧
    ((s.consumers channel.session).Perm (registered history) ↔
      (ended channel.session history ++ missed channel.session history).Perm
        (leftover channel.session history)) := by
  have here : s.installed channel.session := System.installed_iff.2 ⟨channel, installed, rfl⟩
  have law := ((run.streaming channel.session).append_right (missed channel.session history)).trans
    ((run.booked channel.session).installed here)
  refine ⟨law, ?_, ?_⟩
  · intro same
    rw [List.append_assoc] at law
    exact (List.perm_append_left_iff _).1 ((same.symm.append_right _).trans law)
  · intro same
    rw [List.append_assoc] at law
    exact (List.perm_append_right_iff _).1 (law.trans (same.symm.append_left _))

theorem consumers_perm_iff_reconnection : ∃ history s channel, Run bareSettings history s ∧
    s.client.channel = some channel ∧ channel.session = 2 ∧ (registered history).length = 1 ∧
      (s.consumers channel.session).Perm (registered history) := by
  let e : Execution bareSettings := .ofMoves bareSettings reconnection rfl
  have installed : (e.system 18).client.channel = some ⟨2, 2⟩ := rfl
  have one : (registered (e.history 18)).length = 1 := by decide +kernel
  have rest : ended 2 (e.history 18) ++ missed 2 (e.history 18) = leftover 2 (e.history 18) := rfl
  exact ⟨_, _, _, e.run 18, installed, rfl, one,
    (consumers_perm_iff (e.run 18) installed).2.2 (.of_eq rest)⟩

/-- A client loses its session while a caller registers a consumer. The client is connected again when
    the broker's answer comes in. -/
def lossDuringConsume : List Move :=
  [.begin .connect, .resume 0 .turn, .connect 0, .resume 0 (.answered (.ok ())),
    .begin (.consume ⟨"recall", fun _ => .done .ok⟩), .resume 2 .turn, .lose 1, .resume 1 .lost,
    .pass (.ofSeconds 1), .resume 3 .elapsed, .connect 3, .resume 3 (.answered (.ok ())),
    .resume 3 (.answered (.ok ())), .resume 3 (.answered (.ok ())), .resume 3 (.answered (.ok ())),
    .resume 3 (.answered (.ok ())), .resume 2 (.answered (.ok ()))]

/-- A `consume()` that is answered after a recovery is registered, but its consumer is on the lost
    session only: nothing is under way any more, and nothing streams from the session in use. -/
theorem unattached_of_lossDuringConsume : ∃ history s channel, Run bareSettings history s ∧
    (∀ m ∈ history, ∀ id, m.move ≠ .resume id .streamEnded) ∧
    (∀ entry ∈ s.tasks, entry.2.isOperation = false ∧ entry.2.isLoop = false) ∧
    s.client.lock = [] ∧ s.client.state = .connected ∧ s.client.channel = some channel ∧
    channel.session ∉ s.lost ∧ (registered history).length = 1 ∧
    s.consumers channel.session = [] ∧
    ¬ (s.consumers channel.session).Perm (registered history) := by
  let e : Execution bareSettings := .ofMoves bareSettings lossDuringConsume rfl
  have moves : (e.history 17).map Moment.move = lossDuringConsume := rfl
  have flowing : ∀ m ∈ e.history 17, ∀ id, m.move ≠ .resume id .streamEnded := by
    intro m hm id same
    have mem := List.mem_map_of_mem (f := Moment.move) hm
    rw [moves, same] at mem
    simp [lossDuringConsume] at mem
  have still : (e.system 17).tasks.all fun entry => !entry.2.isOperation && !entry.2.isLoop := rfl
  have one : (registered (e.history 17)).length = 1 := by decide +kernel
  have none : (e.system 17).consumers 2 = [] := rfl
  refine ⟨_, _, ⟨2, 2⟩, e.run 17, flowing, ?_, rfl, rfl, rfl, ?_, one, none, ?_⟩
  · intro entry mem
    simpa using List.all_eq_true.1 still entry mem
  · decide +kernel
  · intro same
    have length := same.length_eq
    rw [one, none] at length
    exact nomatch length

end Laneway.Broker
