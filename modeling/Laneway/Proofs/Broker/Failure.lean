import Laneway.Proofs.Broker.Closing
import Laneway.Proofs.Broker.Outage

set_option autoImplicit false

/-! # Attempts that fail

An attempt can fail at any of its calls, and by then its session may have been limited, declared on
and attached to. Whatever the point, the session is closed before the error is returned, and nothing
of the client has changed but its state, which is back to disconnected: the channel and the mark of
earlier sessions are only written by an attempt that succeeds, the registrations by none. So the
next attempt finds nothing to go on from, and starts with a session of its own. -/

namespace Laneway.Broker

/-! ## What a history says about attempts -/

/-- The task seeks the connect lock for an attempt, or it is in the middle of one. -/
def Task.Pursues (owner : Owner) (t : Task) : Prop := t.Seeks owner ∨ t.owner? = some owner

/-- A call of an attempt has come back with the fault: that of the connector, the limit, a
    declaration or the consumer of a registration. -/
inductive Task.Refused (owner : Owner) (fault : Fault) : Task → Signal → Prop
  | opening {restoring : Bool} :
      Refused owner fault (.opening owner restoring) (.opened (.error fault))
  | calling {n : SessionId} {call : Call} {after : After} (restores : Client.Restores owner after) :
      Refused owner fault (.calling n call after) (.answered (.error fault))

/-- The task waits for its session to be closed, to end its attempt with the fault then. -/
def System.GivesUp (s : System) (id : TaskId) (owner : Owner) (fault : Fault) : Prop :=
  ∃ n, s.task? id = some (.calling n .close (.abandoned owner fault))

namespace Moment

/-- In this moment the task takes a step of an attempt, from seeking the lock to the end. -/
def Pursues (m : Moment) (id : TaskId) (owner : Owner) : Prop :=
  ∃ activity, m.activity = some activity ∧ activity.id = id ∧ activity.before.Pursues owner

/-- In this moment a call of an attempt of the task comes back with the fault. -/
def Refuses (m : Moment) (id : TaskId) (owner : Owner) (fault : Fault) : Prop :=
  ∃ activity, m.activity = some activity ∧ activity.id = id ∧
    activity.before.Refused owner fault activity.signal

/-- In this moment an attempt of the task ends with the fault, which a caller is told and after
    which a loop sleeps. -/
def Fails (m : Moment) (id : TaskId) (owner : Owner) (fault : Fault) : Prop :=
  ∃ activity wake, m.activity = some activity ∧ activity.id = id ∧
    activity.before.Pursues owner ∧ Link.Concludes wake owner (.error fault) activity.next

/-- In this moment an attempt begins: with the lock in hand its task asks the connector for a
    session. -/
def Asks (m : Moment) : Prop :=
  ∃ activity owner restoring, m.activity = some activity ∧
    activity.next = .ok (.opening owner restoring)

end Moment

def Call.isClose : Call → Bool
  | .close => true
  | _ => false

/-- The close calls on the session. -/
def closeCalls (n : SessionId) (history : List Moment) : List Call :=
  (calls n history).filter Call.isClose

/-! ## What a step of an attempt leaves as it was -/

theorem Task.Seeks.unique {owner other : Owner} {t : Task} (one : t.Seeks owner)
    (two : t.Seeks other) : owner = other := by
  cases one <;> cases two <;> rfl

theorem Link.Concludes.ended {wake : Duration} {owner : Owner} {next : Except Ending Task}
    (ends : Link.Concludes wake owner (.ok ()) next) (t : Task) : next ≠ .ok t := by
  cases ends <;> exact nofun

theorem Link.Concludes.not_error {wake wake' : Duration} {owner owner' : Owner} {fault : Fault}
    {next : Except Ending Task} (ends : Link.Concludes wake owner (.ok ()) next) :
    ¬ Link.Concludes wake' owner' (.error fault) next := by
  intro failed
  cases ends <;> exact nomatch failed

namespace Client

variable {c : Client} {now : Duration} {id : TaskId} {before : Task} {signal : Signal}
  {reaction : Reaction} {owner : Owner} {n : SessionId}

theorem Answers.not_pursues {result : Except Fault Unit} (h : Answers c before signal result) :
    ¬ before.Pursues owner := by
  rintro (seeks | attempt)
  · cases h with
    | detached _ kind =>
      cases seeks
      exact nomatch kind
    | _ => exact nomatch seeks
  · exact nomatch (Task.owner?_of_isPlain h.plain).symm.trans attempt

theorem GoesOn.not_pursues {delivery : DeliveryId} {handler : Handler}
    (h : GoesOn c before signal delivery handler) : ¬ before.Pursues owner := by
  rintro (seeks | attempt)
  · cases h <;> exact nomatch seeks
  · exact nomatch (Task.owner?_of_isPlain h.plain).symm.trans attempt

/-- A call that fails ends the attempt there and then, or has its session closed first. -/
theorem Transition.refused {fault : Fault} (h : Transition c now id before signal reaction)
    (refused : before.Refused owner fault signal) :
    (∃ n, reaction.next = .ok (.calling n .close (.abandoned owner fault))) ∨
      reaction = c.failed now owner fault := by
  cases refused with
  | opening =>
    cases h with
    | unopened => exact .inr rfl
    | queues h | finds h | unconfigured h | connects h | reconnects h | installs h | answers h
    | handles h => exact nomatch h
  | calling restores =>
    cases h with
    | abandons h =>
      cases restores <;> cases h <;> exact .inl ⟨_, rfl⟩
    | fails | closed => exact nomatch restores
    | answers h | handles h => cases h <;> exact nomatch restores
    | queues h | finds h | unconfigured h | connects h | reconnects h | installs h =>
      exact nomatch h

theorem Transition.given_up {n : SessionId} {call : Call} {fault : Fault}
    (h : Transition c now id (.calling n call (.abandoned owner fault)) signal reaction) :
    reaction = c.failed now owner fault := by
  cases h with
  | fails => rfl
  | abandons restores => exact nomatch restores
  | answers h | handles h => exact nomatch h
  | queues h | finds h | unconfigured h | connects h | reconnects h | installs h => exact nomatch h
  | observes h => exact (h.elim nofun nofun)

/-- The two ways to fail: there is no broker to connect to, or the session has not come about. -/
theorem Transition.failing (h : Transition c now id before signal reaction)
    (pursues : before.Pursues owner) {wake : Duration} {fault : Fault}
    (failed : Link.Concludes wake owner (.error fault) reaction.next) :
    (∃ held, Takes c id owner before signal held ∧ c.channel = none ∧ c.settings.url = none ∧
      reaction = held.concluded now owner (.error .notConfigured)) ∨
    before.owner? = some owner ∧ ∃ fault, reaction = c.failed now owner fault := by
  have same {other : Owner} (own : before.owner? = some other) : other = owner := by
    rcases pursues with seeks | attempt
    · exact nomatch seeks.owner.symm.trans own
    · exact Option.some.inj (own.symm.trans attempt)
  cases h with
  | unconfigured takes missing unset =>
    rcases pursues with seeks | attempt
    · obtain rfl := seeks.unique takes.seeks
      exact .inl ⟨_, takes, missing, unset, rfl⟩
    · exact nomatch takes.seeks.owner.symm.trans attempt
  | unopened | fails =>
    obtain rfl := same rfl
    exact .inr ⟨rfl, _, rfl⟩
  | finds | installs => exact absurd failed (concludes_conclusion _ _).not_error
  | answers answers => exact absurd pursues answers.not_pursues
  | handles goesOn => exact absurd pursues goesOn.not_pursues
  | settles | judges => exact (pursues.elim nofun nofun)
  | observes _ seen => rcases seen with rfl | rfl <;> exact nomatch failed
  | _ => exact nomatch failed

/-- Every step of an attempt leaves the registrations alone, and all but the last one of an attempt
    that succeeds the mark of earlier sessions. -/
theorem Transition.untouched (h : Transition c now id before signal reaction)
    (pursues : before.Pursues owner) :
    reaction.client.registrations = c.registrations ∧
      (reaction.client.everConnected = c.everConnected ∨
        ∃ wake owner, Link.Concludes wake owner (.ok ()) reaction.next) := by
  have quiet : before.clears = false ∧ before.registers? reaction.next = none := by
    rcases pursues with seeks | attempt
    · cases seeks <;> exact ⟨rfl, rfl⟩
    · cases before with
      | calling session call after =>
        cases after <;> first | exact ⟨rfl, rfl⟩ | exact nomatch attempt
      | opening => exact ⟨rfl, rfl⟩
      | _ => exact nomatch attempt
  constructor
  · rw [h.registrations, quiet.1, quiet.2]
    exact List.append_nil _
  · cases h with
    | installs => exact .inr ⟨_, _, concludes_conclusion _ _⟩
    | finds takes | unconfigured takes | connects takes | reconnects takes =>
      cases takes <;> exact .inl rfl
    | closes | shuts => exact nomatch quiet.1
    | settles => exact .inl (congrArg Link.everConnected (attends_settle _ _).aside.link)
    | judges => exact .inl (congrArg Link.everConnected (attends_judge _ _).aside.link)
    | handles => exact .inl (congrArg Link.everConnected (attends_handle _ _).aside.link)
    | observes _ seen => rcases seen with rfl | rfl <;> exact .inl rfl
    | _ => exact .inl rfl

/-- The state is only written to something else than disconnected in an attempt: when it asks for a
    session, and when it installs one. -/
theorem Transition.state (h : Transition c now id before signal reaction) :
    reaction.client.state = c.state ∨ reaction.client.state = .disconnected ∨
      before.owner?.isSome ∨ ∃ owner restoring, reaction.next = .ok (.opening owner restoring) := by
  cases h with
  | connects | reconnects => exact .inr (.inr (.inr ⟨_, _, rfl⟩))
  | installs completes =>
    refine .inr (.inr (.inl ?_))
    cases completes <;> rfl
  | unopened | fails | loses | shuts | closed => exact .inr (.inl rfl)
  | finds takes | unconfigured takes => cases takes <;> exact .inl rfl
  | settles => exact .inl (congrArg Link.state (attends_settle _ _).aside.link)
  | judges => exact .inl (congrArg Link.state (attends_judge _ _).aside.link)
  | handles => exact .inl (congrArg Link.state (attends_handle _ _).aside.link)
  | observes _ seen => rcases seen with rfl | rfl <;> exact .inl rfl
  | _ => exact .inl rfl

/-- The attempt of a session goes on with it, has installed it, or ends after having closed it. -/
theorem Serves.parts (h : Serves c now n before signal reaction) (own : before.setsUp? = some n) :
    (∃ t, reaction.next = .ok t ∧ t.setsUp? = some n) ∨
    (∃ wake owner, Link.Concludes wake owner (.ok ()) reaction.next) ∨
    ∃ call owner fault, before = .calling n call (.abandoned owner fault) ∧
      reaction = c.failed now owner fault := by
  cases h with
  | spares other => exact absurd own other
  | limits => exact nomatch own
  | restores | abandons => exact .inl ⟨_, rfl, rfl⟩
  | declares same | attaches same | reattaches same => exact .inl ⟨_, rfl, congrArg some same⟩
  | installs => exact .inr (.inl ⟨_, _, concludes_conclusion _ _⟩)
  | fails => exact .inr (.inr ⟨_, _, _, rfl, rfl⟩)

end Client

/-! ## Sessions that are given up -/

/-- The step in which an attempt fails. -/
theorem Moment.Fails.readies {s s' : System} {move : Move} {activity : Option Activity}
    {id : TaskId} {owner : Owner} {fault : Fault}
    (fails : Moment.Fails ⟨s, move, activity⟩ id owner fault)
    (step : s.step move = some (s', activity)) :
    ∃ task signal ready wake, s.Readies move id task signal ready ∧
      s' = ready.absorb id (ready.client.resume ready.now id task signal) ∧
      activity = some (ready.activity id task signal) ∧ task.Pursues owner ∧
      Link.Concludes wake owner (.error fault)
        (ready.client.resume ready.now id task signal).next := by
  obtain ⟨did, wake, shown, rfl, pursues, failed⟩ := fails
  rcases System.step_cases step with ⟨rfl, -⟩ | ⟨id, task, signal, ready, h, rfl, rfl⟩
  · exact nomatch shown
  · cases shown
    exact ⟨task, signal, ready, wake, h, rfl, rfl, pursues, failed⟩

/-- The session has been closed, and it has not been in use and never will be. -/
structure Discarded (history : List Moment) (s : System) (n : SessionId) : Prop where
  closed : Closed history n
  unused : ∀ m ∈ history, ¬ m.system.installed n
  uninstalled : ¬ s.installed n
  unowned : ∀ id t, s.task? id = some t → t.setsUp? ≠ some n

section Discarded

variable {settings : Settings} {history : List Moment} {s s' ready : System} {move : Move}
  {id : TaskId} {task : Task} {signal : Signal} {activity : Option Activity} {n : SessionId}

theorem Discarded.opened (discarded : Discarded history s n) (run : Run settings history s) :
    0 < n ∧ n ≤ s.sessions := by
  refine Decidable.byContradiction fun no => ?_
  have closed := discarded.closed
  rw [Closed, ((run.prepared n discarded.unused).underway.unopened no).1] at closed
  exact List.not_mem_nil closed

theorem Discarded.next (discarded : Discarded history s n) (run : Run settings history s)
    (step : s.step move = some (s', activity)) :
    Discarded (history ++ [⟨s, move, activity⟩]) s' n := by
  have unused : ∀ m ∈ history ++ [⟨s, move, activity⟩], ¬ m.system.installed n := by
    intro m mem
    rcases List.mem_append.1 mem with old | new
    · exact discarded.unused m old
    · rw [List.mem_singleton.1 new]
      exact discarded.uninstalled
  rcases System.step_cases step with ⟨rfl, drift⟩ | ⟨other, task, signal, ready, h, rfl, rfl⟩
  · refine ⟨discarded.closed.append _, unused, drift.installed ▸ discarded.uninstalled, ?_⟩
    intro id t found
    rcases drift.origin run.numbered found with old | ⟨-, operation, -, rfl⟩
    · exact discarded.unowned id t old
    · exact nofun
  · refine ⟨discarded.closed.append _, unused, fun installed => ?_, fun id t found own => ?_⟩
    · rcases h.installs? installed with before | own
      · exact discarded.uninstalled before
      · exact discarded.unowned other task h.found own
    · rcases run.setsUp?_of_absorb h found own with ⟨before, old, own⟩ | rfl
      · exact discarded.unowned id before old own
      · exact Nat.not_succ_le_self _ (discarded.opened run).2

/-- All that is called to set up a session are calls other than close. -/
theorem Begins.isClose {made : List Call} (begins : Begins settings history n made) :
    made.filter Call.isClose = [] := by
  have declared : (declarations settings).filter Call.isClose = [] := by
    simp [declarations, List.filter_eq_nil_iff, Call.isClose]
  have restored (registrations : List Registration) :
      (restoration settings registrations).filter Call.isClose = [] := by
    rw [restoration, List.filter_append, declared]
    simp [List.filter_eq_nil_iff, Call.isClose]
  cases begins with
  | limit => rfl
  | plan _ _ first => exact List.eq_nil_of_sublist_nil (declared ▸ first.sublist.filter _)
  | consumers _ _ first => exact List.eq_nil_of_sublist_nil (restored _ ▸ first.sublist.filter _)

/-- A session that was never in use is closed once at most. -/
theorem Discarded.closed_once (discarded : Discarded history s n) (run : Run settings history s) :
    closeCalls n history = [.close] := by
  obtain ⟨pos, le⟩ := discarded.opened run
  obtain ⟨-, made, begins, shape⟩ := (run.prepared n discarded.unused).underway.opened pos le
  have setUp : closeCalls n history = (setUpCalls n history).filter Call.isClose := by
    rw [closeCalls, setUpCalls, List.filter_filter]
    refine List.filter_congr fun call _ => ?_
    cases call <;> rfl
  rcases shape with unclosed | closed
  · have some : Call.close ∈ closeCalls n history := List.mem_filter.2 ⟨discarded.closed, rfl⟩
    rw [setUp, unclosed, begins.isClose] at some
    exact absurd some List.not_mem_nil
  · rw [setUp, closed, List.filter_append, begins.isClose]
    rfl

/-- When its attempt has ended the task sleeps, if it is still there. -/
theorem Link.Concludes.resting_of_absorb {reaction : Reaction} {wake : Duration} {owner : Owner}
    {result : Except Fault Unit} (ends : Link.Concludes wake owner result reaction.next)
    (h : s.Readies move id task signal ready) (numbered : s.Numbered) {t : Task}
    (found : (ready.absorb id reaction).task? id = some t) : t = .resting wake := by
  rcases (h.follows numbered reaction).origin id t found with
    ⟨ne, -⟩ | ⟨-, goesOn⟩ | ⟨k, same, -⟩
  · exact absurd rfl ne
  · exact ends.resting goesOn
  · exact absurd (numbered.lt h.found) (Nat.not_lt_of_le (same ▸ Nat.le_add_right _ _))

/-- An attempt that ends after having closed its session has given it up. -/
theorem Run.discards (run : Run settings history s) (h : s.Readies move id task signal ready)
    {call : Call} {owner : Owner} {fault : Fault}
    (closing : task = .calling n call (.abandoned owner fault))
    (ends : ready.client.resume ready.now id task signal =
      ready.client.failed ready.now owner fault) :
    Discarded (history ++ [⟨s, move, some (ready.activity id task signal)⟩])
      (ready.absorb id (ready.client.resume ready.now id task signal)) n := by
  have own : task.setsUp? = some n := closing ▸ rfl
  have attempt := Task.owner?_of_setsUp? own
  have unused := run.uninstalled_of_setsUp? h.found own
  have here := run.uninstalled_of_attempt h.found attempt n
  refine ⟨Closed.append ?_ _, ?_, ?_, ?_⟩
  · have stands := (run.prepared n unused).underway.stands id task h.found own
    rw [closing] at stands
    cases stands with
    | abandoned _ log =>
      have mem : Call.close ∈ setUpCalls n history :=
        log ▸ List.mem_append_right _ (List.mem_singleton.2 rfl)
      exact (List.mem_filter.1 mem).1
  · intro m mem
    rcases List.mem_append.1 mem with old | new
    · exact unused m old
    · rw [List.mem_singleton.1 new]
      exact here
  · have channel : (ready.client.resume ready.now id task signal).client.channel = none := by
      rw [ends, show (ready.client.failed ready.now owner fault).client.channel =
        ready.client.channel from rfl, h.client]
      exact (run.sound.locked id task h.found attempt).2
    intro installed
    obtain ⟨found, held, -⟩ := System.installed_iff.1 installed
    exact nomatch channel.symm.trans held
  · intro other t found own'
    rcases run.setsUp?_of_absorb h found own' with ⟨before, old, held⟩ | rfl
    · -- only the task itself was setting it up, and it has ended or sleeps
      obtain rfl := run.sound.same_attempt old (Task.owner?_of_setsUp? held) h.found attempt
      rw [ends] at found
      rw [(Client.concludes_conclusion _ _).resting_of_absorb h run.numbered found] at own'
      exact nomatch own'
    · have known := run.opened h.found (Task.knows?_of_setsUp? own)
      exact Nat.not_succ_le_self _ known.2

/-- The attempt of a session goes on with it, has succeeded, or has given it up. -/
theorem Run.parts (run : Run settings history s) (h : s.Readies move id task signal ready)
    (own : task.setsUp? = some n) :
    (∃ t, (ready.client.resume ready.now id task signal).next = .ok t ∧ t.setsUp? = some n) ∨
    (∃ wake owner, Link.Concludes wake owner (.ok ())
      (ready.client.resume ready.now id task signal).next) ∨
    Discarded (history ++ [⟨s, move, some (ready.activity id task signal)⟩])
      (ready.absorb id (ready.client.resume ready.now id task signal)) n := by
  have prepared := run.prepared n (run.uninstalled_of_setsUp? h.found own)
  have serves := prepared.serves run h
    (run.uninstalled_of_attempt h.found (Task.owner?_of_setsUp? own) n)
  rcases serves.parts own with goesOn | succeeds | ⟨_, _, _, closing, ends⟩
  · exact .inl goesOn
  · exact .inr (.inl succeeds)
  · exact .inr (.inr (run.discards h closing ends))

/-! ### Tasks of the past -/

theorem System.nextTask_step (step : s.step move = some (s', activity)) :
    s.nextTask ≤ s'.nextTask := by
  rcases System.step_cases step with ⟨-, drift⟩ | ⟨other, task, signal, ready, h, rfl, -⟩
  · cases drift with
    | begin => exact Nat.le_succ _
    | _ => exact Nat.le_refl _
  · exact Nat.le_add_right_of_le (Nat.le_of_eq h.nextTask.symm)

theorem Run.nextTask_le (run : Run settings history s) :
    ∀ m ∈ history, m.system.nextTask ≤ s.nextTask := by
  induction run with
  | start => exact fun _ mem => nomatch mem
  | next run step ih =>
    intro m mem
    have grown := System.nextTask_step step
    rcases List.mem_append.1 mem with old | new
    · exact Nat.le_trans (ih m old) grown
    · rw [List.mem_singleton.1 new]
      exact grown

/-- A task that was there has its number from then. -/
theorem Run.lt_of_mem (run : Run settings history s) {m : Moment} (mem : m ∈ history)
    {t : Task} (found : m.system.task? id = some t) : id < s.nextTask := by
  obtain ⟨earlier, later, rfl⟩ := List.append_of_mem mem
  exact Nat.lt_of_lt_of_le (run.split.1.numbered.lt found) (run.nextTask_le m mem)

/-- A task of the past that is still there was there before the last move, and either it was not its
    turn or it has gone on to where it is. -/
theorem Run.was (run : Run settings history s) (step : s.step move = some (s', activity))
    (old : id < s.nextTask) {t : Task} (found : s'.task? id = some t) :
    ∃ before, s.task? id = some before ∧
      (t = before ∧ (∀ did, activity = some did → did.id ≠ id) ∨
        ∃ signal ready, s.Readies move id before signal ready ∧
          s' = ready.absorb id (ready.client.resume ready.now id before signal) ∧
          activity = some (ready.activity id before signal) ∧
          (ready.client.resume ready.now id before signal).next = .ok t) := by
  rcases System.step_cases step with ⟨rfl, drift⟩ | ⟨other, task, signal, ready, h, rfl, rfl⟩
  · rcases drift.origin run.numbered found with there | ⟨rfl, -⟩
    · exact ⟨t, there, .inl ⟨rfl, fun _ did => nomatch did⟩⟩
    · exact absurd old (Nat.lt_irrefl _)
  · rcases (h.follows run.numbered _).origin id t found with
      ⟨ne, there⟩ | ⟨rfl, goesOn⟩ | ⟨k, rfl, -⟩
    · refine ⟨t, there, .inl ⟨rfl, ?_⟩⟩
      rintro _ ⟨⟩
      exact Ne.symm ne
    · exact ⟨task, h.found, .inr ⟨signal, ready, h, rfl, rfl, goesOn⟩⟩
    · exact absurd old (Nat.not_lt_of_le (Nat.le_add_right _ _))

/-- A task that is still there has never ended. -/
theorem Run.goesOn (run : Run settings history s) {m : Moment} (mem : m ∈ history)
    {did : Activity} (shown : m.activity = some did) {t : Task}
    (found : s.task? did.id = some t) : ∃ next, did.next = .ok next := by
  induction run generalizing t with
  | start => exact nomatch mem
  | @next history s s' move activity run step ih =>
    have there : ∃ task, m.system.task? did.id = some task := by
      obtain ⟨earlier, later, parts⟩ := List.append_of_mem mem
      obtain ⟨-, after, moved⟩ := (parts ▸ run.next step).split
      rcases System.step_cases moved with ⟨still, -⟩ | ⟨_, task, _, _, h, -, acts⟩
      · exact nomatch shown.symm.trans still
      · cases shown.symm.trans acts
        exact ⟨task, h.found⟩
    obtain ⟨task, there⟩ := there
    rcases List.mem_append.1 mem with old | new
    · obtain ⟨before, stood, -⟩ := run.was step (run.lt_of_mem old there) found
      exact ih old stood
    · obtain rfl := List.mem_singleton.1 new
      obtain ⟨before, -, ⟨-, other⟩ | ⟨signal, ready, -, -, acts, goesOn⟩⟩ :=
        run.was step (run.numbered.lt there) found
      · exact absurd rfl (other did shown)
      · have same := Option.some.inj (shown.symm.trans acts)
        exact ⟨t, (congrArg Activity.next same).trans goesOn⟩

/-- Of the sessions that a task has opened, one at most is still its own to set up, and it has given
    up all others. -/
theorem Run.parted (run : Run settings history s) {m : Moment} (mem : m ∈ history) {owner : Owner}
    {restoring : Bool} (opens : m.Opens n id owner restoring) {t : Task}
    (found : s.task? id = some t) : t.setsUp? = some n ∨ Discarded history s n := by
  induction run generalizing t with
  | start => exact nomatch mem
  | @next history s s' move activity run step ih =>
    rcases List.mem_append.1 mem with old | new
    · obtain ⟨before, there, how⟩ := run.was step (run.lt_of_mem old opens.2.1) found
      rcases ih old there with own | discarded
      · rcases how with ⟨rfl, -⟩ | ⟨signal, ready, h, rfl, rfl, goesOn⟩
        · exact .inl own
        · rcases run.parts h own with ⟨t', goesOn', own⟩ | ⟨_, _, ends⟩ | discarded
          · cases goesOn.symm.trans goesOn'
            exact .inl own
          · exact absurd goesOn (ends.ended t)
          · exact .inr discarded
      · exact .inr (discarded.next run step)
    · obtain rfl := List.mem_singleton.1 new
      obtain ⟨rfl, asked, rfl⟩ := opens
      rcases System.step_cases step with ⟨-, drift⟩ | ⟨other, task, signal, ready, h, rfl, -⟩
      · exact nomatch drift
      · have follows := h.follows run.numbered (ready.client.resume ready.now other task signal)
        cases h with
        | connect =>
          cases (follows.goesOn _ rfl).symm.trans found
          exact .inl rfl

/-- The attempt that a session was opened for has closed it, once, by the time it fails. -/
theorem Run.closed_once_of_fails (run : Run settings history s)
    (step : s.step move = some (s', activity)) {owner : Owner} {fault : Fault}
    (fails : Moment.Fails ⟨s, move, activity⟩ id owner fault) {m : Moment}
    (mem : m ∈ history ++ [⟨s, move, activity⟩]) {opener : Owner} {restoring : Bool}
    (opens : m.Opens n id opener restoring) :
    closeCalls n (history ++ [⟨s, move, activity⟩]) = [.close] := by
  obtain ⟨task, signal, ready, wake, h, rfl, rfl, -, failed⟩ := fails.readies step
  have run' := run.next step
  suffices discarded : Discarded _ _ n from discarded.closed_once run'
  rcases List.mem_append.1 mem with old | new
  · rcases run.parted old opens h.found with own | discarded
    · rcases run.parts h own with ⟨t, goesOn, own⟩ | ⟨_, _, ends⟩ | discarded
      · rw [failed.resting goesOn] at own
        exact nomatch own
      · exact absurd failed ends.not_error
      · exact discarded
    · exact discarded.next run step
  · obtain rfl := List.mem_singleton.1 new
    obtain ⟨rfl, -, -⟩ := opens
    cases h with
    | connect => exact nomatch failed

end Discarded

/-! ## What a failure leaves -/

section Failure

variable {settings : Settings} {history : List Moment} {s s' ready : System} {move : Move}
  {id : TaskId} {task : Task} {signal : Signal} {activity : Option Activity} {owner : Owner}
  {fault : Fault}

/-- Without a broker to connect to the client is never anything but disconnected. -/
theorem Run.disconnected_of_unset (run : Run settings history s) (unset : settings.url = none) :
    s.client.state = .disconnected := by
  induction run with
  | start => rfl
  | @next history s s' move activity run step ih =>
    rcases System.step_cases step with ⟨-, drift⟩ | ⟨id, task, signal, ready, h, rfl, -⟩
    · exact (congrArg Link.state drift.link.1).trans ih
    · have transition := Client.transition_of_readies h
      have same : ready.client.state = s.client.state := congrArg Link.state h.link
      rcases transition.state with kept | written | attempt | ⟨owner, restoring, asks⟩
      · exact kept.trans (same.trans ih)
      · exact written
      · -- whoever is in an attempt holds the lock
        have taken : s.client.lock ≠ [] := by
          intro free
          have head := (run.sound.locked id task h.found attempt).1
          rw [show s.client.link.lock = [] from free] at head
          exact nomatch head
        exact absurd unset (run.configured (.inl taken))
      · have configured := Client.configured_of_opening transition rfl asks
        rw [h.client, run.settings] at configured
        exact absurd unset configured

/-- No channel is in use, and nobody is in an attempt. -/
structure System.Vacant (s : System) : Prop where
  channel : s.client.channel = none
  idle : ∀ id t, s.task? id = some t → t.owner? = none

/-- Nothing comes into use and no session is opened unless an attempt begins. -/
theorem System.Vacant.next (vacant : s.Vacant) (run : Run settings history s)
    (step : s.step move = some (s', activity)) (quiet : ¬ Moment.Asks ⟨s, move, activity⟩) :
    s'.Vacant ∧ s'.sessions = s.sessions := by
  rcases System.step_cases step with ⟨rfl, drift⟩ | ⟨id, task, signal, ready, h, rfl, rfl⟩
  · refine ⟨⟨(congrArg Link.channel drift.link.1).trans vacant.channel, ?_⟩, ?_⟩
    · intro id t found
      rcases drift.origin run.numbered found with old | ⟨-, operation, -, rfl⟩
      · exact vacant.idle id t old
      · rfl
    · cases drift <;> rfl
  · have transition := Client.transition_of_readies h
    have outside := vacant.idle id task h.found
    refine ⟨⟨?_, ?_⟩, ?_⟩
    · refine Option.eq_none_iff_forall_ne_some.2 fun channel installed => ?_
      rcases transition.channel_of_installed installed with before | own
      · rw [h.client] at before
        exact nomatch vacant.channel.symm.trans before
      · have attempt := Task.owner?_of_setsUp? own
        rw [outside] at attempt
        exact nomatch attempt
    · intro other t found
      rcases (h.follows run.numbered _).origin other t found with
        ⟨-, old⟩ | ⟨-, goesOn⟩ | ⟨k, -, starts⟩
      · exact vacant.idle other t old
      · refine Option.not_isSome_iff_eq_none.1 fun attempt => ?_
        cases Client.attempts_of_transition transition goesOn attempt with
        | opens => exact quiet ⟨_, _, _, rfl, goesOn⟩
        | calls before => exact nomatch outside.symm.trans before
      · exact (shift_of_readies h).owner?_started (List.mem_of_getElem? starts)
    · cases h with
      | connect found => exact nomatch vacant.idle _ _ found
      | resume | deliver => rfl

/-- The one attempt that was under way is over when it has failed. -/
theorem Run.vacant_of_fails (run : Run settings history s)
    (step : s.step move = some (s', activity))
    (fails : Moment.Fails ⟨s, move, activity⟩ id owner fault) :
    s'.Vacant ∧ s'.client.state = .disconnected := by
  obtain ⟨task, signal, ready, wake, h, rfl, rfl, pursues, failed⟩ := fails.readies step
  have same : ready.client.channel = s.client.channel := congrArg Link.channel h.link
  have written : ready.client.state = s.client.state := congrArg Link.state h.link
  have idle (alone : ∀ other t, s.task? other = some t → t.owner?.isSome → other = id) :
      ∀ other t, (ready.absorb id (ready.client.resume ready.now id task signal)).task? other =
        some t → t.owner? = none := by
    intro other t found
    rcases (h.follows run.numbered _).origin other t found with
      ⟨ne, old⟩ | ⟨-, goesOn⟩ | ⟨k, -, starts⟩
    · exact Option.not_isSome_iff_eq_none.1 fun attempt => ne (alone other t old attempt)
    · rw [failed.resting goesOn]
      rfl
    · exact (shift_of_readies h).owner?_started (List.mem_of_getElem? starts)
  rcases (Client.transition_of_readies h).failing pursues failed with
    ⟨held, takes, missing, unset, ends⟩ | ⟨own, fault, ends⟩
  · obtain ⟨-, lock, grants, rfl⟩ := h.grants takes
    refine ⟨⟨?_, idle ?_⟩, ?_⟩
    · exact (congrArg (fun reaction => reaction.client.channel) ends).trans missing
    · -- the lock was free, or it had come to this task
      intro other t found attempt
      have head := (run.sound.locked other t found attempt).1
      rw [← h.link] at head
      cases grants with
      | free empty =>
        rw [empty] at head
        exact nomatch head
      | next first => exact Option.some.inj (head.symm.trans first)
    · refine (congrArg (fun reaction => reaction.client.state) ends).trans (written.trans ?_)
      rw [h.client, run.settings] at unset
      exact run.disconnected_of_unset unset
  · have attempt := Option.isSome_of_eq_some own
    refine ⟨⟨?_, idle fun other t found attempt' => ?_⟩, ?_⟩
    · refine (congrArg (fun reaction => reaction.client.channel) ends).trans (same.trans ?_)
      exact (run.sound.locked id task h.found attempt).2
    · exact run.sound.same_attempt found attempt' h.found attempt
    · exact congrArg (fun reaction => reaction.client.state) ends

/-- Whoever takes the lock with nothing in use asks the connector for a session. -/
theorem Client.Takes.asks {c held : Client} (takes : Client.Takes c id owner task signal held)
    (now : Duration) (missing : c.channel = none) (configured : c.settings.url ≠ none) :
    (c.resume now id task signal).next = .ok (.opening owner (c.reopens owner)) := by
  rw [takes.resume]
  cases takes with
  | free | due => exact Client.attempt_next now _ missing configured
  | granted => exact Client.attempt_next now _ missing configured

theorem Run.asks (run : Run settings history s) (missing : s.client.channel = none)
    (configured : settings.url ≠ none) (h : s.Readies move id task signal ready) {held : Client}
    (takes : Client.Takes ready.client id owner task signal held) :
    (ready.client.resume ready.now id task signal).next =
      .ok (.opening owner (s.client.reopens owner)) := by
  have channel : ready.client.channel = none := (congrArg Link.channel h.link).trans missing
  have same : ready.client.settings = settings := by
    rw [h.client]
    exact run.settings
  have reopens : ready.client.reopens owner = s.client.reopens owner := by
    rw [h.client]
    cases owner <;> rfl
  rw [takes.asks ready.now channel (same ▸ configured), reopens]

/-- Nothing is called on a session before it is opened. -/
theorem Run.calls_of_later {n : SessionId} (run : Run settings history s)
    (later : s.sessions < n) : calls n history = [] := by
  have uninstalled : ∀ m ∈ history, ¬ m.system.installed n := fun m mem installed =>
    Nat.not_le_of_lt later (run.opened_of_mem mem installed)
  exact ((run.prepared n uninstalled).underway.unopened fun opened =>
    Nat.not_le_of_lt later opened.2).1

theorem Run.sessions_le_later (run : Run settings history s) {more : List Moment}
    (run' : Run settings (history ++ more) s') {m : Moment} (mem : m ∈ more) :
    s.sessions ≤ m.system.sessions := by
  obtain ⟨earlier, later, rfl⟩ := List.append_of_mem mem
  rw [← List.append_assoc] at run'
  exact run.onwards (P := fun _ s' => s.sessions ≤ s'.sessions) (Nat.le_refl _)
    (fun _ _ _ _ _ _ le step => Nat.le_trans le (System.sessions_step step).1) run'.split.1

/-- The calls on a session from its opening on: the prefetch limit first, then the beginning of a
    restoration, and all of one if it restores and comes into use. -/
structure Restored (settings : Settings) (history : List Moment) (s : System) (n : SessionId)
    (restoring : Bool) : Prop where
  first : (calls n history).head? = some (.prefetch settings.prefetch)
  setUp : ∃ made, Begins settings (beforeInstall n history) n made ∧
    (setUpCalls n (beforeInstall n history) = made ∨
      setUpCalls n (beforeInstall n history) = made ++ [.close])
  whole : restoring = true → (s.installed n ∨ ∃ m ∈ history, m.system.installed n) →
    ∃ m ∈ beforeInstall n history, m.Clones n ∧
      setUpCalls n (beforeInstall n history) = restoration settings m.system.client.registrations

theorem Run.restored {n : SessionId} (run : Run settings history s) {m : Moment}
    (mem : m ∈ history) {restoring : Bool} (opens : m.Opens n id owner restoring) :
    Restored settings history s n restoring := by
  have pos : 0 < n := opens.2.2 ▸ Nat.succ_pos _
  have le : n ≤ s.sessions := opens.2.2 ▸ (run.sessions_le m mem).2 id opens.1
  obtain ⟨s₁, run₁, opened, cut⟩ := run.upTo le
  have underway := (run₁.prepared n (uninstalled_beforeInstall n history)).underway
  obtain ⟨first, setUp⟩ := underway.opened pos opened
  refine ⟨?_, setUp, fun restores installed => ?_⟩
  · obtain ⟨rest, parts⟩ : beforeInstall n history <+: history := List.takeWhile_prefix _
    rw [← parts, calls_append, List.head?_append, first]
    rfl
  · have here : s₁.installed n := by
      rcases cut with ⟨all, rfl⟩ | ⟨here, -⟩
      · rcases installed with now | ⟨m', hm, past⟩
        · exact now
        · exact absurd past (uninstalled_beforeInstall n history m' (all.symm ▸ hm))
      · exact here
    rcases (underway.installed here).2.2 with complete | let_off
    · exact complete
    · -- a session that restores is never let off
      have early : m ∈ beforeInstall n history := by
        rcases cut with ⟨all, -⟩ | ⟨-, m', later, parts, rfl⟩
        · exact all.symm ▸ mem
        · exact (parts ▸ run).mem_of_opens opened (parts ▸ mem) opens
      exact nomatch restores.symm.trans (let_off m early id owner restoring opens)

/-- A step of an attempt that does not succeed in it changes neither what is registered nor what is
    known of earlier sessions. -/
theorem Moment.Pursues.untouched (pursues : Moment.Pursues ⟨s, move, activity⟩ id owner)
    (step : s.step move = some (s', activity))
    (unfinished : ∀ did wake owner, activity = some did →
      ¬ Link.Concludes wake owner (.ok ()) did.next) :
    s'.client.registrations = s.client.registrations ∧
      s'.client.everConnected = s.client.everConnected := by
  obtain ⟨did, shown, rfl, attempt⟩ := pursues
  rcases System.step_cases step with ⟨rfl, -⟩ | ⟨id, task, signal, ready, h, rfl, rfl⟩
  · exact nomatch shown
  · cases shown
    have same : ready.client.registrations = s.client.registrations := by rw [h.client]
    have mark : ready.client.everConnected = s.client.everConnected := by rw [h.client]
    obtain ⟨registrations, kept | ⟨_, _, done⟩⟩ :=
      (Client.transition_of_readies h).untouched attempt
    · exact ⟨registrations.trans same, kept.trans mark⟩
    · exact absurd done (unfinished _ _ _ rfl)

/-- A task that has failed, or is still there, has succeeded in no attempt so far. -/
theorem Run.untouched (run : Run settings history s) (step : s.step move = some (s', activity))
    (fails : Moment.Fails ⟨s, move, activity⟩ id owner fault) {m : Moment}
    (mem : m ∈ history ++ [⟨s, move, activity⟩]) {other : Owner} (pursues : m.Pursues id other)
    {after : System} (moved : m.system.step m.move = some (after, m.activity)) :
    after.client.registrations = m.system.client.registrations ∧
      after.client.everConnected = m.system.client.everConnected := by
  refine pursues.untouched moved fun did wake owner' shown done => ?_
  obtain ⟨_, shown', own, -⟩ := pursues
  cases shown.symm.trans shown'
  obtain ⟨task, signal, ready, _, h, -, rfl, -, failed⟩ := fails.readies step
  rcases List.mem_append.1 mem with old | new
  · -- the task is there until it fails
    obtain ⟨next, goesOn⟩ := run.goesOn old shown (own ▸ h.found)
    exact done.ended next goesOn
  · obtain rfl := List.mem_singleton.1 new
    cases shown
    exact done.not_error failed

/-- Whoever has failed is out of the line for the lock. -/
theorem Run.released_of_fails (run : Run settings history s)
    (step : s.step move = some (s', activity))
    (fails : Moment.Fails ⟨s, move, activity⟩ id owner fault) : id ∉ s'.client.lock := by
  intro waits
  obtain ⟨t, found, inLine⟩ := ((run.next step).queued.mem_iff id).1 waits
  obtain ⟨task, signal, ready, wake, h, rfl, rfl, -, failed⟩ := fails.readies step
  rw [failed.resting_of_absorb h run.numbered found] at inLine
  exact nomatch inLine

/-- As long as no attempt begins, nothing comes into use and no session is opened. -/
theorem System.Vacant.onwards (vacant : s.Vacant) (run : Run settings history s)
    {more : List Moment} (run' : Run settings (history ++ more) s') (quiet : ∀ m ∈ more, ¬ m.Asks) :
    s'.Vacant ∧ s'.sessions = s.sessions := by
  refine run.onwards
    (P := fun more s' => (∀ m ∈ more, ¬ m.Asks) → s'.Vacant ∧ s'.sessions = s.sessions)
    (fun _ => ⟨vacant, rfl⟩) ?_ run' quiet
  intro more s₁ move s₂ activity run₁ ih step quiet
  obtain ⟨vacant₁, sessions⟩ := ih fun m mem => quiet m (List.mem_append_left _ mem)
  have last := quiet ⟨s₁, move, activity⟩ (List.mem_append_right _ (List.mem_singleton.2 rfl))
  obtain ⟨vacant₂, same⟩ := vacant₁.next run₁ step last
  exact ⟨vacant₂, same.trans sessions⟩

theorem Task.Refused.owner? {t : Task} (refused : t.Refused owner fault signal) :
    t.owner? = some owner := by
  cases refused with
  | opening => rfl
  | calling restores => cases restores <;> rfl

theorem Moment.fails_of_failed (own : task.owner? = some owner)
    (ends : ready.client.resume ready.now id task signal =
      ready.client.failed ready.now owner fault) :
    Moment.Fails ⟨s, move, some (ready.activity id task signal)⟩ id owner fault := by
  have concludes : Link.Concludes (ready.client.wakeUp ready.now) owner (.error fault)
      (ready.client.resume ready.now id task signal).next := by
    rw [ends]
    exact Client.concludes_conclusion owner _
  exact ⟨_, _, rfl, rfl, .inr own, concludes⟩

/-- An attempt that a call fails of fails with it at once, or closes its session first. -/
theorem Moment.Refuses.gives_up (refuses : Moment.Refuses ⟨s, move, activity⟩ id owner fault)
    (run : Run settings history s) (step : s.step move = some (s', activity)) :
    s'.GivesUp id owner fault ∨ Moment.Fails ⟨s, move, activity⟩ id owner fault := by
  obtain ⟨did, shown, rfl, refused⟩ := refuses
  rcases System.step_cases step with ⟨rfl, -⟩ | ⟨id, task, signal, ready, h, rfl, rfl⟩
  · exact nomatch shown
  · cases shown
    rcases (Client.transition_of_readies h).refused refused with ⟨n, closes⟩ | ends
    · exact .inl ⟨n, (h.follows run.numbered _).goesOn _ closes⟩
    · exact .inr (Moment.fails_of_failed refused.owner? ends)

/-- It fails with that fault, whatever the close comes back with, unless the caller gives it up. -/
theorem System.GivesUp.next (givesUp : s.GivesUp id owner fault) (run : Run settings history s)
    (step : s.step move = some (s', activity)) :
    s'.GivesUp id owner fault ∨ Moment.Fails ⟨s, move, activity⟩ id owner fault ∨
      move = .cancel id := by
  obtain ⟨n, found⟩ := givesUp
  rcases System.step_cases step with ⟨rfl, drift⟩ | ⟨other, task, signal, ready, h, rfl, rfl⟩
  · by_cases cancelled : move = .cancel id
    · exact .inr (.inr cancelled)
    · exact .inl ⟨n, drift.stays_of_ne run.numbered found cancelled⟩
  · by_cases own : other = id
    · subst own
      obtain rfl := Option.some.inj (h.found.symm.trans found)
      have ends := (Client.transition_of_readies h).given_up
      exact .inr (.inl (Moment.fails_of_failed rfl ends))
    · exact .inl ⟨n, (h.follows run.numbered _).others id _ (Ne.symm own) found⟩

end Failure

/-- What is left when an attempt of the task has failed: nothing to go on from. -/
structure System.Unwound (settings : Settings) (history : List Moment) (s : System) (id : TaskId) :
    Prop where
  /-- No channel is in use, and the state says so. -/
  channel : s.client.channel = none
  state : s.client.state = .disconnected
  /-- The connect lock has passed on. -/
  released : id ∉ s.client.lock
  /-- The session that the attempt has opened, if any, and those of earlier attempts of the task
      have been closed once each. -/
  closed : ∀ m ∈ history, ∀ n owner restoring, m.Opens n id owner restoring →
    closeCalls n history = [.close]
  /-- No step of the attempt has changed the registrations or the mark of earlier sessions. -/
  untouched : ∀ m ∈ history, ∀ owner s', m.Pursues id owner →
    m.system.step m.move = some (s', m.activity) →
    s'.client.registrations = m.system.client.registrations ∧
      s'.client.everConnected = m.system.client.everConnected
  /-- However the run goes on, nothing comes into use before another attempt begins; and whoever
      takes the lock then asks the connector for a session. -/
  asks : ∀ more s', Run settings (history ++ more) s' → (∀ m ∈ more, ¬ m.Asks) →
    s'.client.channel = none ∧ s'.sessions = s.sessions ∧
    (settings.url ≠ none → ∀ move other owner task signal ready held,
      s'.Readies move other task signal ready →
      Client.Takes ready.client other owner task signal held →
      (ready.client.resume ready.now other task signal).next =
        .ok (.opening owner (s'.client.reopens owner)))
  /-- Its session is a new one, on which nothing has been called, and everything is called on it
      that is called on any other session. -/
  afresh : ∀ more s', Run settings (history ++ more) s' → ∀ m ∈ more, ∀ n other owner restoring,
    m.Opens n other owner restoring →
    calls n history = [] ∧ Restored settings (history ++ more) s' n restoring

/-- Whichever call of an attempt fails, be it one of a caller or of a reconnect loop, and whatever
    runs in between: the attempt fails with the fault of that call, at once or when its session has
    been closed, and when it does it leaves nothing behind. -/
theorem failed_attempt_unwinds {settings : Settings} {history : List Moment} {m : Moment}
    {s : System} (run : Run settings (history ++ [m]) s) (id : TaskId) (owner : Owner)
    (fault : Fault) :
    (m.Refuses id owner fault → s.GivesUp id owner fault ∨ m.Fails id owner fault) ∧
      (m.system.GivesUp id owner fault →
        s.GivesUp id owner fault ∨ m.Fails id owner fault ∨ m.move = .cancel id) ∧
      (m.Fails id owner fault → s.Unwound settings (history ++ [m]) id) := by
  obtain ⟨before, step⟩ := run.last
  refine ⟨fun refuses => refuses.gives_up before step, fun givesUp => givesUp.next before step,
    fun fails => ?_⟩
  obtain ⟨vacant, state⟩ := before.vacant_of_fails step fails
  exact {
    channel := vacant.channel
    state := state
    released := before.released_of_fails step fails
    closed := fun m' mem n _ _ opens => before.closed_once_of_fails step fails mem opens
    untouched := fun m' mem other after pursues moved =>
      before.untouched step fails mem pursues moved
    asks := by
      intro more s' run' quiet
      obtain ⟨vacant', sessions⟩ := vacant.onwards run run' quiet
      exact ⟨vacant'.channel, sessions, fun configured _ _ _ _ _ _ _ h takes =>
        run'.asks vacant'.channel configured h takes⟩
    afresh := by
      intro more s' run' m' mem n other owner restoring opens
      refine ⟨run.calls_of_later (opens.2.2 ▸ ?_), ?_⟩
      · exact Nat.lt_succ_of_le (run.sessions_le_later run' mem)
      · exact run'.restored (List.mem_append_right _ mem) opens }

/-- A client connects and loses its session. The loop opens another one, on which the broker refuses
    the declaration of the exchange, and closes it. -/
def refusedRecovery : List Move :=
  [.begin .connect, .resume 0 .turn, .connect 0, .resume 0 (.answered (.ok ())), .lose 1,
    .resume 1 .lost, .pass (.ofSeconds 1), .resume 2 .elapsed, .connect 2,
    .resume 2 (.answered (.ok ())), .resume 2 (.answered (.error (.transport "refused"))),
    .resume 2 (.answered (.ok ()))]

theorem failed_attempt_unwinds_refused : ∃ earlier m s, Run bareSettings (earlier ++ [m]) s ∧
    m.system.GivesUp 2 .loop (.transport "refused") ∧ s.Unwound bareSettings (earlier ++ [m]) 2 ∧
    s.client.everConnected = true ∧
    calls 2 (earlier ++ [m]) = (declarations bareSettings).take 2 ++ [.close] := by
  let e : Execution bareSettings := .ofMoves bareSettings refusedRecovery rfl
  have run := e.run 12
  rw [e.history_succ 11] at run
  obtain ⟨-, goesOn, unwinds⟩ := failed_attempt_unwinds run 2 .loop (.transport "refused")
  have givesUp : (e.system 11).GivesUp 2 .loop (.transport "refused") := ⟨2, rfl⟩
  refine ⟨_, _, _, run, givesUp, unwinds ?_, rfl, rfl⟩
  rcases goesOn givesUp with ⟨n, stays⟩ | fails | cancelled
  · exact nomatch stays
  · exact fails
  · exact nomatch cancelled

end Laneway.Broker
