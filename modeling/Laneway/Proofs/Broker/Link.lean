import Laneway.Proofs.Broker.Transition

set_option autoImplicit false

/-! # The connection alone

Connecting, losing and closing concern a few fields of the client only, its `Link`, and few kinds of
tasks: connection attempts, reconnect loops and the watchers of sessions. `Link.Shift` is a step as
seen from there; most steps do not move the link at all. -/

namespace Laneway.Broker

/-- The part of a client that connecting, losing and closing are about. -/
structure Link where
  channel : Option Channel
  state : ConnectionState
  generation : Nat
  everConnected : Bool
  reconnecting : Bool
  shutdown : Bool
  lock : List TaskId

/-- The link of a client. -/
def Client.link (c : Client) : Link :=
  ⟨c.channel, c.state, c.generation, c.everConnected, c.reconnecting, c.shutdown, c.lock⟩

/-- The channel that an attempt restores before it is installed. -/
def Task.restoring? : Task → Option Channel
  | .calling _ _ (.restored _ channel _) | .calling _ _ (.attached _ channel _ _) => some channel
  | _ => none

/-- A task that has no part in connecting. -/
def Task.isPlain : Task → Bool
  | .watching _ => false
  | t => t.owner?.isNone && !t.isLoop

theorem Task.owner?_of_isPlain {t : Task} (h : t.isPlain) : t.owner? = none := by
  cases t <;> simp_all [Task.isPlain, Task.owner?]

theorem Task.isLoop_of_isPlain {t : Task} (h : t.isPlain) : t.isLoop = false := by
  cases t <;> simp_all [Task.isPlain, Task.isLoop]

theorem Task.isLoop_of_owner? {t : Task} {owner : Owner} (h : t.owner? = some owner) :
    t.isLoop = decide (owner = .loop) := by
  cases t <;> simp_all [Task.owner?, Task.isLoop]

theorem Task.ne_watching_of_isPlain {t : Task} (h : t.isPlain) (channel : Channel) :
    t ≠ .watching channel := by
  rintro rfl
  exact nomatch h

theorem Task.isPlain_of_owner? {t : Task} (h : t.owner?.isSome) : t.isPlain = false := by
  cases hp : t.isPlain with
  | false => rfl
  | true =>
    rw [Task.owner?_of_isPlain hp] at h
    exact nomatch h

theorem Task.isPlain_of_isLoop {t : Task} (h : t.isLoop) : t.isPlain = false := by
  cases hp : t.isPlain with
  | false => rfl
  | true => exact absurd ((Task.isLoop_of_isPlain hp).symm.trans h) Bool.noConfusion

/-- A loop is nobody's operation. -/
theorem Task.isLoop_of_isOperation {t : Task} (h : t.isOperation) : t.isLoop = false := by
  cases t with
  | locking owner | opening owner restoring =>
    obtain rfl := of_decide_eq_true h
    rfl
  | calling session call after =>
    cases after with
    | limited owner _ | restored owner | attached owner | abandoned owner =>
      cases owner <;> first | rfl | exact nomatch h
    | _ => rfl
  | begin | observing => rfl
  | _ => exact nomatch h

/-- A task that seeks the connect lock for an attempt. -/
inductive Task.Seeks : Owner → Task → Prop
  | connect : Seeks .caller (.begin .connect)
  | resting (due : Duration) : Seeks .loop (.resting due)
  | locking (owner : Owner) : Seeks owner (.locking owner)

theorem Task.Seeks.owner {owner : Owner} {t : Task} (h : t.Seeks owner) : t.owner? = none := by
  cases h <;> rfl

theorem Task.Seeks.not_watching {owner : Owner} {t : Task} (h : t.Seeks owner)
    (channel : Channel) : t ≠ .watching channel := by
  cases h <;> exact fun h => nomatch h

namespace Link

/-- The connect lock after `id` has taken it: it was free, or `id` was next. -/
inductive Grants (l : Link) (id : TaskId) : List TaskId → Prop
  | free (empty : l.lock = []) : Grants l id [id]
  | next (head : l.lock.head? = some id) : Grants l id l.lock

theorem Grants.head? {l : Link} {id : TaskId} {lock : List TaskId} (h : l.Grants id lock) :
    lock.head? = some id := by
  cases h with
  | free => rfl
  | next head => exact head

/-- The link after an attempt has ended. -/
def released (l : Link) (owner : Owner) (result : Except Fault Unit) : Link :=
  { l with
    lock := l.lock.tail
    reconnecting := match owner, result with
      | .loop, .ok () => false
      | _, _ => l.reconnecting }

/-- Where the task of an attempt goes on after it, when a loop that goes to sleep now wakes up at
    `wake`. -/
inductive Concludes (wake : Duration) : Owner → Except Fault Unit → Except Ending Task → Prop
  | caller (result : Except Fault Unit) :
      Concludes wake .caller result (.error (.answered result))
  | succeeds : Concludes wake .loop (.ok ()) (.error .quiet)
  | again (fault : Fault) : Concludes wake .loop (.error fault) (.ok (.resting wake))

/-- Where the task of an attempt goes on after it, no attempt is in progress. -/
theorem Concludes.resting {wake : Duration} {owner : Owner} {result : Except Fault Unit}
    {next : Except Ending Task} (h : Concludes wake owner result next) {t : Task}
    (ht : next = .ok t) : t = .resting wake := by
  cases h with
  | again fault => exact (Except.ok.inj ht).symm
  | _ => exact nomatch ht

/-- What a step does to the link: from the task and the link before it to the link after it, to
    where the task goes on, and to the tasks it started. -/
inductive Shift (l : Link) (wake : Duration) (id : TaskId) :
    Task → Link → Except Ending Task → List Task → Prop
  | rests {before : Task} {next : Except Ending Task} {started : List Task} (plain : before.isPlain)
      (goesOn : ∀ t, next = .ok t → t.isPlain) (starts : ∀ t ∈ started, t.isPlain) :
      Shift l wake id before l next started
  | queues {owner : Owner} {before : Task} (seeks : before.Seeks owner) (taken : l.lock ≠ []) :
      Shift l wake id before { l with lock := l.lock ++ [id] } (.ok (.locking owner)) []
  | finds {owner : Owner} {before : Task} {lock : List TaskId} {next : Except Ending Task}
      (seeks : before.Seeks owner) (grants : l.Grants id lock) (installed : l.channel.isSome)
      (ends : Concludes wake owner (.ok ()) next) :
      Shift l wake id before ({ l with lock }.released owner (.ok ())) next []
  | unconfigured {owner : Owner} {before : Task} {lock : List TaskId} {next : Except Ending Task}
      (seeks : before.Seeks owner) (grants : l.Grants id lock) (missing : l.channel = none)
      (ends : Concludes wake owner (.error .notConfigured) next) :
      Shift l wake id before ({ l with lock }.released owner (.error .notConfigured)) next []
  | connects {before : Task} {lock : List TaskId} (seeks : before.Seeks .caller)
      (grants : l.Grants id lock) (missing : l.channel = none) :
      Shift l wake id before { l with lock, shutdown := false, state := .connecting }
        (.ok (.opening .caller l.everConnected)) []
  | reconnects {before : Task} {lock : List TaskId} (seeks : before.Seeks .loop)
      (grants : l.Grants id lock) (missing : l.channel = none) :
      Shift l wake id before { l with lock, state := .connecting } (.ok (.opening .loop true)) []
  | advances {owner : Owner} {before next : Task} {started : List Task}
      (attempt : before.owner? = some owner) (goesOn : next.owner? = some owner)
      (same : ∀ channel, next.restoring? = some channel → before.restoring? = some channel)
      (starts : ∀ t ∈ started, t.isPlain) : Shift l wake id before l (.ok next) started
  | counts {owner : Owner} {before next : Task} {session : SessionId}
      (attempt : before.owner? = some owner) (goesOn : next.owner? = some owner)
      (restoring : next.restoring? = some ⟨session, l.generation + 1⟩) :
      Shift l wake id before { l with generation := l.generation + 1 } (.ok next)
        [.watching ⟨session, l.generation + 1⟩]
  | opens {owner : Owner} {before : Task} {session : SessionId} {next : Except Ending Task}
      (attempt : before.owner? = some owner) (ends : Concludes wake owner (.ok ()) next) :
      Shift l wake id before
        ({ l with
            generation := l.generation + 1, channel := some ⟨session, l.generation + 1⟩,
            everConnected := true, state := .connected }.released owner (.ok ()))
        next [.watching ⟨session, l.generation + 1⟩]
  | installs {owner : Owner} {before : Task} {channel : Channel} {next : Except Ending Task}
      {started : List Task} (attempt : before.owner? = some owner)
      (restored : before.restoring? = some channel) (ends : Concludes wake owner (.ok ()) next)
      (starts : ∀ t ∈ started, t.isPlain) :
      Shift l wake id before
        ({ l with channel := some channel, everConnected := true, state := .connected }.released
          owner (.ok ()))
        next started
  | fails {owner : Owner} {before : Task} {fault : Fault} {next : Except Ending Task}
      (attempt : before.owner? = some owner) (ends : Concludes wake owner (.error fault) next) :
      Shift l wake id before ({ l with state := .disconnected }.released owner (.error fault)) next []
  | retires {due : Duration} (down : l.shutdown = true) :
      Shift l wake id (.resting due) { l with reconnecting := false } (.error .quiet) []
  | ignores {channel : Channel} (h : l.shutdown = true ∨ channel.generation ≠ l.generation) :
      Shift l wake id (.watching channel) l (.error .quiet) []
  | loses {channel : Channel} (running : l.shutdown = false)
      (newest : channel.generation = l.generation) :
      Shift l wake id (.watching channel)
        { l with
          channel := l.channel.filter fun current => current.generation ≠ channel.generation
          state := .disconnected
          reconnecting := true }
        (.error .quiet) (if l.reconnecting then [] else [.resting wake])
  | closes {before : Task} {state : ConnectionState} {next : Except Ending Task}
      (plain : before.isPlain) (goesOn : ∀ t, next = .ok t → t.isPlain) :
      Shift l wake id before
        { l with shutdown := true, everConnected := false, channel := none, state } next []
  | closed {before : Task} {ending : Ending} (plain : before.isPlain) :
      Shift l wake id before { l with state := .disconnected } (.error ending) []

end Link

/-! ## Every step is a shift of the link -/

theorem Task.Seeks.isLoop {owner : Owner} {t : Task} (h : t.Seeks owner) :
    t.isLoop = decide (owner = .loop) := by
  cases h <;> rfl

namespace Client

variable {c : Client} {now : Duration} {id : TaskId}

theorem concludes_conclusion (owner : Owner) (result : Except Fault Unit) :
    Link.Concludes (c.wakeUp now) owner result (c.conclusion now owner result) := by
  cases owner with
  | caller => exact .caller result
  | loop =>
    cases result with
    | ok u => exact .succeeds
    | error fault => exact .again fault

theorem link_released (owner : Owner) (result : Except Fault Unit) :
    (c.released owner result).link = c.link.released owner result := by
  cases owner <;> cases result <;> rfl

/-- The reaction leaves the link as it was, and only plain tasks behind. -/
structure Rests (c : Client) (reaction : Reaction) : Prop where
  link : reaction.client.link = c.link
  next : ∀ t, reaction.next = .ok t → t.isPlain
  started : ∀ t ∈ reaction.started, t.isPlain

theorem rests_wait {task : Task} (plain : task.isPlain) : c.Rests (c.wait task) where
  link := rfl
  next _ h := Except.ok.inj h ▸ plain
  started _ h := nomatch h

theorem rests_stop (ending : Ending) : c.Rests (c.stop ending) where
  link := rfl
  next _ h := nomatch h
  started _ h := nomatch h

theorem rests_call {called : Client} (same : called.link = c.link) (session : SessionId)
    (call : Call) {after : After} (plain : (Task.calling session call after).isPlain) :
    c.Rests (called.call session call after) where
  link := same
  next _ h := Except.ok.inj h ▸ plain
  started _ h := nomatch h

theorem Rests.noting {reaction : Reaction} (h : c.Rests reaction) (settlement : Settlement) :
    c.Rests (reaction.noting settlement) :=
  ⟨h.link, h.next, h.started⟩

theorem Attends.rests {delivery : DeliveryId} {reaction : Reaction}
    (h : Attends c delivery reaction) : c.Rests reaction := by
  induction h with
  | stops => exact rests_stop _
  | judging | sleeping | holding => exact rests_wait rfl
  | publishing => exact rests_call rfl _ _ rfl
  | passed _ h teller =>
    obtain ⟨-, -, rfl, -⟩ := settleCall_eq_ok h
    have same : (c.marking delivery).link = c.link := rfl
    refine (rests_call same _ _ ?_).noting _
    rcases teller with rfl | ⟨next, rfl⟩ <;> rfl
  | refused _ _ _ ih => exact ih.noting _

theorem Answers.plain {before : Task} {signal : Signal} {result : Except Fault Unit}
    (h : Answers c before signal result) : before.isPlain := by
  cases h <;> exact rfl

theorem GoesOn.plain {before : Task} {signal : Signal} {delivery : DeliveryId} {handler : Handler}
    (h : GoesOn c before signal delivery handler) : before.isPlain := by
  cases h <;> exact rfl

theorem Rests.shift {reaction : Reaction} (h : c.Rests reaction) {before : Task}
    (plain : before.isPlain) (wake : Duration) (id : TaskId) :
    Link.Shift c.link wake id before reaction.client.link reaction.next reaction.started :=
  h.link ▸ .rests plain h.next h.started

end Client

theorem System.Readies.link {s ready : System} {move : Move} {id : TaskId} {task : Task}
    {signal : Signal} (h : s.Readies move id task signal ready) :
    ready.client.link = s.client.link := by
  rw [h.client]
  rfl

/-- What a move lets a task find of the connect lock. -/
theorem System.Readies.grants {s ready : System} {move : Move} {id : TaskId} {task : Task}
    {signal : Signal} (h : s.Readies move id task signal ready) {owner : Owner} {held : Client}
    (takes : Client.Takes ready.client id owner task signal held) :
    task.Seeks owner ∧ ∃ lock, ready.client.link.Grants id lock ∧
      held = { ready.client with lock } := by
  cases takes with
  | free empty => exact ⟨.connect, [id], .free empty, rfl⟩
  | due _ empty => exact ⟨.resting _, [id], .free empty, rfl⟩
  | granted =>
    cases h with
    | resume _ admitted =>
      exact ⟨.locking owner, s.client.lock, .next (of_decide_eq_true admitted), rfl⟩

theorem shift_of_readies {s ready : System} {move : Move} {id : TaskId} {task : Task}
    {signal : Signal} (h : s.Readies move id task signal ready) :
    Link.Shift ready.client.link (ready.client.wakeUp ready.now) id task
      (ready.client.resume ready.now id task signal).client.link
      (ready.client.resume ready.now id task signal).next
      (ready.client.resume ready.now id task signal).started := by
  have transition := Client.transition_of_readies h
  revert transition
  generalize ready.client.resume ready.now id task signal = reaction
  intro transition
  cases transition with
  | queues queues taken =>
    refine .queues ?_ taken
    cases queues with
    | caller => exact .connect
    | loop => exact .resting _
  | finds takes installed =>
    obtain ⟨seeks, lock, grants, rfl⟩ := h.grants takes
    exact Client.link_released _ _ ▸ .finds seeks grants installed (Client.concludes_conclusion _ _)
  | unconfigured takes missing _ =>
    obtain ⟨seeks, lock, grants, rfl⟩ := h.grants takes
    exact Client.link_released _ _ ▸
      .unconfigured seeks grants missing (Client.concludes_conclusion _ _)
  | connects takes missing =>
    obtain ⟨seeks, lock, grants, rfl⟩ := h.grants takes
    exact .connects seeks grants missing
  | reconnects takes missing =>
    obtain ⟨seeks, lock, grants, rfl⟩ := h.grants takes
    exact .reconnects seeks grants missing
  | limits => exact .advances rfl rfl (fun _ h => nomatch h) fun _ h => nomatch h
  | unopened => exact Client.link_released _ _ ▸ .fails rfl (Client.concludes_conclusion _ _)
  | restores plan => exact .counts rfl rfl rfl
  | declares => exact .advances rfl rfl (fun _ h => h) fun _ h => nomatch h
  | attaches cloned => exact .advances rfl rfl (fun _ h => h) fun _ h => nomatch h
  | reattaches =>
    refine .advances rfl rfl (fun _ h => h) ?_
    intro t ht
    rw [List.mem_singleton.1 ht]
    exact rfl
  | installs completes =>
    rename_i owner channel installed started
    change Link.Shift _ _ _ _ ((installed.installing channel).released owner (.ok ())).link _ _
    cases completes with
    | limited => exact Client.link_released _ _ ▸ .opens rfl (Client.concludes_conclusion _ _)
    | restored =>
      exact Client.link_released _ _ ▸
        .installs rfl rfl (Client.concludes_conclusion _ _) fun _ h => nomatch h
    | attached =>
      refine Client.link_released _ _ ▸ .installs rfl rfl (Client.concludes_conclusion _ _) ?_
      intro t ht
      rw [List.mem_singleton.1 ht]
      exact rfl
  | abandons restores =>
    refine .advances ?_ rfl (fun _ h => nomatch h) fun _ h => nomatch h
    cases restores <;> rfl
  | fails => exact Client.link_released _ _ ▸ .fails rfl (Client.concludes_conclusion _ _)
  | retires down => exact .retires down
  | ignores stale => exact .ignores stale
  | loses running newest => exact .loses running newest
  | closes installed =>
    exact .closes rfl fun _ h =>
      Except.ok.inj h ▸ rfl
  | shuts missing => exact .closes rfl fun _ h => nomatch h
  | closed => exact .closed rfl
  | plans installed plan =>
    exact (Client.rests_call rfl _ _ rfl).shift rfl _ _
  | continues => exact (Client.rests_call rfl _ _ rfl).shift rfl _ _
  | publishes installed made =>
    exact (Client.rests_call rfl _ _ rfl).shift rfl _ _
  | consumes installed =>
    exact (Client.rests_call rfl _ _ rfl).shift rfl _ _
  | registers =>
    refine .rests rfl (fun _ h => nomatch h) ?_
    intro t ht
    rw [List.mem_singleton.1 ht]
    exact rfl
  | settles =>
    exact (Client.attends_settle _ _).rests.shift rfl _ _
  | answers answers => exact (Client.rests_stop _).shift answers.plain _ _
  | observes waits seen =>
    have plain : task.isPlain := by
      rcases waits with rfl | rfl <;> exact rfl
    rcases seen with rfl | rfl
    · exact (Client.rests_stop _).shift plain _ _
    · exact (Client.rests_wait rfl).shift plain _ _
  | streams =>
    refine .rests rfl ?_ ?_
    · intro t ht
      rw [← Except.ok.inj ht]
      exact rfl
    · intro t ht
      rw [List.mem_singleton.1 ht]
      exact rfl
  | streamEnds => exact (Client.rests_stop _).shift rfl _ _
  | handles goesOn => exact (Client.attends_handle _ _).rests.shift goesOn.plain _ _
  | misses => exact (Client.rests_stop _).shift rfl _ _
  | judges => exact (Client.attends_judge _ _).rests.shift rfl _ _

end Laneway.Broker
