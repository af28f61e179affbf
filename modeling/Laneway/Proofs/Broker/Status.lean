import Laneway.Proofs.Broker.Closing

set_option autoImplicit false

/-! # The state that callers see

The state a client reports and the channel it has in use are written apart from each other. An
attempt writes both when it installs its session, and a loss takes both back; but `close` takes the
channel out first and writes the state only when the channel has been closed. Whatever is connected
in between is reported as disconnected from then on. Apart from this, and from operations that are
given up midway, the state at rest tells whether there is a channel. -/

namespace Laneway.Broker

/-! ## Operations given up midway -/

/-- The task waits for the channel of a close to be closed. -/
def Task.isClosing : Task → Bool
  | .calling _ _ .closed => true
  | _ => false

theorem Task.eq_of_isClosing {t : Task} (h : t.isClosing) :
    ∃ session call, t = .calling session call .closed := by
  unfold Task.isClosing at h
  split at h
  · exact ⟨_, _, rfl⟩
  · exact nomatch h

/-- The task is in the middle of a connection attempt or of a close. -/
def Task.isMidway (t : Task) : Bool := t.owner?.isSome || t.isClosing

/-- Nobody is in the middle of a connection attempt or of a close. -/
def System.AtRest (s : System) : Prop := ∀ id t, s.task? id = some t → t.isMidway = false

theorem System.atRest_of_tasks {s : System}
    (outside : s.tasks.all fun entry => !entry.2.isMidway) : s.AtRest := by
  intro id t found
  obtain ⟨before, after, tasks, -⟩ := List.lookup_eq_some_iff.1 found
  simpa using List.all_eq_true.1 outside (id, t) (by simp [tasks])

/-- A caller gives up a `connect()` or a `close()` midway. -/
def Moment.Quits (m : Moment) : Prop :=
  ∃ id t, m.move = .cancel id ∧ m.system.task? id = some t ∧ t.isMidway

/-- A `close()` has returned while this channel was in use, and it has been in use since. -/
def ClosedOver (history : List Moment) (channel : Channel) : Prop :=
  Lasting Moment.Closes (fun m => m.system.client.channel = some channel) history

/-- A `connect()` or a `close()` was given up midway in this state, and it has been the state
    since. -/
def Forsaken (history : List Moment) (state : ConnectionState) : Prop :=
  Lasting Moment.Quits (fun m => m.system.client.state = state) history

/-! ## Who writes the state -/

namespace Client

variable {c : Client} {now : Duration} {id : TaskId} {before : Task} {signal : Signal}
  {reaction : Reaction}

/-- The step goes on in the middle of an attempt or of a close. -/
def GoesOnMidway (reaction : Reaction) : Prop := ∃ t, reaction.next = .ok t ∧ t.isMidway

/-- What a step does to the channel in use and to the state. -/
inductive Reports (c : Client) (before : Task) (reaction : Reaction) : Prop
  | keeps (channel : reaction.client.channel = c.channel)
      (state : reaction.client.state = c.state) (notClosing : before.isClosing = false)
      (other : before ≠ .begin .close) (goesOn : before.isMidway → GoesOnMidway reaction)
  | seeks (missing : reaction.client.channel = none) (goesOn : GoesOnMidway reaction)
  | installs (attempt : before.owner?.isSome) (installed : reaction.client.channel ≠ none)
      (connected : reaction.client.state = .connected)
  | resets (missing : reaction.client.channel = none)
      (disconnected : reaction.client.state = .disconnected)
  | closes (channel : reaction.client.channel = c.channel)
      (disconnected : reaction.client.state = .disconnected) (closing : before.isClosing)
      (returns : reaction.next = .error (.answered (.ok ())))

/-- A step that leaves channel and state alone and is no step of an attempt or a close. -/
theorem reports_rest (channel : reaction.client.channel = c.channel)
    (state : reaction.client.state = c.state) (outside : before.isMidway = false)
    (other : before ≠ .begin .close) : Reports c before reaction :=
  .keeps channel state (Bool.or_eq_false_iff.1 outside).2 other fun midway =>
    nomatch outside.symm.trans midway

theorem reports_aside (h : c.Aside reaction) (outside : before.isMidway = false)
    (other : before ≠ .begin .close) : Reports c before reaction :=
  reports_rest (congrArg Link.channel h.link) (congrArg Link.state h.link) outside other

theorem Takes.idle {owner : Owner} {held : Client} (h : Takes c id owner before signal held) :
    before.isMidway = false ∧ before ≠ .begin .close ∧ held.channel = c.channel ∧
      held.state = c.state := by
  cases h <;> exact ⟨rfl, nofun, rfl, rfl⟩

theorem Answers.idle {result : Except Fault Unit} (h : Answers c before signal result) :
    before.isMidway = false ∧ before ≠ .begin .close := by
  cases h with
  | detached _ kind =>
    refine ⟨rfl, ?_⟩
    rintro ⟨⟩
    exact nomatch kind
  | _ => exact ⟨rfl, nofun⟩

theorem Transition.reports (h : Transition c now id before signal reaction)
    (own : before.owner?.isSome → c.channel = none)
    (newest : ∀ channel, c.channel = some channel → channel.generation = c.generation) :
    Reports c before reaction := by
  cases h with
  | queues queues => cases queues <;> exact reports_rest rfl rfl rfl nofun
  | finds takes | unconfigured takes =>
    obtain ⟨outside, other, channel, state⟩ := takes.idle
    exact reports_rest channel state outside other
  | connects takes missing | reconnects takes missing =>
    obtain ⟨-, -, channel, -⟩ := takes.idle
    exact .seeks (channel.trans missing) ⟨_, rfl, rfl⟩
  | limits | restores | declares | attaches | reattaches =>
    exact .keeps rfl rfl rfl nofun fun _ => ⟨_, rfl, rfl⟩
  | abandons restores =>
    cases restores <;> exact .keeps rfl rfl rfl nofun fun _ => ⟨_, rfl, rfl⟩
  | unopened | fails => exact .resets (own rfl) rfl
  | installs completes => cases completes <;> exact .installs rfl nofun rfl
  | loses running same =>
    refine .resets ?_ rfl
    show c.channel.filter _ = none
    rw [Option.filter_eq_none_iff]
    intro channel installed
    simpa using (newest channel installed).trans same.symm
  | closes => exact .seeks rfl ⟨_, rfl, rfl⟩
  | shuts => exact .resets rfl rfl
  | closed => exact .closes rfl rfl rfl rfl
  | settles => exact reports_aside (attends_settle _ _).aside rfl nofun
  | judges => exact reports_aside (attends_judge _ _).aside rfl nofun
  | handles goesOn => cases goesOn <;> exact reports_aside (attends_handle _ _).aside rfl nofun
  | answers answers =>
    obtain ⟨outside, other⟩ := answers.idle
    exact reports_rest rfl rfl outside other
  | observes waits seen =>
    rcases waits with rfl | rfl <;> rcases seen with rfl | rfl <;>
      exact reports_rest rfl rfl rfl nofun
  | _ => exact reports_rest rfl rfl rfl nofun

end Client

/-! ## What the state tells -/

/-- The state of a client that has a channel in use tells so unless a close has returned over it; that
    of a client without one is disconnected unless an attempt or a close is to write it still, or has
    been given up before it did. -/
structure System.Reported (s : System) (history : List Moment) : Prop where
  installed : ∀ channel, s.client.channel = some channel →
    (s.client.state = .connected ∧ ¬ ClosedOver history channel) ∨
    (s.client.state = .disconnected ∧ ClosedOver history channel)
  missing : s.client.channel = none → s.client.state ≠ .disconnected →
    (∃ id t, s.task? id = some t ∧ t.isMidway) ∨ Forsaken history s.client.state

section Reported

variable {settings : Settings} {history : List Moment} {s s' ready : System} {move : Move}
  {id : TaskId} {task : Task} {signal : Signal} {channel : Channel} {m : Moment}

theorem closedOver_concat : ClosedOver (history ++ [m]) channel ↔
    m.system.client.channel = some channel ∧ (m.Closes ∨ ClosedOver history channel) :=
  lasting_concat

/-- A moment in which no close returns keeps the channel as closed over as it was. -/
theorem closedOver_concat_of_not_closes (installed : m.system.client.channel = some channel)
    (quiet : ¬ m.Closes) : ClosedOver (history ++ [m]) channel ↔ ClosedOver history channel := by
  simp [closedOver_concat, installed, quiet]

theorem Forsaken.concat {state : ConnectionState} (forsaken : Forsaken history state)
    (same : m.system.client.state = state) : Forsaken (history ++ [m]) state :=
  lasting_concat.2 ⟨same, .inr forsaken⟩

/-- Channel and state stay true to each other while neither is written, no close returns, and whoever
    is midway stays so or is given up. -/
theorem System.Reported.keep (reported : m.system.Reported history)
    (channel : s'.client.channel = m.system.client.channel)
    (state : s'.client.state = m.system.client.state) (quiet : ¬ m.Closes)
    (midway : ∀ id t, m.system.task? id = some t → t.isMidway →
      (∃ t', s'.task? id = some t' ∧ t'.isMidway) ∨ m.Quits) :
    s'.Reported (history ++ [m]) := by
  refine ⟨?_, ?_⟩
  · intro found installed
    rw [channel] at installed
    rw [state, closedOver_concat_of_not_closes installed quiet]
    exact reported.installed found installed
  · intro missing shown
    rw [channel] at missing
    rw [state] at shown ⊢
    rcases reported.missing missing shown with ⟨id, t, found, before⟩ | forsaken
    · rcases midway id t found before with ⟨t', stays, after⟩ | quits
      · exact .inl ⟨id, t', stays, after⟩
      · exact .inr (lasting_concat.2 ⟨rfl, .inl quits⟩)
    · exact .inr (forsaken.concat rfl)

/-- Whoever is midway stays so, or is given up. -/
theorem System.Drifts.midway (drift : s.Drifts move s') (numbered : s.Numbered)
    (found : s.task? id = some task) (midway : task.isMidway) :
    s'.task? id = some task ∨ Moment.Quits ⟨s, move, none⟩ := by
  cases drift with
  | begin =>
    rw [System.task?_start numbered, if_neg (Nat.ne_of_lt (numbered.lt found))]
    exact .inl found
  | @cancel other =>
    by_cases same : id = other
    · exact .inr ⟨id, task, same ▸ rfl, found, midway⟩
    · rw [System.task?_cancel, if_neg same]
      exact .inl found
  | forge | lose | pass => exact .inl found

theorem System.Reported.drift (reported : s.Reported history) (numbered : s.Numbered)
    (drift : s.Drifts move s') : s'.Reported (history ++ [⟨s, move, none⟩]) := by
  have quiet : ¬ Moment.Closes ⟨s, move, none⟩ := by
    rintro ⟨_, _, did, -⟩
    exact nomatch did
  refine reported.keep (congrArg Link.channel drift.link.1) (congrArg Link.state drift.link.1) quiet
    fun id t found midway => ?_
  exact (drift.midway numbered found midway).imp (fun stays => ⟨t, stays, midway⟩) fun quits => quits

/-- A step returns from a close only when it begins one or goes on from the middle of one. -/
theorem not_closes {activity : Activity} (notClosing : activity.before.isClosing = false)
    (other : activity.before ≠ .begin .close) : ¬ Moment.Closes ⟨s, move, some activity⟩ := by
  rintro ⟨_, _, ⟨⟩, -, begins | ⟨_, _, closing⟩⟩
  · exact other begins
  · rw [closing] at notClosing
    exact nomatch notClosing

theorem System.Reported.absorb (reported : s.Reported history) (numbered : s.Numbered)
    (sound : s.Sound) (h : s.Readies move id task signal ready) :
    (ready.absorb id (ready.client.resume ready.now id task signal)).Reported
      (history ++ [⟨s, move, some (ready.activity id task signal)⟩]) := by
  have follows := h.follows numbered (ready.client.resume ready.now id task signal)
  have same : ready.client.channel = s.client.channel := congrArg Link.channel h.link
  have unchanged : ready.client.state = s.client.state := congrArg Link.state h.link
  have own : task.owner?.isSome → s.client.channel = none := fun attempt =>
    (sound.locked id task h.found attempt).2
  have newest : ∀ current, ready.client.channel = some current →
      current.generation = ready.client.generation := fun current installed =>
    (sound.newest current (same.symm.trans installed)).trans (congrArg Link.generation h.link).symm
  have reports := (Client.transition_of_readies h).reports (fun attempt => same.trans (own attempt))
    newest
  cases reports with
  | keeps channel state notClosing other goesOn =>
    refine reported.keep (channel.trans same) (state.trans unchanged) (not_closes notClosing other)
      fun other t found midway => .inl ?_
    by_cases ho : other = id
    · subst ho
      cases Option.some.inj (found.symm.trans h.found)
      obtain ⟨t', goes, midway'⟩ := goesOn midway
      exact ⟨t', follows.goesOn t' goes, midway'⟩
    · exact ⟨t, follows.others other t ho found, midway⟩
  | seeks missing goesOn =>
    obtain ⟨t, goes, midway⟩ := goesOn
    exact ⟨fun _ installed => absurd (missing.symm.trans installed) nofun,
      fun _ _ => .inl ⟨id, t, follows.goesOn t goes, midway⟩⟩
  | installs attempt installed connected =>
    refine ⟨fun channel _ => .inl ⟨connected, ?_⟩, fun missing => absurd missing installed⟩
    rw [closedOver_concat]
    exact fun ⟨before, _⟩ => nomatch (own attempt).symm.trans before
  | resets missing disconnected =>
    exact ⟨fun _ installed => absurd (missing.symm.trans installed) nofun,
      fun _ shown => absurd disconnected shown⟩
  | closes channel disconnected closing returns =>
    refine ⟨fun found installed => .inr ⟨disconnected, ?_⟩, fun _ shown => absurd disconnected shown⟩
    exact closedOver_concat.2 ⟨same.symm.trans (channel.symm.trans installed),
      .inl ⟨_, _, rfl, returns, .inr (Task.eq_of_isClosing closing)⟩⟩

theorem Run.reported (run : Run settings history s) : s.Reported history := by
  induction run with
  | start => exact ⟨nofun, fun _ shown => absurd rfl shown⟩
  | next run step ih =>
    rcases System.step_cases step with ⟨rfl, drift⟩ | ⟨id, task, signal, ready, h, rfl, rfl⟩
    · exact ih.drift run.numbered drift
    · exact ih.absorb run.numbered run.sound h

end Reported

/-- Whenever nobody is in the middle of a connection attempt or of a close, the state is that a client
    with a channel in use is connected and one without is disconnected, exactly if no close has
    returned over the channel in use, and if, without a channel, the state is not left from an
    operation that was given up. -/
theorem state_tells_channel_iff {settings : Settings} {history : List Moment} {s : System}
    (run : Run settings history s) (rest : s.AtRest) :
    s.client.state = (if s.client.channel.isSome then .connected else .disconnected) ↔
      (∀ channel, s.client.channel = some channel → ¬ ClosedOver history channel) ∧
      (s.client.channel = none → s.client.state ≠ .disconnected →
        ¬ Forsaken history s.client.state) := by
  cases hc : s.client.channel with
  | none =>
    refine ⟨fun told => ⟨nofun, fun _ shown => absurd told shown⟩, fun ⟨_, kept⟩ => ?_⟩
    refine Decidable.byContradiction fun (shown : s.client.state ≠ .disconnected) => ?_
    rcases run.reported.missing hc shown with ⟨id, t, found, midway⟩ | forsaken
    · exact nomatch (rest id t found).symm.trans midway
    · exact kept rfl shown forsaken
  | some channel =>
    rcases run.reported.installed channel hc with ⟨connected, unclosed⟩ | ⟨disconnected, returned⟩
    · exact iff_of_true connected ⟨fun _ same => Option.some.inj same ▸ unclosed, nofun⟩
    · have told : s.client.state ≠ .connected := disconnected ▸ nofun
      exact iff_of_false told fun ⟨kept, _⟩ => kept channel rfl returned

/-- A client connects, is closed, and connects again. -/
def connectAfterClose : List Move :=
  [.begin .connect, .resume 0 .turn, .connect 0, .resume 0 (.answered (.ok ())),
    .begin .close, .resume 2 .turn, .resume 2 (.answered (.ok ())),
    .begin .connect, .resume 3 .turn, .connect 3, .resume 3 (.answered (.ok ()))]

/-- A close that has returned before a channel was installed is none over that channel. -/
theorem state_tells_channel_iff_connectAfterClose : ∃ history s, Run bareSettings history s ∧
    s.AtRest ∧ s.client.channel = some ⟨2, 2⟩ ∧ s.client.state = .connected ∧
      ¬ ClosedOver history ⟨2, 2⟩ := by
  let e : Execution bareSettings := .ofMoves bareSettings connectAfterClose rfl
  have rest : (e.system 11).AtRest := System.atRest_of_tasks rfl
  have installed : (e.system 11).client.channel = some ⟨2, 2⟩ := rfl
  have connected : (e.system 11).client.state = .connected := rfl
  obtain ⟨unclosed, -⟩ := (state_tells_channel_iff (e.run 11) rest).1 connected
  exact ⟨_, _, e.run 11, rest, installed, connected, unclosed _ installed⟩

/-- A client connects, and connects again while a close of it waits for the first channel to be
    closed. Then the close goes on. -/
def connectDuringClose : List Move :=
  [.begin .connect, .resume 0 .turn, .connect 0, .resume 0 (.answered (.ok ())),
    .begin .close, .resume 2 .turn,
    .begin .connect, .resume 3 .turn, .connect 3, .resume 3 (.answered (.ok ())),
    .lose 1, .resume 1 .lost, .resume 2 (.answered (.ok ()))]

/-- A close that returns after another connect has succeeded leaves a client that has a live channel
    in use and tells that it is disconnected, with nothing left to do but to watch the session. -/
theorem disconnected_of_connectDuringClose : ∃ history s, Run bareSettings history s ∧
    s.AtRest ∧ s.tasks = [(4, .watching ⟨2, 2⟩)] ∧ 2 ∉ s.lost ∧ s.client.shutdown = false ∧
      s.client.channel = some ⟨2, 2⟩ ∧ s.client.state = .disconnected := by
  let e : Execution bareSettings := .ofMoves bareSettings connectDuringClose rfl
  have alive : 2 ∉ (e.system 13).lost := by
    rw [show (e.system 13).lost = [1] from rfl]
    decide
  exact ⟨_, _, e.run 13, System.atRest_of_tasks rfl, rfl, alive, rfl, rfl, rfl⟩

end Laneway.Broker
