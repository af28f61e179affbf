import Laneway.Proofs.Binding.Rehearsed
import Laneway.Proofs.Webhook.Course
import Laneway.Server.Rehearsal

set_option autoImplicit false

/-! # Rehearsed deliveries

A rehearsed server carries out every delivery within one step of its script. That is one of the ways
in which a delivery can take its course: other hosts see the same requests, and the outcome is the
same. So what holds of every run holds of what is rehearsed. -/

namespace Laneway.Webhook

namespace Delivering

open Binding (Key LookupId Call Outcome Resolving)

/-- What other hosts have seen of a delivery that has done this. -/
def seen (deeds : List Deed) : List Http.Request :=
  deeds.flatMap fun deed => match deed with
    | .answered _ seen => seen
    | _ => []

/-- How a delivery has ended that has done this, if it has ended and not crashed. -/
def result? (deeds : List Deed) : Option (Except RelayFault Unit) :=
  deeds.findSome? fun deed => match deed with
    | .ended result => some result
    | _ => none

theorem seen_append (deeds more : List Deed) : seen (deeds ++ more) = seen deeds ++ seen more :=
  List.flatMap_append

theorem result?_append (deeds more : List Deed) :
    result? (deeds ++ more) = (result? deeds).or (result? more) := List.findSome?_append

/-- A stage has the relay, the services, the trace id and the resolver of a state. -/
structure Plays (s : Server.Rehearsal.Stage) (d : Delivering) : Prop where
  relay : d.relay = s.relay
  topology : d.topology = s.app.topology
  traceIds : ∀ n, d.traceIds n = s.fresh.traceId
  resolving : d.resolving = s.bindings.resolving

variable {first d d' : Delivering} {history : List Moment} {s : Server.Rehearsal.Stage}
  {id : DeliveryId}

/-! ## Moves of the resolver -/

theorem deeds_of_silent {more : List Moment} (silent : ∀ m ∈ more, m.occurrence = .silent)
    (id : DeliveryId) : deeds id more = [] := by
  refine List.filterMap_eq_nil_iff.2 fun m mem => ?_
  rw [silent m mem]

/-- Moves of the resolver that end no lookup which a delivery waits for go by in silence. -/
theorem Run.aside {events : List Resolving.Event} {last : Resolving} (run : Run first history d)
    (leads : d.resolving.Leads events last)
    (alone : ∀ lookup outcome, .ended lookup outcome ∈ events → d.waiter? lookup = none) :
    ∃ more, Run first (history ++ more) { d with resolving := last } ∧
      ∀ m ∈ more, m.occurrence = .silent := by
  induction leads with
  | start => exact ⟨[], by rwa [List.append_nil], fun _ mem => nomatch mem⟩
  | @next events before after move event leads step ih =>
    obtain ⟨more, run', silent⟩ := ih fun lookup outcome mem =>
      alone lookup outcome (List.mem_append_left _ mem)
    have moves : ({ d with resolving := before } : Delivering).step (.resolver move) =
        some ({ d with resolving := after }, .silent) := by
      simp only [Delivering.step, step, Option.map_some]
      cases event with
      | ended lookup outcome =>
        have unwaited : ({ d with resolving := before } : Delivering).waiter? lookup = none :=
          alone lookup outcome (List.mem_append_right _ List.mem_cons_self)
        simp only [unwaited]
      | called | read | silent => rfl
    have moved := run'.next moves
    rw [List.append_assoc] at moved
    refine ⟨_, moved, fun m mem => ?_⟩
    rcases List.mem_append.1 mem with old | new
    · exact silent m old
    · cases List.mem_singleton.1 new
      rfl

/-! ## Deliveries at once -/

theorem Run.numbered {relay : Relay} {traceIds : Nat → String} {topology : Routing.Topology}
    {lifetime : Duration} {store : Binding.Store}
    (run : Run (.new relay traceIds topology lifetime store) history d) : d.resolving.Numbered :=
  run.toResolving.leads.numbered fun _ _ => rfl

/-- What comes of carrying out the rest of a delivery: moves lead to a state without it, and in these
    other hosts have seen the same of it, and it has had the same outcome. -/
structure Carried (first : Delivering) (history : List Moment) (id : DeliveryId)
    (s : Server.Rehearsal.Stage)
    (carried : Server.Rehearsal.Stage × Option (Except RelayFault Unit)) (more : List Moment)
    (d' : Delivering) : Prop where
  run : Run first (history ++ more) d'
  plays : Plays carried.1 d'
  idle : d'.waiting = []
  seen : carried.1.seen = s.seen ++ seen (deeds id more)
  result : carried.2 = result? (deeds id more)

theorem Carried.prepend {earlier later : List Moment} {done : List Deed}
    {s₁ : Server.Rehearsal.Stage}
    {carried : Server.Rehearsal.Stage × Option (Except RelayFault Unit)}
    (rest : Carried first (history ++ earlier) id s₁ carried later d')
    (did : deeds id earlier = done) (sees : s₁.seen = s.seen ++ Delivering.seen done)
    (goesOn : result? done = none) :
    Carried first history id s carried (earlier ++ later) d' where
  run := by
    rw [← List.append_assoc]
    exact rest.run
  plays := rest.plays
  idle := rest.idle
  seen := by
    rw [rest.seen, sees, deeds_append, did, seen_append, List.append_assoc]
  result := by
    rw [rest.result, deeds_append, did, result?_append, goesOn, Option.none_or]

/-- When it is the only one, this delivery can be carried out at once. -/
def CanCarry (first : Delivering) (id : DeliveryId) (delivery : Delivery) : Prop :=
  ∀ history d s, Run first history d → Plays s d → d.waiting = [(id, .turn delivery)] →
    ∃ more d', Carried first history id s (s.carryOut delivery) more d'

/-- The only delivery waits for something else. -/
theorem wait_only {waiting : Waiting} (only : d.waiting = [(id, waiting)]) (later : Waiting) :
    (d.wait id later).waiting = [(id, later)] := by
  rw [wait, only]
  simp

theorem lookup_only {waiting : Waiting} (only : d.waiting = [(id, waiting)]) :
    d.waiting.lookup id = some waiting := by
  rw [only]
  exact List.lookup_cons_self

theorem waiter?_only {waiting : Waiting} (only : d.waiting = [(id, waiting)]) {lookup : LookupId}
    (other : ∀ next, waiting ≠ .lookup lookup next) : d.waiter? lookup = none := by
  rw [waiter?, only]
  cases waiting with
  | lookup l next =>
    have ne : l ≠ lookup := by
      rintro rfl
      exact other next rfl
    simp [ne]
  | turn | answer => rfl

theorem close_only {waiting : Waiting} (only : d.waiting = [(id, waiting)]) :
    (d.close id).waiting = [] := by
  rw [close, only]
  simp

/-- The lookup of a call ends while moves lead the resolver on. -/
theorem Run.looksUp {lookup : LookupId} {outcome : Outcome} {last : Resolving}
    {next : Option String → Delivery} (run : Run first history d)
    (only : d.waiting = [(id, .lookup lookup next)])
    (ended : Binding.Rehearsal.Stage.Ends d.resolving lookup outcome last) :
    ∃ more, Run first (history ++ more) { d.resume id next outcome with resolving := last } ∧
      deeds id more = [.returned lookup outcome] := by
  obtain @⟨earlier, later, before, after, leads, unended, ends, leads'⟩ := ended
  obtain ⟨more, run₁, silent⟩ := run.aside leads fun other outcome mem => by
    refine waiter?_only only fun next' same => ?_
    cases same
    exact unended outcome mem
  let d₁ : Delivering := { d with resolving := before }
  let d₂ : Delivering := { d with resolving := after }
  have found : d₁.waiter? lookup = some (id, next) := by
    simp [d₁, waiter?, only]
  have leads₂ : (d₂.resume id next outcome).resolving.Leads later last := by
    rw [resume_resolving]
    exact leads'
  have unwaited : ∀ lookup, (d₂.resume id next outcome).waiter? lookup = none := by
    intro other
    cases outcome with
    | lane lane => exact waiter?_only (wait_only (d := d₂) only _) nofun
    | outOfRange =>
      rw [waiter?, resume, close_only (d := d₂) only]
      rfl
  have run₂ := run₁.next (step_returns (d := d₁) ends found)
  obtain ⟨more', run₃, silent'⟩ := run₂.aside leads₂ fun other _ _ => unwaited other
  have same : ({ d₂.resume id next outcome with resolving := last } : Delivering) =
      { d.resume id next outcome with resolving := last } := by cases outcome <;> rfl
  rw [List.append_assoc, List.append_assoc] at run₃
  refine ⟨_, same ▸ run₃, ?_⟩
  rw [deeds_append, deeds_append, deeds_of_silent silent, deeds_of_silent silent', deeds_of_did]
  rfl

theorem turn_call {key : Key} {call : Call} {resolving : Resolving}
    {next : Option String → Delivery}
    (called : d.resolving.step (.resolve key) = some (resolving, .called key call)) :
    d.turn id (.call key next) =
      (({ d with resolving } : Delivering).wait id (.ofCall next call), .called key call) := by
  simp only [Resolving.step] at called
  cases called
  rfl

theorem canCarry_call {key : Key} {next : Option String → Delivery}
    (numbered : ∀ history d, Run first history d → d.resolving.Numbered)
    (later : ∀ lane, CanCarry first id (next lane)) : CanCarry first id (.call key next) := by
  intro history d s run plays only
  have turns := run.next (step_turn (lookup_only only))
  let s₁ : Server.Rehearsal.Stage := { s with bindings := (s.bindings.play (.resolve key)).1 }
  rcases Binding.Rehearsal.Stage.play_resolve (plays.resolving ▸ numbered _ _ run) key with
    ⟨lane, returned, step⟩ | ⟨asked, lookup, outcome, returned, step, ended⟩
  · rw [← plays.resolving] at step
    rw [turn_call step] at turns
    let d₁ : Delivering := { d with resolving := s₁.bindings.resolving }
    have plays₁ : Plays s₁ (d₁.wait id (.turn (next lane))) :=
      ⟨plays.relay, plays.topology, plays.traceIds, rfl⟩
    obtain ⟨more, d', rest⟩ := later lane _ _ _ turns plays₁ (wait_only (d := d₁) only _)
    simp only [Server.Rehearsal.Stage.carryOut, returned, Binding.Rehearsal.Result.lane?]
    exact ⟨_, d', rest.prepend (deeds_of_did _ _) (List.append_nil _).symm rfl⟩
  · rw [← plays.resolving] at step
    rw [turn_call step] at turns
    let d₁ : Delivering :=
      ({ d with resolving := asked } : Delivering).wait id (.lookup lookup next)
    have waits : d₁.waiting = [(id, .lookup lookup next)] :=
      wait_only (d := { d with resolving := asked }) only _
    obtain ⟨more, run₁, did⟩ := turns.looksUp waits ended
    rw [List.append_assoc] at run₁
    have plays₁ : Plays s₁
        { d₁.resume id next outcome with resolving := s₁.bindings.resolving } := by
      cases outcome <;> exact ⟨plays.relay, plays.topology, plays.traceIds, rfl⟩
    have did₁ : deeds id ([⟨d, .turn id, .did id (.called key (.waiting lookup))⟩] ++ more) =
        [.called key (.waiting lookup), .returned lookup outcome] := by
      rw [deeds_append, deeds_of_did, did]
      rfl
    cases outcome with
    | lane lane =>
      obtain ⟨more', d', rest⟩ := later lane _ _ _ run₁ plays₁ (wait_only waits _)
      simp only [Server.Rehearsal.Stage.carryOut, returned, Binding.Rehearsal.Result.lane?]
      exact ⟨_, d', rest.prepend did₁ (List.append_nil _).symm rfl⟩
    | outOfRange =>
      simp only [Server.Rehearsal.Stage.carryOut, returned, Binding.Rehearsal.Result.lane?]
      refine ⟨_, _, run₁, plays₁, close_only waits, ?_, ?_⟩
      · rw [did₁]
        exact (List.append_nil _).symm
      · rw [did₁]
        rfl

theorem canCarry_exchange {make : Routing.Topology → String → Http.Draft}
    {next : Except Http.Failure Http.Response → Delivery}
    (later : ∀ answer, CanCarry first id (next answer)) :
    CanCarry first id (.exchange make next) := by
  intro history d s run plays only
  have turns := run.next (step_turn (lookup_only only))
  let draft := make d.topology (d.traceIds d.drawn)
  let d₁ := ({ d with drawn := d.drawn + 1 } : Delivering).wait id (.answer draft next)
  have waits : d₁.waiting = [(id, .answer draft next)] :=
    wait_only (d := { d with drawn := d.drawn + 1 }) only _
  have answers : d₁.step (.answer id s.network) =
      some (d₁.wait id (.turn (next (draft.send s.network))),
        .did id (.answered s.network (draft.seen s.network))) := by
    simp only [step, lookup_only waits]
  have run₁ := turns.next answers
  rw [List.append_assoc] at run₁
  have plays₁ : Plays { s with seen := s.seen ++ draft.seen s.network }
      (d₁.wait id (.turn (next (draft.send s.network)))) :=
    ⟨plays.relay, plays.topology, plays.traceIds, plays.resolving⟩
  obtain ⟨more, d', rest⟩ := later _ _ _ _ run₁ plays₁ (wait_only waits _)
  have same : make s.app.topology s.fresh.traceId = draft := by
    rw [← plays.topology, ← plays.traceIds d.drawn]
  simp only [Server.Rehearsal.Stage.carryOut, same]
  have did : deeds id ([⟨d, .turn id, .did id (.requested d.topology d.drawn draft)⟩] ++
      [⟨d₁, .answer id s.network, .did id (.answered s.network (draft.seen s.network))⟩]) =
        [.requested d.topology d.drawn draft, .answered s.network (draft.seen s.network)] := by
    rw [deeds_append, deeds_of_did, deeds_of_did]
    rfl
  exact ⟨_, d', rest.prepend did (congrArg _ (List.append_nil _).symm) rfl⟩

theorem canCarry_done {result : Except RelayFault Unit} : CanCarry first id (.done result) := by
  intro history d s run plays only
  refine ⟨_, _, run.next (step_turn (lookup_only only)), ?_, close_only only, ?_, ?_⟩
  · exact ⟨plays.relay, plays.topology, plays.traceIds, plays.resolving⟩
  · rw [deeds_of_did]
    exact (List.append_nil _).symm
  · rw [deeds_of_did]
    rfl

theorem canCarry (numbered : ∀ history d, Run first history d → d.resolving.Numbered)
    (delivery : Delivery) : CanCarry first id delivery := by
  induction delivery with
  | call key next later => exact canCarry_call numbered later
  | exchange make next later => exact canCarry_exchange later
  | done result => exact canCarry_done

/-! ## Rehearsals -/

section

variable {relay : Relay} {traceIds : Nat → String} {topology : Routing.Topology}
  {lifetime : Duration} {store : Binding.Store}

/-- A rehearsed delivery takes its whole course in moves, in which other hosts see the same requests,
    and comes to the same result. -/
theorem Run.delivers (run : Run (.new relay traceIds topology lifetime store) history d)
    (plays : Plays s d) (idle : d.waiting = []) (event : Event) :
    ∃ more d', Run (.new relay traceIds topology lifetime store) (history ++ more) d' ∧
      Plays (s.deliver event).1 d' ∧ d'.waiting = [] ∧
      Course relay traceIds event (deeds d.begun more) ∧
      (s.deliver event).1.seen = s.seen ++ seen (deeds d.begun more) ∧
      (s.deliver event).2 = result? (deeds d.begun more) := by
  let m : Moment := ⟨d, .deliver event, .begun d.begun event⟩
  let begun : Delivering := { d with
    waiting := d.waiting ++ [(d.begun, .turn (d.relay.deliver event))]
    begun := d.begun + 1 }
  have run₁ : Run _ (history ++ [m]) begun := run.next rfl
  have plays₁ : Plays s begun := ⟨plays.relay, plays.topology, plays.traceIds, plays.resolving⟩
  have only : begun.waiting = [(d.begun, .turn (s.relay.deliver event))] := by
    show d.waiting ++ _ = _
    rw [idle, plays.relay]
    rfl
  obtain ⟨more, d', rest⟩ :=
    canCarry (fun _ _ run => run.numbered) _ _ _ _ run₁ plays₁ only
  have carried : Carried _ history d.begun s (s.deliver event) ([m] ++ more) d' :=
    rest.prepend (deeds_of_apart d _ nofun) (List.append_nil _).symm rfl
  have mem : (d.begun, event) ∈ begins (history ++ ([m] ++ more)) := by
    rw [begins_append, begins_append]
    exact List.mem_append_right _ (List.mem_append_left _ List.mem_cons_self)
  have reached := carried.run.reached mem
  rw [deeds_append, (run.unborn (Nat.le_refl _)).1, List.nil_append, carried.idle] at reached
  refine ⟨_, d', carried.run, carried.plays, carried.idle, ?_, carried.seen, carried.result⟩
  generalize deeds d.begun ([m] ++ more) = done at reached ⊢
  cases reached with
  | ended whole => exact whole

/-- The tracker is apart from what deliveries read. -/
theorem Plays.track (plays : Plays s d) (move : Tracker.Move) : Plays (s.track move).1 d := by
  unfold Server.Rehearsal.Stage.track
  split
  · exact ⟨plays.relay, plays.topology, plays.traceIds, plays.resolving⟩
  · exact plays

/-- Moves go on from a history to a state that a stage plays, with no delivery under way. -/
def GoesOnTo (first : Delivering) (history : List Moment) (s : Server.Rehearsal.Stage) : Prop :=
  ∃ more d', Run first (history ++ more) d' ∧ Plays s d' ∧ d'.waiting = []

theorem Run.stays (run : Run first history d) (plays : Plays s d) (idle : d.waiting = []) :
    GoesOnTo first history s :=
  ⟨[], d, (List.append_nil history).symm ▸ run, plays, idle⟩

theorem Run.binds (run : Run first history d) (plays : Plays s d) (idle : d.waiting = [])
    (step : Binding.Rehearsal.Step) :
    GoesOnTo first history { s with bindings := (s.bindings.play step).1 } := by
  obtain ⟨events, leads⟩ := s.bindings.reaches_play step
  rw [← plays.resolving] at leads
  obtain ⟨more, run', -⟩ := run.aside leads fun lookup outcome _ => by
    rw [waiter?, idle]
    rfl
  exact ⟨more, _, run', ⟨plays.relay, plays.topology, plays.traceIds, rfl⟩, idle⟩

theorem Run.advances (run : Run first history d) (plays : Plays s d) (idle : d.waiting = [])
    (span : Duration) : GoesOnTo first history (s.advance span) :=
  run.binds (plays.track (.advance span)) idle (.jump span)

theorem Run.drains (run : Run first history d) (plays : Plays s d) (idle : d.waiting = [])
    (timeout : Duration) : GoesOnTo first history (s.drain timeout).1 := by
  have tracked := plays.track (.drain timeout)
  simp only [Server.Rehearsal.Stage.drain]
  generalize s.track (.drain timeout) = draining at tracked ⊢
  obtain ⟨s₁, event₁⟩ := draining
  cases event₁ with
  | draining id =>
    have woken := tracked.track (.wake id)
    simp only
    generalize s₁.track (.wake id) = drained at woken ⊢
    obtain ⟨s₂, event₂⟩ := drained
    cases event₂ with
    | drained => exact run.stays woken idle
    | forwarded | draining | silent =>
      -- the drain is waited for until its deadline
      obtain ⟨more, d', run', plays', idle'⟩ := run.advances woken idle timeout
      have timed := plays'.track (.wake id)
      simp only
      generalize (s₂.advance timeout).track (.wake id) = drained' at timed ⊢
      obtain ⟨s₃, event₃⟩ := drained'
      cases event₃ <;> exact ⟨more, d', run', timed, idle'⟩
  | forwarded | drained | silent => exact run.stays tracked idle

theorem Run.performs (run : Run (.new relay traceIds topology lifetime store) history d)
    (plays : Plays s d) (idle : d.waiting = []) (effect : Server.Effect) :
    GoesOnTo (.new relay traceIds topology lifetime store) history (s.perform effect) := by
  cases effect with
  | relay event =>
    have tracked := plays.track .forward
    simp only [Server.Rehearsal.Stage.perform]
    generalize s.track .forward = forwarded at tracked ⊢
    obtain ⟨s', told⟩ := forwarded
    cases told with
    | forwarded id =>
      obtain ⟨more, d', run', plays', idle', -⟩ := run.delivers tracked idle event
      exact ⟨more, d', run', plays'.track _, idle'⟩
    | draining | drained | silent => exact run.stays tracked idle
  | forget key => exact run.binds plays idle (.invalidate key)
  | forgetAll => exact run.binds plays idle .clear

/-- Whatever the steps of a script do to the resolver and to deliveries, moves do it. -/
theorem Run.plays (run : Run (.new relay traceIds topology lifetime store) history d)
    (plays : Plays s d) (idle : d.waiting = []) (step : Server.Rehearsal.Step) :
    GoesOnTo (.new relay traceIds topology lifetime store) history (s.play step).1 := by
  cases step with
  | request incoming =>
    simp only [Server.Rehearsal.Stage.play]
    obtain ⟨reply, effect⟩ := s.app.handle s.fresh incoming
    cases effect with
    | some effect => exact run.performs plays idle effect
    | none => exact run.stays plays idle
  | deliver event =>
    obtain ⟨more, d', run', plays', idle', -⟩ := run.delivers plays idle event
    have same : (s.play (.deliver event)).1 = (s.deliver event).1 := by
      simp only [Server.Rehearsal.Stage.play]
      split <;> simp [*]
    exact ⟨more, d', run', same ▸ plays', idle'⟩
  | binding step => exact run.binds plays idle step
  | advance span => exact run.advances plays idle span
  | drain timeout => exact run.drains plays idle timeout
  | nop => exact run.stays plays idle

end

end Delivering

end Laneway.Webhook
