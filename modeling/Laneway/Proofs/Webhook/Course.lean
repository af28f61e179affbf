import Laneway.Proofs.Binding.Record
import Laneway.Webhook.Delivering

set_option autoImplicit false

/-! # The course of a delivery

Whatever happens around it, a delivery takes one course: it calls for the lane of its bot, makes one
request in the lane that this call returns, and ends with what is taken of the answer; or it
crashes with its call. What a delivery has done at some time is the first part of such a course, and
until the course is whole there is a move that takes the delivery on. -/

namespace Laneway.Webhook

namespace Delivering

open Binding (Key LookupId Call Outcome Resolving)

/-! ## Everything a move can do -/

/-- What a move can do: the state after it and what comes of it. -/
inductive Change (d : Delivering) : Move → Delivering → Occurrence → Prop
  | begins (event : Event) : Change d (.deliver event)
      { d with
        waiting := d.waiting ++ [(d.begun, .turn (d.relay.deliver event))]
        begun := d.begun + 1 }
      (.begun d.begun event)
  | calls {id : DeliveryId} {key : Key} {next : Option String → Delivery} {resolving : Resolving}
      {call : Call} (found : d.waiting.lookup id = some (.turn (.call key next)))
      (step : d.resolving.step (.resolve key) = some (resolving, .called key call)) :
      Change d (.turn id) ({ d with resolving }.wait id (.ofCall next call))
        (.did id (.called key call))
  | requests {id : DeliveryId} {make : Routing.Topology → String → Http.Draft}
      {next : Except Http.Failure Http.Response → Delivery}
      (found : d.waiting.lookup id = some (.turn (.exchange make next))) :
      Change d (.turn id)
        ({ d with drawn := d.drawn + 1 }.wait id
          (.answer (make d.topology (d.traceIds d.drawn)) next))
        (.did id (.requested d.topology d.drawn (make d.topology (d.traceIds d.drawn))))
  | ends {id : DeliveryId} {result : Except RelayFault Unit}
      (found : d.waiting.lookup id = some (.turn (.done result))) :
      Change d (.turn id) (d.close id) (.did id (.ended result))
  | answers {id : DeliveryId} {draft : Http.Draft}
      {next : Except Http.Failure Http.Response → Delivery} (network : Http.Network)
      (found : d.waiting.lookup id = some (.answer draft next)) :
      Change d (.answer id network) (d.wait id (.turn (next (draft.send network))))
        (.did id (.answered network (draft.seen network)))
  | deploys (topology : Routing.Topology) : Change d (.deploy topology) { d with topology } .silent
  | returns {move : Resolving.Move} {resolving : Resolving} {lookup : LookupId} {outcome : Outcome}
      {id : DeliveryId} {next : Option String → Delivery}
      (step : d.resolving.step move = some (resolving, .ended lookup outcome))
      (waits : d.waiter? lookup = some (id, next)) :
      Change d (.resolver move) ({ d with resolving }.resume id next outcome)
        (.did id (.returned lookup outcome))
  | resolves {move : Resolving.Move} {resolving : Resolving} {event : Resolving.Event}
      (step : d.resolving.step move = some (resolving, event))
      (aside : ∀ lookup outcome, event = .ended lookup outcome → d.waiter? lookup = none) :
      Change d (.resolver move) { d with resolving } .silent

variable {d d' : Delivering} {move : Move} {occurrence : Occurrence}

theorem change_of_step (h : d.step move = some (d', occurrence)) : d.Change move d' occurrence := by
  cases move with
  | deliver event =>
    cases h
    exact .begins event
  | turn id =>
    simp only [step] at h
    split at h
    · next rest found =>
      cases h
      cases rest with
      | call key next => exact .calls found rfl
      | exchange make next => exact .requests found
      | done result => exact .ends found
    · exact nomatch h
  | answer id network =>
    simp only [step] at h
    split at h
    · next draft next found =>
      cases h
      exact .answers network found
    · exact nomatch h
  | deploy topology =>
    cases h
    exact .deploys topology
  | resolver move =>
    simp only [step] at h
    obtain ⟨⟨resolving, event⟩, moved, same⟩ := Option.map_eq_some_iff.1 h
    simp only at same
    split at same
    · next lookup outcome =>
      split at same
      · next id next waits =>
        cases same
        exact .returns moved waits
      · next alone =>
        cases same
        refine .resolves moved fun lookup' outcome' ended => ?_
        cases ended
        exact alone
    · next other =>
      cases same
      exact .resolves moved fun lookup outcome ended => absurd ended (other lookup outcome)

/-! ## Histories -/

/-- A move with the state it was made in and what came of it. -/
structure Moment where
  before : Delivering
  move : Move
  occurrence : Occurrence

/-- What comes of a first state whatever the deliveries and the world do: the history and the state it
    has led to. -/
inductive Run (first : Delivering) : List Moment → Delivering → Prop
  | start : Run first [] first
  | next {history : List Moment} {d d' : Delivering} {move : Move} {occurrence : Occurrence}
      (run : Run first history d) (step : d.step move = some (d', occurrence)) :
      Run first (history ++ [⟨d, move, occurrence⟩]) d'

/-- The deliveries that have begun, in their order, each with its event. -/
def begins (history : List Moment) : List (DeliveryId × Event) :=
  history.filterMap fun m => match m.occurrence with
    | .begun id event => some (id, event)
    | _ => none

/-- What a delivery has done, in its order. -/
def deeds (id : DeliveryId) (history : List Moment) : List Deed :=
  history.filterMap fun m => match m.occurrence with
    | .did other deed => if other = id then some deed else none
    | _ => none

/-- The numbers of the trace ids that requests were made with, in the order of these. -/
def traces (history : List Moment) : List Nat :=
  history.filterMap fun m => match m.occurrence with
    | .did _ (.requested _ trace _) => some trace
    | _ => none

/-- What the resolver goes through in this moment. -/
def Moment.resolving? (m : Moment) : Option Resolving.Moment :=
  match m.move, m.occurrence with
  | .resolver move, _ =>
    (m.before.resolving.step move).map fun (_, event) => ⟨m.before.resolving, move, event⟩
  | _, .did _ (.called key call) => some ⟨m.before.resolving, .resolve key, .called key call⟩
  | _, _ => none

/-- The history of the resolver. -/
def resolvings (history : List Moment) : List Resolving.Moment :=
  history.filterMap Moment.resolving?

section Append

variable {history : List Moment} {m : Moment}

theorem begins_append (history more : List Moment) :
    begins (history ++ more) = begins history ++ begins more :=
  List.filterMap_append

theorem deeds_append {id : DeliveryId} (history more : List Moment) :
    deeds id (history ++ more) = deeds id history ++ deeds id more :=
  List.filterMap_append

theorem traces_concat : traces (history ++ [m]) = traces history ++ traces [m] :=
  List.filterMap_append

theorem resolvings_concat :
    resolvings (history ++ [m]) = resolvings history ++ m.resolving?.toList := by
  rw [resolvings, List.filterMap_append]
  cases read : m.resolving? <;> simp [resolvings, read]

end Append

theorem deeds_of_did {id : DeliveryId} {deed : Deed} (d : Delivering) (move : Move) :
    deeds id [⟨d, move, .did id deed⟩] = [deed] := by simp [deeds]

theorem deeds_of_apart {id : DeliveryId} (d : Delivering) (move : Move)
    (apart : ∀ deed, occurrence ≠ .did id deed) : deeds id [⟨d, move, occurrence⟩] = [] := by
  cases occurrence with
  | did other deed =>
    have ne : other ≠ id := by
      rintro rfl
      exact apart deed rfl
    simp [deeds, ne]
  | begun | silent => rfl

variable {first : Delivering} {history : List Moment}

theorem Run.split {earlier later : List Moment} {m : Moment}
    (run : Run first (earlier ++ m :: later) d) :
    Run first earlier m.before ∧ ∃ d', m.before.step m.move = some (d', m.occurrence) := by
  generalize parts : earlier ++ m :: later = whole at run
  induction run generalizing later with
  | start => simp at parts
  | next run step ih =>
    rcases concat_eq_append_cons_iff.1 parts.symm with ⟨rfl, rfl, rfl⟩ | ⟨rest, rfl, rfl⟩
    · exact ⟨run, _, step⟩
    · exact ih rfl

/-- A history up to one of its moments is a run too. -/
theorem Run.prior {earlier later : List Moment} {m : Moment}
    (run : Run first (earlier ++ m :: later) d) : ∃ d', Run first (earlier ++ [m]) d' := by
  obtain ⟨before, d', step⟩ := run.split
  exact ⟨d', before.next step⟩

/-- The relay and the trace ids stay what they are. -/
theorem Run.same (run : Run first history d) :
    d.relay = first.relay ∧ d.traceIds = first.traceIds := by
  induction run with
  | start => exact ⟨rfl, rfl⟩
  | next run step ih =>
    cases change_of_step step with
    | @returns _ _ _ outcome => cases outcome <;> exact ih
    | _ => exact ih

theorem resolving?_resolver {move : Resolving.Move} {resolving : Resolving}
    {event : Resolving.Event} (moved : d.resolving.step move = some (resolving, event))
    (occurrence : Occurrence) :
    Moment.resolving? ⟨d, .resolver move, occurrence⟩ = some ⟨d.resolving, move, event⟩ := by
  simp only [Moment.resolving?, moved]
  rfl

/-- What the deliveries and the world do to the resolver is a run of it. -/
theorem Run.toResolving {relay : Relay} {traceIds : Nat → String} {topology : Routing.Topology}
    {lifetime : Duration} {store : Binding.Store}
    (run : Run (.new relay traceIds topology lifetime store) history d) :
    Resolving.Run lifetime store (resolvings history) d.resolving := by
  induction run with
  | start => exact .start
  | next run step ih =>
    rw [resolvings_concat]
    cases change_of_step step with
    | begins | requests | ends | answers | deploys => simpa [Moment.resolving?] using ih
    | calls _ called => exact ih.next called
    | returns moved =>
      rw [resolving?_resolver moved, resume_resolving]
      exact ih.next moved
    | resolves moved =>
      rw [resolving?_resolver moved]
      exact ih.next moved

/-- A request is made for the services as they are then. -/
theorem topology_of_requested {id : DeliveryId} {topology : Routing.Topology} {trace : Nat}
    {draft : Http.Draft}
    (step : d.step move = some (d', .did id (.requested topology trace draft))) :
    topology = d.topology := by
  cases change_of_step step with
  | requests => rfl

/-- Every request has a trace id that was drawn for it. -/
theorem Run.traces_eq (run : Run first history d) (none : first.drawn = 0) :
    traces history = List.range d.drawn := by
  induction run with
  | start => rw [none]; rfl
  | next run step ih =>
    rw [traces_concat]
    cases change_of_step step with
    | requests =>
      rw [ih]
      exact List.range_succ.symm
    | @returns _ _ _ outcome => cases outcome <;> exact (List.append_nil _).trans ih
    | _ => exact (List.append_nil _).trans ih

/-! ## Deliveries side by side -/

theorem lookup_wait {id : DeliveryId} {waiting : Waiting}
    (found : d.waiting.lookup id = some waiting) (later : Waiting) :
    (d.wait id later).waiting.lookup id = some later := lookup_replaced found later

theorem lookup_wait_of_ne {id other : DeliveryId} (ne : id ≠ other) (d : Delivering)
    (waiting : Waiting) : (d.wait other waiting).waiting.lookup id = d.waiting.lookup id := by
  rw [wait, lookup_map_replace, if_neg ne]

theorem lookup_close (d : Delivering) (id : DeliveryId) :
    (d.close id).waiting.lookup id = none := by
  rw [close, lookup_filter_ne, if_pos rfl]

theorem lookup_close_of_ne {id other : DeliveryId} (ne : id ≠ other) (d : Delivering) :
    (d.close other).waiting.lookup id = d.waiting.lookup id := by
  rw [close, lookup_filter_ne, if_neg ne]

/-- A delivery that does nothing in a move waits on, unless it begins there. -/
theorem Change.waiting_of_apart (h : d.Change move d' occurrence) {id : DeliveryId}
    (apart : ∀ deed, occurrence ≠ .did id deed) (unbegun : ∀ event, occurrence ≠ .begun id event) :
    d'.waiting.lookup id = d.waiting.lookup id := by
  have other {other : DeliveryId} {deed : Deed} (did : occurrence = .did other deed) :
      id ≠ other := by
    rintro rfl
    exact apart deed did
  cases h with
  | begins event =>
    have ne : id ≠ d.begun := by
      rintro rfl
      exact unbegun event rfl
    rw [lookup_concat, if_neg ne, Option.or_none]
  | calls | requests | answers => exact lookup_wait_of_ne (other rfl) _ _
  | ends => exact lookup_close_of_ne (other rfl) _
  | @returns _ _ _ outcome =>
    cases outcome with
    | lane => exact lookup_wait_of_ne (other rfl) _ _
    | outOfRange => exact lookup_close_of_ne (other rfl) _
  | deploys | resolves => rfl

/-- Deliveries have numbers of their own, and each lookup that is waited for is under way and waited
    for by one delivery only. -/
structure Orderly (d : Delivering) : Prop where
  nodup : (d.waiting.map Prod.fst).Nodup
  unborn : ∀ id, d.begun ≤ id → d.waiting.lookup id = none
  underWay : ∀ id lookup next, d.waiting.lookup id = some (.lookup lookup next) →
    (d.resolving.resolver.lookups.lookup lookup).isSome
  alone : ∀ id other lookup next next', d.waiting.lookup id = some (.lookup lookup next) →
    d.waiting.lookup other = some (.lookup lookup next') → id = other

theorem lookup_of_waiter? (nodup : (d.waiting.map Prod.fst).Nodup) {lookup : LookupId}
    {id : DeliveryId} {next : Option String → Delivery}
    (waits : d.waiter? lookup = some (id, next)) :
    d.waiting.lookup id = some (.lookup lookup next) := by
  obtain ⟨⟨other, waiting⟩, mem, found⟩ := List.exists_of_findSome?_eq_some waits
  cases waiting with
  | lookup l next' =>
    simp only at found
    split at found
    · next same =>
      cases found
      subst same
      exact lookup_of_mem nodup mem
    · exact nomatch found
  | turn | answer => exact nomatch found

theorem waiter?_of_lookup (orderly : d.Orderly) {lookup : LookupId} {id : DeliveryId}
    {next : Option String → Delivery} (waits : d.waiting.lookup id = some (.lookup lookup next)) :
    d.waiter? lookup = some (id, next) := by
  cases found : d.waiter? lookup with
  | none =>
    have missed := List.findSome?_eq_none_iff.1 found _ (mem_of_lookup waits)
    simp at missed
  | some entry =>
    obtain ⟨other, next'⟩ := entry
    have waits' := lookup_of_waiter? orderly.nodup found
    obtain rfl := orderly.alone _ _ _ _ _ waits waits'
    cases waits.symm.trans waits'
    rfl

/-- A lookup that a delivery waits for after a move is under way, and is one it has waited for before
    or the new one of its call. -/
theorem Orderly.lookup_cases (orderly : d.Orderly) (h : d.Change move d' occurrence)
    {id : DeliveryId} {lookup : LookupId} {next : Option String → Delivery}
    (waits : d'.waiting.lookup id = some (.lookup lookup next)) :
    (d'.resolving.resolver.lookups.lookup lookup).isSome ∧
      (d.waiting.lookup id = some (.lookup lookup next) ∨
        lookup = d.resolving.resolver.queries ∧
          ∃ key, occurrence = .did id (.called key (.waiting lookup))) := by
  cases h with
  | begins event =>
    rw [lookup_concat] at waits
    by_cases same : id = d.begun
    · subst same
      rw [orderly.unborn _ (Nat.le_refl _), if_pos rfl] at waits
      exact nomatch waits
    · rw [if_neg same, Option.or_none] at waits
      exact ⟨orderly.underWay _ _ _ waits, .inl waits⟩
  | @calls other key next' resolving call found called =>
    have change := Resolving.change_of_step called
    by_cases same : id = other
    · subst same
      rw [lookup_wait (d := { d with resolving }) found] at waits
      cases change with
      | answers => exact nomatch waits
      | begins =>
        cases waits
        refine ⟨?_, .inr ⟨rfl, key, rfl⟩⟩
        show (List.lookup _ (_ ++ [(_, _)])).isSome
        simp [List.lookup_append]
    · rw [lookup_wait_of_ne same] at waits
      exact ⟨change.underWay (orderly.underWay _ _ _ waits) nofun, .inl waits⟩
  | @requests other _ _ found | @answers other _ _ _ found =>
    by_cases same : id = other
    · subst same
      exact nomatch (lookup_wait found _).symm.trans waits
    · rw [lookup_wait_of_ne same] at waits
      exact ⟨orderly.underWay _ _ _ waits, .inl waits⟩
  | @ends other =>
    by_cases same : id = other
    · subst same
      exact nomatch (lookup_close d _).symm.trans waits
    · rw [lookup_close_of_ne same] at waits
      exact ⟨orderly.underWay _ _ _ waits, .inl waits⟩
  | @returns _ resolving ended outcome other next' moved waiter =>
    have found := lookup_of_waiter? orderly.nodup waiter
    by_cases same : id = other
    · subst same
      cases outcome with
      | lane => exact nomatch (lookup_wait (d := { d with resolving }) found _).symm.trans waits
      | outOfRange => exact nomatch (lookup_close _ _).symm.trans waits
    · have before : d.waiting.lookup id = some (.lookup lookup next) := by
        cases outcome with
        | lane => exact (lookup_wait_of_ne same _ _).symm.trans waits
        | outOfRange => exact (lookup_close_of_ne same _).symm.trans waits
      refine ⟨?_, .inl before⟩
      rw [resume_resolving]
      refine (Resolving.change_of_step moved).underWay (orderly.underWay _ _ _ before) ?_
      rintro outcome' ⟨⟩
      exact same (orderly.alone _ _ _ _ _ before found)
  | resolves moved aside =>
    refine ⟨(Resolving.change_of_step moved).underWay (orderly.underWay _ _ _ waits) ?_, .inl waits⟩
    rintro outcome rfl
    exact nomatch (waiter?_of_lookup orderly waits).symm.trans (aside _ _ rfl)
  | deploys => exact ⟨orderly.underWay _ _ _ waits, .inl waits⟩

/-- Only a delivery that waits does something. -/
theorem Orderly.exists_of_did (orderly : d.Orderly) {id : DeliveryId} {deed : Deed}
    (h : d.Change move d' (.did id deed)) : ∃ waiting, d.waiting.lookup id = some waiting := by
  cases h with
  | calls found | requests found | ends found | answers _ found => exact ⟨_, found⟩
  | returns _ waits => exact ⟨_, lookup_of_waiter? orderly.nodup waits⟩

theorem Change.begun (h : d.Change move d' occurrence) :
    d'.begun = d.begun ∧ (∀ id event, occurrence ≠ .begun id event) ∨
      d'.begun = d.begun + 1 ∧ ∃ event, occurrence = .begun d.begun event ∧
        d'.waiting = d.waiting ++ [(d.begun, .turn (d.relay.deliver event))] := by
  cases h with
  | begins event => exact .inr ⟨rfl, event, rfl, rfl⟩
  | @returns _ _ _ outcome => cases outcome <;> exact .inl ⟨rfl, nofun⟩
  | _ => exact .inl ⟨rfl, nofun⟩

theorem map_fst_wait (d : Delivering) (id : DeliveryId) (waiting : Waiting) :
    (d.wait id waiting).waiting.map Prod.fst = d.waiting.map Prod.fst := map_fst_replace _ _ _

theorem Orderly.nodup_close (orderly : d.Orderly) (id : DeliveryId) :
    ((d.close id).waiting.map Prod.fst).Nodup :=
  orderly.nodup.sublist (List.filter_sublist.map _)

theorem Orderly.change (orderly : d.Orderly) (numbered : d.resolving.Numbered)
    (h : d.Change move d' occurrence) : d'.Orderly where
  nodup := by
    cases h with
    | begins event =>
      rw [List.map_append, List.nodup_append]
      refine ⟨orderly.nodup, by simp, ?_⟩
      rintro id old _ last rfl
      obtain ⟨⟨_, waiting⟩, mem, rfl⟩ := List.mem_map.1 old
      have found := lookup_of_mem orderly.nodup mem
      have unborn := orderly.unborn _ (Nat.le_of_eq (List.mem_singleton.1 last).symm)
      exact nomatch found.symm.trans unborn
    | calls | requests | answers =>
      rw [map_fst_wait]
      exact orderly.nodup
    | ends => exact orderly.nodup_close _
    | @returns _ _ _ outcome =>
      cases outcome with
      | lane => exact (map_fst_wait _ _ _).symm ▸ orderly.nodup
      | outOfRange => exact orderly.nodup_close _
    | deploys | resolves => exact orderly.nodup
  unborn := by
    intro id le
    have apart : ∀ deed, occurrence ≠ .did id deed := by
      rintro deed rfl
      obtain ⟨waiting, found⟩ := orderly.exists_of_did h
      rcases h.begun with ⟨same, -⟩ | ⟨-, event, began, -⟩
      · exact nomatch found.symm.trans (orderly.unborn id (same ▸ le))
      · exact nomatch began
    rcases h.begun with ⟨same, unbegun⟩ | ⟨more, event, rfl, -⟩
    · rw [h.waiting_of_apart apart (unbegun id)]
      exact orderly.unborn id (same ▸ le)
    · rw [more] at le
      rw [h.waiting_of_apart apart ?_]
      · exact orderly.unborn id (Nat.le_of_succ_le le)
      · rintro event' same
        cases same
        exact Nat.not_succ_le_self _ le
  underWay _ _ _ waits := (orderly.lookup_cases h waits).1
  alone := by
    intro id other lookup next next' waits waits'
    have known {id : DeliveryId} {next : Option String → Delivery}
        (old : d.waiting.lookup id = some (.lookup lookup next)) :
        lookup ≠ d.resolving.resolver.queries := by
      obtain ⟨_, found⟩ := Option.isSome_iff_exists.1 (orderly.underWay _ _ _ old)
      exact Nat.ne_of_lt (numbered.lt found)
    rcases (orderly.lookup_cases h waits).2 with old | ⟨fresh, key, did⟩
    · rcases (orderly.lookup_cases h waits').2 with old' | ⟨fresh', -⟩
      · exact orderly.alone _ _ _ _ _ old old'
      · exact absurd fresh' (known old)
    · rcases (orderly.lookup_cases h waits').2 with old' | ⟨-, key', did'⟩
      · exact absurd fresh (known old')
      · cases did.symm.trans did'
        rfl

/-! ## Courses -/

/-- What a call does that returns the lane: it is answered at once, or by its lookup. -/
inductive Fetch (key : Key) (lane : Option String) : List Deed → Prop
  | kept : Fetch key lane [.called key (.answered lane)]
  | looked (lookup : LookupId) :
      Fetch key lane [.called key (.waiting lookup), .returned lookup (.lane lane)]

variable {relay : Relay} {traceIds : Nat → String} {event : Event}

/-- All that a delivery of the event does, from its beginning to its end. -/
inductive Course (relay : Relay) (traceIds : Nat → String) (event : Event) : List Deed → Prop
  | crashed (lookup : LookupId) : Course relay traceIds event
      [.called ⟨.bot, event.bot⟩ (.waiting lookup), .returned lookup .outOfRange]
  | relayed {lane : Option String} {fetch : List Deed} {draft : Http.Draft}
      (fetched : Fetch ⟨.bot, event.bot⟩ lane fetch) (topology : Routing.Topology) (trace : Nat)
      (made : draft = relay.request topology lane (traceIds trace) event) (network : Http.Network) :
      Course relay traceIds event (fetch ++ [.requested topology trace draft,
        .answered network (draft.seen network), .ended (Relay.taken (draft.send network))])

/-- Having done this, a delivery of the event waits for this, or for nothing any more. -/
inductive Reached (relay : Relay) (traceIds : Nat → String) (event : Event) :
    List Deed → Option Waiting → Prop
  | begun : Reached relay traceIds event [] (some (.turn (relay.deliver event)))
  | looking (lookup : LookupId) :
      Reached relay traceIds event [.called ⟨.bot, event.bot⟩ (.waiting lookup)]
        (some (.lookup lookup (relay.deliverIn event)))
  | found {lane : Option String} {fetch : List Deed}
      (fetched : Fetch ⟨.bot, event.bot⟩ lane fetch) :
      Reached relay traceIds event fetch (some (.turn (relay.deliverIn event lane)))
  | asking {lane : Option String} {fetch : List Deed} {draft : Http.Draft}
      (fetched : Fetch ⟨.bot, event.bot⟩ lane fetch) (topology : Routing.Topology) (trace : Nat)
      (made : draft = relay.request topology lane (traceIds trace) event) :
      Reached relay traceIds event (fetch ++ [.requested topology trace draft])
        (some (.answer draft fun answer => .done (Relay.taken answer)))
  | told {lane : Option String} {fetch : List Deed} {draft : Http.Draft}
      (fetched : Fetch ⟨.bot, event.bot⟩ lane fetch) (topology : Routing.Topology) (trace : Nat)
      (made : draft = relay.request topology lane (traceIds trace) event) (network : Http.Network) :
      Reached relay traceIds event
        (fetch ++ [.requested topology trace draft, .answered network (draft.seen network)])
        (some (.turn (.done (Relay.taken (draft.send network)))))
  | ended {deeds : List Deed} (whole : Course relay traceIds event deeds) :
      Reached relay traceIds event deeds none

/-- What a delivery does next leads on along its course. -/
theorem Reached.next {id : DeliveryId} {done : List Deed} {deed : Deed}
    (reached : Reached relay traceIds event done (d.waiting.lookup id)) (orderly : d.Orderly)
    (same : d.traceIds = traceIds) (h : d.Change move d' (.did id deed)) :
    Reached relay traceIds event (done ++ [deed]) (d'.waiting.lookup id) := by
  cases h with
  | @calls _ key next resolving call found called =>
    rw [found] at reached
    rw [lookup_wait (d := { d with resolving }) found]
    cases reached with
    | begun =>
      cases call with
      | answered lane => exact .found .kept
      | waiting lookup => exact .looking lookup
  | @requests _ make next found =>
    rw [found] at reached
    rw [lookup_wait (d := { d with drawn := d.drawn + 1 }) found]
    generalize waits : some (Waiting.turn (.exchange make next)) = waiting at reached
    cases reached with
    | begun | looking | asking | told | ended => exact nomatch waits
    | @found lane _ fetched =>
      obtain ⟨makes, goes⟩ := Delivery.exchange.inj (Waiting.turn.inj (Option.some.inj waits))
      rw [makes, goes]
      exact .asking fetched d.topology d.drawn (same ▸ rfl)
  | ends found =>
    rw [found] at reached
    rw [lookup_close]
    cases reached with
    | told fetched topology trace made network =>
      rw [List.append_assoc]
      exact .ended (.relayed fetched topology trace made network)
  | answers network found =>
    rw [found] at reached
    rw [lookup_wait found]
    cases reached with
    | asking fetched topology trace made =>
      rw [List.append_assoc]
      exact .told fetched topology trace made network
  | @returns _ resolving lookup outcome _ next moved waits =>
    have found := lookup_of_waiter? orderly.nodup waits
    rw [found] at reached
    cases reached with
    | looking =>
      cases outcome with
      | lane lane =>
        show Reached _ _ _ _ (List.lookup _ (wait _ _ _).waiting)
        rw [lookup_wait (d := { d with resolving }) found]
        exact .found (.looked lookup)
      | outOfRange =>
        show Reached _ _ _ _ (List.lookup _ (close _ _).waiting)
        rw [lookup_close]
        exact .ended (.crashed lookup)

section

variable {topology : Routing.Topology} {lifetime : Duration} {store : Binding.Store}

theorem Run.orderly (run : Run (.new relay traceIds topology lifetime store) history d) :
    d.Orderly := by
  induction run with
  | start => exact ⟨.nil, fun _ _ => rfl, nofun, nofun⟩
  | next run step ih =>
    exact ih.change (run.toResolving.leads.numbered fun _ _ => rfl) (change_of_step step)

/-- Deliveries are numbered as they begin, and one that has not begun has done nothing. -/
theorem Run.unborn (run : Run (.new relay traceIds topology lifetime store) history d)
    {id : DeliveryId} (le : d.begun ≤ id) :
    deeds id history = [] ∧ ∀ event, (id, event) ∉ begins history := by
  induction run with
  | start => exact ⟨rfl, nofun⟩
  | @next history d d' move occurrence run step ih =>
    have change := change_of_step step
    have later : d.begun ≤ id := by
      rcases change.begun with ⟨same, -⟩ | ⟨more, -⟩
      · exact same ▸ le
      · rw [more] at le
        exact Nat.le_of_succ_le le
    obtain ⟨idle, unbegun⟩ := ih later
    have apart : ∀ deed, occurrence ≠ .did id deed := by
      rintro deed rfl
      obtain ⟨waiting, found⟩ := run.orderly.exists_of_did change
      exact nomatch found.symm.trans (run.orderly.unborn id later)
    rw [deeds_append, deeds_of_apart d move apart, idle]
    refine ⟨rfl, fun event mem => ?_⟩
    rw [begins_append, List.mem_append] at mem
    rcases mem with old | new
    · exact unbegun event old
    · rcases change.begun with ⟨-, other⟩ | ⟨more, event', rfl, -⟩
      · cases occurrence with
        | begun first event' => exact other _ _ rfl
        | did | silent => exact nomatch new
      · cases List.mem_singleton.1 new
        rw [more] at le
        exact Nat.not_succ_le_self _ le

/-- At any time a delivery that has begun is somewhere on its course. -/
theorem Run.reached (run : Run (.new relay traceIds topology lifetime store) history d)
    {id : DeliveryId} (begun : (id, event) ∈ begins history) :
    Reached relay traceIds event (deeds id history) (d.waiting.lookup id) := by
  induction run with
  | start => exact nomatch begun
  | @next history d d' move occurrence run step ih =>
    have change := change_of_step step
    rw [begins_append, List.mem_append] at begun
    rw [deeds_append]
    rcases begun with old | new
    · have unbegun : ∀ event', occurrence ≠ .begun id event' := by
        rintro event' rfl
        rcases change.begun with ⟨-, other⟩ | ⟨-, _, began, -⟩
        · exact other _ _ rfl
        · cases began
          exact (run.unborn (Nat.le_refl _)).2 event old
      by_cases did : ∃ deed, occurrence = .did id deed
      · obtain ⟨deed, rfl⟩ := did
        rw [deeds_of_did]
        exact (ih old).next run.orderly run.same.2 change
      · rw [deeds_of_apart d move fun deed same => did ⟨deed, same⟩, List.append_nil,
          change.waiting_of_apart (fun deed same => did ⟨deed, same⟩) unbegun]
        exact ih old
    · rcases change.begun with ⟨-, other⟩ | ⟨-, event', rfl, waiting⟩
      · cases occurrence with
        | begun first event' => exact absurd rfl (other _ _)
        | did | silent => exact nomatch new
      · cases List.mem_singleton.1 new
        rw [(run.unborn (Nat.le_refl _)).1, waiting, lookup_concat,
          run.orderly.unborn _ (Nat.le_refl _), if_pos rfl, run.same.1]
        exact .begun

/-- What a delivery does is the first part of a course. -/
theorem Reached.course {done : List Deed} {waiting : Option Waiting}
    (reached : Reached relay traceIds event done waiting) :
    ∃ whole, Course relay traceIds event whole ∧ done <+: whole := by
  -- where the course is still open, the delivery crashes with its call, or reaches nobody
  let nobody : Http.Network := fun _ => .error .unreached
  cases reached with
  | begun => exact ⟨_, .crashed 0, List.nil_prefix⟩
  | looking lookup => exact ⟨_, .crashed lookup, ⟨[_], rfl⟩⟩
  | found fetched => exact ⟨_, .relayed fetched ⟨[], .nil⟩ 0 rfl nobody, ⟨_, rfl⟩⟩
  | asking fetched topology trace made =>
    exact ⟨_, .relayed fetched topology trace made nobody, ⟨_, List.append_assoc _ _ _⟩⟩
  | told fetched topology trace made network =>
    exact ⟨_, .relayed fetched topology trace made network, ⟨_, List.append_assoc _ _ _⟩⟩
  | ended whole => exact ⟨_, whole, List.prefix_refl _⟩

/-- A move takes the delivery on; or its lookup can read the store and then takes it on; or it waits
    for an answer, and goes on with any. -/
inductive GoesOn (d : Delivering) (id : DeliveryId) : Prop
  | does {move : Move} {d' : Delivering} {deed : Deed}
      (step : d.step move = some (d', .did id deed)) : GoesOn d id
  | reads {lookup : LookupId} {d' d'' : Delivering} {deed : Deed}
      (read : d.step (.resolver (.read lookup)) = some (d', .silent))
      (ends : d'.step (.resolver (.complete lookup)) = some (d'', .did id deed)) : GoesOn d id
  | answers (step : ∀ network, ∃ d' deed, d.step (.answer id network) = some (d', .did id deed)) :
      GoesOn d id

theorem step_turn {id : DeliveryId} {rest : Delivery}
    (waits : d.waiting.lookup id = some (.turn rest)) :
    d.step (.turn id) = some ((d.turn id rest).1, .did id (d.turn id rest).2) := by
  simp only [step, waits]

theorem goesOn_of_turn {id : DeliveryId} {rest : Delivery}
    (waits : d.waiting.lookup id = some (.turn rest)) : d.GoesOn id := .does (step_turn waits)

theorem step_returns {move : Resolving.Move} {resolving : Resolving} {lookup : LookupId}
    {outcome : Outcome} {id : DeliveryId} {next : Option String → Delivery}
    (moved : d.resolving.step move = some (resolving, .ended lookup outcome))
    (waits : d.waiter? lookup = some (id, next)) :
    d.step (.resolver move) = some (({ d with resolving } : Delivering).resume id next outcome,
      .did id (.returned lookup outcome)) := by
  simp only [step, moved, Option.map_some, waits]

/-- A lookup that has been answered ends for the delivery that waits for it. -/
theorem step_complete_of_waiter? {lookup : LookupId} {key : Key} {answer : Binding.Answer}
    {id : DeliveryId} {next : Option String → Delivery}
    (found : d.resolving.resolver.lookups.lookup lookup = some ⟨key, some answer⟩)
    (waits : d.waiter? lookup = some (id, next)) :
    ∃ d', d.step (.resolver (.complete lookup)) =
      some (d', .did id (.returned lookup (d.resolving.outcome answer))) := by
  obtain ⟨resolving, moved, -⟩ := Resolving.step_complete found
  exact ⟨_, step_returns moved waits⟩

theorem Orderly.goesOn_of_lookup (orderly : d.Orderly) {id : DeliveryId} {lookup : LookupId}
    {next : Option String → Delivery}
    (waits : d.waiting.lookup id = some (.lookup lookup next)) : d.GoesOn id := by
  have waiter := waiter?_of_lookup orderly waits
  obtain ⟨⟨key, answer⟩, found⟩ := Option.isSome_iff_exists.1 (orderly.underWay _ _ _ waits)
  cases answer with
  | some answer =>
    obtain ⟨d', step⟩ := step_complete_of_waiter? found waiter
    exact .does step
  | none =>
    let l : Binding.Lookup := ⟨key, some (d.resolving.store key)⟩
    let read : Delivering := { d with resolving := d.resolving.withLookup lookup l }
    have step : d.step (.resolver (.read lookup)) = some (read, .silent) := by
      simp only [Delivering.step, Resolving.step_read found]
      rfl
    have answered : read.resolving.resolver.lookups.lookup lookup = some l :=
      lookup_replaced found l
    obtain ⟨d'', ends⟩ := step_complete_of_waiter? (d := read) answered waiter
    exact .reads step ends

/-- A delivery whose course is not whole can go on. -/
theorem Run.goesOn (run : Run (.new relay traceIds topology lifetime store) history d)
    {id : DeliveryId} (begun : (id, event) ∈ begins history) :
    Course relay traceIds event (deeds id history) ∨ d.GoesOn id := by
  have reached := run.reached begun
  generalize waits : d.waiting.lookup id = waiting at reached
  generalize deeds id history = done at reached ⊢
  cases reached with
  | begun | found | told => exact .inr (goesOn_of_turn waits)
  | looking lookup => exact .inr (run.orderly.goesOn_of_lookup waits)
  | asking =>
    refine .inr (.answers fun network => ?_)
    simp only [step, waits]
    exact ⟨_, _, rfl⟩
  | ended whole => exact .inl whole

/-! ## The lane -/

theorem mem_deeds_iff {id : DeliveryId} {deed : Deed} :
    deed ∈ deeds id history ↔ ∃ m ∈ history, m.occurrence = .did id deed := by
  rw [deeds, List.mem_filterMap]
  refine exists_congr fun m => and_congr_right fun _ => ?_
  cases m.occurrence with
  | did other deed' =>
    by_cases same : other = id <;> simp [same]
  | begun | silent => simp

theorem resolving?_of_called {key : Key} {call : Call} {id : DeliveryId}
    (step : d.step move = some (d', .did id (.called key call))) :
    Moment.resolving? ⟨d, move, .did id (.called key call)⟩ =
      some ⟨d.resolving, .resolve key, .called key call⟩ := by
  cases change_of_step step with
  | calls => rfl

theorem resolving?_of_returned {lookup : LookupId} {outcome : Outcome} {id : DeliveryId}
    (step : d.step move = some (d', .did id (.returned lookup outcome))) :
    ∃ m, Moment.resolving? ⟨d, move, .did id (.returned lookup outcome)⟩ = some m ∧
      m.event = .ended lookup outcome := by
  cases change_of_step step with
  | returns moved => exact ⟨_, resolving?_resolver moved _, rfl⟩

/-- What a delivery has called stands in the history of the resolver. -/
theorem Run.called (run : Run first history d) {id : DeliveryId} {key : Key} {call : Call}
    (did : .called key call ∈ deeds id history) :
    .called key call ∈ (resolvings history).map Resolving.Moment.event := by
  obtain ⟨⟨before, move, occurrence⟩, mem, rfl⟩ := mem_deeds_iff.1 did
  obtain ⟨earlier, later, rfl⟩ := List.append_of_mem mem
  obtain ⟨-, d', step⟩ := run.split
  rw [resolvings, List.mem_map]
  exact ⟨_, List.mem_filterMap.2 ⟨_, mem, resolving?_of_called step⟩, rfl⟩

/-- The lane that the call of a delivery returns is returned by the resolver in that moment. -/
theorem Run.returns {earlier later : List Moment} {m : Moment} {id : DeliveryId} {deed : Deed}
    {key : Key} {lane : Option String} (run : Run first (earlier ++ m :: later) d)
    (did : m.occurrence = .did id deed) (fetched : Fetch key lane (deeds id earlier ++ [deed])) :
    Resolving.Returns key ((resolvings (earlier ++ [m])).map Resolving.Moment.event) lane := by
  obtain ⟨before, d', step⟩ := run.split
  obtain ⟨b, move, occurrence⟩ := m
  obtain rfl : occurrence = _ := did
  rw [resolvings_concat, List.map_append]
  generalize parts : deeds id earlier ++ [deed] = whole at fetched
  cases fetched with
  | kept =>
    obtain rfl : deed = .called key (.answered lane) := by
      rcases List.append_eq_singleton_iff.1 parts with ⟨-, last⟩ | ⟨-, none⟩
      · exact List.singleton_inj.1 last
      · exact nomatch none
    rw [resolving?_of_called step]
    exact .kept
  | looked lookup =>
    have split : deeds id earlier = [.called key (.waiting lookup)] ∧
        [deed] = [.returned lookup (.lane lane)] := List.append_inj' parts rfl
    obtain rfl : deed = .returned lookup (.lane lane) := List.singleton_inj.1 split.2
    obtain ⟨m', read, ended⟩ := resolving?_of_returned step
    have did : .called key (.waiting lookup) ∈ deeds id earlier := split.1 ▸ List.mem_cons_self
    have called := before.called did
    rw [read]
    simp only [Option.toList_some, List.map_cons, List.map_nil, ended]
    exact .looked called

end

end Delivering

end Laneway.Webhook
