import Mathlib.Data.List.Induction
import Laneway.Proofs.Broker.Isolation
import Laneway.Proofs.History

set_option autoImplicit false

/-! # The order of a plan

The broker refuses a declaration that names what is not there yet, so a plan has to declare before
it names. Behind the shared declarations stand two for each logical queue, the queue and its binding,
and each of them needs only what the shared ones or the one before it have declared. The binding key
is the routing key of the messages for this queue, whoever publishes them and however the lane was
chosen: a plan and a publication make the key of the same base and lane. -/

namespace Laneway

theorem Lane.isFeature_iff {lane : Option String} :
    Lane.isFeature lane = true ↔ ∃ name, lane = some name ∧ Lane.IsFeature name := by
  simp only [Lane.isFeature, Option.isSome_iff_exists, Lane.normalize_eq_some_iff]

namespace Broker

variable {lane : Option String} {queues : List LogicalQueue} {logical : LogicalQueue}
  {declared earlier : List Declaration} {declaration : Declaration} {name : String}

/-! ## Declared before named -/

def HasExchange (declared : List Declaration) (name : String) : Prop :=
  ∃ spec, .exchange spec ∈ declared ∧ spec.name = name

def HasQueue (declared : List Declaration) (name : String) : Prop :=
  ∃ spec, .queue spec ∈ declared ∧ spec.name = name

/-- All that a declaration names is among those before it. -/
inductive Supported (earlier : List Declaration) : Declaration → Prop
  | exchange (spec : Exchange) : Supported earlier (.exchange spec)
  | queue {spec : Queue}
      (letters : ∀ name, spec.deadLetterExchange = some name → HasExchange earlier name) :
      Supported earlier (.queue spec)
  | bind {spec : Binding} (queue : HasQueue earlier spec.queue)
      (exchange : HasExchange earlier spec.exchange) : Supported earlier (.bind spec)

/-- Every declaration comes behind all that it names. -/
def InOrder (declared : List Declaration) : Prop :=
  ∀ earlier declaration later, declared = earlier ++ declaration :: later →
    Supported earlier declaration

theorem inOrder_nil : InOrder [] := fun _ _ _ parts => by simp at parts

theorem inOrder_concat :
    InOrder (declared ++ [declaration]) ↔ InOrder declared ∧ Supported declared declaration := by
  constructor
  · intro order
    refine ⟨fun earlier d later parts => ?_, order declared declaration [] rfl⟩
    exact order earlier d (later ++ [declaration]) (by rw [parts]; simp)
  · rintro ⟨order, supported⟩ earlier d later parts
    rcases concat_eq_append_cons_iff.1 parts with ⟨rfl, rfl, -⟩ | ⟨rest, parts, -⟩
    · exact supported
    · exact order earlier d rest parts

/-- The shared declarations need nothing but each other. -/
theorem inOrder_sharedDeclarations : InOrder sharedDeclarations := by
  have exchange : InOrder [.exchange ⟨deadLetterExchange, .fanout, true⟩] :=
    inOrder_concat.2 ⟨inOrder_nil, .exchange _⟩
  let letters : Queue := ⟨deadLetterQueue, true, none, none⟩
  have queue := inOrder_concat.2
    ⟨exchange, show Supported _ (.queue letters) from .queue fun _ none => nomatch none⟩
  let binding : Binding := ⟨deadLetterQueue, deadLetterExchange, ""⟩
  have bind := inOrder_concat.2 ⟨queue, show Supported _ (.bind binding) from
    .bind ⟨letters, by simp, rfl⟩ ⟨⟨deadLetterExchange, .fanout, true⟩, by simp, rfl⟩⟩
  exact inOrder_concat.2 ⟨bind, .exchange _⟩

theorem HasExchange.of_shared (has : HasExchange sharedDeclarations name) :
    HasExchange (plan lane queues) name := by
  obtain ⟨spec, shared, named⟩ := has
  exact ⟨spec, mem_plan_iff.2 (.inl shared), named⟩

theorem hasExchange_deadLetterExchange : HasExchange sharedDeclarations deadLetterExchange :=
  ⟨⟨deadLetterExchange, .fanout, true⟩, by simp [sharedDeclarations], rfl⟩

theorem hasExchange_mainExchange : HasExchange sharedDeclarations mainExchange :=
  ⟨⟨mainExchange, .delayedTopic, true⟩, by simp [sharedDeclarations], rfl⟩

/-- One more logical queue adds its queue and its binding at the end. -/
theorem plan_concat (lane : Option String) (queues : List LogicalQueue) (logical : LogicalQueue) :
    plan lane (queues ++ [logical]) =
      (plan lane queues ++ [.queue (logical.spec lane)]) ++ [.bind (logical.binding lane)] := by
  simp [plan]

/-- A plan grows by a queue that needs a shared exchange, and by a binding that needs this queue and
    another shared exchange. -/
theorem inOrder_plan (lane : Option String) (queues : List LogicalQueue) :
    InOrder (plan lane queues) := by
  induction queues using List.reverseRecOn with
  | nil => exact inOrder_sharedDeclarations
  | append_singleton queues logical ih =>
    rw [plan_concat, inOrder_concat, inOrder_concat]
    refine ⟨⟨ih, .queue ?_⟩, .bind ?_ ?_⟩
    · intro name letters
      exact Option.some.inj letters ▸ hasExchange_deadLetterExchange.of_shared
    · exact ⟨logical.spec lane, by simp, rfl⟩
    · obtain ⟨spec, mem, named⟩ : HasExchange (plan lane queues) mainExchange :=
        hasExchange_mainExchange.of_shared
      exact ⟨spec, List.mem_append_left _ mem, named⟩

/-! ## Where each queue stands -/

theorem length_plan (lane : Option String) (queues : List LogicalQueue) :
    (plan lane queues).length = 4 + 2 * queues.length := by
  induction queues using List.reverseRecOn with
  | nil => rfl
  | append_singleton queues logical ih =>
    rw [plan_concat]
    simp only [List.length_append, List.length_singleton, ih]
    omega

/-- Two declarations for each logical queue, in the order of the queues. -/
theorem getElem?_flatMap_pair {α β : Type} (first second : α → β) (items : List α) (i : Nat) :
    (items.flatMap fun a => [first a, second a])[2 * i]? = items[i]?.map first ∧
      (items.flatMap fun a => [first a, second a])[2 * i + 1]? = items[i]?.map second := by
  induction items generalizing i with
  | nil => simp
  | cons a rest ih =>
    cases i with
    | zero => exact ⟨rfl, rfl⟩
    | succ i => exact ih i

/-- What a plan holds for a logical queue at a position: its queue, which hands rejected messages to
    the dead-letter exchange and expires just in feature lanes, and right behind it the binding of
    this queue to the main exchange. -/
structure Contributes (lane : Option String) (declared : List Declaration) (position : Nat)
    (spec : Queue) (key : String) : Prop where
  queue : declared[position]? = some (.queue spec)
  bind : declared[position + 1]? = some (.bind ⟨spec.name, mainExchange, key⟩)
  letters : spec.deadLetterExchange = some deadLetterExchange
  expires : (∃ name, lane = some name ∧ Lane.IsFeature name) → spec.expires = some idleExpiry
  stays : (¬ ∃ name, lane = some name ∧ Lane.IsFeature name) → spec.expires = none

theorem contributes_plan {i : Nat} (held : queues[i]? = some logical) :
    Contributes lane (plan lane queues) (4 + 2 * i) (logical.spec lane)
      (logical.binding lane).routingKey := by
  obtain ⟨queue, bind⟩ := getElem?_flatMap_pair
    (fun logical : LogicalQueue => Declaration.queue (logical.spec lane))
    (fun logical => Declaration.bind (logical.binding lane)) queues i
  rw [held] at queue bind
  have behind (j : Nat) : (plan lane queues)[4 + j]? = (queues.flatMap fun logical =>
      [.queue (logical.spec lane), .bind (logical.binding lane)])[j]? := by
    rw [plan, show 4 + j = sharedDeclarations.length + j from rfl,
      List.getElem?_append_right (Nat.le_add_right _ _), Nat.add_sub_cancel_left]
  constructor
  · exact (behind _).trans queue
  · exact (behind _).trans bind
  · rfl
  · intro feature
    exact if_pos (Lane.isFeature_iff.2 feature)
  · intro plain
    exact if_neg (mt Lane.isFeature_iff.1 plain)

/-! ## Keys of plans and messages -/

/-- The lane of a publication is the one that it names or else that of its process. -/
theorem effectiveLane_eq (p : Publication) (processLane : Option String) :
    p.effectiveLane processLane = Lane.normalize (p.lane.or processLane) := by
  unfold Publication.effectiveLane
  cases p.lane <;> rfl

theorem publishCall_of_session {c : Client} {p : Publication} {session : SessionId}
    {body : List UInt8} (installed : c.session = .ok session) (encodes : p.body.encode = .ok body) :
    c.publishCall p =
      .ok (session, .publish mainExchange (p.routingKey c.settings.lane) (p.message body)) := by
  unfold Client.publishCall
  rw [installed, encodes]
  rfl

/-- With the base of a logical queue a publication gets the key that its effective lane binds this
    queue with. -/
theorem routingKey_eq_binding {p : Publication} {processLane : Option String}
    (base : p.routingKeyBase = logical.routingKey)
    (same : Lane.normalize lane = Lane.normalize (p.lane.or processLane)) :
    p.routingKey processLane = (logical.binding lane).routingKey := by
  rw [Publication.routingKey, base, effectiveLane_eq, ← same]
  exact Lane.suffixed_normalize "." logical.routingKey lane

/-- A plan declares before it names. It is the shared declarations, none of whose queues expires,
    and then for each logical queue, one after another, its queue and its binding. Whoever publishes
    with the base of one of them to the lane of the plan, be it the own lane or one that the
    publication names, does so under the key of its binding; and the plan is that of every client in
    this lane with these queues. -/
theorem plan_matches_publishing (lane : Option String) (queues : List LogicalQueue) :
    InOrder (plan lane queues) ∧
      (plan lane queues).take 4 = sharedDeclarations ∧
      (∀ spec, .queue spec ∈ sharedDeclarations → spec.expires = none) ∧
      (plan lane queues).length = 4 + 2 * queues.length ∧
      (∀ client : Client, Lane.normalize client.settings.lane = Lane.normalize lane →
        client.settings.queues = queues → client.plan = plan lane queues) ∧
      ∀ (i : Nat) (logical : LogicalQueue), queues[i]? = some logical → ∃ spec key,
        spec.name = Lane.queue logical.queue lane ∧
        Contributes lane (plan lane queues) (4 + 2 * i) spec key ∧
        ∀ (publisher : Client) (p : Publication) (session : SessionId) (body : List UInt8),
          p.routingKeyBase = logical.routingKey →
          Lane.normalize lane = Lane.normalize (p.lane.or publisher.settings.lane) →
          publisher.session = .ok session → p.body.encode = .ok body →
          ∀ now id, publisher.begin now id (.publish p) =
            publisher.call session (.publish mainExchange key (p.message body)) .passed := by
  refine ⟨inOrder_plan lane queues, rfl, ?_, length_plan lane queues, ?_, ?_⟩
  · intro spec shared
    simp only [sharedDeclarations, List.mem_cons, reduceCtorEq, Declaration.queue.injEq,
      List.not_mem_nil, or_false, false_or] at shared
    rw [shared]
  · rintro client same rfl
    rw [Client.plan, Client.lane, same, plan_normalize]
  · intro i logical held
    refine ⟨_, _, rfl, contributes_plan held, ?_⟩
    intro publisher p session body base same installed encodes now id
    have made := publishCall_of_session installed encodes
    rw [routingKey_eq_binding base same] at made
    simp only [Client.begin, made]

/-- A process in production that publishes to a lane uses the key that the lane binds `recall`
    with. -/
theorem plan_matches_publishing_override :
    (plan (some "feat-x") defaultQueues)[5]? =
        some (.bind ⟨"recall_feat-x", mainExchange, "action.recall.feat-x"⟩) ∧
      (connected none).begin ⟨0⟩ 0 (.publish (recalling (some "feat-x"))) =
        (connected none).call 0 (.publish mainExchange "action.recall.feat-x"
          ((recalling (some "feat-x")).message (Json.bytes .null))) .passed := by
  obtain ⟨-, -, -, -, -, each⟩ := plan_matches_publishing (some "feat-x") defaultQueues
  obtain ⟨spec, key, named, contributes, publishes⟩ := each 0 ⟨"recall", "action.recall"⟩ rfl
  have bound := contributes.bind
  have written : (plan (some "feat-x") defaultQueues)[5]? =
    some (.bind ⟨"recall_feat-x", mainExchange, "action.recall.feat-x"⟩) := by decide
  obtain rfl : "action.recall.feat-x" = key := by
    have same := written.symm.trans bound
    simp only [Option.some.injEq, Declaration.bind.injEq, Binding.mk.injEq] at same
    exact same.2.2
  exact ⟨written, publishes (connected none) (recalling (some "feat-x")) 0 _ rfl rfl rfl rfl ⟨0⟩ 0⟩

end Broker

end Laneway
