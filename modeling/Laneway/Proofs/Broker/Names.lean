import Mathlib.Data.List.Nodup
import Laneway.Broker.Plan

set_option autoImplicit false

/-! # Names without collisions

The name of a queue, a key or a host is not kept anywhere. It is made from a base and a lane, and the
lane may be any text: one that holds separators, that looks like the end of a base or like a whole
other name. Still a name tells its lane, and among several bases its base as well, if none of them
starts another. None of the bases of the default queues does, so the plans of two lanes have nothing
in common but what all lanes share. -/

namespace Laneway

/-! ## Scoped names -/

namespace Lane

variable {separator base : String} {lane other : Option String} {bases : List String}

theorem append_append_ne (separated : separator ≠ "") (name : String) :
    base ++ separator ++ name ≠ base := by
  intro same
  have length := congrArg String.length same
  simp only [String.length_append] at length
  have : separator.length ≠ 0 := by simpa using separated
  omega

/-- A scoped name tells the lane. -/
theorem suffixed_inj (separated : separator ≠ "") :
    suffixed separator base lane = suffixed separator base other ↔
      normalize lane = normalize other := by
  constructor
  · intro same
    unfold suffixed at same
    cases ha : normalize lane with
    | none =>
      cases hb : normalize other with
      | none => rfl
      | some name =>
        rw [ha, hb] at same
        exact absurd same.symm (append_append_ne separated name)
    | some name =>
      cases hb : normalize other with
      | none =>
        rw [ha, hb] at same
        exact absurd same (append_append_ne separated name)
      | some name' =>
        rw [ha, hb] at same
        exact congrArg some ((String.append_right_inj _).1 same)
  · intro same
    rw [← suffixed_normalize, same, suffixed_normalize]

/-- A scoped name starts with its base. -/
theorem prefix_suffixed (separator base : String) (lane : Option String) :
    base.toList <+: (suffixed separator base lane).toList := by
  unfold suffixed
  cases normalize lane with
  | none => exact List.prefix_rfl
  | some name =>
    show base.toList <+: (base ++ separator ++ name).toList
    rw [String.append_assoc, String.toList_append]
    exact List.prefix_append _ _

/-- No base starts another one. -/
def PrefixFree (bases : List String) : Prop :=
  ∀ a ∈ bases, ∀ b ∈ bases, a.toList <+: b.toList → a = b

instance (bases : List String) : Decidable (PrefixFree bases) :=
  inferInstanceAs (Decidable (∀ a ∈ bases, ∀ b ∈ bases, a.toList <+: b.toList → a = b))

theorem PrefixFree.tail {name : String} (free : PrefixFree (name :: bases)) : PrefixFree bases :=
  fun a ha b hb => free a (List.mem_cons_of_mem _ ha) b (List.mem_cons_of_mem _ hb)

/-- Among bases none of which starts another, a scoped name tells the base as well. -/
theorem base_of_suffixed (free : PrefixFree bases) {a b : String} (ha : a ∈ bases) (hb : b ∈ bases)
    (same : suffixed separator a lane = suffixed separator b other) : a = b := by
  have starts := prefix_suffixed separator a lane
  rw [same] at starts
  rcases List.prefix_or_prefix_of_prefix starts (prefix_suffixed separator b other) with h | h
  · exact free a ha b hb h
  · exact (free b hb a ha h).symm

-- of a base that starts another, the name in one lane can be that of the other base in another lane
example : queue "a" (some "b_c") = queue "a_b" (some "c") := by decide

/-- The names that two lanes give to such bases have one in common only if the lanes are the same. -/
theorem disjoint_suffixed_iff (separated : separator ≠ "") (free : PrefixFree bases)
    (inhabited : bases ≠ []) :
    (bases.map fun base => suffixed separator base lane).Disjoint
        (bases.map fun base => suffixed separator base other) ↔
      normalize lane ≠ normalize other := by
  constructor
  · intro disjoint same
    obtain ⟨base, rest, rfl⟩ := List.exists_cons_of_ne_nil inhabited
    refine disjoint List.mem_cons_self ?_
    show suffixed separator base lane ∈ _
    rw [(suffixed_inj separated).2 same]
    exact List.mem_cons_self
  · intro different
    rw [List.disjoint_left]
    intro name here there
    obtain ⟨a, ha, rfl⟩ := List.mem_map.1 here
    obtain ⟨b, hb, same⟩ := List.mem_map.1 there
    obtain rfl := base_of_suffixed free hb ha same
    exact different ((suffixed_inj separated).1 same).symm

theorem nodup_suffixed (free : PrefixFree bases) (distinct : bases.Nodup) :
    (bases.map fun base => suffixed separator base lane).Nodup :=
  distinct.map_on fun _ ha _ hb same => base_of_suffixed free ha hb same

end Lane

namespace Broker

/-! ## What a plan declares -/

/-- The queues that are declared. -/
def queuesOf (declared : List Declaration) : List Queue :=
  declared.filterMap fun
    | .queue spec => some spec
    | _ => none

/-- The bindings that are declared. -/
def bindingsOf (declared : List Declaration) : List Binding :=
  declared.filterMap fun
    | .bind spec => some spec
    | _ => none

/-- The names of the logical queues: of the queues whose rejected messages go to the dead-letter
    exchange. -/
def logicalNames (declared : List Declaration) : List String :=
  ((queuesOf declared).filter (·.deadLetterExchange = some deadLetterExchange)).map Queue.name

/-- The keys that queues are bound with to the main exchange. -/
def boundKeys (declared : List Declaration) : List String :=
  ((bindingsOf declared).filter (·.exchange = mainExchange)).map Binding.routingKey

/-- The exchanges, the dead-letter queue and whatever binds it. -/
def common (declared : List Declaration) : List Declaration :=
  declared.filter fun
    | .exchange _ => true
    | .queue spec => spec.name = deadLetterQueue
    | .bind spec => spec.queue = deadLetterQueue

variable (lane : Option String) (logicals : List LogicalQueue)

theorem queuesOf_plan : queuesOf (plan lane logicals) =
    ⟨deadLetterQueue, true, none, none⟩ :: logicals.map (LogicalQueue.spec lane) := by
  refine congrArg (_ :: ·) ?_
  induction logicals with
  | nil => rfl
  | cons logical rest ih => exact congrArg (logical.spec lane :: ·) ih

theorem bindingsOf_plan : bindingsOf (plan lane logicals) =
    ⟨deadLetterQueue, deadLetterExchange, ""⟩ :: logicals.map (LogicalQueue.binding lane) := by
  refine congrArg (_ :: ·) ?_
  induction logicals with
  | nil => rfl
  | cons logical rest ih => exact congrArg (logical.binding lane :: ·) ih

theorem logicalNames_plan : logicalNames (plan lane logicals) =
    (logicals.map LogicalQueue.queue).map fun base => Lane.suffixed "_" base lane := by
  rw [logicalNames, queuesOf_plan, List.filter_cons_of_neg (by simp), List.filter_eq_self.2,
    List.map_map, List.map_map]
  · rfl
  · simp [LogicalQueue.spec]

theorem boundKeys_plan : boundKeys (plan lane logicals) =
    (logicals.map LogicalQueue.routingKey).map fun base => Lane.suffixed "." base lane := by
  rw [boundKeys, bindingsOf_plan, List.filter_cons_of_neg (by decide), List.filter_eq_self.2,
    List.map_map, List.map_map]
  · rfl
  · simp [LogicalQueue.binding]

/-- Apart from the dead-letter queue, the queues of a plan are the logical ones. -/
theorem queueNames_plan : (queuesOf (plan lane logicals)).map Queue.name =
    deadLetterQueue :: logicalNames (plan lane logicals) := by
  rw [queuesOf_plan, logicalNames_plan, List.map_cons, List.map_map, List.map_map]
  rfl

/-- What plans have in common, if no logical queue is named like the dead-letter queue. -/
theorem common_plan (free : deadLetterQueue ∉ logicalNames (plan lane logicals)) :
    common (plan lane logicals) = sharedDeclarations := by
  rw [logicalNames_plan, List.map_map] at free
  have own : common (logicals.flatMap fun logical =>
      [.queue (logical.spec lane), .bind (logical.binding lane)]) = [] := by
    rw [common, List.filter_eq_nil_iff]
    intro declaration mem
    obtain ⟨logical, hl, mem⟩ := List.mem_flatMap.1 mem
    have named : Lane.queue logical.queue lane ≠ deadLetterQueue := fun same =>
      free (same ▸ List.mem_map_of_mem hl)
    rcases List.mem_cons.1 mem with rfl | mem
    · exact fun kept => named (of_decide_eq_true kept)
    · obtain rfl := List.mem_singleton.1 mem
      exact fun kept => named (of_decide_eq_true kept)
  rw [plan, common, List.filter_append]
  exact congrArg (sharedDeclarations ++ ·) own

/-- The plan of a lane depends on no more of it than which lane it is. -/
theorem plan_normalize : plan (Lane.normalize lane) logicals = plan lane logicals := by
  have spec : LogicalQueue.spec (Lane.normalize lane) = LogicalQueue.spec lane := by
    have feature : Lane.isFeature (Lane.normalize lane) = Lane.isFeature lane :=
      congrArg Option.isSome (Lane.normalize_normalize lane)
    funext logical
    rw [LogicalQueue.spec, LogicalQueue.spec, feature, Lane.queue, Lane.suffixed_normalize]
    rfl
  have binding : LogicalQueue.binding (Lane.normalize lane) = LogicalQueue.binding lane := by
    funext logical
    simp only [LogicalQueue.binding, Lane.queue, Lane.routingKey, Lane.suffixed_normalize]
  rw [plan, plan, spec, binding]

/-! ## The default queues -/

theorem prefixFree_queue : Lane.PrefixFree (deadLetterQueue :: defaultQueues.map (·.queue)) := by
  decide +kernel

theorem prefixFree_routingKey : Lane.PrefixFree (defaultQueues.map (·.routingKey)) := by
  decide +kernel

/-- No logical queue is named like the dead-letter queue, whatever the lane. -/
theorem deadLetterQueue_not_mem : deadLetterQueue ∉ logicalNames (plan lane defaultQueues) := by
  rw [logicalNames_plan]
  intro mem
  obtain ⟨base, held, same⟩ := List.mem_map.1 mem
  -- production has it under its bare name, so this is a name of two bases
  have same : Lane.suffixed "_" base lane = Lane.suffixed "_" deadLetterQueue none := same
  obtain rfl := Lane.base_of_suffixed prefixFree_queue (List.mem_cons_of_mem _ held)
    List.mem_cons_self same
  exact absurd held (by decide)

/-- The plans of two lanes are the same, or have nothing in common but what all lanes share: the
    queues that they declare for messages have different names and are bound with different keys. In
    each plan all names are different. Whatever the base, its name in a lane tells the lane. -/
theorem names_collision_free (lane other : Option String) :
    (plan lane defaultQueues = plan other defaultQueues ↔
        Lane.normalize lane = Lane.normalize other) ∧
      ((logicalNames (plan lane defaultQueues)).Disjoint (logicalNames (plan other defaultQueues)) ↔
        Lane.normalize lane ≠ Lane.normalize other) ∧
      ((boundKeys (plan lane defaultQueues)).Disjoint (boundKeys (plan other defaultQueues)) ↔
        Lane.normalize lane ≠ Lane.normalize other) ∧
      common (plan lane defaultQueues) = sharedDeclarations ∧
      common (plan other defaultQueues) = sharedDeclarations ∧
      ((queuesOf (plan lane defaultQueues)).map Queue.name).Nodup ∧
      deadLetterQueue ∉ logicalNames (plan lane defaultQueues) ∧
      ∀ base,
        (Lane.queue base lane = Lane.queue base other ↔
          Lane.normalize lane = Lane.normalize other) ∧
        (Lane.routingKey base lane = Lane.routingKey base other ↔
          Lane.normalize lane = Lane.normalize other) ∧
        (Lane.host base lane = Lane.host base other ↔
          Lane.normalize lane = Lane.normalize other) := by
  have names : (logicalNames (plan lane defaultQueues)).Disjoint
      (logicalNames (plan other defaultQueues)) ↔ Lane.normalize lane ≠ Lane.normalize other := by
    rw [logicalNames_plan, logicalNames_plan]
    exact Lane.disjoint_suffixed_iff (by decide) prefixFree_queue.tail (by decide)
  have keys : (boundKeys (plan lane defaultQueues)).Disjoint
      (boundKeys (plan other defaultQueues)) ↔ Lane.normalize lane ≠ Lane.normalize other := by
    rw [boundKeys_plan, boundKeys_plan]
    exact Lane.disjoint_suffixed_iff (by decide) prefixFree_routingKey (by decide)
  have plans : plan lane defaultQueues = plan other defaultQueues ↔
      Lane.normalize lane = Lane.normalize other := by
    constructor
    · intro same
      refine Decidable.byContradiction fun different => ?_
      have disjoint := names.2 different
      rw [same, logicalNames_plan] at disjoint
      exact disjoint List.mem_cons_self List.mem_cons_self
    · intro same
      rw [← plan_normalize, same, plan_normalize]
  have distinct : ((queuesOf (plan lane defaultQueues)).map Queue.name).Nodup := by
    rw [queueNames_plan, List.nodup_cons]
    refine ⟨deadLetterQueue_not_mem lane, ?_⟩
    rw [logicalNames_plan]
    exact Lane.nodup_suffixed prefixFree_queue.tail (by decide)
  exact ⟨plans, names, keys, common_plan _ _ (deadLetterQueue_not_mem lane),
    common_plan _ _ (deadLetterQueue_not_mem other), distinct, deadLetterQueue_not_mem lane,
    fun _ => ⟨Lane.suffixed_inj (by decide), Lane.suffixed_inj (by decide),
      Lane.suffixed_inj (by decide)⟩⟩

end Broker

end Laneway
