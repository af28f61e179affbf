import Laneway.Json.Basic

set_option autoImplicit false

/-! # The members of an object by their keys

Of several members of one key the last one counts. Sorting keeps just those, one of each key, so an
object and its sorted form hold the same values under the same keys. -/

namespace Laneway.Json

variable {α : Type}

/-! ## Looking up -/

theorem get?_append (first second : List (String × Json)) (key : String) :
    (obj (first ++ second)).get? key = ((obj second).get? key).or ((obj first).get? key) := by
  simp [get?, List.findRev?_eq_find?_reverse, List.find?_append, Option.map_or]

theorem get?_cons (key : String) (value : Json) (members : List (String × Json)) (other : String) :
    (obj ((key, value) :: members)).get? other =
      ((obj members).get? other).or (if other = key then some value else none) := by
  rw [← List.singleton_append, get?_append]
  by_cases h : other = key
  · simp [get?, List.findRev?, h]
  · simp [get?, List.findRev?, h, Ne.symm h]

theorem get?_eq_none {members : List (String × Json)} {key : String}
    (missing : ∀ m ∈ members, m.1 ≠ key) : (obj members).get? key = none := by
  simpa [get?, List.findRev?_eq_find?_reverse] using fun a b hm => missing (a, b) hm

/-! ## Sorting -/

/-- The keys go up, so none stands twice. -/
def Sorted (members : List (String × α)) : Prop := members.Pairwise (·.1 < ·.1)

theorem mem_insertMember {key : String} {value : α} {members : List (String × α)}
    {m : String × α} (h : m ∈ insertMember key value members) : m.1 = key ∨ m ∈ members := by
  induction members with
  | nil => simp_all [insertMember]
  | cons first rest ih =>
    unfold insertMember at h
    split at h
    · grind
    · split at h <;> grind

theorem Sorted.insertMember {members : List (String × α)} (sorted : Sorted members) (key : String)
    (value : α) : Sorted (insertMember key value members) := by
  induction members with
  | nil => simp [Sorted, Json.insertMember]
  | cons first rest ih =>
    obtain ⟨least, tail⟩ := List.pairwise_cons.1 sorted
    unfold Json.insertMember
    split
    · next before =>
      refine List.pairwise_cons.2 ⟨?_, sorted⟩
      intro m hm
      rcases List.mem_cons.1 hm with rfl | later
      · exact before
      · exact String.lt_trans before (least m later)
    · next notBefore =>
      split
      · next same => exact List.pairwise_cons.2 ⟨same ▸ least, tail⟩
      · next other =>
        refine List.pairwise_cons.2 ⟨?_, ih tail⟩
        intro m hm
        rcases mem_insertMember hm with here | later
        · grind
        · exact least m later

theorem get?_insertMember {members : List (String × Json)} (sorted : Sorted members) (key : String)
    (value : Json) (other : String) :
    (obj (insertMember key value members)).get? other =
      if other = key then some value else (obj members).get? other := by
  induction members with
  | nil => rw [insertMember, get?_cons]; simp [get?]
  | cons first rest ih =>
    obtain ⟨least, tail⟩ := List.pairwise_cons.1 sorted
    obtain ⟨name, old⟩ := first
    unfold insertMember
    split
    · next before =>
      have missing : (obj ((name, old) :: rest)).get? key = none := by
        refine get?_eq_none fun m hm => ?_
        rcases List.mem_cons.1 hm with rfl | later
        · grind
        · have := least m later
          grind
      rw [get?_cons]
      by_cases h : other = key
      · simp [h, missing]
      · simp [h]
    · next notBefore =>
      split
      · next same =>
        subst same
        have missing : (obj rest).get? key = none :=
          get?_eq_none fun m hm same => String.lt_irrefl key (same ▸ least m hm)
        rw [get?_cons, get?_cons]
        by_cases h : other = key
        · simp [h, missing]
        · simp [h]
      · next different =>
        rw [get?_cons, get?_cons, ih tail]
        by_cases h : other = key
        · simp [h]
        · simp [h]

theorem lookup_cons_of_ne {key other : String} (different : other ≠ key) (value : α)
    (members : List (String × α)) : ((key, value) :: members).lookup other = members.lookup other := by
  rw [List.lookup_cons, beq_eq_false_iff_ne.2 different]

/-- Each key but the inserted one keeps its value, sorted or not. -/
theorem lookup_insertMember (key : String) (value : α) (members : List (String × α))
    (other : String) : (insertMember key value members).lookup other =
      if other = key then some value else members.lookup other := by
  by_cases h : other = key
  · subst h
    rw [if_pos rfl]
    induction members with
    | nil => exact List.lookup_cons_self
    | cons first rest ih =>
      unfold insertMember
      split
      · exact List.lookup_cons_self
      · split
        · exact List.lookup_cons_self
        · next different => rw [lookup_cons_of_ne different, ih]
  · rw [if_neg h]
    induction members with
    | nil => exact lookup_cons_of_ne h value []
    | cons first rest ih =>
      unfold insertMember
      split
      · exact lookup_cons_of_ne h value _
      · split
        · next same => rw [lookup_cons_of_ne h, lookup_cons_of_ne (same ▸ h)]
        · rw [List.lookup_cons, List.lookup_cons, ih]

/-- What is inserted member by member comes over what was there. -/
theorem foldl_insertMember (members : List (String × Json)) {acc : List (String × Json)}
    (sorted : Sorted acc) :
    Sorted (members.foldl (fun sorted m => insertMember m.1 m.2 sorted) acc) ∧
      ∀ key, (obj (members.foldl (fun sorted m => insertMember m.1 m.2 sorted) acc)).get? key =
        ((obj members).get? key).or ((obj acc).get? key) := by
  induction members generalizing acc with
  | nil => exact ⟨sorted, fun key => by simp [get?]⟩
  | cons m rest ih =>
    obtain ⟨sorted', lookups⟩ := ih (sorted.insertMember m.1 m.2)
    refine ⟨sorted', fun key => ?_⟩
    rw [List.foldl_cons, lookups, get?_insertMember sorted, get?_cons, Option.or_assoc]
    split <;> simp

theorem sorted_sortMembers (members : List (String × Json)) : Sorted (sortMembers members) :=
  (foldl_insertMember members .nil).1

theorem get?_sortMembers (members : List (String × Json)) (key : String) :
    (obj (sortMembers members)).get? key = (obj members).get? key := by
  have nothing : Sorted ([] : List (String × Json)) := .nil
  have h := (foldl_insertMember members nothing).2 key
  simpa [sortMembers, get?] using h

end Laneway.Json
