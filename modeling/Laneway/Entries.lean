set_option autoImplicit false

/-! # Entries by key

Tasks, lookups and kept answers are lists of entries behind a key of their own. Two changes are made
to such a list: the entry of a key is taken out, or put in the place of the one there is. A new entry
comes last, and all values may be changed alike. -/

namespace Laneway

variable {α β : Type} [DecidableEq α]

theorem lookup_filter_ne (entries : List (α × β)) (key other : α) :
    (entries.filter fun entry => entry.1 ≠ key).lookup other =
      if other = key then none else entries.lookup other := by
  induction entries with
  | nil => simp
  | cons entry rest ih =>
    obtain ⟨first, value⟩ := entry
    by_cases hf : first = key
    · subst hf
      rw [List.filter_cons_of_neg (by simp), ih, List.lookup_cons]
      by_cases ho : other = first
      · simp [ho]
      · have hne : (other == first) = false := by simpa using ho
        simp [ho, hne]
    · rw [List.filter_cons_of_pos (by simpa using hf), List.lookup_cons, List.lookup_cons, ih]
      by_cases ho : other = first
      · subst ho
        simp [hf]
      · have hne : (other == first) = false := by simpa using ho
        simp [hne]

theorem lookup_map_replace (entries : List (α × β)) (key other : α) (value : β) :
    (entries.map fun entry => if entry.1 = key then (key, value) else entry).lookup other =
      if other = key then (entries.lookup key).map fun _ => value else entries.lookup other := by
  induction entries with
  | nil => simp
  | cons entry rest ih =>
    obtain ⟨first, old⟩ := entry
    rw [List.map_cons, List.lookup_cons, List.lookup_cons]
    by_cases hf : first = key
    · subst hf
      by_cases ho : other = first
      · simp [ho]
      · have hne : (other == first) = false := by simpa using ho
        simp [ho, hne, List.lookup_cons, ih]
    · have hfk : (key == first) = false := by simpa using Ne.symm hf
      rw [if_neg hf, hfk, List.lookup_cons, ih]
      by_cases ho : other = first
      · subst ho
        simp [hf]
      · have hne : (other == first) = false := by simpa using ho
        simp [hne]

theorem lookup_replaced {entries : List (α × β)} {key : α} {old : β}
    (found : entries.lookup key = some old) (value : β) :
    (entries.map fun entry => if entry.1 = key then (key, value) else entry).lookup key =
      some value := by
  rw [lookup_map_replace, if_pos rfl, found]
  rfl

theorem map_fst_replace (entries : List (α × β)) (key : α) (value : β) :
    (entries.map fun entry => if entry.1 = key then (key, value) else entry).map Prod.fst =
      entries.map Prod.fst := by
  rw [List.map_map]
  refine List.map_congr_left fun entry _ => ?_
  show (if entry.1 = key then (key, value) else entry).1 = entry.1
  split
  · next same => exact same.symm
  · rfl

theorem mem_of_lookup {entries : List (α × β)} {key : α} {value : β}
    (found : entries.lookup key = some value) : (key, value) ∈ entries := by
  obtain ⟨before, after, rfl, -⟩ := List.lookup_eq_some_iff.1 found
  simp

theorem lookup_of_mem {entries : List (α × β)} {key : α} {value : β}
    (nodup : (entries.map Prod.fst).Nodup) (mem : (key, value) ∈ entries) :
    entries.lookup key = some value := by
  induction entries with
  | nil => exact nomatch mem
  | cons entry rest ih =>
    rw [List.map_cons, List.nodup_cons] at nodup
    rw [List.lookup_cons]
    rcases List.mem_cons.1 mem with rfl | later
    · simp
    · have apart : key ≠ entry.1 := by
        rintro rfl
        exact nodup.1 (List.mem_map.2 ⟨_, later, rfl⟩)
      rw [beq_false_of_ne apart]
      exact ih nodup.2 later

theorem lookup_concat (entries : List (α × β)) (key other : α) (value : β) :
    (entries ++ [(key, value)]).lookup other =
      (entries.lookup other).or (if other = key then some value else none) := by
  rw [List.lookup_append, List.lookup_cons, List.lookup_nil]
  by_cases same : other = key
  · simp [same]
  · simp [same, beq_false_of_ne same]

theorem lookup_map_values {γ : Type} (f : β → γ) (entries : List (α × β)) (key : α) :
    (entries.map fun entry => (entry.1, f entry.2)).lookup key = (entries.lookup key).map f := by
  induction entries with
  | nil => rfl
  | cons entry rest ih =>
    rw [List.map_cons, List.lookup_cons, List.lookup_cons]
    split
    · rfl
    · exact ih

end Laneway
