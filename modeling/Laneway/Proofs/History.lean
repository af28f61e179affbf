set_option autoImplicit false

/-! # Parts of a history

A history grows at its end. Where it is taken apart at some moment, this moment is the last one, or
the last one is among those after it. -/

namespace Laneway

variable {α : Type} {history : List α} {m : α}

theorem concat_eq_append_cons_iff {earlier later : List α} {last : α} :
    history ++ [last] = earlier ++ m :: later ↔
      (history = earlier ∧ last = m ∧ later = []) ∨
        ∃ rest, history = earlier ++ m :: rest ∧ later = rest ++ [last] := by
  constructor
  · intro parts
    rcases List.eq_nil_or_concat later with rfl | ⟨rest, newest, rfl⟩
    · obtain ⟨before, here⟩ := List.append_inj' parts rfl
      exact .inl ⟨before, (List.cons.inj here).1, rfl⟩
    · rw [List.concat_eq_append, ← List.cons_append, ← List.append_assoc] at parts
      obtain ⟨before, here⟩ := List.append_inj' parts rfl
      exact .inr ⟨rest, before, by rw [List.concat_eq_append, here]⟩
  · rintro (⟨rfl, rfl, rfl⟩ | ⟨rest, rfl, rfl⟩)
    · rfl
    · rw [List.append_assoc, List.cons_append]

/-- A moment of the one kind has come, and it and all since then are of the other. -/
def Lasting (P Q : α → Prop) (history : List α) : Prop :=
  ∃ earlier m later, history = earlier ++ m :: later ∧ P m ∧ ∀ m' ∈ m :: later, Q m'

theorem lasting_concat {P Q : α → Prop} :
    Lasting P Q (history ++ [m]) ↔ Q m ∧ (P m ∨ Lasting P Q history) := by
  constructor
  · rintro ⟨earlier, first, later, parts, kind, since⟩
    rcases concat_eq_append_cons_iff.1 parts with ⟨-, rfl, rfl⟩ | ⟨rest, rfl, rfl⟩
    · exact ⟨since m List.mem_cons_self, .inl kind⟩
    · rw [← List.cons_append] at since
      exact ⟨since m (by simp), .inr ⟨earlier, first, rest, rfl, kind, fun m' hm =>
        since m' (List.mem_append_left _ hm)⟩⟩
  · rintro ⟨holds, kind | ⟨earlier, first, later, rfl, kind, since⟩⟩
    · exact ⟨history, m, [], rfl, kind, by simpa using holds⟩
    · refine ⟨earlier, first, later ++ [m], by simp, kind, ?_⟩
      rw [← List.cons_append]
      intro m' hm
      rcases List.mem_append.1 hm with old | new
      · exact since m' old
      · rw [List.mem_singleton.1 new]
        exact holds

end Laneway
