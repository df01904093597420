import Mathlib.Data.List.Induction

set_option autoImplicit false

/-! # Last elements

What holds at the end of a list is often decided by the last element that has a property: a
registry ends up with the last handler of a tag, and a shelf with the last graph of a key. -/

namespace DecisionFlow

/-- The last element of a list that has a property. -/
def IsLast {α : Type} (p : α → Prop) (l : List α) (a : α) : Prop :=
  ∃ before after, l = before ++ a :: after ∧ p a ∧ ∀ b ∈ after, ¬p b

variable {α : Type} {p q : α → Prop} {l before after : List α} {a b : α}

/-- An element of a list with one more element is that one or stands before it. -/
theorem concat_eq_append_cons_iff : l ++ [b] = before ++ a :: after ↔
    l = before ∧ b = a ∧ after = [] ∨ ∃ rest, after = rest ++ [b] ∧ l = before ++ a :: rest := by
  constructor
  · intro h
    obtain rfl | ⟨rest, last, rfl⟩ := after.eq_nil_or_concat
    · obtain ⟨hl, hb⟩ := List.append_inj' h rfl
      exact .inl ⟨hl, List.singleton_inj.1 hb, rfl⟩
    · rw [List.concat_eq_append] at h ⊢
      rw [← List.cons_append, ← List.append_assoc] at h
      obtain ⟨hl, hb⟩ := List.append_inj' h rfl
      exact .inr ⟨rest, by rw [hb], hl⟩
  · rintro (⟨rfl, rfl, rfl⟩ | ⟨rest, rfl, rfl⟩)
    · rfl
    · simp

theorem IsLast.mem (h : IsLast p l a) : a ∈ l := by
  obtain ⟨before, after, rfl, -⟩ := h
  simp

theorem IsLast.holds (h : IsLast p l a) : p a := by
  obtain ⟨_, _, _, ha, _⟩ := h
  exact ha

theorem not_isLast_nil : ¬IsLast p [] a := by
  simp [IsLast]

/-- The last element is the one at the end, or the last of those before it. -/
theorem isLast_concat_iff : IsLast p (l ++ [b]) a ↔ p b ∧ a = b ∨ ¬p b ∧ IsLast p l a := by
  constructor
  · rintro ⟨before, after, hl, ha, hafter⟩
    obtain ⟨-, rfl, -⟩ | ⟨rest, rfl, rfl⟩ := concat_eq_append_cons_iff.1 hl
    · exact .inl ⟨ha, rfl⟩
    · rw [List.forall_mem_append] at hafter
      exact .inr ⟨hafter.2 b (List.mem_singleton_self b), before, rest, rfl, ha, hafter.1⟩
  · rintro (⟨hb, rfl⟩ | ⟨hb, before, after, rfl, ha, hafter⟩)
    · exact ⟨l, [], rfl, hb, by simp⟩
    · refine ⟨before, after ++ [b], by simp, ha, List.forall_mem_append.2 ⟨hafter, ?_⟩⟩
      simpa using hb

theorem getLast?_filter_eq_some_iff [DecidablePred p] :
    (l.filter fun b => p b).getLast? = some a ↔ IsLast p l a := by
  induction l using List.reverseRecOn with
  | nil => simp [not_isLast_nil]
  | append_singleton l b ih =>
    rw [isLast_concat_iff, ← ih, List.filter_append]
    by_cases hb : p b
    · simp [hb, eq_comm]
    · simp [hb]

theorem isLast_congr (h : ∀ b ∈ l, p b ↔ q b) : IsLast p l a ↔ IsLast q l a := by
  induction l using List.reverseRecOn with
  | nil => simp only [not_isLast_nil]
  | append_singleton l b ih =>
    rw [List.forall_mem_append] at h
    rw [isLast_concat_iff, isLast_concat_iff, h.2 b (List.mem_singleton_self b), ih h.1]

end DecisionFlow
