set_option autoImplicit false

/-! # Cutting texts

A text is cut at the first occurrence of a mark, at the last occurrence of a character, at every
occurrence of a character, or into the words between the characters of a class. Cutting loses
nothing but the mark. -/

namespace DecisionFlow.Text

/-! ## At one place -/

/-- The parts before and after the first occurrence of `mark`, which is not empty. -/
def cut (mark : List Char) : List Char → Option (List Char × List Char)
  | [] => none
  | c :: cs =>
    if mark.isPrefixOf (c :: cs) then some ([], (c :: cs).drop mark.length)
    else (cut mark cs).map fun (before, after) => (c :: before, after)

/-- The parts before and after the last occurrence of `mark`. -/
def cutLast (mark : Char) : List Char → Option (List Char × List Char)
  | [] => none
  | c :: cs =>
    match cutLast mark cs with
    | some (before, after) => some (c :: before, after)
    | none => if c = mark then some ([], cs) else none

theorem eq_append_of_cut {mark cs before after : List Char}
    (h : cut mark cs = some (before, after)) : cs = before ++ mark ++ after := by
  induction cs generalizing before after with
  | nil => simp [cut] at h
  | cons c cs ih =>
    rw [cut] at h
    split at h
    · rename_i hmark
      obtain ⟨rest, hrest⟩ := List.isPrefixOf_iff_prefix.mp hmark
      simp only [Option.some.injEq, Prod.mk.injEq] at h
      obtain ⟨rfl, rfl⟩ := h
      rw [← hrest]
      simp
    · obtain ⟨⟨b, a⟩, hba, heq⟩ := Option.map_eq_some_iff.mp h
      simp only [Prod.mk.injEq] at heq
      obtain ⟨rfl, rfl⟩ := heq
      simp [ih hba]

theorem eq_append_of_cutLast {mark : Char} {cs before after : List Char}
    (h : cutLast mark cs = some (before, after)) : cs = before ++ mark :: after := by
  induction cs generalizing before with
  | nil => simp [cutLast] at h
  | cons c cs ih =>
    rw [cutLast] at h
    split at h
    · rename_i b a hba
      simp only [Option.some.injEq, Prod.mk.injEq] at h
      obtain ⟨rfl, rfl⟩ := h
      simp [ih hba]
    · split at h
      · rename_i hc
        simp only [Option.some.injEq, Prod.mk.injEq] at h
        obtain ⟨rfl, rfl⟩ := h
        simp [hc]
      · simp at h

/-! ## At every place -/

/-- The parts between the occurrences of `mark`; one more than there are occurrences. -/
def segments (mark : Char) : List Char → List (List Char)
  | [] => [[]]
  | c :: cs =>
    if c = mark then [] :: segments mark cs
    else
      match segments mark cs with
      | [] => [[c]]
      | s :: ss => (c :: s) :: ss

theorem segments_ne_nil (mark : Char) (cs : List Char) : segments mark cs ≠ [] := by
  cases cs with
  | nil => simp [segments]
  | cons c cs =>
    rw [segments]
    split
    · simp
    · split <;> simp

/-- Put together with the mark between them, the parts are the text again. -/
theorem intercalate_segments (mark : Char) (cs : List Char) :
    List.intercalate [mark] (segments mark cs) = cs := by
  induction cs with
  | nil => rfl
  | cons c cs ih =>
    cases hs : segments mark cs with
    | nil => exact absurd hs (segments_ne_nil mark cs)
    | cons s ss =>
      rw [hs] at ih
      by_cases hc : c = mark
      · rw [segments, if_pos hc, hs, hc, ← ih]
        rfl
      · rw [segments, if_neg hc, hs, ← ih]
        cases ss <;> rfl

/-! ## Words -/

/-- The words of a text: the longest runs of characters outside the class `p`. -/
def words (p : Char → Bool) : List Char → List (List Char)
  | [] => []
  | c :: cs =>
    if p c then words p cs
    else
      match cs with
      | [] => [[c]]
      | d :: _ =>
        if p d then [c] :: words p cs
        else
          match words p cs with
          | [] => [[c]]
          | w :: ws => (c :: w) :: ws

example : words (· == ' ') "  ab  c ".toList = ["ab".toList, "c".toList] := by decide +kernel

end DecisionFlow.Text
