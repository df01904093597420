import DecisionFlow.Value.Basic

set_option autoImplicit false

/-! # Which data have a value

A datum has a value unless an integer anywhere in it is beyond the range of doubles. -/

namespace DecisionFlow

/-- What holds of a list when it holds of its items, and of an object when it holds of the values of
    its members, holds of every datum, if it holds of those that have no parts. -/
@[elab_as_elim]
theorem Json.induction_parts {motive : Json → Prop} (null : motive .null)
    (bool : ∀ b, motive (.bool b)) (int : ∀ n, motive (.int n)) (num : ∀ x, motive (.num x))
    (str : ∀ s, motive (.str s))
    (arr : ∀ items, (∀ item ∈ items, motive item) → motive (.arr items))
    (obj : ∀ members, (∀ member ∈ members, motive member.2) → motive (.obj members))
    (j : Json) : motive j := by
  -- The items and the values of the members are smaller than the datum that they are in.
  induction hsize : sizeOf j using Nat.strongRecOn generalizing j with
  | ind size ih =>
    subst hsize
    cases j with
    | null => exact null
    | bool b => exact bool b
    | int n => exact int n
    | num x => exact num x
    | str s => exact str s
    | arr items =>
      refine arr items fun item hm => ih _ ?_ item rfl
      have hlt := List.sizeOf_lt_of_mem hm
      simp only [Json.arr.sizeOf_spec]
      omega
    | obj members =>
      refine obj members fun member hm => ih _ ?_ member.2 rfl
      obtain ⟨key, j⟩ := member
      have hlt := List.sizeOf_lt_of_mem hm
      simp only [Prod.mk.sizeOf_spec] at hlt
      simp only [Json.obj.sizeOf_spec]
      omega

/-- An integer is the datum or stands anywhere in it. -/
inductive Json.HasInt (n : Int) : Json → Prop where
  /-- The datum is the integer. -/
  | int : HasInt n (.int n)
  /-- An item of the list has the integer. -/
  | item {items : List Json} {j : Json} : j ∈ items → HasInt n j → HasInt n (.arr items)
  /-- The value of a member has the integer. -/
  | member {members : List (String × Json)} {key : String} {j : Json} :
    (key, j) ∈ members → HasInt n j → HasInt n (.obj members)

/-- A datum has an integer beyond the range of doubles. -/
def Json.HasOversized (j : Json) : Prop :=
  ∃ n, j.HasInt n ∧ Number.overflowBound ≤ n.natAbs

mutual

/-- The integers that are listed for a datum stand in it. -/
theorem Json.hasInt_of_mem_ints {n : Int} : ∀ {j : Json}, n ∈ j.ints → j.HasInt n
  | .int m, h => by
    rw [ints, List.mem_singleton] at h
    exact h ▸ .int
  | .arr items, h => by
    obtain ⟨j, hm, hj⟩ := exists_of_mem_intsOfItems (by simpa [ints] using h)
    exact .item hm hj
  | .obj members, h => by
    obtain ⟨key, j, hm, hj⟩ := exists_of_mem_intsOfMembers (by simpa [ints] using h)
    exact .member hm hj
  | .null, h | .bool _, h | .num _, h | .str _, h => by simp [ints] at h

theorem Json.exists_of_mem_intsOfItems {n : Int} :
    ∀ {items : List Json}, n ∈ intsOfItems items → ∃ j ∈ items, j.HasInt n
  | [], h => by simp [intsOfItems] at h
  | item :: items, h => by
    rw [intsOfItems, List.mem_append] at h
    obtain h | h := h
    · exact ⟨item, List.mem_cons_self .., hasInt_of_mem_ints h⟩
    · obtain ⟨j, hm, hj⟩ := exists_of_mem_intsOfItems h
      exact ⟨j, List.mem_cons_of_mem _ hm, hj⟩

theorem Json.exists_of_mem_intsOfMembers {n : Int} :
    ∀ {members : List (String × Json)}, n ∈ intsOfMembers members →
      ∃ key j, (key, j) ∈ members ∧ j.HasInt n
  | [], h => by simp [intsOfMembers] at h
  | (key, value) :: members, h => by
    rw [intsOfMembers, List.mem_append] at h
    obtain h | h := h
    · exact ⟨key, value, List.mem_cons_self .., hasInt_of_mem_ints h⟩
    · obtain ⟨k, j, hm, hj⟩ := exists_of_mem_intsOfMembers h
      exact ⟨k, j, List.mem_cons_of_mem _ hm, hj⟩

end

namespace Value

theorem ofItems?_eq_none_iff {items : List Json} :
    ofItems? items = none ↔ ∃ j ∈ items, ofJson? j = none := by
  induction items with
  | nil => simp [ofItems?]
  | cons j items ih =>
    rw [ofItems?]
    cases hj : ofJson? j with
    | none => simp [hj]
    | some v => simp [hj, ih]

theorem ofMembers?_eq_none_iff {members : List (String × Json)} :
    ofMembers? members = none ↔ ∃ key j, (key, j) ∈ members ∧ ofJson? j = none := by
  induction members with
  | nil => simp [ofMembers?]
  | cons member members ih =>
    obtain ⟨key, j⟩ := member
    rw [ofMembers?]
    cases hj : ofJson? j with
    | none => exact iff_of_true rfl ⟨key, j, List.mem_cons_self .., hj⟩
    | some v =>
      simp only [Option.map_eq_none_iff, ih, List.mem_cons, Prod.mk.injEq]
      constructor
      · rintro ⟨k, i, hm, hi⟩
        exact ⟨k, i, Or.inr hm, hi⟩
      · rintro ⟨k, i, ⟨rfl, rfl⟩ | hm, hi⟩
        · simp [hj] at hi
        · exact ⟨k, i, hm, hi⟩

/-- What has no value has an integer that no double is near to. -/
theorem exists_hasInt_of_ofJson? {j : Json} (h : ofJson? j = none) :
    ∃ n, j.HasInt n ∧ Number.overflowBound ≤ n.natAbs := by
  induction j using Json.induction_parts with
  | int n =>
    rw [ofJson?, Option.map_eq_none_iff] at h
    exact ⟨n, .int, Number.ofInt?_eq_none_iff.1 h⟩
  | arr items ih =>
    rw [ofJson?, Option.map_eq_none_iff] at h
    obtain ⟨j, hm, hj⟩ := ofItems?_eq_none_iff.1 h
    obtain ⟨n, hn, hbound⟩ := ih j hm hj
    exact ⟨n, .item hm hn, hbound⟩
  | obj members ih =>
    rw [ofJson?, Option.map_eq_none_iff] at h
    obtain ⟨key, j, hm, hj⟩ := ofMembers?_eq_none_iff.1 h
    obtain ⟨n, hn, hbound⟩ := ih (key, j) hm hj
    exact ⟨n, .member hm hn, hbound⟩
  | null | bool _ | num _ | str _ => simp [ofJson?] at h

/-- A datum has no value exactly when an integer in it is beyond the range of doubles. -/
theorem ofJson?_eq_none_iff {j : Json} :
    ofJson? j = none ↔ ∃ n, j.HasInt n ∧ Number.overflowBound ≤ n.natAbs := by
  refine ⟨exists_hasInt_of_ofJson?, ?_⟩
  rintro ⟨n, hn, hbound⟩
  induction hn with
  | int => simp [ofJson?, Number.ofInt?_eq_none_iff, hbound]
  | item hm _ ih => rw [ofJson?, ofItems?_eq_none_iff.2 ⟨_, hm, ih⟩, Option.map_none]
  | member hm _ ih => rw [ofJson?, ofMembers?_eq_none_iff.2 ⟨_, _, hm, ih⟩, Option.map_none]

end Value

end DecisionFlow
