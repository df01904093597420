import DecisionFlow.Proofs.Doubles
import DecisionFlow.Value.Equality
import Mathlib.Data.List.Forall2
import Mathlib.Tactic.Push

set_option autoImplicit false

/-! # Structural equality

Lists are equal item by item, and objects with distinct keys are equal key by key. So whether two
values are equal does not depend on their order, and a value equals itself unless a double that is
no number stands somewhere in it. -/

namespace DecisionFlow.Value

/-! ## Nested values -/

/-- What holds of a list when it holds of its items, and of an object when it holds of the values
    of its members, holds of every value, if it holds of those that have no parts. -/
@[elab_as_elim]
theorem induction_parts {motive : Value → Prop} (null : motive .null)
    (bool : ∀ b, motive (.bool b)) (num : ∀ x, motive (.num x)) (str : ∀ s, motive (.str s))
    (list : ∀ items, (∀ item ∈ items, motive item) → motive (.list items))
    (obj : ∀ members, (∀ member ∈ members, motive member.2) → motive (.obj members))
    (v : Value) : motive v := by
  -- The items and the values of the members are smaller than the value that they are in.
  induction hsize : sizeOf v using Nat.strongRecOn generalizing v with
  | ind size ih =>
    subst hsize
    cases v with
    | null => exact null
    | bool b => exact bool b
    | num x => exact num x
    | str s => exact str s
    | list items =>
      refine list items fun item hm => ih _ ?_ item rfl
      have hlt := List.sizeOf_lt_of_mem hm
      simp only [Value.list.sizeOf_spec]
      omega
    | obj members =>
      refine obj members fun member hm => ih _ ?_ member.2 rfl
      obtain ⟨key, v⟩ := member
      have hlt := List.sizeOf_lt_of_mem hm
      simp only [Prod.mk.sizeOf_spec] at hlt
      simp only [Value.obj.sizeOf_spec]
      omega

variable {members left right : Fields Value} {items : List Value} {v w : Value}

theorem wellFormed_list_iff : WellFormed (.list items) ↔ ∀ item ∈ items, item.WellFormed := by
  rw [WellFormed]
  induction items with
  | nil => simp [WellFormedItems]
  | cons item items ih => simp [WellFormedItems, ih]

/-! ## Equality of lists and objects -/

/-- Lists are equal when their items are, one by one. -/
theorem equal_list_iff {left right : List Value} : equal (.list left) (.list right) = true ↔
    List.Forall₂ (fun v w => v.equal w = true) left right := by
  rw [equal]
  induction left generalizing right with
  | nil => cases right <;> simp [equalItems]
  | cons v left ih =>
    cases right with
    | nil => simp [equalItems]
    | cons w right => rw [equalItems, Bool.and_eq_true, ih, List.forall₂_cons]

theorem sameKeys_eq_true_iff :
    sameKeys left right = true ↔ ∀ key, Fields.has left key = Fields.has right key := by
  rw [sameKeys, Bool.and_eq_true, List.all_eq_true, List.all_eq_true]
  simp only [Fields.mem_keys_iff_has]
  refine ⟨fun h key => Bool.eq_iff_iff.2 ⟨h.1 key, h.2 key⟩,
    fun h => ⟨fun key => ?_, fun key => ?_⟩⟩
  · exact (h key).symm.trans
  · exact (h key).trans

theorem equalMembers_eq_true_iff : equalMembers left right = true ↔
    ∀ entry ∈ left, ∃ w, Fields.get? right entry.1 = some w ∧ entry.2.equal w = true := by
  induction left with
  | nil => simp [equalMembers]
  | cons entry left ih =>
    obtain ⟨key, v⟩ := entry
    rw [equalMembers, List.forall_mem_cons, ← ih]
    cases Fields.get? right key with
    | none => simp
    | some w => simp

/-- Where the same keys are present, what is found on one side has a counterpart on the other. -/
theorem exists_get?_of_has {key : String} (h : Fields.has left key = Fields.has right key)
    (hv : Fields.get? left key = some v) : ∃ w, Fields.get? right key = some w := by
  rw [← Option.isSome_iff_exists, ← Fields.has, ← h, Fields.has, hv, Option.isSome_some]

/-- Objects with distinct keys are equal when they have the same keys and under each of them equal
    values. -/
theorem equal_obj_iff (hleft : (Fields.keys left).Nodup) :
    equal (.obj left) (.obj right) = true ↔
      (∀ key, Fields.has left key = Fields.has right key) ∧
      ∀ key v w, Fields.get? left key = some v → Fields.get? right key = some w →
        v.equal w = true := by
  rw [equal, Bool.and_eq_true, sameKeys_eq_true_iff, equalMembers_eq_true_iff]
  refine and_congr_right fun hkeys => ⟨fun h key v w hv hw => ?_, fun h entry hentry => ?_⟩
  · obtain ⟨w', hw', hequal⟩ := h (key, v) (Fields.mem_of_get? hv)
    obtain rfl := Option.some.inj (hw.symm.trans hw')
    exact hequal
  · have hv : Fields.get? left entry.1 = some entry.2 := Fields.get?_of_mem hleft hentry
    obtain ⟨w, hw⟩ := exists_get?_of_has (hkeys entry.1) hv
    exact ⟨w, hw, h entry.1 entry.2 w hv hw⟩

/-! ## Symmetry -/

theorem equal_symm (hv : v.WellFormed) (hw : w.WellFormed) (h : v.equal w = true) :
    w.equal v = true := by
  induction v using induction_parts generalizing w with
  | null =>
    cases w with
    | null => exact h
    | _ => simp [equal] at h
  | bool b =>
    cases w with
    | bool c =>
      rw [equal, beq_iff_eq] at h ⊢
      exact h.symm
    | _ => simp [equal] at h
  | num x =>
    cases w with
    | num y => rwa [equal, Number.beq_comm]
    | _ => simp [equal] at h
  | str s =>
    cases w with
    | str t =>
      rw [equal, beq_iff_eq] at h ⊢
      exact h.symm
    | _ => simp [equal] at h
  | list items ih =>
    cases w with
    | list items' =>
      rw [wellFormed_list_iff] at hv hw
      rw [equal_list_iff, List.forall₂_iff_get] at h ⊢
      refine ⟨h.1.symm, fun i hi' hi => ?_⟩
      have hmem := List.get_mem items ⟨i, hi⟩
      exact ih _ hmem (hv _ hmem) (hw _ (List.get_mem items' ⟨i, hi'⟩)) (h.2 i hi hi')
    | _ => simp [equal] at h
  | obj members ih =>
    cases w with
    | obj members' =>
      obtain ⟨hdistinct, hmembers⟩ := wellFormed_obj_iff.1 hv
      obtain ⟨hdistinct', hmembers'⟩ := wellFormed_obj_iff.1 hw
      rw [equal_obj_iff hdistinct] at h
      rw [equal_obj_iff hdistinct']
      refine ⟨fun key => (h.1 key).symm, fun key w v hw hv => ?_⟩
      have hmem := Fields.mem_of_get? hv
      exact ih (key, v) hmem (hmembers _ hmem) (hmembers' _ (Fields.mem_of_get? hw))
        (h.2 key v w hv hw)
    | _ => simp [equal] at h

/-- Whether two well-formed values are equal does not depend on their order. -/
theorem equal_comm (hv : v.WellFormed) (hw : w.WellFormed) : v.equal w = w.equal v :=
  Bool.eq_iff_iff.2 ⟨equal_symm hv hw, equal_symm hw hv⟩

/-! ## Values that equal themselves -/

/-- A double that is no number is the value or stands anywhere in it. -/
inductive HasNaN : Value → Prop where
  /-- The value is no number. -/
  | num {x : Float} : x.isNaN = true → HasNaN (.num x)
  /-- An item of the list has it. -/
  | item {items : List Value} {v : Value} : v ∈ items → HasNaN v → HasNaN (.list items)
  /-- The value of a member has it. -/
  | member {members : Fields Value} {key : String} {v : Value} :
    (key, v) ∈ members → HasNaN v → HasNaN (.obj members)

theorem hasNaN_num_iff {x : Float} : HasNaN (.num x) ↔ x.isNaN = true :=
  ⟨fun h => by cases h; assumption, .num⟩

theorem hasNaN_list_iff : HasNaN (.list items) ↔ ∃ v ∈ items, v.HasNaN := by
  constructor
  · rintro ⟨⟩
    exact ⟨_, ‹_›, ‹_›⟩
  · rintro ⟨v, hm, hv⟩
    exact .item hm hv

theorem hasNaN_obj_iff : HasNaN (.obj members) ↔ ∃ member ∈ members, member.2.HasNaN := by
  constructor
  · rintro ⟨⟩
    exact ⟨_, ‹_›, ‹_›⟩
  · rintro ⟨⟨key, v⟩, hm, hv⟩
    exact .member hm hv

/-- A well-formed value equals itself unless something in it is no number. -/
theorem equal_self_iff (hv : v.WellFormed) : v.equal v = true ↔ ¬v.HasNaN := by
  induction v using induction_parts with
  | null | bool _ | str _ => exact iff_of_true (by simp [equal]) (fun h => nomatch h)
  | num x => rw [equal, Number.beq_self, hasNaN_num_iff, Bool.not_eq_true', Bool.not_eq_true]
  | list items ih =>
    rw [equal_list_iff, List.forall₂_same, hasNaN_list_iff]
    push Not
    exact forall₂_congr fun item hitem => ih item hitem (wellFormed_list_iff.1 hv item hitem)
  | obj members ih =>
    obtain ⟨hdistinct, hmembers⟩ := wellFormed_obj_iff.1 hv
    rw [equal_obj_iff hdistinct, hasNaN_obj_iff]
    push Not
    refine ⟨fun h member hm => ?_, fun h => ⟨fun key => rfl, fun key v w hv hw => ?_⟩⟩
    · have hget : Fields.get? members member.1 = some member.2 := Fields.get?_of_mem hdistinct hm
      exact (ih member hm (hmembers member hm)).1 (h.2 _ _ _ hget hget)
    · obtain rfl := Option.some.inj (hv.symm.trans hw)
      have hm := Fields.mem_of_get? hv
      exact (ih (key, v) hm (hmembers _ hm)).2 (h _ hm)

end DecisionFlow.Value
