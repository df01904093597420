import DecisionFlow.Proofs.WellFormed
import DecisionFlow.Proofs.Equality

set_option autoImplicit false

/-! # Equal parts

Structural equality is symmetric and transitive, so that equal values equal the same values. What is
true of a part goes on to the whole: a part at any depth may be replaced by an equal one, and the
keys of any object may be put in another order, and the whole equals what it did before. The other
way round, values that are equal have equal parts at the places that both have, so that a truth
value at one of them stands against a truth value. -/

namespace DecisionFlow.Value

variable {members left right : Fields Value} {items : List Value} {u v w : Value}

/-! ## Transitivity -/

theorem equal_trans (hu : u.WellFormed) (hv : v.WellFormed) (huv : u.equal v = true)
    (hvw : v.equal w = true) : u.equal w = true := by
  induction u using induction_parts generalizing v w with
  | null =>
    cases v with
    | null => exact hvw
    | _ => simp [equal] at huv
  | bool b =>
    cases v with
    | bool c =>
      rw [equal, beq_iff_eq] at huv
      exact huv ▸ hvw
    | _ => simp [equal] at huv
  | num x =>
    cases v with
    | num y =>
      cases w with
      | num z => exact Number.beq_trans huv hvw
      | _ => simp [equal] at hvw
    | _ => simp [equal] at huv
  | str s =>
    cases v with
    | str t =>
      rw [equal, beq_iff_eq] at huv
      exact huv ▸ hvw
    | _ => simp [equal] at huv
  | list items ih =>
    cases v with
    | list items' =>
      cases w with
      | list items'' =>
        rw [wellFormed_list_iff] at hu hv
        rw [equal_list_iff, List.forall₂_iff_get] at huv hvw ⊢
        refine ⟨huv.1.trans hvw.1, fun i hi hi'' => ?_⟩
        have hi' : i < items'.length := huv.1 ▸ hi
        have hmem := List.get_mem items ⟨i, hi⟩
        exact ih _ hmem (hu _ hmem) (hv _ (List.get_mem items' ⟨i, hi'⟩)) (huv.2 i hi hi')
          (hvw.2 i hi' hi'')
      | _ => simp [equal] at hvw
    | _ => simp [equal] at huv
  | obj members ih =>
    cases v with
    | obj members' =>
      cases w with
      | obj members'' =>
        obtain ⟨hdistinct, hmembers⟩ := wellFormed_obj_iff.1 hu
        obtain ⟨hdistinct', hmembers'⟩ := wellFormed_obj_iff.1 hv
        rw [equal_obj_iff hdistinct] at huv ⊢
        rw [equal_obj_iff hdistinct'] at hvw
        refine ⟨fun key => (huv.1 key).trans (hvw.1 key), fun key u w hu hw => ?_⟩
        obtain ⟨v, hv⟩ := exists_get?_of_has (huv.1 key) hu
        have hmem := Fields.mem_of_get? hu
        exact ih (key, u) hmem (hmembers _ hmem) (hmembers' _ (Fields.mem_of_get? hv))
          (huv.2 key u v hu hv) (hvw.2 key v w hv hw)
      | _ => simp [equal] at hvw
    | _ => simp [equal] at huv

/-- Equal values equal the same values. -/
theorem equal_congr (hu : u.WellFormed) (hv : v.WellFormed) (huv : u.equal v = true) (w : Value) :
    u.equal w = v.equal w :=
  Bool.eq_iff_iff.2 ⟨equal_trans hv hu (equal_symm hu hv huv), equal_trans hu hv huv⟩

/-! ## Places -/

/-- A step into a value: to an item of a list, or to the member of an object under a key. -/
inductive Step where
  | item (index : Nat)
  | member (key : String)
  deriving Repr, DecidableEq

/-- The steps that lead from a value to a part of it. -/
abbrev Place := List Step

/-- The part that a step leads to. -/
def child? : Value → Step → Option Value
  | .list items, .item index => items[index]?
  | .obj members, .member key => Fields.get? members key
  | _, _ => none

/-- Puts another part where a step leads. -/
def setChild : Value → Step → Value → Value
  | .list items, .item index, part => .list (items.set index part)
  | .obj members, .member key, part => .obj (Fields.put members key part)
  | v, _, _ => v

/-- The part at a place. -/
def partAt? : Value → Place → Option Value
  | v, [] => some v
  | v, step :: place =>
    match v.child? step with
    | some part => part.partAt? place
    | none => none

/-- Replaces the part at a place; without one, nothing is changed. -/
def replaceAt : Value → Place → Value → Value
  | _, [], new => new
  | v, step :: place, new =>
    match v.child? step with
    | some part => v.setChild step (part.replaceAt place new)
    | none => v

section

variable {step : Step} {place : Place} {part part' new : Value}

theorem partAt?_cons_eq_some_iff :
    v.partAt? (step :: place) = some new ↔
      ∃ part, v.child? step = some part ∧ part.partAt? place = some new := by
  rw [partAt?]
  cases v.child? step <;> simp

theorem replaceAt_cons (hchild : v.child? step = some part) :
    v.replaceAt (step :: place) new = v.setChild step (part.replaceAt place new) := by
  rw [replaceAt, hchild]

theorem WellFormed.of_child? (h : v.WellFormed) (hchild : v.child? step = some part) :
    part.WellFormed := by
  cases v with
  | list items =>
    cases step with
    | item index => exact wellFormed_list_iff.1 h part (List.mem_of_getElem? hchild)
    | member key => exact nomatch hchild
  | obj members =>
    cases step with
    | item index => exact nomatch hchild
    | member key => exact h.of_get? hchild
  | _ => exact nomatch hchild

theorem WellFormed.of_partAt? (h : v.WellFormed) (hpart : v.partAt? place = some part) :
    part.WellFormed := by
  induction place generalizing v with
  | nil =>
    obtain rfl := Option.some.inj hpart
    exact h
  | cons step place ih =>
    obtain ⟨child, hchild, hbelow⟩ := partAt?_cons_eq_some_iff.1 hpart
    exact ih (h.of_child? hchild) hbelow

theorem WellFormed.setChild (h : v.WellFormed) (hpart : part.WellFormed) (step : Step) :
    (v.setChild step part).WellFormed := by
  cases v with
  | list items =>
    cases step with
    | item index =>
      rw [Value.setChild, wellFormed_list_iff]
      intro item hitem
      obtain hold | rfl := List.mem_or_eq_of_mem_set hitem
      · exact wellFormed_list_iff.1 h item hold
      · exact hpart
    | member key => exact h
  | obj members =>
    cases step with
    | item index => exact h
    | member key => exact h.put hpart key
  | _ => exact h

theorem WellFormed.replaceAt (h : v.WellFormed) (hnew : new.WellFormed) (place : Place) :
    (v.replaceAt place new).WellFormed := by
  induction place generalizing v with
  | nil => exact hnew
  | cons step place ih =>
    rw [Value.replaceAt]
    split
    · next part hchild => exact h.setChild (ih (h.of_child? hchild)) step
    · exact h

/-! ## Replacing a part -/

/-- What a list equals depends on its items only by what they equal. -/
theorem equalItems_congr {left right items : List Value} (hlength : left.length = right.length)
    (h : ∀ (i : Nat) v v', left[i]? = some v → right[i]? = some v' →
      ∀ w ∈ items, v'.equal w = v.equal w) : equalItems right items = equalItems left items := by
  induction left generalizing right items with
  | nil => rw [List.length_eq_zero_iff.1 hlength.symm]
  | cons v left ih =>
    cases right with
    | nil => exact nomatch hlength
    | cons v' right =>
      cases items with
      | nil => rfl
      | cons w items =>
        have hhead : v'.equal w = v.equal w := h 0 v v' rfl rfl w (List.mem_cons_self ..)
        have htail : equalItems right items = equalItems left items :=
          ih (Nat.succ.inj hlength) fun i v v' hv hv' w hw =>
            h (i + 1) v v' hv hv' w (List.mem_cons_of_mem _ hw)
        rw [equalItems, equalItems, hhead, htail]

/-- What an object equals depends on the values of its members only by what they equal, and on the
    order of its keys not at all. -/
theorem equal_obj_congr (hleft : (Fields.keys left).Nodup) (hright : (Fields.keys right).Nodup)
    (hkeys : ∀ key, Fields.has left key = Fields.has right key)
    (h : ∀ key v v', Fields.get? left key = some v → Fields.get? right key = some v' →
      ∀ w, Fields.get? members key = some w → v'.equal w = v.equal w) :
    equal (.obj right) (.obj members) = equal (.obj left) (.obj members) := by
  rw [Bool.eq_iff_iff, equal_obj_iff hright, equal_obj_iff hleft]
  simp only [hkeys]
  refine and_congr_right fun _ => ⟨fun hequal key v w hv hw => ?_, fun hequal key v' w hv' hw => ?_⟩
  · obtain ⟨v', hv'⟩ := exists_get?_of_has (hkeys key) hv
    rw [← h key v v' hv hv' w hw]
    exact hequal key v' w hv' hw
  · obtain ⟨v, hv⟩ := exists_get?_of_has (hkeys key).symm hv'
    rw [h key v v' hv hv' w hw]
    exact hequal key v w hv hw

theorem equalItems_set {index : Nat} (hpart : items[index]? = some part)
    (h : ∀ w, w.WellFormed → part'.equal w = part.equal w) {right : List Value}
    (hright : ∀ w ∈ right, w.WellFormed) :
    equalItems (items.set index part') right = equalItems items right := by
  refine equalItems_congr (List.length_set ..).symm fun i v v' hv hv' w hw => ?_
  rw [List.getElem?_set] at hv'
  split at hv'
  · next hi =>
    subst hi
    rw [if_pos (List.getElem?_eq_some_iff.1 hpart).1] at hv'
    obtain rfl := Option.some.inj hv'
    obtain rfl := Option.some.inj (hpart.symm.trans hv)
    exact h w (hright w hw)
  · obtain rfl := Option.some.inj (hv.symm.trans hv')
    rfl

theorem equal_put (hv : WellFormed (.obj members)) {key : String}
    (hpart : Fields.get? members key = some part)
    (h : ∀ w, w.WellFormed → part'.equal w = part.equal w) (hw : WellFormed (.obj right)) :
    equal (.obj (Fields.put members key part')) (.obj right) =
      equal (.obj members) (.obj right) := by
  have hdistinct := (wellFormed_obj_iff.1 hv).1
  refine equal_obj_congr hdistinct (Fields.nodup_keys_put hdistinct key part') (fun other => ?_)
    fun other v v' hv hv' w hget => ?_
  · rw [Fields.has, Fields.has, Fields.get?_put]
    split
    · next hother => rw [hother, hpart, Option.isSome_some, Option.isSome_some]
    · rfl
  · rw [Fields.get?_put] at hv'
    split at hv'
    · next hother =>
      subst hother
      obtain rfl := Option.some.inj hv'
      obtain rfl := Option.some.inj (hpart.symm.trans hv)
      exact h w (hw.of_get? hget)
    · obtain rfl := Option.some.inj (hv.symm.trans hv')
      rfl

/-- A part where a step leads may be replaced by one that equals the same values. -/
theorem equal_setChild (hv : v.WellFormed) (hpart : v.child? step = some part)
    (h : ∀ w, w.WellFormed → part'.equal w = part.equal w) (hw : w.WellFormed) :
    (v.setChild step part').equal w = v.equal w := by
  cases v with
  | list items =>
    cases step with
    | item index =>
      cases w with
      | list right =>
        rw [setChild, equal, equal]
        exact equalItems_set hpart h (wellFormed_list_iff.1 hw)
      | _ => simp [setChild, equal]
    | member key => simp [child?] at hpart
  | obj members =>
    cases step with
    | item index => simp [child?] at hpart
    | member key =>
      cases w with
      | obj right => exact equal_put hv hpart h hw
      | _ => simp [setChild, equal]
  | _ => simp [child?] at hpart

/-- A part at any place may be replaced by one that equals the same values. -/
theorem equal_replaceAt (hv : v.WellFormed) (hpart : v.partAt? place = some part)
    (h : ∀ w, w.WellFormed → new.equal w = part.equal w) (hw : w.WellFormed) :
    (v.replaceAt place new).equal w = v.equal w := by
  induction place generalizing v w with
  | nil =>
    obtain rfl := Option.some.inj hpart
    exact h w hw
  | cons step place ih =>
    obtain ⟨child, hchild, hbelow⟩ := partAt?_cons_eq_some_iff.1 hpart
    rw [replaceAt_cons hchild]
    exact equal_setChild hv hchild (fun w hw => ih (hv.of_child? hchild) hbelow hw) hw

/-! ## Parts of equal values -/

/-- Where a step leads on in two equal values, it leads to equal parts. -/
theorem equal_child (hv : v.WellFormed) (h : v.equal w = true) (hpart : v.child? step = some part)
    (hpart' : w.child? step = some part') : part.equal part' = true := by
  cases step with
  | item index =>
    cases v with
    | list items =>
      cases w with
      | list items' =>
        rw [child?, List.getElem?_eq_some_iff] at hpart hpart'
        obtain ⟨hi, rfl⟩ := hpart
        obtain ⟨hi', rfl⟩ := hpart'
        exact (List.forall₂_iff_get.1 (equal_list_iff.1 h)).2 index hi hi'
      | _ => exact nomatch hpart'
    | _ => exact nomatch hpart
  | member key =>
    cases v with
    | obj members =>
      cases w with
      | obj members' =>
        have hmembers := (equal_obj_iff (wellFormed_obj_iff.1 hv).1).1 h
        exact hmembers.2 key part part' hpart hpart'
      | _ => exact nomatch hpart'
    | _ => exact nomatch hpart

/-- Equal values have equal parts at every place that is in both. -/
theorem equal_partAt (hv : v.WellFormed) (h : v.equal w = true)
    (hpart : v.partAt? place = some part) (hpart' : w.partAt? place = some part') :
    part.equal part' = true := by
  induction place generalizing v w with
  | nil =>
    obtain rfl := Option.some.inj hpart
    obtain rfl := Option.some.inj hpart'
    exact h
  | cons step place ih =>
    obtain ⟨child, hchild, hbelow⟩ := partAt?_cons_eq_some_iff.1 hpart
    obtain ⟨child', hchild', hbelow'⟩ := partAt?_cons_eq_some_iff.1 hpart'
    exact ih (hv.of_child? hchild) (equal_child hv h hchild hchild') hbelow hbelow'

/-- A truth value equals truth values only. -/
theorem exists_bool_of_equal {b : Bool} (h : equal (.bool b) w = true) : ∃ c, w = .bool c := by
  cases w with
  | bool c => exact ⟨c, rfl⟩
  | _ => simp [equal] at h

end

/-! ## The order of keys -/

/-- Two values are the same but for the order of the keys of objects, at any depth. -/
inductive Reordered : Value → Value → Prop where
  | refl (v : Value) : Reordered v v
  | list {left right : List Value} : left.length = right.length →
    (∀ (i : Nat) v w, left[i]? = some v → right[i]? = some w → Reordered v w) →
    Reordered (.list left) (.list right)
  | obj {left right : Fields Value} : (∀ key, Fields.has left key = Fields.has right key) →
    (∀ key v w, Fields.get? left key = some v → Fields.get? right key = some w →
      Reordered v w) →
    Reordered (.obj left) (.obj right)

/-- The order of keys does not matter for what a value equals. -/
theorem Reordered.equal_eq (h : Reordered u v) (hu : u.WellFormed) (hv : v.WellFormed)
    (hw : w.WellFormed) : v.equal w = u.equal w := by
  induction h generalizing w with
  | refl v => rfl
  | @list left right hlength hparts ih =>
    cases w with
    | list items =>
      rw [wellFormed_list_iff] at hu hv hw
      rw [equal, equal]
      exact equalItems_congr hlength fun i v v' hleft hright w hm =>
        ih i v v' hleft hright (hu v (List.mem_of_getElem? hleft))
          (hv v' (List.mem_of_getElem? hright)) (hw w hm)
    | _ => simp [equal]
  | @obj left right hkeys hparts ih =>
    cases w with
    | obj members =>
      exact equal_obj_congr (wellFormed_obj_iff.1 hu).1 (wellFormed_obj_iff.1 hv).1 hkeys
        fun key v v' hleft hright w hget =>
          ih key v v' hleft hright (hu.of_get? hleft) (hv.of_get? hright) (hw.of_get? hget)
    | _ => simp [equal]

/-! ## The laws of equality -/

/-- Structural equality is a partial equivalence on values whose objects have distinct keys. It is
    symmetric and transitive, and a value equals itself exactly when no double in it is no number.
    The order of the keys of objects does not matter, at any depth. The part at any place may be
    replaced by an equal one, and the whole equals the same values as before. And where a truth
    value stands at a place of one value and something else at that place of another, the two are
    not equal. -/
theorem equality_laws (v w : Value) (hv : v.WellFormed) (hw : w.WellFormed) :
    v.equal w = w.equal v ∧
    (∀ u, v.equal w = true → w.equal u = true → v.equal u = true) ∧
    (v.equal v = true ↔ ¬v.HasNaN) ∧
    (∀ v', v'.WellFormed → Reordered v v' → v'.equal w = v.equal w) ∧
    (∀ place part new, v.partAt? place = some part → new.WellFormed → part.equal new = true →
      (v.replaceAt place new).WellFormed ∧ (v.replaceAt place new).equal w = v.equal w) ∧
    (∀ place b part, v.partAt? place = some (.bool b) → w.partAt? place = some part →
      (∀ c, part ≠ .bool c) → v.equal w = false) := by
  refine ⟨equal_comm hv hw, fun u => equal_trans hv hw, equal_self_iff hv, ?_, ?_, ?_⟩
  · intro v' hv' horder
    exact horder.equal_eq hv hv' hw
  · intro place part new hpart hnew hequal
    have hold : part.WellFormed := hv.of_partAt? hpart
    refine ⟨hv.replaceAt hnew place, equal_replaceAt hv hpart (fun u _ => ?_) hw⟩
    exact (equal_congr hold hnew hequal u).symm
  · intro place b part hbool hpart hother
    refine Bool.eq_false_iff.2 fun hequal => ?_
    obtain ⟨c, rfl⟩ := exists_bool_of_equal (equal_partAt hv hequal hbool hpart)
    exact hother c rfl

/-- A flag is no number, be the rest of the two objects equal. -/
theorem equality_laws_flag :
    let v : Value := .obj [("on", .bool true), ("at", .list [.num 0.0])]
    let w : Value := .obj [("at", .list [.num (-0.0)]), ("on", .num 1.0)]
    v.WellFormed ∧ w.WellFormed ∧ v.equal w = false := by
  intro v w
  have hv : v.WellFormed := by
    simp [v, WellFormed, WellFormedMembers, WellFormedItems, Fields.keys]
  have hw : w.WellFormed := by
    simp [w, WellFormed, WellFormedMembers, WellFormedItems, Fields.keys]
  obtain ⟨-, -, -, -, -, hflag⟩ := equality_laws v w hv hw
  exact ⟨hv, hw, hflag [.member "on"] true (.num 1.0) rfl rfl (by simp)⟩

end DecisionFlow.Value
