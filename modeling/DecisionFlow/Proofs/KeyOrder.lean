import Mathlib.Data.Option.Basic
import DecisionFlow.Proofs.Equality
import DecisionFlow.Proofs.Writing

set_option autoImplicit false

/-! # The order of keys

Values that are the same but for the order of the keys of objects. Such values equal the same
values. Two values are the same but for the order of keys when every path leads in both to the same
value, or in both to an object, or in both to nothing. -/

namespace DecisionFlow.Value

variable {members members' left right : Fields Value} {v w : Value} {key : String}

/-- Two values are the same but for the order of keys: they are the same, or they are objects with
    the same keys under which stand values that are the same but for the order of keys. -/
inductive SameButOrder : Value → Value → Prop where
  | refl (v : Value) : SameButOrder v v
  | obj {members members' : Fields Value} :
    (∀ key, Fields.has members key = Fields.has members' key) →
    (∀ key v w, Fields.get? members key = some v → Fields.get? members' key = some w →
      SameButOrder v w) →
    SameButOrder (.obj members) (.obj members')

/-! ## Structural equality -/

/-- A well-formed value equals another order of its keys exactly when it equals itself. -/
theorem SameButOrder.equal_eq (h : SameButOrder v w) (hv : v.WellFormed) :
    v.equal w = v.equal v := by
  induction h with
  | refl v => rfl
  | @obj members members' hkeys hparts ih =>
    obtain ⟨hdistinct, hmembers⟩ := wellFormed_obj_iff.1 hv
    have hself : ∀ {key v w}, Fields.get? members key = some v →
        Fields.get? members' key = some w → v.equal w = v.equal v := fun {key v w} hv hw =>
      ih key v w hv hw (hmembers _ (Fields.mem_of_get? hv))
    rw [Bool.eq_iff_iff, equal_obj_iff hdistinct, equal_obj_iff hdistinct]
    refine and_congr (iff_of_true hkeys fun _ => rfl) (forall₂_congr fun key v => ?_)
    constructor
    · intro h w hv hw
      obtain rfl := Option.some.inj (hv.symm.trans hw)
      obtain ⟨w, hw⟩ := exists_get?_of_has (hkeys key) hv
      rw [← hself hv hw]
      exact h w hv hw
    · intro h w hv hw
      rw [hself hv hw]
      exact h v hv hv

/-! ## Paths -/

/-- Two values that a path leads to are the same, or both are objects. -/
def Alike (v w : Value) : Prop :=
  v = w ∨ ∃ members members', v = .obj members ∧ w = .obj members'

/-- Values are the same but for the order of keys when all their paths lead to the like. -/
theorem sameButOrder_of_at? {v w : Value}
    (h : ∀ q : Path, Option.Rel Alike (at? v q) (at? w q)) : SameButOrder v w := by
  have hroot : Alike v w := by
    cases h [] with
    | some halike => exact halike
  obtain rfl | ⟨members, members', hv, hw⟩ := hroot
  · exact .refl v
  · have hpart : ∀ key q, Option.Rel Alike ((Fields.get? members key).bind (at? · q))
        ((Fields.get? members' key).bind (at? · q)) := by
      intro key q
      rw [← at?_obj_cons, ← at?_obj_cons, ← hv, ← hw]
      exact h (key :: q)
    rw [hv, hw]
    refine .obj (fun key => ?_) fun key part part' hget hget' => ?_
    · have hhere : Option.Rel Alike (Fields.get? members key) (Fields.get? members' key) := by
        simpa [at?] using hpart key []
      rw [Fields.has, Fields.has]
      generalize Fields.get? members key = found at hhere ⊢
      generalize Fields.get? members' key = found' at hhere ⊢
      cases hhere with
      | none => rfl
      | some _ => rfl
    · refine sameButOrder_of_at? fun q => ?_
      have hbelow := hpart key q
      rw [hget, hget'] at hbelow
      exact hbelow
termination_by sizeOf v
decreasing_by
  have hlt := List.sizeOf_lt_of_mem (Fields.mem_of_get? hget)
  simp only [Prod.mk.sizeOf_spec] at hlt
  simp only [hv, Value.obj.sizeOf_spec]
  omega

end DecisionFlow.Value
