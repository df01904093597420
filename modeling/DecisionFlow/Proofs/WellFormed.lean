import DecisionFlow.Expression.Datum
import DecisionFlow.Proofs.Results
import DecisionFlow.Proofs.Writing

set_option autoImplicit false

/-! # Distinct keys are kept

In a well-formed value the keys of every object are distinct. Whatever is found in such a value is
well formed, a write of such a value keeps an object well formed, and so every value that an
expression computes in a well-formed context is. -/

namespace DecisionFlow

namespace Value

variable {members members' : Fields Value} {p q : Path} {key : String} {v w : Value}

theorem WellFormed.of_get? (h : WellFormed (.obj members)) (hw : Fields.get? members key = some w) :
    w.WellFormed :=
  (wellFormed_obj_iff.1 h).2 (key, w) (Fields.mem_of_get? hw)

theorem WellFormed.of_property? (h : v.WellFormed) (hw : v.property? key = some w) :
    w.WellFormed := by
  cases v with
  | obj members => exact h.of_get? hw
  | _ => exact nomatch hw

theorem WellFormed.of_at? (h : v.WellFormed) (hw : at? v q = some w) : w.WellFormed := by
  induction q generalizing v with
  | nil =>
    obtain rfl := Option.some.inj hw
    exact h
  | cons key q ih =>
    rw [at?] at hw
    cases hpart : v.property? key with
    | none => simp [hpart] at hw
    | some part =>
      rw [hpart] at hw
      exact ih (h.of_property? hpart) hw

theorem WellFormed.atPath (h : v.WellFormed) (text : String) : (v.atPath text).WellFormed := by
  rw [Value.atPath]
  cases hw : v.at? (Path.ofText text) with
  | none => simp [WellFormed]
  | some w => exact h.of_at? hw

theorem wellFormed_obj_nil : WellFormed (.obj []) := by
  simp [wellFormed_obj_iff, Fields.keys]

theorem WellFormed.put (h : WellFormed (.obj members)) (hv : v.WellFormed) (key : String) :
    WellFormed (.obj (Fields.put members key v)) := by
  rw [wellFormed_obj_iff] at h ⊢
  exact ⟨Fields.nodup_keys_put h.1 key v, Fields.forall_mem_put h.2 hv key⟩

theorem WellFormed.of_objectUnder? (h : WellFormed (.obj members)) {inner : Fields Value}
    (hunder : objectUnder? members key = some inner) : WellFormed (.obj inner) := by
  unfold objectUnder? at hunder
  split at hunder
  · obtain rfl := Option.some.inj hunder
    exact wellFormed_obj_nil
  · next found hfound =>
    obtain rfl := Option.some.inj hunder
    exact h.of_get? hfound
  · exact nomatch hunder

theorem WellFormed.write (h : WellFormed (.obj members)) (hv : v.WellFormed)
    (hwrite : Value.write members p v = .ok members') : WellFormed (.obj members') := by
  induction p generalizing members members' with
  | nil =>
    obtain rfl := Except.ok.inj hwrite
    exact h
  | cons key rest ih =>
    cases rest with
    | nil =>
      obtain rfl := Except.ok.inj ((write_singleton ..).symm.trans hwrite)
      exact h.put hv key
    | cons next keys =>
      obtain ⟨inner, inner', hunder, hinner, rfl⟩ := write_cons_cons_eq_ok_iff.1 hwrite
      exact h.put (ih (h.of_objectUnder? hunder) hinner) key

end Value

/-! ## Expressions -/

namespace Expression

variable {context : Value}

theorem wellFormed_nameValue (h : context.WellFormed) (cs : List Char) :
    (nameValue cs context).WellFormed := by
  rw [nameValue]
  split
  · next v hv => exact h.of_property? hv
  · simp [Value.WellFormed]

theorem wellFormed_operand (h : context.WellFormed) (cs : List Char) :
    (operand cs context).WellFormed := by
  rw [operand, trimmedOperand]
  -- But for paths and names, an operand is a literal.
  split
  · simp [Value.WellFormed]
  · split
    · simp [Value.WellFormed]
    · split
      · simp [Value.WellFormed]
      · split
        · exact h.atPath _
        · exact wellFormed_nameValue h _

theorem wellFormed_of_evaluate_plain (h : context.WellFormed) {cs : List Char} {form : Plain}
    {v : Value} (hv : form.evaluate cs context = .ok v) : v.WellFormed := by
  cases form with
  | arithmetic op left right =>
    rw [Plain.evaluate] at hv
    split at hv <;> obtain rfl := Except.ok.inj hv <;> simp [Value.WellFormed]
  | path =>
    obtain rfl := Except.ok.inj hv
    exact h.atPath _
  | name =>
    obtain rfl := Except.ok.inj hv
    exact wellFormed_nameValue h cs
  | whole result =>
    obtain ⟨x, -, rfl⟩ := map_eq_ok_iff.1 hv
    simp [Value.WellFormed]
  | _ =>
    obtain rfl := Except.ok.inj hv
    simp [Value.WellFormed]

/-- What an expression computes in a well-formed context is well formed. -/
theorem wellFormed_of_evaluate (h : context.WellFormed) {text : String} {v : Value}
    (hv : evaluate text context = .ok v) : v.WellFormed := by
  rw [evaluate, evaluateTrimmed] at hv
  split at hv
  · exact wellFormed_of_evaluate_plain h hv
  · obtain rfl := Except.ok.inj hv
    exact wellFormed_operand h _

end Expression

end DecisionFlow
