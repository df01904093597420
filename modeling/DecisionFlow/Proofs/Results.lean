set_option autoImplicit false

/-! # Results and faults

When the result of a step, or the fault of one, is changed on its way: what it was before. -/

namespace DecisionFlow

variable {α β ε ε' : Type}

theorem map_eq_ok_iff {f : α → β} {x : Except ε α} {b : β} :
    x.map f = .ok b ↔ ∃ a, x = .ok a ∧ b = f a := by
  cases x with
  | error e =>
    show Except.error e = .ok b ↔ _
    simp
  | ok a =>
    show Except.ok (f a) = .ok b ↔ _
    simp [eq_comm]

theorem map_eq_error_iff {f : α → β} {x : Except ε α} {e : ε} :
    x.map f = .error e ↔ x = .error e := by
  cases x with
  | error e' =>
    show Except.error e' = .error e ↔ _
    simp
  | ok a =>
    show Except.ok (f a) = .error e ↔ _
    simp

theorem mapError_eq_ok_iff {rename : ε → ε'} {x : Except ε α} {a : α} :
    x.mapError rename = .ok a ↔ x = .ok a := by
  cases x with
  | error e =>
    show Except.error (rename e) = .ok a ↔ _
    simp
  | ok b =>
    show Except.ok b = .ok a ↔ _
    simp

theorem mapError_eq_error_iff {rename : ε → ε'} {x : Except ε α} {e : ε'} :
    x.mapError rename = .error e ↔ ∃ e', x = .error e' ∧ e = rename e' := by
  cases x with
  | error e' =>
    show Except.error (rename e') = .error e ↔ _
    simp [eq_comm]
  | ok a =>
    show Except.ok a = .error e ↔ _
    simp

end DecisionFlow
