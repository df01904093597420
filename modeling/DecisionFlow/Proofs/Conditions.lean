import DecisionFlow.Expression.Datum
import DecisionFlow.Proofs.Literals
import DecisionFlow.Proofs.Results

set_option autoImplicit false

/-! # Expressions as conditions

An expression has a value unless it is oversized, and as a condition it means what its value means.
One mark of an operator anywhere in a text, be it in a quotation, in a name or in a comparison,
makes the whole of it an operation. The value of an operation is a number or the text itself, which
is not empty, so that an operation always holds as a condition. -/

namespace DecisionFlow

namespace Text

/-! ## Trimming and cutting -/

theorem mem_dropWhile_iff {p : Char → Bool} {c : Char} (hc : p c = false) {cs : List Char} :
    c ∈ cs.dropWhile p ↔ c ∈ cs := by
  induction cs with
  | nil => simp
  | cons d cs ih =>
    by_cases hd : p d = true
    · have hne : c ≠ d := by
        rintro rfl
        rw [hd] at hc
        exact nomatch hc
      simp [hd, hne, ih]
    · simp [hd]

/-- Trimming takes away no character but those of the class. -/
theorem mem_trimBy_iff {p : Char → Bool} {c : Char} (hc : p c = false) {cs : List Char} :
    c ∈ trimBy p cs ↔ c ∈ cs := by
  rw [trimBy, List.mem_reverse, mem_dropWhile_iff hc, List.mem_reverse, mem_dropWhile_iff hc]

theorem isInfix_trim (cs : List Char) : trim cs <:+: cs :=
  (isPrefix_trimBy isBlank cs).isInfix.trans (List.dropWhile_suffix isBlank).isInfix

theorem cut_eq_none_of_not_infix {mark cs : List Char} (h : ¬mark <:+: cs) :
    cut mark cs = none := by
  cases hcut : cut mark cs with
  | none => rfl
  | some parts => exact absurd ⟨parts.1, parts.2, (eq_append_of_cut hcut).symm⟩ h

theorem cutLast_eq_none_of_not_mem {c : Char} {cs : List Char} (h : c ∉ cs) :
    cutLast c cs = none := by
  cases hcut : cutLast c cs with
  | none => rfl
  | some parts => exact absurd (by simp [eq_append_of_cutLast hcut]) h

/-- A text is cut at a mark whose first character does not occur before it. -/
theorem cut_append_append {c : Char} {rest before : List Char} (h : c ∉ before)
    (after : List Char) :
    cut (c :: rest) (before ++ c :: rest ++ after) = some (before, after) := by
  induction before with
  | nil => simp [cut]
  | cons d before ih =>
    rw [List.mem_cons, not_or] at h
    have hmark : (c :: rest).isPrefixOf (d :: (before ++ c :: rest ++ after)) = false := by
      simp [List.isPrefixOf, h.1]
    rw [List.cons_append, List.cons_append, cut, hmark, ih h.2]
    rfl

/-- A text is cut where a character occurs first. -/
theorem cut_append {c : Char} {before : List Char} (h : c ∉ before) (after : List Char) :
    cut [c] (before ++ c :: after) = some (before, after) := by
  have hcut : cut (c :: []) (before ++ c :: [] ++ after) = some (before, after) :=
    cut_append_append h after
  rwa [List.append_assoc] at hcut

end Text

namespace Expression

open Text

/-! ## Operations -/

theorem Arithmetic.isBlank_mark (op : Arithmetic) : isBlank op.mark = false := by
  cases op <;> decide

theorem hasArithmetic_eq_true_iff {cs : List Char} :
    hasArithmetic cs = true ↔ ∃ op : Arithmetic, op.mark ∈ cs := by
  simp only [hasArithmetic, List.any_eq_true, beq_iff_eq]
  constructor
  · rintro ⟨c, hc, op, -, rfl⟩
    exact ⟨op, hc⟩
  · rintro ⟨op, hop⟩
    exact ⟨op.mark, hop, op, op.mem_all, rfl⟩

theorem hasArithmetic_eq_false_iff {cs : List Char} :
    hasArithmetic cs = false ↔ ∀ op : Arithmetic, op.mark ∉ cs := by
  rw [← Bool.not_eq_true, hasArithmetic_eq_true_iff, not_exists]

/-- A text is an operation: `op` is the first operator whose mark occurs in it, and `left` and
    `right` are what stands before and after the first occurrence of that mark. -/
structure IsOperation (cs : List Char) (op : Arithmetic) (left right : List Char) : Prop where
  first : Arithmetic.all.find? (fun op => op.mark ∈ cs) = some op
  parts : cs = left ++ op.mark :: right
  not_mem_left : op.mark ∉ left

/-- One mark anywhere in a text makes the text an operation. -/
theorem IsOperation.exists_of_mem {cs : List Char} {op : Arithmetic} (h : op.mark ∈ cs) :
    ∃ first left right, IsOperation cs first left right := by
  have hsome : (Arithmetic.all.find? fun op => op.mark ∈ cs).isSome = true :=
    List.find?_isSome.2 ⟨op, op.mem_all, by simpa using h⟩
  obtain ⟨first, hfirst⟩ := Option.isSome_iff_exists.1 hsome
  have hmem : first.mark ∈ cs := by simpa using List.find?_some hfirst
  obtain ⟨left, right, hparts, hleft⟩ := List.eq_append_cons_of_mem hmem
  exact ⟨first, left, right, hfirst, hparts, hleft⟩

/-- The operator that is taken from a list of operators, and the place at which the text is cut. -/
theorem firstArithmetic_eq_some {cs left right : List Char} {op : Arithmetic}
    {ops : List Arithmetic} (hfirst : ops.find? (fun op => op.mark ∈ cs) = some op)
    (hparts : cs = left ++ op.mark :: right) (hleft : op.mark ∉ left) :
    firstArithmetic cs ops = some (.arithmetic op left right) := by
  induction ops with
  | nil => exact nomatch hfirst
  | cons next ops ih =>
    rw [firstArithmetic]
    by_cases hmem : next.mark ∈ cs
    · have hnext : next = op := by simpa [hmem] using hfirst
      subst hnext
      have hcut : cut [next.mark] cs = some (left, right) := by
        rw [hparts]
        exact cut_append hleft right
      rw [hcut]
    · have hcut : cut [next.mark] cs = none :=
        cut_eq_none_of_not_mem (List.mem_singleton_self _) hmem
      rw [hcut]
      exact ih (by simpa [hmem] using hfirst)

section

variable {cs left right : List Char} {op : Arithmetic} {context : Value}

theorem IsOperation.mark_mem (h : IsOperation cs op left right) : op.mark ∈ cs := by
  simp [h.parts]

theorem IsOperation.ne_nil (h : IsOperation cs op left right) : cs ≠ [] :=
  List.ne_nil_of_mem h.mark_mem

/-- An operation is told before any other form: a question mark, a comparison or a quotation in its
    text makes no difference. -/
theorem IsOperation.form_eq (h : IsOperation cs op left right) :
    form cs = .plain (.arithmetic op left right) := by
  have hmarks : hasArithmetic cs = true := hasArithmetic_eq_true_iff.2 ⟨op, h.mark_mem⟩
  rw [form, if_pos hmarks, plainForm, firstArithmetic_eq_some h.first h.parts h.not_mem_left]

theorem IsOperation.evaluateTrimmed_of_numbers (h : IsOperation cs op left right) {x y : Float}
    (hx : (operand left context).toNumber? = some x)
    (hy : (operand right context).toNumber? = some y) :
    evaluateTrimmed cs context = .ok (.num (op.apply x y)) := by
  simp only [evaluateTrimmed, h.form_eq, Plain.evaluate, hx, hy]

theorem IsOperation.evaluateTrimmed_of_not_numbers (h : IsOperation cs op left right)
    (hnumbers : ¬((operand left context).toNumber?.isSome ∧
      (operand right context).toNumber?.isSome)) :
    evaluateTrimmed cs context = .ok (.str (String.ofList cs)) := by
  simp only [evaluateTrimmed, h.form_eq, Plain.evaluate]
  split
  · rename_i hx hy
    exact absurd ⟨Option.isSome_of_eq_some hx, Option.isSome_of_eq_some hy⟩ hnumbers
  · rfl

/-- The value of an operation is a number, or a text that is not empty. -/
theorem IsOperation.exists_evaluateTrimmed (h : IsOperation cs op left right) (context : Value) :
    ∃ v, evaluateTrimmed cs context = .ok v ∧ v.truth = true := by
  by_cases hnumbers : (operand left context).toNumber?.isSome ∧
      (operand right context).toNumber?.isSome
  · obtain ⟨x, hx⟩ := Option.isSome_iff_exists.1 hnumbers.1
    obtain ⟨y, hy⟩ := Option.isSome_iff_exists.1 hnumbers.2
    exact ⟨_, h.evaluateTrimmed_of_numbers hx hy, rfl⟩
  · exact ⟨_, h.evaluateTrimmed_of_not_numbers hnumbers, by simpa [Value.truth] using h.ne_nil⟩

end

/-- A text with the mark of an operator in it is an operation, whatever else it looks like. It has
    a value in every context: the result of the operator where both of its operands count for
    numbers, and the text without surrounding blanks where one does not. As a condition it holds. -/
theorem operation_holds {text : String} (h : ∃ op : Arithmetic, op.mark ∈ text.toList)
    (context : Value) :
    ∃ op left right, IsOperation (trim text.toList) op left right ∧
      ((∃ z, evaluateText text context = .ok (.num z)) ∨
        evaluateText text context = .ok (.str (String.ofList (trim text.toList)))) ∧
      ((∃ z, evaluateText text context = .ok (.num z)) ↔
        (operand left context).toNumber?.isSome ∧ (operand right context).toNumber?.isSome) ∧
      (∀ x y, (operand left context).toNumber? = some x →
        (operand right context).toNumber? = some y →
          evaluateText text context = .ok (.num (op.apply x y))) ∧
      holds text context = true := by
  obtain ⟨mark, hmark⟩ := h
  rw [← mem_trimBy_iff mark.isBlank_mark] at hmark
  obtain ⟨op, left, right, hop⟩ := IsOperation.exists_of_mem hmark
  refine ⟨op, left, right, hop, ?_⟩
  have hne : trim text.toList ≠ [] := hop.ne_nil
  by_cases hnumbers : (operand left context).toNumber?.isSome ∧
      (operand right context).toNumber?.isSome
  · obtain ⟨x, hx⟩ := Option.isSome_iff_exists.1 hnumbers.1
    obtain ⟨y, hy⟩ := Option.isSome_iff_exists.1 hnumbers.2
    have hvalue : evaluate text context = .ok (.num (op.apply x y)) :=
      hop.evaluateTrimmed_of_numbers hx hy
    have htext : evaluateText text context = .ok (.num (op.apply x y)) :=
      mapError_eq_ok_iff.2 hvalue
    refine ⟨.inl ⟨_, htext⟩, iff_of_true ⟨_, htext⟩ hnumbers, ?_, holds_eq_truth hne hvalue⟩
    intro x' y' hx' hy'
    exact mapError_eq_ok_iff.2 (hop.evaluateTrimmed_of_numbers hx' hy')
  · have hvalue : evaluate text context = .ok (.str (String.ofList (trim text.toList))) :=
      hop.evaluateTrimmed_of_not_numbers hnumbers
    have htext : evaluateText text context = .ok (.str (String.ofList (trim text.toList))) :=
      mapError_eq_ok_iff.2 hvalue
    refine ⟨.inr htext, iff_of_false ?_ hnumbers, ?_, ?_⟩
    · rintro ⟨z, hz⟩
      rw [htext] at hz
      exact nomatch hz
    · intro x y hx hy
      exact absurd ⟨Option.isSome_of_eq_some hx, Option.isSome_of_eq_some hy⟩ hnumbers
    · rw [holds_eq_truth hne hvalue]
      simpa [Value.truth] using hne

/-- A comparison with a negative number is an operation, and holds where the comparison is false. -/
theorem comparison_with_negative_holds :
    (∃ op : Arithmetic, op.mark ∈ "x > -5".toList) ∧
      holds "x > -5" (.obj [("x", .num (-10.0))]) = true := by
  have hmark : ∃ op : Arithmetic, op.mark ∈ "x > -5".toList := ⟨.minus, by decide +kernel⟩
  obtain ⟨_, _, _, -, -, -, -, hholds⟩ :=
    operation_holds hmark (.obj [("x", .num (-10.0))])
  exact ⟨hmark, hholds⟩

/-! ## Faults -/

/-- An expression is a fault exactly when it is oversized, in every context, and the fault is then
    one of the expression. As a condition an oversized expression does not hold; any other holds
    when it is blank, and is as true as its value when it is not. -/
theorem fault_iff_isOversized (text : String) (context : Value) :
    ((∃ f, evaluateText text context = .error f) ↔ IsOversized (trim text.toList)) ∧
      (∀ f, evaluateText text context = .error f →
        ∃ fault : Number.Fault, f = .badExpression text fault.message) ∧
      (IsOversized (trim text.toList) → holds text context = false) ∧
      (¬IsOversized (trim text.toList) → ∃ v, evaluateText text context = .ok v ∧
        holds text context = if trim text.toList = [] then true else v.truth) := by
  refine ⟨?_, ?_, ?_, ?_⟩
  · rw [← evaluate_eq_error_iff]
    constructor
    · rintro ⟨f, hf⟩
      obtain ⟨fault, hfault, -⟩ := mapError_eq_error_iff.1 hf
      exact ⟨fault, hfault⟩
    · rintro ⟨fault, hfault⟩
      exact ⟨_, mapError_eq_error_iff.2 ⟨fault, hfault, rfl⟩⟩
  · intro f hf
    obtain ⟨fault, -, rfl⟩ := mapError_eq_error_iff.1 hf
    exact ⟨fault, rfl⟩
  · intro hoversized
    obtain ⟨fault, hfault⟩ := evaluate_eq_error_iff.2 hoversized
    exact holds_of_fault hoversized.ne_nil hfault
  · intro hfits
    cases hvalue : evaluate text context with
    | error fault => exact absurd (evaluate_eq_error_iff.1 ⟨fault, hvalue⟩) hfits
    | ok v =>
      refine ⟨v, mapError_eq_ok_iff.2 hvalue, ?_⟩
      split
      · rename_i hblank
        exact holds_of_blank hblank context
      · rename_i hne
        exact holds_eq_truth hne hvalue

end Expression

end DecisionFlow
