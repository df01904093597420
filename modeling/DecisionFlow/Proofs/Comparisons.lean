import DecisionFlow.Proofs.Choices
import DecisionFlow.Proofs.Equality
import DecisionFlow.Proofs.WellFormed

set_option autoImplicit false

/-! # Comparisons

A comparison of two texts without marks is cut at its own mark, so that it has a value in every
context, the outcome for the values of its two sides. The outcome does not depend on the order of
the sides when the comparison is turned round with them. Two sides that are numbers are ordered as
doubles are and equal when they are close, which an infinity is not to itself; of all other sides
none is above or below another, and they are equal when their structure is. -/

namespace DecisionFlow

namespace Expression

open Text

/-! ## Outcomes -/

/-- The comparison that says the same of two sides in the other order. -/
def Comparison.converse : Comparison → Comparison
  | .atLeast => .atMost
  | .atMost => .atLeast
  | .above => .below
  | .below => .above
  | .equals => .equals

section

variable {v w : Value}

/-- A number is close to itself when it is finite. -/
theorem abs_sub_self_lt_closeness {x : Float} :
    (x - x).abs < closeness ↔ x.isFinite = true := by
  cases hx : x.isFinite with
  | true =>
    rw [Number.sub_self_of_isFinite hx]
    exact iff_of_true (by decide +kernel) rfl
  | false =>
    rw [Number.sub_self_of_not_isFinite hx]
    exact iff_of_false (by decide +kernel) Bool.false_ne_true

theorem Comparison.ofNumbers_converse (op : Comparison) (x y : Float) :
    op.converse.ofNumbers y x = op.ofNumbers x y := by
  cases op with
  | equals => simp only [converse, ofNumbers, Number.abs_sub_comm y x]
  | _ => rfl

theorem Comparison.apply_of_numbers {x y : Float} (hv : v.toNumber? = some x)
    (hw : w.toNumber? = some y) (op : Comparison) : op.apply v w = op.ofNumbers x y := by
  rw [apply, hv, hw]

theorem Comparison.apply_of_not_numbers (h : ¬(v.toNumber?.isSome ∧ w.toNumber?.isSome))
    (op : Comparison) : op.apply v w = (op == .equals && v.equal w) := by
  rw [apply]
  split
  · next x y hx hy => exact absurd ⟨Option.isSome_of_eq_some hx, Option.isSome_of_eq_some hy⟩ h
  · rfl

/-- Turned round together with its sides, a comparison has the same outcome. -/
theorem Comparison.apply_converse (hv : v.WellFormed) (hw : w.WellFormed) (op : Comparison) :
    op.converse.apply w v = op.apply v w := by
  by_cases h : v.toNumber?.isSome ∧ w.toNumber?.isSome
  · obtain ⟨x, hx⟩ := Option.isSome_iff_exists.1 h.1
    obtain ⟨y, hy⟩ := Option.isSome_iff_exists.1 h.2
    rw [apply_of_numbers hy hx, apply_of_numbers hx hy, ofNumbers_converse]
  · have hequals : (op.converse == .equals) = (op == .equals) := by cases op <;> rfl
    rw [apply_of_not_numbers (mt And.symm h), apply_of_not_numbers h, hequals,
      Value.equal_comm hw hv]

/-- What is below another value is at most that. -/
theorem Comparison.atMost_of_below (h : below.apply v w = true) : atMost.apply v w = true := by
  by_cases hnumbers : v.toNumber?.isSome ∧ w.toNumber?.isSome
  · obtain ⟨x, hx⟩ := Option.isSome_iff_exists.1 hnumbers.1
    obtain ⟨y, hy⟩ := Option.isSome_iff_exists.1 hnumbers.2
    rw [apply_of_numbers hx hy] at h ⊢
    simp only [ofNumbers, decide_eq_true_eq] at h ⊢
    exact Number.le_of_lt h
  · rw [apply_of_not_numbers hnumbers] at h
    exact nomatch h

/-- A value equals itself unless it counts for a number that is not finite or a double that is no
    number stands in it. -/
theorem Comparison.equals_self_iff (hv : v.WellFormed) : equals.apply v v = true ↔
    ¬((∃ x, v.toNumber? = some x ∧ x.isFinite = false) ∨ v.HasNaN) := by
  cases hnumber : v.toNumber? with
  | some x =>
    have hnan : x.isFinite = true → ¬v.HasNaN := by
      intro hfinite hnan
      cases hnan with
      | @num y hy =>
        obtain rfl : y = x := Option.some.inj hnumber
        rw [Number.isNaN_of_isFinite hfinite] at hy
        exact nomatch hy
      | _ => exact nomatch hnumber
    rw [apply_of_numbers hnumber hnumber, ofNumbers, decide_eq_true_eq, abs_sub_self_lt_closeness]
    simp only [Option.some.injEq, exists_eq_left', not_or, Bool.not_eq_false]
    exact ⟨fun hfinite => ⟨hfinite, hnan hfinite⟩, And.left⟩
  | none =>
    have hnumbers : ¬(v.toNumber?.isSome ∧ v.toNumber?.isSome) := by simp [hnumber]
    rw [apply_of_not_numbers hnumbers, beq_self_eq_true, Bool.true_and, Value.equal_self_iff hv]
    simp

end

/-! ## The text of a comparison -/

/-- The marks of operators, choices and comparisons. -/
def marks : List Char :=
  "*+-/?:<>=".toList

/-- A text without marks can stand on a side of a comparison. -/
def IsSide (cs : List Char) : Prop :=
  ∀ c ∈ marks, c ∉ cs

instance (cs : List Char) : Decidable (IsSide cs) :=
  decidable_of_iff (marks.all fun c => c ∉ cs) (by simp [IsSide])

/-- The text of a comparison. -/
def Comparison.text (op : Comparison) (left right : String) : String :=
  left ++ String.ofList op.mark ++ right

section

variable {cs left right : List Char} {context : Value} {op : Comparison}

theorem IsSide.of_subset {part : List Char} (h : IsSide cs) (hpart : part ⊆ cs) : IsSide part :=
  fun c hc hmem => h c hc (hpart hmem)

/-- The comparison that is taken from a list of comparisons is the first that cuts the text. -/
theorem firstComparison_append {before after : List Comparison}
    (hbefore : ∀ other ∈ before, cut other.mark cs = none)
    (hcut : cut op.mark cs = some (left, right)) :
    firstComparison cs (before ++ op :: after) = some (.comparison op left right) := by
  induction before with
  | nil => rw [List.nil_append, firstComparison, hcut]
  | cons other before ih =>
    rw [List.forall_mem_cons] at hbefore
    rw [List.cons_append, firstComparison, hbefore.1]
    exact ih hbefore.2

/-- Every comparison that is looked for before another one has a character in its mark that the
    other one does not have. -/
theorem Comparison.exists_all_eq (op : Comparison) : ∃ before after, all = before ++ op :: after ∧
    ∀ other ∈ before, ∃ c ∈ other.mark, c ∈ marks ∧ c ∉ op.mark := by
  have htold {before : List Comparison}
      (h : before.all fun other => other.mark.any fun c => c ∈ marks ∧ c ∉ op.mark) :
      ∀ other ∈ before, ∃ c ∈ other.mark, c ∈ marks ∧ c ∉ op.mark := by
    simpa only [List.all_eq_true, List.any_eq_true, decide_eq_true_eq] using h
  cases op with
  | atLeast => exact ⟨[], _, rfl, by simp⟩
  | atMost => exact ⟨[.atLeast], _, rfl, htold (by decide +kernel)⟩
  | above => exact ⟨[.atLeast, .atMost], _, rfl, htold (by decide +kernel)⟩
  | below => exact ⟨[.atLeast, .atMost, .above], _, rfl, htold (by decide +kernel)⟩
  | equals => exact ⟨[.atLeast, .atMost, .above, .below], _, rfl, htold (by decide +kernel)⟩

theorem Comparison.isBlank_mark {op : Comparison} {c : Char} (h : c ∈ op.mark) :
    isBlank c = false := by
  have hall : op.mark.all fun c => !isBlank c := by cases op <;> decide +kernel
  simpa using List.all_eq_true.1 hall c h

theorem not_mem_of_isSide {c : Char} {mark : List Char} (hleft : IsSide left)
    (hright : IsSide right) (hc : c ∈ marks) (hmark : c ∉ mark) : c ∉ left ++ mark ++ right := by
  simp [hleft c hc, hright c hc, hmark]

/-- A comparison of two sides is told by its own mark, and cut there. -/
theorem form_of_isSide (hleft : IsSide left) (hright : IsSide right) (op : Comparison) :
    form (left ++ op.mark ++ right) = .plain (.comparison op left right) := by
  have hquestion : '?' ∉ left ++ op.mark ++ right :=
    not_mem_of_isSide hleft hright (by decide +kernel) (by cases op <;> decide +kernel)
  have hoperators : firstArithmetic (left ++ op.mark ++ right) Arithmetic.all = none := by
    refine firstArithmetic_eq_none_iff.2 fun operator _ => ?_
    refine cut_eq_none_of_not_mem (List.mem_singleton_self _) (not_mem_of_isSide hleft hright ?_ ?_)
    · cases operator <;> decide +kernel
    · cases operator <;> cases op <;> decide +kernel
  have hcut : cut op.mark (left ++ op.mark ++ right) = some (left, right) := by
    cases op <;> exact cut_append_append (hleft _ (by decide +kernel)) right
  obtain ⟨before, after, hall, hbefore⟩ := op.exists_all_eq
  have hcomparison : firstComparison (left ++ op.mark ++ right) Comparison.all =
      some (.comparison op left right) := by
    rw [hall]
    refine firstComparison_append (fun other hother => ?_) hcut
    obtain ⟨c, hc, hmarks, hmark⟩ := hbefore other hother
    exact cut_eq_none_of_not_mem hc (not_mem_of_isSide hleft hright hmarks hmark)
  rw [form_of_not_mem hquestion, plainForm, hoperators, hcomparison]

theorem trim_comparison (left right : List Char) (op : Comparison) :
    trim (left ++ op.mark ++ right) =
      left.dropWhile isBlank ++ op.mark ++ right.rdropWhile isBlank := by
  refine trimBy_append_append ?_ (fun c hc => Comparison.isBlank_mark (List.mem_of_mem_head? hc))
    (fun c hc => Comparison.isBlank_mark (List.mem_of_mem_getLast? hc)) left right
  cases op <;> decide +kernel

end

/-- The value of a comparison is the outcome for the values of its sides. -/
theorem evaluateText_comparison {left right : String} (hleft : IsSide left.toList)
    (hright : IsSide right.toList) (op : Comparison) (context : Value) :
    evaluateText (op.text left right) context =
      .ok (.bool (op.apply (operand left.toList context) (operand right.toList context))) := by
  have htext : (op.text left right).toList = left.toList ++ op.mark ++ right.toList := by
    simp [Comparison.text]
  have hleft' := hleft.of_subset (List.dropWhile_suffix isBlank).subset
  have hright' := hright.of_subset (List.rdropWhile_prefix isBlank _).subset
  have hvalue : operand (left.toList.dropWhile isBlank) context = operand left.toList context :=
    congrArg (trimmedOperand · context) (trimBy_dropWhile left.toList)
  have hvalue' : operand (right.toList.rdropWhile isBlank) context = operand right.toList context :=
    congrArg (trimmedOperand · context) (trimBy_rdropWhile right.toList)
  refine mapError_eq_ok_iff.2 ?_
  rw [evaluate, htext, trim_comparison, evaluateTrimmed, form_of_isSide hleft' hright', ← hvalue,
    ← hvalue']
  rfl

/-! ## The laws -/

/-- Comparisons of texts without marks, in any context with distinct keys. They always have a value,
    and it is a truth value. A comparison is the converse one of its sides in the other order. What
    is below is at most. A comparison of order does not hold unless both sides count for numbers,
    and those are compared as doubles. And a side equals itself unless it counts for a number that
    is not finite, or is a list or an object with a double in it that is no number: a number equals
    itself exactly when it is finite, while a list does also with an infinity in it. -/
theorem comparison_laws {a b : String} (ha : IsSide a.toList) (hb : IsSide b.toList)
    {context : Value} (hcontext : context.WellFormed) :
    (∀ op : Comparison, ∃ outcome, evaluateText (op.text a b) context = .ok (.bool outcome)) ∧
    (∀ op : Comparison,
      evaluateText (op.converse.text b a) context = evaluateText (op.text a b) context) ∧
    (evaluateText (Comparison.below.text a b) context = .ok (.bool true) →
      evaluateText (Comparison.atMost.text a b) context = .ok (.bool true)) ∧
    (∀ op : Comparison, op ≠ .equals →
      ¬((operand a.toList context).toNumber?.isSome ∧
        (operand b.toList context).toNumber?.isSome) →
      evaluateText (op.text a b) context = .ok (.bool false)) ∧
    (evaluateText (Comparison.equals.text a a) context = .ok (.bool true) ↔
      ¬((∃ x, (operand a.toList context).toNumber? = some x ∧ x.isFinite = false) ∨
        (operand a.toList context).HasNaN)) ∧
    (∀ x, operand a.toList context = .num x →
      (evaluateText (Comparison.equals.text a a) context = .ok (.bool true) ↔
        x.isFinite = true)) ∧
    (∀ items, operand a.toList context = .list items → (∀ v ∈ items, ¬v.HasNaN) →
      evaluateText (Comparison.equals.text a a) context = .ok (.bool true)) ∧
    ∀ (op : Comparison) x y, (operand a.toList context).toNumber? = some x →
      (operand b.toList context).toNumber? = some y →
      evaluateText (op.text a b) context = .ok (.bool (op.ofNumbers x y)) := by
  have hvalue := fun op => evaluateText_comparison ha hb op context
  have hconverse := fun op => evaluateText_comparison hb ha op context
  have hself := evaluateText_comparison ha ha .equals context
  -- From here on it does not matter where the values of the two sides come from.
  generalize a.toList = left at hvalue hconverse hself ⊢
  generalize b.toList = right at hvalue hconverse ⊢
  have hleft := wellFormed_operand hcontext left
  have hright := wellFormed_operand hcontext right
  generalize operand left context = v at hvalue hconverse hself hleft ⊢
  generalize operand right context = w at hvalue hconverse hright ⊢
  simp only [hvalue, hconverse, hself, Except.ok.injEq, Value.bool.injEq]
  refine ⟨fun op => ⟨_, rfl⟩, Comparison.apply_converse hleft hright, Comparison.atMost_of_below,
    fun op hop hnumbers => ?_, Comparison.equals_self_iff hleft, ?_, ?_,
    fun op x y hx hy => Comparison.apply_of_numbers hx hy op⟩
  · rw [Comparison.apply_of_not_numbers hnumbers, beq_false_of_ne hop, Bool.false_and]
  · rintro x rfl
    have hnumber : (Value.num x).toNumber? = some x := rfl
    rw [Comparison.apply_of_numbers hnumber hnumber]
    simp only [Comparison.ofNumbers, decide_eq_true_eq, abs_sub_self_lt_closeness]
  · rintro items rfl hnan
    rw [Comparison.equals_self_iff hleft]
    rintro (⟨x, hx, -⟩ | hlist)
    · exact nomatch hx
    · obtain ⟨v, hv, hvnan⟩ := Value.hasNaN_list_iff.1 hlist
      exact hnan v hv hvnan

/-- An infinity in a list equals itself, and alone it does not. A list is not below a number. -/
theorem comparison_laws_infinity :
    let context : Value := .obj [("limit", .num (1.0 / 0.0)), ("limits", .list [.num (1.0 / 0.0)])]
    IsSide "limits".toList ∧ IsSide " limit".toList ∧ context.WellFormed ∧
      evaluateText "limits==limits" context = .ok (.bool true) ∧
      evaluateText " limit== limit" context ≠ .ok (.bool true) ∧
      evaluateText "limits< limit" context = .ok (.bool false) ∧
      evaluateText " limit>limits" context = .ok (.bool false) := by
  intro context
  have hlist : IsSide "limits".toList := by decide +kernel
  have hnumber : IsSide " limit".toList := by decide +kernel
  have hcontext : context.WellFormed := by
    rw [Value.wellFormed_obj_iff]
    refine ⟨by decide +kernel, ?_⟩
    simp [Value.WellFormed, Value.WellFormedItems]
  obtain ⟨-, hconverse, -, horder, -, -, hequal, -⟩ := comparison_laws hlist hnumber hcontext
  obtain ⟨-, -, -, -, -, hself, -⟩ := comparison_laws hnumber hlist hcontext
  have hitems : ∀ v ∈ [Value.num (1.0 / 0.0)], ¬v.HasNaN := by
    simp only [List.mem_singleton, forall_eq, Value.hasNaN_num_iff]
    decide +kernel
  have hequals : evaluateText "limits==limits" context = .ok (.bool true) :=
    hequal [.num (1.0 / 0.0)] (by rfl) hitems
  have halone : evaluateText " limit== limit" context ≠ .ok (.bool true) := fun h =>
    absurd ((hself (1.0 / 0.0) (by rfl)).1 h) (by decide +kernel)
  have hbelow : evaluateText "limits< limit" context = .ok (.bool false) :=
    horder .below (by decide) (by decide +kernel)
  have habove : evaluateText " limit>limits" context = .ok (.bool false) :=
    (hconverse .below).trans hbelow
  exact ⟨hlist, hnumber, hcontext, hequals, halone, hbelow, habove⟩

end Expression

end DecisionFlow
