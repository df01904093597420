import DecisionFlow.Proofs.Conditions

set_option autoImplicit false

/-! # Texts without operators

A text without the mark of an operator, of a comparison or of a choice is read in one of two orders,
alone as an expression or as an operand of one. Alone, a point makes it a path before anything else,
and an integer is read before a decimal; as an operand, numbers, truth values and quotations come
before the point. Without a point the two orders come to the same value, but for the literals that
are too large for an integer; with a point they differ on decimals and on quotations alone. -/

namespace DecisionFlow

namespace Text

/-! ## Quotations -/

/-- A text in double quotes is a quotation of what stands between them. -/
theorem unquote?_eq_some_iff {cs inner : List Char} :
    unquote? cs = some inner ↔ cs = '"' :: inner ++ ['"'] := by
  refine ⟨eq_of_unquote?, ?_⟩
  rintro rfl
  cases inner with
  | nil => rfl
  | cons c inner =>
    have hlast : (c :: inner ++ ['"']).getLast? = some '"' := List.getLast?_concat
    rw [List.cons_append] at hlast
    simp only [List.cons_append, unquote?, hlast, if_true]
    rw [← List.cons_append, List.dropLast_concat]

/-- Quotes are not blank, so that nothing around them is trimmed. -/
theorem trim_quotation (inner : List Char) :
    trim ('"' :: inner ++ ['"']) = '"' :: inner ++ ['"'] := by
  refine trimBy_eq_self ?_ ?_
  · simp only [List.cons_append, List.head?_cons, Option.mem_def, Option.some.injEq]
    rintro c rfl
    decide +kernel
  · rw [List.getLast?_concat]
    simp only [Option.mem_def, Option.some.injEq]
    rintro c rfl
    decide +kernel

/-! ## Truth values -/

/-- A text with a character that no word for a truth value has is no such word. -/
theorem readBool?_eq_none {cs : List Char} {c : Char} (hc : c ∈ trim cs)
    (htrue : c.toLower ∉ "true".toList) (hfalse : c.toLower ∉ "false".toList) :
    readBool? cs = none := by
  have hword : c.toLower ∈ (trim cs).map Char.toLower := List.mem_map_of_mem hc
  rw [readBool?, if_neg, if_neg]
  · intro h
    exact hfalse (h ▸ hword)
  · intro h
    exact htrue (h ▸ hword)

end Text

namespace Number

open Text

/-! ## Literals -/

/-- A quotation spells no number. -/
theorem read?_quotation (inner : List Char) : read? ('"' :: inner ++ ['"']) = none := by
  rw [read?, trim_quotation]
  rfl

/-- Digits spell the same number as a decimal as they do as an integer. -/
theorem read?_of_isDigit {cs : List Char} (htrim : trim cs = cs) (hne : cs ≠ [])
    (h : ∀ c ∈ cs, isDigit c = true) : read? cs = some (ofInt (natOfDigits (digitsOf cs))) := by
  have hdigits : digitsOf cs ≠ [] := by
    rw [← List.length_pos_iff, length_digitsOf h, List.length_pos_iff]
    exact hne
  have hliteral : Literal.read? cs = some ⟨false, digitsOf cs, [], 0⟩ := by
    simp [Literal.read?, sign_of_isDigit h, mantissa, spanDigits_of_isDigit h, exponent?, hdigits]
  rw [read?, htrim, hliteral]
  simp only [Option.map_some, Literal.toFloat, List.append_nil]
  rfl

theorem ofInt?_of_ofWholeDigits {digits : List Nat} {x : Float}
    (h : ofWholeDigits false digits = .ok x) : ofInt? (natOfDigits digits) = some x := by
  unfold ofWholeDigits at h
  split at h
  · exact nomatch h
  · dsimp only [Bool.false_eq_true, if_false] at h
    split at h
    · rename_i y hy
      rw [← Except.ok.inj h]
      exact hy
    · exact nomatch h

/-- An integer without a sign that has a double is the decimal with the same digits. -/
theorem read?_of_readWhole? {cs : List Char} {x : Float} (htrim : trim cs = cs) (hplus : '+' ∉ cs)
    (hminus : '-' ∉ cs) (h : readWhole? cs = some (.ok x)) : read? cs = some x := by
  rw [readWhole?, htrim, Option.map_eq_some_iff] at h
  obtain ⟨literal, hliteral, hvalue⟩ := h
  obtain ⟨hne, hdigits⟩ := isDigit_of_wholeDigits? hliteral hplus hminus
  rw [wholeDigits?_of_isDigit hne hdigits] at hliteral
  obtain rfl := Option.some.inj hliteral
  rw [read?_of_isDigit htrim hne hdigits, ← ofInt?_eq_some (ofInt?_of_ofWholeDigits hvalue)]

end Number

namespace Expression

open Text

/-! ## Atoms -/

/-- A text has no mark of an operator in it, none of a comparison, and not both of a choice. -/
structure IsAtom (cs : List Char) : Prop where
  operator : ∀ op : Arithmetic, op.mark ∉ cs
  comparison : ∀ op : Comparison, ¬op.mark <:+: cs
  choice : ¬('?' ∈ cs ∧ ':' ∈ cs)

section

variable {cs : List Char} {context : Value}

theorem IsAtom.of_infix {part : List Char} (h : IsAtom cs) (hpart : part <:+: cs) :
    IsAtom part where
  operator op hop := h.operator op (hpart.subset hop)
  comparison op hop := h.comparison op (hop.trans hpart)
  choice := fun ⟨hquestion, hcolon⟩ => h.choice ⟨hpart.subset hquestion, hpart.subset hcolon⟩

theorem IsAtom.trim (h : IsAtom cs) : IsAtom (trim cs) :=
  h.of_infix (isInfix_trim cs)

/-- A choice needs both of its marks. -/
theorem choiceParts?_eq_none (h : ¬('?' ∈ cs ∧ ':' ∈ cs)) : choiceParts? cs = none := by
  by_cases hquestion : '?' ∈ cs
  · have hcolon : ':' ∉ cs := fun hcolon => h ⟨hquestion, hcolon⟩
    rw [choiceParts?]
    cases hcut : cut ['?'] cs with
    | none => rfl
    | some parts =>
      obtain ⟨condition, rest⟩ := parts
      have hrest : ':' ∉ rest := by
        intro hrest
        exact hcolon (by simp [eq_append_of_cut hcut, hrest])
      simp [cutLast_eq_none_of_not_mem hrest, cutLast_eq_none_of_not_mem hcolon]
  · rw [choiceParts?, cut_eq_none_of_not_mem (List.mem_singleton_self _) hquestion]

/-- Without marks, a text has the form of an atom. -/
theorem IsAtom.form_eq (h : IsAtom cs) : form cs = .plain (atomForm cs) := by
  have hoperators : firstArithmetic cs Arithmetic.all = none :=
    firstArithmetic_eq_none_iff.2 fun op _ =>
      cut_eq_none_of_not_mem (List.mem_singleton_self _) (h.operator op)
  have hcomparisons : firstComparison cs Comparison.all = none :=
    firstComparison_eq_none_iff.2 fun op _ => cut_eq_none_of_not_infix (h.comparison op)
  rw [form, hasArithmetic_eq_false_iff.2 h.operator, choiceParts?_eq_none h.choice, plainForm,
    hoperators, hcomparisons]
  rfl

/-! ## Operands -/

/-- As an operand, a text is a number before it is anything else. -/
theorem operand_of_read? {x : Float} (h : Number.read? cs = some x) :
    operand cs context = .num x := by
  have htrim : Number.read? (trim cs) = some x := by
    rw [Number.read?, trim_trim]
    exact h
  rw [operand, trimmedOperand, htrim]

/-- Quotes are part of no number and of no truth value, so that a quotation is never taken for
    one. -/
theorem operand_of_quotation {inner : List Char} (h : trim cs = '"' :: inner ++ ['"']) :
    operand cs context = .str (String.ofList inner) := by
  have hbool : readBool? ('"' :: inner ++ ['"']) = none :=
    readBool?_eq_none (c := '"') (by rw [trim_quotation]; simp) (by decide +kernel)
      (by decide +kernel)
  rw [operand, h, trimmedOperand, Number.read?_quotation, hbool, unquote?_eq_some_iff.2 rfl]

/-- A text with a point that is neither a number nor a quotation is a path. -/
theorem operand_of_point (hpoint : '.' ∈ cs) (hread : Number.read? cs = none)
    (hquote : ∀ inner, trim cs ≠ '"' :: inner ++ ['"']) :
    operand cs context = context.atPath (String.ofList (trim cs)) := by
  have htrimmed : '.' ∈ trim cs := (mem_trimBy_iff (by decide +kernel)).2 hpoint
  have hnumber : Number.read? (trim cs) = none := by
    rw [Number.read?, trim_trim]
    exact hread
  have hbool : readBool? (trim cs) = none :=
    readBool?_eq_none (c := '.') (by rwa [trim_trim]) (by decide +kernel) (by decide +kernel)
  have hunquote : unquote? (trim cs) = none :=
    Option.eq_none_iff_forall_ne_some.2 fun inner hinner =>
      hquote inner (unquote?_eq_some_iff.1 hinner)
  rw [operand, trimmedOperand, hnumber, hbool, hunquote]
  exact if_pos htrimmed

/-! ## Alone -/

theorem evaluateTrimmed_of_point (h : IsAtom cs) (hpoint : '.' ∈ cs) :
    evaluateTrimmed cs context = .ok (context.atPath (String.ofList cs)) := by
  rw [evaluateTrimmed, h.form_eq, atomForm, if_pos hpoint]
  rfl

/-- Without a point the order of the alternatives makes no difference: no text is two of a
    quotation, a number and a truth value, and an integer is a number. -/
theorem evaluateTrimmed_of_not_point (h : IsAtom cs) (htrim : trim cs = cs) (hpoint : '.' ∉ cs)
    (context : Value) :
    (∃ fault, evaluateTrimmed cs context = .error fault) ∨
      evaluateTrimmed cs context = .ok (operand cs context) := by
  rw [evaluateTrimmed, h.form_eq, atomForm, if_neg hpoint]
  cases hquote : unquote? cs with
  | some inner =>
    have hquotation := (htrim.trans (unquote?_eq_some_iff.1 hquote))
    exact Or.inr (congrArg Except.ok (operand_of_quotation hquotation).symm)
  | none =>
    cases hwhole : Number.readWhole? cs with
    | some result =>
      cases result with
      | error fault => exact Or.inl ⟨fault, rfl⟩
      | ok x =>
        have hread := Number.read?_of_readWhole? htrim (h.operator .plus) (h.operator .minus) hwhole
        exact Or.inr (congrArg Except.ok (operand_of_read? hread).symm)
    | none =>
      refine Or.inr ?_
      rw [operand, htrim, trimmedOperand, hquote]
      cases Number.read? cs with
      | some x => rfl
      | none =>
        cases readBool? cs with
        | some b => rfl
        | none => exact congrArg Except.ok (if_neg hpoint).symm

end

/-- Alone and as an operand, a text without marks has the same value when there is no point in it,
    unless it is an oversized integer, which has no value alone. With a point it is a path when it
    stands alone, and the same path as an operand, unless it is a decimal, which is then a number,
    or a quotation, which is then the text between the quotes. -/
theorem evaluate_atom (text : String) (h : IsAtom text.toList) (context : Value) :
    ('.' ∉ text.toList →
      (IsOversized (trim text.toList) → ∃ fault : Number.Fault,
        evaluateText text context = .error (.badExpression text fault.message)) ∧
      (¬IsOversized (trim text.toList) →
        evaluateText text context = .ok (operand text.toList context))) ∧
    ('.' ∈ text.toList →
      evaluateText text context = .ok (context.atPath (String.ofList (trim text.toList))) ∧
      (∀ x, Number.read? text.toList = some x → operand text.toList context = .num x) ∧
      (∀ inner, trim text.toList = '"' :: inner ++ ['"'] →
        operand text.toList context = .str (String.ofList inner)) ∧
      (Number.read? text.toList = none → (∀ inner, trim text.toList ≠ '"' :: inner ++ ['"']) →
        operand text.toList context =
          context.atPath (String.ofList (trim text.toList)))) := by
  have hpoint : '.' ∈ trim text.toList ↔ '.' ∈ text.toList := mem_trimBy_iff (by decide +kernel)
  refine ⟨fun hnot => ⟨fun hoversized => ?_, fun hfits => ?_⟩, fun hmem => ⟨?_, ?_, ?_, ?_⟩⟩
  · obtain ⟨fault, hfault⟩ := evaluate_eq_error_iff.2 hoversized
    exact ⟨fault, mapError_eq_error_iff.2 ⟨fault, hfault, rfl⟩⟩
  · obtain hfault | hvalue := evaluateTrimmed_of_not_point h.trim
      (trim_trim text.toList) (mt hpoint.1 hnot) context
    · exact absurd (evaluate_eq_error_iff.1 hfault) hfits
    · rw [operand, trim_trim] at hvalue
      exact mapError_eq_ok_iff.2 hvalue
  · exact mapError_eq_ok_iff.2 (evaluateTrimmed_of_point h.trim (hpoint.2 hmem))
  · exact fun x => operand_of_read?
  · exact fun inner => operand_of_quotation
  · exact operand_of_point hmem

/-- A quotation with a point in it: a path that leads nowhere when it stands alone. -/
theorem evaluate_atom_version :
    IsAtom "\"v1.2\"".toList ∧ evaluateText "\"v1.2\"" .null = .ok .null ∧
      operand "\"v1.2\"".toList .null = .str "v1.2" := by
  have hatom : IsAtom "\"v1.2\"".toList :=
    ⟨fun op => by cases op <;> decide +kernel, fun op => by cases op <;> decide +kernel,
      by decide +kernel⟩
  obtain ⟨halone, -, hquotation, -⟩ :=
    (evaluate_atom "\"v1.2\"" hatom .null).2 (by decide +kernel)
  exact ⟨hatom, halone.trans rfl, hquotation "v1.2".toList (by decide +kernel)⟩

end Expression

end DecisionFlow
