import Mathlib.Data.List.DropRight
import DecisionFlow.Proofs.Conditions

set_option autoImplicit false

/-! # Choices

A choice is put together from a condition, a question mark, one branch, a colon and the other
branch, and it is taken apart at the first question mark and the last colon. The parts come back
when the condition has no question mark and the last branch no colon, but for the blanks at both
ends of the whole, which make no difference: a condition and an operand are trimmed again. -/

namespace DecisionFlow

namespace Text

/-! ## Trimming a text with marks in it -/

section

variable {p : Char → Bool} {c : Char}

/-- A character that is not of the class stops the trimming of the front. -/
theorem dropWhile_append_cons (hc : p c = false) (front back : List Char) :
    (front ++ c :: back).dropWhile p = front.dropWhile p ++ c :: back := by
  rw [List.dropWhile_append]
  split
  · rename_i hfront
    rw [List.isEmpty_iff.1 hfront, List.dropWhile_cons_of_neg (by simp [hc]), List.nil_append]
  · rfl

theorem rdropWhile_append_cons (hc : p c = false) (front back : List Char) :
    (front ++ c :: back).rdropWhile p = front ++ c :: back.rdropWhile p := by
  have hreverse : (front ++ c :: back).reverse = back.reverse ++ c :: front.reverse := by simp
  rw [List.rdropWhile, hreverse, dropWhile_append_cons hc, List.rdropWhile]
  simp

/-- Trimming the front beforehand makes no difference. -/
theorem trimBy_dropWhile (cs : List Char) : trimBy p (cs.dropWhile p) = trimBy p cs := by
  rw [trimBy, List.dropWhile_idempotent, trimBy]

/-- Characters of the class at the end are trimmed, whatever stands before them. -/
theorem trimBy_append {cs after : List Char} (h : ∀ c ∈ after, p c = true) :
    trimBy p (cs ++ after) = trimBy p cs := by
  have hreverse : ∀ c ∈ after.reverse, p c = true := fun c hc => h c (List.mem_reverse.1 hc)
  rw [trimBy, List.dropWhile_append]
  split
  · rename_i hfront
    have hafter : after.dropWhile p = [] := List.dropWhile_eq_nil_iff.2 h
    rw [trimBy, hafter, List.isEmpty_iff.1 hfront]
  · rw [List.reverse_append, List.dropWhile_append_of_pos hreverse, trimBy]

/-- Trimming the end beforehand makes no difference. -/
theorem trimBy_rdropWhile (cs : List Char) : trimBy p (cs.rdropWhile p) = trimBy p cs := by
  have hparts : trimBy p (cs.rdropWhile p ++ cs.rtakeWhile p) = trimBy p (cs.rdropWhile p) :=
    trimBy_append fun _ hc => List.mem_rtakeWhile_imp hc
  rw [List.rdropWhile_append_rtakeWhile] at hparts
  exact hparts.symm

/-- Blanks are trimmed on both sides of a middle that starts and ends with none. -/
theorem trimBy_append_append {middle : List Char} (hne : middle ≠ [])
    (hhead : ∀ c ∈ middle.head?, p c = false) (hlast : ∀ c ∈ middle.getLast?, p c = false)
    (front back : List Char) :
    trimBy p (front ++ middle ++ back) =
      front.dropWhile p ++ middle ++ back.rdropWhile p := by
  obtain ⟨c, rest, hcons⟩ := List.exists_cons_of_ne_nil hne
  obtain ⟨init, d, hconcat⟩ := (List.eq_nil_or_concat middle).resolve_left hne
  have hfront : (front ++ middle ++ back).dropWhile p = front.dropWhile p ++ middle ++ back := by
    have hc : p c = false := hhead c (by simp [hcons])
    simp only [hcons, List.append_assoc, List.cons_append, dropWhile_append_cons hc]
  have hback : (front.dropWhile p ++ middle ++ back).rdropWhile p =
      front.dropWhile p ++ middle ++ back.rdropWhile p := by
    have hd : p d = false := hlast d (by simp [hconcat])
    have := rdropWhile_append_cons hd (front.dropWhile p ++ init) back
    simpa [hconcat] using this
  show ((front ++ middle ++ back).dropWhile p).rdropWhile p = _
  rw [hfront, hback]

end

/-- A text is cut where a character occurs last. -/
theorem cutLast_append {c : Char} {after : List Char} (h : c ∉ after) (before : List Char) :
    cutLast c (before ++ c :: after) = some (before, after) := by
  induction before with
  | nil => simp [cutLast, cutLast_eq_none_of_not_mem h]
  | cons d before ih => rw [List.cons_append, cutLast, ih]

end Text

namespace Expression

open Text

/-! ## Conditions -/

section

variable {cs condition yes no : List Char} {context : Value}

/-- A text without a question mark makes no choice. -/
theorem form_of_not_mem (h : '?' ∉ cs) : form cs = .plain (plainForm cs) := by
  have hchoice : choiceParts? cs = none := by
    rw [choiceParts?, cut_eq_none_of_not_mem (List.mem_singleton_self _) h]
  rw [form, hchoice, ite_self]

/-- The condition of a choice is evaluated as any expression is, because it makes no choice
    itself. -/
theorem plainHolds_eq_holds {text : String} (h : '?' ∉ text.toList) :
    plainHolds text.toList context = holds text context := by
  have htrim : '?' ∉ trim text.toList := fun hmem => h ((isInfix_trim _).subset hmem)
  rw [plainHolds, holds, evaluate, evaluateTrimmed, form_of_not_mem htrim]

theorem plainHolds_congr {ds : List Char} (h : trim cs = trim ds) :
    plainHolds cs context = plainHolds ds context := by
  rw [plainHolds, plainHolds, h]

/-! ## Taking choices apart -/

/-- Three texts that make up a choice which is taken apart into them again. -/
structure IsChoice (condition yes no : List Char) : Prop where
  question : '?' ∉ condition
  colon : ':' ∉ no
  operator : ∀ op : Arithmetic, op.mark ∉ condition ∧ op.mark ∉ yes ∧ op.mark ∉ no

/-- The text of a choice. -/
def choiceText (condition yes no : List Char) : List Char :=
  condition ++ '?' :: (yes ++ ':' :: no)

theorem trim_choiceText (condition yes no : List Char) :
    trim (choiceText condition yes no) =
      choiceText (condition.dropWhile isBlank) yes (no.rdropWhile isBlank) := by
  have hsame : ∀ front back : List Char,
      choiceText front yes back = front ++ ('?' :: (yes ++ [':'])) ++ back := fun front back => by
    simp [choiceText]
  have hlast : ('?' :: (yes ++ [':'])).getLast? = some ':' := by
    rw [← List.cons_append, List.getLast?_concat]
  rw [hsame, hsame, trim]
  refine trimBy_append_append (List.cons_ne_nil _ _) ?_ ?_ condition no
  · rw [List.head?_cons]
    rintro _ ⟨⟩
    decide +kernel
  · rw [hlast]
    rintro _ ⟨⟩
    decide +kernel

theorem IsChoice.choiceParts?_eq (h : IsChoice condition yes no) :
    choiceParts? (choiceText condition yes no) = some (condition, yes, no) := by
  rw [choiceParts?, choiceText, cut_append h.question]
  simp only [cutLast_append h.colon]

theorem IsChoice.hasArithmetic_eq (h : IsChoice condition yes no) :
    hasArithmetic (choiceText condition yes no) = false := by
  refine hasArithmetic_eq_false_iff.2 fun op hop => ?_
  obtain ⟨hcondition, hyes, hno⟩ := h.operator op
  have hquestion : op.mark ≠ '?' := by cases op <;> decide
  have hcolon : op.mark ≠ ':' := by cases op <;> decide
  simp [choiceText, hcondition, hyes, hno, hquestion, hcolon] at hop

theorem IsChoice.form_eq (h : IsChoice condition yes no) :
    form (choiceText condition yes no) = .choice condition yes no := by
  rw [form, h.hasArithmetic_eq, h.choiceParts?_eq]
  rfl

/-- Without the blanks at its two ends a choice is still one. -/
theorem IsChoice.trim (h : IsChoice condition yes no) :
    IsChoice (condition.dropWhile isBlank) yes (no.rdropWhile isBlank) := by
  have hfront : condition.dropWhile isBlank <:+ condition := List.dropWhile_suffix isBlank
  have hback : no.rdropWhile isBlank <+: no := List.rdropWhile_prefix isBlank no
  refine ⟨fun hmem => h.question (hfront.subset hmem), fun hmem => h.colon (hback.subset hmem),
    fun op => ?_⟩
  obtain ⟨hcondition, hyes, hno⟩ := h.operator op
  exact ⟨fun hmem => hcondition (hfront.subset hmem), hyes, fun hmem => hno (hback.subset hmem)⟩

theorem IsChoice.evaluateTrimmed_eq (h : IsChoice condition yes no) :
    evaluateTrimmed (Text.trim (choiceText condition yes no)) context =
      .ok (operand (if plainHolds condition context then yes else no) context) := by
  have hcondition : plainHolds (condition.dropWhile isBlank) context =
      plainHolds condition context := plainHolds_congr (trimBy_dropWhile condition)
  have hno : operand (no.rdropWhile isBlank) context = operand no context :=
    congrArg (trimmedOperand · context) (trimBy_rdropWhile no)
  rw [trim_choiceText, evaluateTrimmed, h.trim.form_eq]
  dsimp only
  rw [hcondition]
  cases plainHolds condition context with
  | true => rfl
  | false => exact congrArg Except.ok hno

end

/-- The value of a choice is that of the branch that its condition chooses. -/
theorem IsChoice.evaluateText_eq {condition yes no : String}
    (h : IsChoice condition.toList yes.toList no.toList) (context : Value) :
    evaluateText (condition ++ "?" ++ yes ++ ":" ++ no) context =
      .ok (operand (if holds condition context then yes else no).toList context) := by
  have htext : (condition ++ "?" ++ yes ++ ":" ++ no).toList =
      choiceText condition.toList yes.toList no.toList := by
    simp [choiceText]
  refine mapError_eq_ok_iff.2 ?_
  rw [evaluate, htext, h.evaluateTrimmed_eq, plainHolds_eq_holds h.question,
    apply_ite String.toList]

/-- A choice has a value in every context, that of its first branch where its condition holds and
    that of the last branch where it does not. The other branch makes no difference. A blank
    condition chooses the first branch, and one without a value the last. -/
theorem evaluate_choice {condition yes no : String}
    (h : IsChoice condition.toList yes.toList no.toList) (context : Value) :
    evaluateText (condition ++ "?" ++ yes ++ ":" ++ no) context =
      .ok (operand (if holds condition context then yes else no).toList context) ∧
    (holds condition context = true → ∀ other : String,
      IsChoice condition.toList yes.toList other.toList →
        evaluateText (condition ++ "?" ++ yes ++ ":" ++ other) context =
          evaluateText (condition ++ "?" ++ yes ++ ":" ++ no) context) ∧
    (holds condition context = false → ∀ other : String,
      IsChoice condition.toList other.toList no.toList →
        evaluateText (condition ++ "?" ++ other ++ ":" ++ no) context =
          evaluateText (condition ++ "?" ++ yes ++ ":" ++ no) context) ∧
    (trim condition.toList = [] →
      evaluateText (condition ++ "?" ++ yes ++ ":" ++ no) context =
        .ok (operand yes.toList context)) ∧
    ((∃ f, evaluateText condition context = .error f) →
      evaluateText (condition ++ "?" ++ yes ++ ":" ++ no) context =
        .ok (operand no.toList context)) := by
  have hvalue := h.evaluateText_eq context
  refine ⟨hvalue, fun hholds other hother => ?_, fun hfails other hother => ?_, fun hblank => ?_,
    ?_⟩
  · rw [hvalue, hother.evaluateText_eq context, hholds]
    rfl
  · rw [hvalue, hother.evaluateText_eq context, hfails]
    rfl
  · rw [hvalue, holds_of_blank hblank]
    rfl
  · rintro ⟨f, hf⟩
    obtain ⟨fault, hfault, -⟩ := mapError_eq_error_iff.1 hf
    have hne : trim condition.toList ≠ [] := (evaluate_eq_error_iff.1 ⟨fault, hfault⟩).ne_nil
    rw [hvalue, holds_of_fault hne hfault]
    rfl

/-- In the first branch marks of any kind may stand: it goes up to the last colon. -/
theorem evaluate_choice_nested :
    IsChoice " active ".toList " a?b:c ".toList " closed ".toList ∧
      holds " active " (.obj [("active", .bool true)]) = true ∧
      evaluateText (" active " ++ "?" ++ " a?b:c " ++ ":" ++ " closed ")
        (.obj [("active", .bool true)]) = .ok (.str "a?b:c") := by
  have hchoice : IsChoice " active ".toList " a?b:c ".toList " closed ".toList :=
    ⟨by decide +kernel, by decide +kernel, fun op => by cases op <;> decide +kernel⟩
  have hholds : holds " active " (.obj [("active", .bool true)]) = true := by rfl
  refine ⟨hchoice, hholds, ?_⟩
  rw [(evaluate_choice hchoice _).1, hholds]
  rfl

end Expression

end DecisionFlow
