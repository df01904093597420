import DecisionFlow.Expression.Evaluation

set_option autoImplicit false

/-! # Expressions without a value

An expression has a value in every context, but for a literal that is nothing but digits, with more
of them than are read or with a value beyond the range of doubles. A sign makes an operation of a
literal, and operands are read as decimals, so that only the whole text of an expression is ever
read as an integer. -/

namespace DecisionFlow

namespace Text

/-! ## Trimming -/

theorem head?_dropWhile_eq_false {p : Char → Bool} {cs : List Char} :
    ∀ c ∈ (cs.dropWhile p).head?, p c = false := by
  intro c hc
  have hhead := List.head?_dropWhile_not p cs
  rw [Option.mem_def.1 hc] at hhead
  simpa using hhead

/-- What is trimmed at the end stands behind what stays. -/
theorem isPrefix_trimBy (p : Char → Bool) (cs : List Char) : trimBy p cs <+: cs.dropWhile p := by
  have hsuffix := List.dropWhile_suffix (l := (cs.dropWhile p).reverse) p
  rw [← List.reverse_prefix] at hsuffix
  simpa [trimBy] using hsuffix

theorem trimBy_trimBy (p : Char → Bool) (cs : List Char) :
    trimBy p (trimBy p cs) = trimBy p cs := by
  refine trimBy_eq_self ?_ ?_
  · -- The end was cut off behind the first character that stays.
    intro c hc
    obtain ⟨rest, hrest⟩ := isPrefix_trimBy p cs
    have hhead : c ∈ (cs.dropWhile p).head? := by
      rw [← hrest, List.head?_append, Option.mem_def.1 hc]
      rfl
    exact head?_dropWhile_eq_false c hhead
  · intro c hc
    rw [trimBy, List.getLast?_reverse] at hc
    exact head?_dropWhile_eq_false c hc

@[simp] theorem trim_trim (cs : List Char) : trim (trim cs) = trim cs :=
  trimBy_trimBy isBlank cs

/-! ## Marks -/

/-- A text in which a character of the mark is missing is not cut. -/
theorem cut_eq_none_of_not_mem {mark cs : List Char} {c : Char} (hc : c ∈ mark) (h : c ∉ cs) :
    cut mark cs = none := by
  cases hcut : cut mark cs with
  | none => rfl
  | some parts =>
    have hcs := eq_append_of_cut hcut
    exact absurd (by simp [hcs, hc]) h

/-- A text that is not cut at a character does not have it. -/
theorem not_mem_of_cut_eq_none {cs : List Char} {c : Char} (h : cut [c] cs = none) : c ∉ cs := by
  induction cs with
  | nil => exact List.not_mem_nil
  | cons d cs ih =>
    rw [cut] at h
    split at h
    · exact absurd h (by simp)
    · rename_i hmark
      have hne : c ≠ d := by simpa using hmark
      have hrest := ih (Option.map_eq_none_iff.1 h)
      simp [hne, hrest]

/-! ## Digits -/

/-- The digits of a text. -/
def digitsOf (cs : List Char) : List Nat :=
  cs.filterMap digitValue?

/-- Reading digits ends before the first character that is none. -/
theorem spanDigits_append {run rest : List Char} (hrun : ∀ c ∈ run, isDigit c = true)
    (hrest : ∀ c ∈ rest.head?, isDigit c = false) :
    spanDigits (run ++ rest) = (digitsOf run, rest) := by
  induction run with
  | nil =>
    cases rest with
    | nil => rfl
    | cons c rest =>
      have hc : digitValue? c = none := by simpa [isDigit] using hrest c rfl
      simp [spanDigits, hc, digitsOf]
  | cons c run ih =>
    rw [List.forall_mem_cons] at hrun
    obtain ⟨d, hd⟩ := Option.isSome_iff_exists.1 hrun.1
    simp [spanDigits, hd, ih hrun.2, digitsOf]

/-- Reading digits reaches the end of a text that is nothing but digits. -/
theorem spanDigits_of_isDigit {cs : List Char} (h : ∀ c ∈ cs, isDigit c = true) :
    spanDigits cs = (digitsOf cs, []) := by
  have hspan : spanDigits (cs ++ []) = (digitsOf cs, []) := spanDigits_append h (by simp)
  rwa [List.append_nil] at hspan

theorem isDigit_of_spanDigits {cs : List Char} (h : (spanDigits cs).2 = []) :
    ∀ c ∈ cs, isDigit c = true := by
  induction cs with
  | nil => simp
  | cons c cs ih =>
    rw [spanDigits] at h
    split at h
    · rename_i d hd
      rw [List.forall_mem_cons]
      exact ⟨by simp [isDigit, hd], ih h⟩
    · exact nomatch h

theorem length_digitsOf {cs : List Char} (h : ∀ c ∈ cs, isDigit c = true) :
    (digitsOf cs).length = cs.length := by
  induction cs with
  | nil => rfl
  | cons c cs ih =>
    rw [List.forall_mem_cons] at h
    obtain ⟨d, hd⟩ := Option.isSome_iff_exists.1 h.1
    have hrest := ih h.2
    rw [digitsOf] at hrest ⊢
    simp [hd, hrest]

theorem not_mem_of_isDigit {cs : List Char} {c : Char} (h : ∀ c ∈ cs, isDigit c = true)
    (hc : isDigit c = false) : c ∉ cs := by
  intro hm
  rw [h c hm] at hc
  exact nomatch hc

end Text

namespace Number

open Text

theorem sign_of_not_mem {cs : List Char} (hplus : '+' ∉ cs) (hminus : '-' ∉ cs) :
    sign cs = (false, cs) := by
  unfold sign
  split
  · simp at hminus
  · simp at hplus
  · rfl

theorem sign_of_isDigit {cs : List Char} (h : ∀ c ∈ cs, isDigit c = true) :
    sign cs = (false, cs) :=
  sign_of_not_mem (not_mem_of_isDigit h (by decide +kernel))
    (not_mem_of_isDigit h (by decide +kernel))

/-- A text of digits without a sign, of which there is at least one, is a whole literal. -/
theorem wholeDigits?_of_isDigit {cs : List Char} (hne : cs ≠ []) (h : ∀ c ∈ cs, isDigit c = true) :
    wholeDigits? cs = some (false, digitsOf cs) := by
  have hsign := sign_of_isDigit h
  obtain ⟨c, cs, rfl⟩ := List.exists_cons_of_ne_nil hne
  obtain ⟨d, hd⟩ := Option.isSome_iff_exists.1 (h c (List.mem_cons_self ..))
  rw [wholeDigits?, hsign, spanDigits_of_isDigit h]
  simp [digitsOf, hd]

/-- A whole literal without a sign is nothing but digits. -/
theorem isDigit_of_wholeDigits? {cs : List Char} {literal : Bool × List Nat}
    (h : wholeDigits? cs = some literal) (hplus : '+' ∉ cs) (hminus : '-' ∉ cs) :
    cs ≠ [] ∧ ∀ c ∈ cs, isDigit c = true := by
  unfold wholeDigits? at h
  rw [sign_of_not_mem hplus hminus] at h
  split at h
  · rename_i d ds hspan
    refine ⟨?_, isDigit_of_spanDigits (by rw [hspan])⟩
    rintro rfl
    exact nomatch hspan
  · exact nomatch h

/-- Digits have no double, under either sign, when there are too many of them or their value is
    beyond the range. -/
theorem ofWholeDigits_eq_error_iff {negative : Bool} {digits : List Nat} :
    (∃ fault, ofWholeDigits negative digits = .error fault) ↔
      digitLimit < digits.length ∨ overflowBound ≤ natOfDigits digits := by
  unfold ofWholeDigits
  by_cases hmany : digitLimit < digits.length
  · simp [hmany]
  · have habs : (if negative then -(natOfDigits digits : Int) else natOfDigits digits).natAbs =
        natOfDigits digits := by
      cases negative <;> simp
    simp only [hmany, if_false, false_or]
    generalize (if negative then -(natOfDigits digits : Int) else natOfDigits digits) = n at habs ⊢
    rw [← habs, ← ofInt?_eq_none_iff]
    cases ofInt? n <;> simp

/-- An integer that is too long to be written is beyond the range of doubles. -/
theorem overflowBound_le_writingBound : overflowBound ≤ writingBound := by
  have hpow : ∀ k l m, k ≤ m → Nat.pow 2 k - Nat.pow 2 l ≤ Nat.pow 10 m := by
    intro k l m hkm
    have hbase : 2 ^ k ≤ 10 ^ k := Nat.pow_le_pow_left (by decide) k
    have hexponent : 10 ^ k ≤ 10 ^ m := Nat.pow_le_pow_right (by decide) hkm
    exact Nat.le_trans (Nat.sub_le _ _) (Nat.le_trans hbase hexponent)
  unfold overflowBound writingBound
  exact hpow 1024 970 digitLimit (by decide)

end Number

namespace Expression

open Text

/-! ## Forms -/

/-- A text is nothing but digits, and they are too many or their value is too large. -/
structure IsOversized (cs : List Char) : Prop where
  ne_nil : cs ≠ []
  digits : ∀ c ∈ cs, isDigit c = true
  large : Number.digitLimit < cs.length ∨ Number.overflowBound ≤ natOfDigits (digitsOf cs)

theorem Arithmetic.mem_all (op : Arithmetic) : op ∈ Arithmetic.all := by
  cases op <;> decide

theorem firstArithmetic_eq_none_iff {cs : List Char} {ops : List Arithmetic} :
    firstArithmetic cs ops = none ↔ ∀ op ∈ ops, cut [op.mark] cs = none := by
  induction ops with
  | nil => simp [firstArithmetic]
  | cons op ops ih =>
    rw [firstArithmetic, List.forall_mem_cons, ← ih]
    split
    · rename_i hcut
      simp [hcut]
    · rename_i hcut
      simp [hcut]

theorem firstComparison_eq_none_iff {cs : List Char} {ops : List Comparison} :
    firstComparison cs ops = none ↔ ∀ op ∈ ops, cut op.mark cs = none := by
  induction ops with
  | nil => simp [firstComparison]
  | cons op ops ih =>
    rw [firstComparison, List.forall_mem_cons, ← ih]
    split
    · rename_i hcut
      simp [hcut]
    · rename_i hcut
      simp [hcut]

theorem firstArithmetic_ne_whole {cs : List Char} {ops : List Arithmetic}
    {result : Except Number.Fault Float} : firstArithmetic cs ops ≠ some (.whole result) := by
  induction ops with
  | nil => simp [firstArithmetic]
  | cons op ops ih =>
    rw [firstArithmetic]
    split
    · simp
    · exact ih

theorem firstComparison_ne_whole {cs : List Char} {ops : List Comparison}
    {result : Except Number.Fault Float} : firstComparison cs ops ≠ some (.whole result) := by
  induction ops with
  | nil => simp [firstComparison]
  | cons op ops ih =>
    rw [firstComparison]
    split
    · simp
    · exact ih

/-- A text that has the form of a whole literal is one, and has no mark of an operator in it. -/
theorem of_plainForm_eq_whole {cs : List Char} {result : Except Number.Fault Float}
    (h : plainForm cs = .whole result) :
    (∀ op : Arithmetic, op.mark ∉ cs) ∧ Number.readWhole? cs = some result := by
  unfold plainForm at h
  split at h
  · rename_i hfirst
    exact absurd (h ▸ hfirst) firstArithmetic_ne_whole
  · rename_i hnone
    split at h
    · rename_i hfirst
      exact absurd (h ▸ hfirst) firstComparison_ne_whole
    · refine ⟨fun op => ?_, ?_⟩
      · exact not_mem_of_cut_eq_none (firstArithmetic_eq_none_iff.1 hnone op op.mem_all)
      · unfold atomForm at h
        split at h
        · exact nomatch h
        · split at h
          · exact nomatch h
          · split at h
            · rename_i hread
              rw [hread, Plain.whole.inj h]
            · split at h
              · exact nomatch h
              · split at h <;> exact nomatch h

/-- Digits have the form of a whole literal. -/
theorem form_of_isDigit {cs : List Char} (htrim : trim cs = cs) (hne : cs ≠ [])
    (h : ∀ c ∈ cs, isDigit c = true) :
    form cs = .plain (.whole (Number.ofWholeDigits false (digitsOf cs))) := by
  have hread : Number.readWhole? cs = some (Number.ofWholeDigits false (digitsOf cs)) := by
    rw [Number.readWhole?, htrim, Number.wholeDigits?_of_isDigit hne h]
    rfl
  have hoperators : firstArithmetic cs Arithmetic.all = none := by
    refine firstArithmetic_eq_none_iff.2 fun op _ => ?_
    have hmark : isDigit op.mark = false := by cases op <;> decide +kernel
    exact cut_eq_none_of_not_mem (List.mem_singleton_self _) (not_mem_of_isDigit h hmark)
  have hcomparisons : firstComparison cs Comparison.all = none := by
    refine firstComparison_eq_none_iff.2 fun op _ => ?_
    have hmark : op.mark.any (fun c => !isDigit c) = true := by cases op <;> decide +kernel
    obtain ⟨c, hc, hdigit⟩ := List.any_eq_true.1 hmark
    exact cut_eq_none_of_not_mem hc (not_mem_of_isDigit h (by simpa using hdigit))
  have hpoint : '.' ∉ cs := not_mem_of_isDigit h (by decide +kernel)
  have hquote : unquote? cs = none := by
    cases hinner : unquote? cs with
    | none => rfl
    | some inner =>
      have hcs := eq_of_unquote? hinner
      exact absurd (by simp [hcs]) (not_mem_of_isDigit h (c := '"') (by decide +kernel))
  have hplain : plainForm cs = .whole (Number.ofWholeDigits false (digitsOf cs)) := by
    simp [plainForm, hoperators, hcomparisons, atomForm, hpoint, hquote, hread]
  have hchoice : choiceParts? cs = none := by
    have hcut : cut ['?'] cs = none :=
      cut_eq_none_of_not_mem (List.mem_singleton_self _) (not_mem_of_isDigit h (by decide +kernel))
    simp [choiceParts?, hcut]
  unfold form
  rw [hchoice, hplain, ite_self]

/-! ## Evaluation -/

/-- Only a literal can have no value. -/
theorem Plain.eq_whole_of_evaluate {cs : List Char} {context : Value} {form : Plain}
    {fault : Number.Fault} (h : form.evaluate cs context = .error fault) :
    form = .whole (.error fault) := by
  cases form with
  | arithmetic op left right =>
    rw [Plain.evaluate] at h
    split at h <;> exact nomatch h
  | whole result =>
    rw [Plain.evaluate] at h
    cases result with
    | ok x => exact nomatch h
    | error e => rw [Except.error.inj h]
  | _ => exact nomatch h

/-- An expression has no value exactly when its text without surrounding blanks is oversized; the
    context does not matter. -/
theorem evaluate_eq_error_iff {text : String} {context : Value} :
    (∃ fault, evaluate text context = .error fault) ↔ IsOversized (trim text.toList) := by
  rw [evaluate]
  -- The literal is trimmed once more when it is read, which changes nothing.
  have htrim := trim_trim text.toList
  generalize trim text.toList = cs at htrim ⊢
  constructor
  · rintro ⟨fault, h⟩
    rw [evaluateTrimmed] at h
    split at h
    · rename_i plain hform
      obtain rfl := Plain.eq_whole_of_evaluate h
      have hplain : plainForm cs = .whole (.error fault) := by
        unfold form at hform
        split at hform
        · exact Form.plain.inj hform
        · split at hform
          · exact nomatch hform
          · exact Form.plain.inj hform
      -- A sign would be the mark of an operator, so there is none.
      obtain ⟨hmarks, hread⟩ := of_plainForm_eq_whole hplain
      rw [Number.readWhole?, htrim, Option.map_eq_some_iff] at hread
      obtain ⟨literal, hdigits, hvalue⟩ := hread
      obtain ⟨hne, hall⟩ := Number.isDigit_of_wholeDigits? hdigits (hmarks .plus) (hmarks .minus)
      rw [Number.wholeDigits?_of_isDigit hne hall] at hdigits
      obtain rfl := Option.some.inj hdigits
      have hlarge := Number.ofWholeDigits_eq_error_iff.1 ⟨fault, hvalue⟩
      rw [length_digitsOf hall] at hlarge
      exact ⟨hne, hall, hlarge⟩
    · exact nomatch h
  · rintro ⟨hne, hall, hlarge⟩
    rw [← length_digitsOf hall, ← Number.ofWholeDigits_eq_error_iff] at hlarge
    obtain ⟨fault, hfault⟩ := hlarge
    refine ⟨fault, ?_⟩
    rw [evaluateTrimmed, form_of_isDigit htrim hne hall, hfault]
    rfl

end Expression

end DecisionFlow
