import DecisionFlow.Proofs.Atoms
import DecisionFlow.Proofs.Columns
import DecisionFlow.Proofs.Decimals

set_option autoImplicit false

/-! # Numbers as conditions

A number in an input column is read as the text that it is written with. An integer is a literal,
and holds; a minus sign, be it that of the number or of its exponent, makes an operation of the
text, and holds too. What is left are the numbers with a fraction that are not below one
ten-thousandth: their point makes a path of them, through properties with digits for names, so that
such a condition holds in hardly any context. -/

namespace DecisionFlow

namespace Text

/-! ## Digits and points -/

/-- The ten digits stand for their values. -/
theorem digitValue?_digitChar {n : Nat} (h : n < 10) : digitValue? n.digitChar = some n := by
  have hall : ∀ n < 10, digitValue? n.digitChar = some n := by decide +kernel
  exact hall n h

theorem toNat_of_asciiDigit {c : Char} (h : c.isDigit = true) : 48 ≤ c.toNat ∧ c.toNat ≤ 57 := by
  rw [Char.isDigit, Bool.and_eq_true, decide_eq_true_eq, decide_eq_true_eq] at h
  exact ⟨UInt32.le_iff_toNat_le.1 h.1, UInt32.le_iff_toNat_le.1 h.2⟩

/-- An ASCII digit is one of the digits of all scripts. -/
theorem isDigit_of_asciiDigit {c : Char} (h : c.isDigit = true) : isDigit c = true := by
  have hrange := toNat_of_asciiDigit h
  have hfind : zeros.find? (fun z => z ≤ c.toNat && c.toNat < z + 10) = some 48 := by
    rw [zeros, List.find?_cons_of_pos]
    simp only [Bool.and_eq_true, decide_eq_true_eq]
    omega
  rw [isDigit, digitValue?, hfind]
  rfl

theorem isBlank_of_asciiDigit {c : Char} (h : c.isDigit = true) : isBlank c = false := by
  have hrange := toNat_of_asciiDigit h
  simp only [isBlank, isSpace, Bool.or_eq_false_iff, Bool.and_eq_false_iff, beq_eq_false_iff_ne,
    decide_eq_false_iff_not]
  omega

/-- A text without blanks is not trimmed. -/
theorem trim_eq_self {cs : List Char} (h : ∀ c ∈ cs, isBlank c = false) : trim cs = cs :=
  trimBy_eq_self (fun c hc => h c (List.mem_of_mem_head? hc))
    (fun c hc => h c (List.mem_of_mem_getLast? hc))

theorem segments_of_not_mem {mark : Char} {cs : List Char} (h : mark ∉ cs) :
    segments mark cs = [cs] := by
  induction cs with
  | nil => rfl
  | cons c cs ih =>
    rw [List.mem_cons, not_or] at h
    rw [segments, if_neg (Ne.symm h.1), ih h.2]

/-- The first part ends at the first occurrence of the mark. -/
theorem segments_append {mark : Char} {cs : List Char} (h : mark ∉ cs) (rest : List Char) :
    segments mark (cs ++ mark :: rest) = cs :: segments mark rest := by
  induction cs with
  | nil => simp [segments]
  | cons c cs ih =>
    rw [List.mem_cons, not_or] at h
    rw [List.cons_append, segments, if_neg (Ne.symm h.1), ih h.2]

end Text

namespace Number

open Text

/-! ## Integers -/

theorem digits_of_le {n : Nat} (h : 10 ≤ n) :
    digits n = digits (n / 10) ++ [(n % 10).digitChar] :=
  Nat.toDigits_of_base_le (by decide) h

/-- The digits of a natural number denote it. -/
theorem natOfDigits_digits (n : Nat) : natOfDigits (digitsOf (digits n)) = n := by
  induction n using Nat.strongRecOn with
  | ind n ih =>
    by_cases hn : n < 10
    · have hdigits : digits n = [n.digitChar] := Nat.toDigits_of_lt_base hn
      simp [hdigits, digitsOf, digitValue?_digitChar hn, natOfDigits]
    · have hlast : digitsOf [(n % 10).digitChar] = [n % 10] := by
        simp [digitsOf, digitValue?_digitChar (Nat.mod_lt n (by decide))]
      have hdigits : digitsOf (digits n) = digitsOf (digits (n / 10)) ++ [n % 10] := by
        rw [digits_of_le (not_lt.1 hn), ← hlast]
        exact List.filterMap_append
      rw [hdigits, natOfDigits_concat, ih (n / 10) (by omega)]
      exact Nat.div_add_mod n 10

/-- An integer in the range of doubles has few enough digits to be read. -/
theorem length_digits_le {n : Nat} (h : n < overflowBound) : (digits n).length ≤ digitLimit := by
  have hwritable : n < writingBound := Nat.lt_of_lt_of_le h overflowBound_le_writingBound
  have hpos : 0 < digitLimit := by decide
  unfold writingBound at hwritable
  generalize digitLimit = limit at hwritable hpos ⊢
  exact (Nat.length_toDigits_le_iff (by decide) hpos).2 hwritable

end Number

namespace Expression

open Text Number

/-! ## Numbers as expressions -/

section

variable {text : String} {context : Value}

/-- With the mark of an operator in it, a text holds in every context. -/
theorem holds_of_mark_mem (op : Arithmetic) (h : op.mark ∈ text.toList) (context : Value) :
    holds text context = true := by
  rw [← mem_trimBy_iff op.isBlank_mark] at h
  obtain ⟨first, left, right, hop⟩ := IsOperation.exists_of_mem h
  obtain ⟨v, hvalue, htruth⟩ := hop.exists_evaluateTrimmed context
  rw [holds_eq_truth hop.ne_nil hvalue, htruth]

/-- A literal of digits holds in every context, unless it is oversized: its value is a number. -/
theorem holds_of_isDigits {cs : List Char} (h : IsDigits cs) (hfits : ¬IsOversized cs)
    (context : Value) : holds (String.ofList cs) context = true := by
  have htrim : trim (String.ofList cs).toList = cs := by
    rw [String.toList_ofList, trim_eq_self fun c hc => isBlank_of_asciiDigit (h.isDigit c hc)]
  cases hvalue : evaluate (String.ofList cs) context with
  | error fault =>
    have hoversized := evaluate_eq_error_iff.1 ⟨fault, hvalue⟩
    rw [htrim] at hoversized
    exact absurd hoversized hfits
  | ok v =>
    have hform := form_of_isDigit (htrim ▸ trim_trim _) h.ne_nil
      fun c hc => isDigit_of_asciiDigit (h.isDigit c hc)
    rw [holds_eq_truth (htrim.symm ▸ h.ne_nil) hvalue]
    rw [evaluate, htrim, evaluateTrimmed, hform] at hvalue
    obtain ⟨x, -, rfl⟩ := map_eq_ok_iff.1 hvalue
    rfl

/-- An integer that has a double holds in every context, be its sign a minus or not. -/
theorem holds_intText {n : Int} (h : n.natAbs < overflowBound) (context : Value) :
    holds (intText n) context = true := by
  rw [intText]
  split
  · exact holds_of_mark_mem .minus (by simp [Arithmetic.mark]) context
  · refine holds_of_isDigits (isDigits_digits _) (fun hoversized => ?_) context
    obtain hlong | hlarge := hoversized.large
    · exact absurd (length_digits_le h) (not_le.2 hlong)
    · rw [natOfDigits_digits] at hlarge
      exact absurd h (not_lt.2 hlarge)

/-! ## Digits around a point -/

variable {whole fraction : List Char}

theorem eq_or_isDigit_of_mem (hwhole : IsDigits whole) (hfraction : IsDigits fraction) {c : Char}
    (hc : c ∈ whole ++ '.' :: fraction) : c = '.' ∨ c.isDigit = true := by
  rw [List.mem_append, List.mem_cons] at hc
  obtain hc | rfl | hc := hc
  · exact Or.inr (hwhole.isDigit c hc)
  · exact Or.inl rfl
  · exact Or.inr (hfraction.isDigit c hc)

/-- Digits around a point have no mark of an operator in them. -/
theorem isAtom_of_isDigits (hwhole : IsDigits whole) (hfraction : IsDigits fraction) :
    IsAtom (whole ++ '.' :: fraction) := by
  have hnot : ∀ c, c ≠ '.' → c.isDigit = false → c ∉ whole ++ '.' :: fraction := by
    intro c hpoint hdigit hc
    obtain rfl | hc := eq_or_isDigit_of_mem hwhole hfraction hc
    · exact hpoint rfl
    · rw [hdigit] at hc
      exact nomatch hc
  refine ⟨fun op => ?_, fun op hop => ?_, fun hchoice => ?_⟩
  · cases op <;> exact hnot _ (by decide) (by decide)
  · have hmark : op.mark.any (fun c => c ≠ '.' && !c.isDigit) = true := by
      cases op <;> decide +kernel
    obtain ⟨c, hc, hother⟩ := List.any_eq_true.1 hmark
    rw [Bool.and_eq_true, decide_eq_true_eq, Bool.not_eq_true'] at hother
    exact hnot c hother.1 hother.2 (hop.subset hc)
  · exact hnot '?' (by decide) (by decide) hchoice.1

theorem ofText_of_isDigits (hwhole : IsDigits whole) (hfraction : IsDigits fraction) :
    Path.ofText (String.ofList (whole ++ '.' :: fraction)) =
      [String.ofList whole, String.ofList fraction] := by
  have hpoint : ∀ {cs}, IsDigits cs → '.' ∉ cs := fun hcs hc =>
    absurd (hcs.isDigit '.' hc) (by decide)
  rw [Path.ofText, String.toList_ofList, segments_append (hpoint hwhole),
    segments_of_not_mem (hpoint hfraction)]
  rfl

/-- Digits around a point are a path, and hold where it leads to a value that holds. -/
theorem holds_of_point (hwhole : IsDigits whole) (hfraction : IsDigits fraction)
    (context : Value) :
    holds (String.ofList (whole ++ '.' :: fraction)) context = true ↔
      ∃ v, context.at? [String.ofList whole, String.ofList fraction] = some v ∧
        v.truth = true := by
  have htrim : trim (String.ofList (whole ++ '.' :: fraction)).toList =
      whole ++ '.' :: fraction := by
    rw [String.toList_ofList]
    refine trim_eq_self fun c hc => ?_
    obtain rfl | hc := eq_or_isDigit_of_mem hwhole hfraction hc
    · decide +kernel
    · exact isBlank_of_asciiDigit hc
  have hvalue : evaluate (String.ofList (whole ++ '.' :: fraction)) context =
      .ok (context.atPath (String.ofList (whole ++ '.' :: fraction))) := by
    rw [evaluate, htrim]
    exact evaluateTrimmed_of_point (isAtom_of_isDigits hwhole hfraction) (by simp)
  have hne : trim (String.ofList (whole ++ '.' :: fraction)).toList ≠ [] := by
    rw [htrim]
    simp
  rw [holds_eq_truth hne hvalue, Value.atPath, ofText_of_isDigits hwhole hfraction]
  cases context.at? [String.ofList whole, String.ofList fraction] with
  | none => simp [Value.truth]
  | some v => simp

end

end Expression

/-! ## Number cells -/

namespace Cell

open Number

/-- The exact value of a number in a cell. An integer beyond the range of doubles has none, nor has
    an infinity or a cell of another kind. -/
def number? : Json → Option ℚ
  | .int n => (ofInt? n).map fun _ => (n : ℚ)
  | .num x => value? x
  | _ => none

section

variable {cell : Json} {c : ℚ}

/-- A number without a fraction is written as an integer in the range of doubles. -/
theorem exists_text_of_whole (h : number? cell = some c) (hwhole : ∃ n : Int, c = n) :
    ∃ n : Int, n.natAbs < overflowBound ∧ text cell = .ok (intText n) := by
  cases cell with
  | int n =>
    -- The integer is rounded to a double, and this one is written.
    obtain ⟨x, hx, -⟩ := Option.map_eq_some_iff.1 h
    have hbound : n.natAbs < overflowBound := by
      rw [← not_le, ← ofInt?_eq_none_iff, hx]
      simp
    obtain ⟨k, hk⟩ := Option.isSome_iff_exists.1 (isSome_toInt?_ofInt hbound)
    rw [← ofInt?_eq_some hx] at hk
    exact ⟨k, natAbs_toInt?_lt hk, by simp only [text, hx, plainText, hk]⟩
  | num x =>
    obtain ⟨n, hn⟩ := hwhole
    have hk : toInt? x = some n := (toInt?_eq_some_iff h).2 hn
    exact ⟨n, natAbs_toInt?_lt hk, by simp only [text, plainText, hk]⟩
  | _ => exact nomatch h

/-- A number with a fraction is written as the double that it is. -/
theorem exists_text_of_fraction (h : number? cell = some c) (hfraction : ¬∃ n : Int, c = n) :
    ∃ x, value? x = some c ∧ toInt? x = none ∧ text cell = .ok (Number.text x) := by
  cases cell with
  | int n =>
    obtain ⟨x, -, rfl⟩ := Option.map_eq_some_iff.1 h
    exact absurd ⟨n, rfl⟩ hfraction
  | num x =>
    have hnone : toInt? x = none := by
      refine Option.eq_none_iff_forall_ne_some.2 fun n hn => ?_
      exact hfraction ⟨n, (toInt?_eq_some_iff h).1 hn⟩
    exact ⟨x, h, hnone, by simp only [text, plainText, hnone]⟩
  | _ => exact nomatch h

end

end Cell

/-! ## Rows -/

namespace Row

/-- A number as a condition. Without a fraction, below zero, or closer to zero than one
    ten-thousandth, it holds in every context, and the row goes on. Any other number is written as
    digits around a point, and holds in the contexts where the path of these digits leads to a value
    that holds; so it does not hold where no property is named by the digits before the point. -/
theorem holds_number {cell : Json} {c : ℚ} (h : Cell.number? cell = some c) :
    ((∃ n : Int, c = n) ∨ c < 0 ∨ |c| < 1 / 10 ^ 4 →
      ∀ context cells, holds context (cell :: cells) = holds context cells) ∧
    ((¬∃ n : Int, c = n) → 1 / 10 ^ 4 ≤ c →
      ∃ whole fraction : String,
        Number.IsDigits whole.toList ∧ Number.IsDigits fraction.toList ∧
        Cell.text cell = .ok (whole ++ "." ++ fraction) ∧
        Path.ofText (whole ++ "." ++ fraction) = [whole, fraction] ∧
        ∀ context cells,
          ((∃ v, context.at? [whole, fraction] = some v ∧ v.truth = true) →
            holds context (cell :: cells) = holds context cells) ∧
          ((¬∃ v, context.at? [whole, fraction] = some v ∧ v.truth = true) →
            holds context (cell :: cells) = .ok false) ∧
          (context.property? whole = none → holds context (cell :: cells) = .ok false)) := by
  constructor
  · intro hc context cells
    by_cases hwhole : ∃ n : Int, c = n
    · obtain ⟨n, hn, htext⟩ := Cell.exists_text_of_whole h hwhole
      exact holds_cons_of_holds htext (Expression.holds_intText hn context) cells
    · have hsmall : c < 1 / 10 ^ 4 := by
        obtain hc | hc | hc := hc
        · exact absurd hc hwhole
        · exact hc.trans (by norm_num)
        · exact (le_abs_self c).trans_lt hc
      obtain ⟨x, hx, hnone, htext⟩ := Cell.exists_text_of_fraction h hwhole
      have hminus := Number.minus_mem_text hx hnone hsmall
      exact holds_cons_of_holds htext
        (Expression.holds_of_mark_mem .minus hminus context) cells
  · intro hfraction hlarge
    obtain ⟨x, hx, hnone, htext⟩ := Cell.exists_text_of_fraction h hfraction
    obtain ⟨whole, fraction, hwhole, hfraction, hdigits⟩ := Number.exists_text hx hnone hlarge
    have hjoin : String.ofList whole ++ "." ++ String.ofList fraction =
        String.ofList (whole ++ '.' :: fraction) := String.toList_inj.1 (by simp)
    rw [hdigits] at htext
    refine ⟨String.ofList whole, String.ofList fraction, by simpa using hwhole,
      by simpa using hfraction, by rw [hjoin, htext], ?_, fun context cells => ?_⟩
    · rw [hjoin, Expression.ofText_of_isDigits hwhole hfraction]
    · have hiff := Expression.holds_of_point hwhole hfraction context
      refine ⟨fun hleads => holds_cons_of_holds htext (hiff.2 hleads) cells,
        fun hnowhere => holds_cons_of_not_holds htext (mt hiff.1 hnowhere) cells, fun hnone => ?_⟩
      refine holds_cons_of_not_holds htext (fun hholds => ?_) cells
      obtain ⟨v, hv, -⟩ := hiff.1 hholds
      rw [Value.at?, hnone] at hv
      exact nomatch hv

/-- Twelve and a half is a path to the property `5` of the property `12`. -/
theorem holds_number_half :
    Cell.number? (.num 12.5) = some (25 / 2) ∧
      holds .null [.num 12.5] = .ok false ∧
      holds (.obj [("12", .obj [("5", .bool true)])]) [.num 12.5] = .ok true := by
  have hparts : Number.parts 12.5 = .finite false 7036874417766400 (-49) := by decide +kernel
  have hnumber : Cell.number? (.num 12.5) = some (25 / 2) := by
    rw [Cell.number?, Number.value?, hparts]
    norm_num [Number.binary]
  have hfraction : ¬∃ n : Int, (25 / 2 : ℚ) = n := by
    rintro ⟨n, hn⟩
    have htwice : (25 : ℚ) = (2 * n : Int) := by
      push_cast
      linarith
    have : (25 : Int) = 2 * n := by exact_mod_cast htwice
    omega
  obtain ⟨whole, fraction, -, -, htext, hpath, hholds⟩ :=
    (holds_number hnumber).2 hfraction (by norm_num)
  have hvalue : Cell.text (.num 12.5) = .ok "12.5" := by rfl
  rw [← Except.ok.inj (hvalue.symm.trans htext)] at hpath
  have hkeys : Path.ofText "12.5" = ["12", "5"] := by decide +kernel
  obtain ⟨rfl, rfl⟩ : "12" = whole ∧ "5" = fraction := by
    simpa using hkeys.symm.trans hpath
  exact ⟨hnumber, (hholds .null []).2.2 rfl, (hholds _ []).1 ⟨.bool true, rfl, rfl⟩⟩

end Row

end DecisionFlow
