import DecisionFlow.Proofs.Doubles
import DecisionFlow.Proofs.Literals

set_option autoImplicit false

/-! # The grammar of number literals

Which texts spell a number, and which a whole one. A decimal literal is an optional sign, digits
with an optional point among or around them, and an optional exponent; a whole literal is an
optional sign and digits. A text is read as the one or the other exactly when it follows the
grammar, and what is read as a whole number is read as an equal decimal. -/

namespace DecisionFlow

namespace Text

/-! ## Digits -/

/-- A text of digits, of which there is at least one. -/
structure IsNumeral (cs : List Char) : Prop where
  ne_nil : cs ≠ []
  digits : ∀ c ∈ cs, isDigit c = true

variable {cs : List Char}

theorem IsNumeral.digitsOf_ne_nil (h : IsNumeral cs) : digitsOf cs ≠ [] := by
  rw [← List.length_pos_iff, length_digitsOf h.digits, List.length_pos_iff]
  exact h.ne_nil

/-- What was read as digits, and what stands behind it. -/
theorem exists_run (cs : List Char) : ∃ run, (∀ c ∈ run, isDigit c = true) ∧
    cs = run ++ (spanDigits cs).2 ∧ (spanDigits cs).1 = digitsOf run ∧
      ∀ c ∈ (spanDigits cs).2.head?, isDigit c = false := by
  induction cs with
  | nil => exact ⟨[], by simp, rfl, rfl, by simp [spanDigits]⟩
  | cons c cs ih =>
    cases hc : digitValue? c with
    | none =>
      have hspan : spanDigits (c :: cs) = ([], c :: cs) := by simp [spanDigits, hc]
      rw [hspan]
      exact ⟨[], by simp, rfl, rfl, by simp [isDigit, hc]⟩
    | some d =>
      have hspan : spanDigits (c :: cs) = (d :: (spanDigits cs).1, (spanDigits cs).2) := by
        simp [spanDigits, hc]
      obtain ⟨run, hrun, hcs, hdigits, hhead⟩ := ih
      rw [hspan]
      refine ⟨c :: run, ?_, congrArg (c :: ·) hcs, ?_, hhead⟩
      · rw [List.forall_mem_cons]
        exact ⟨by simp [isDigit, hc], hrun⟩
      · simp [digitsOf, hc, hdigits]

end Text

namespace Number

open Text

variable {cs rest : List Char} {negative : Bool}

/-! ## Signs -/

/-- A sign, or none. -/
inductive IsSign : Bool → List Char → Prop where
  | none : IsSign false []
  | plus : IsSign false ['+']
  | minus : IsSign true ['-']

theorem exists_sign (cs : List Char) : ∃ s, IsSign (sign cs).1 s ∧ cs = s ++ (sign cs).2 := by
  unfold sign
  split
  · exact ⟨_, .minus, rfl⟩
  · exact ⟨_, .plus, rfl⟩
  · exact ⟨_, .none, rfl⟩

/-- A sign is read off a text in which another one does not follow. -/
theorem sign_append {s : List Char} (hs : IsSign negative s) (hplus : rest.head? ≠ some '+')
    (hminus : rest.head? ≠ some '-') : sign (s ++ rest) = (negative, rest) := by
  cases hs with
  | none =>
    rw [List.nil_append]
    unfold sign
    split
    · exact absurd rfl hminus
    · exact absurd rfl hplus
    · rfl
  | plus => rfl
  | minus => rfl

/-! ## Mantissas -/

/-- Digits with an optional point among or around them: those before it, and those after it. -/
inductive IsMantissa : List Char → List Char → List Char → Prop where
  | whole {before : List Char} : IsNumeral before → IsMantissa before before []
  | point {before after : List Char} : IsNumeral before → (∀ c ∈ after, isDigit c = true) →
    IsMantissa (before ++ '.' :: after) before after
  | fraction {after : List Char} : IsNumeral after → IsMantissa ('.' :: after) [] after

/-- A mantissa is read off a text in which neither a digit nor a point follows. -/
theorem mantissa_append {m before after : List Char} (h : IsMantissa m before after)
    (hdigit : ∀ c ∈ rest.head?, isDigit c = false) (hpoint : rest.head? ≠ some '.') :
    mantissa (m ++ rest) = (digitsOf before, digitsOf after, rest) := by
  have hstop : ∀ {cs : List Char}, ∀ c ∈ ('.' :: cs).head?, isDigit c = false := by
    intro cs c hc
    obtain rfl := Option.some.inj hc
    decide +kernel
  cases h with
  | whole hbefore =>
    rw [mantissa, spanDigits_append hbefore.digits hdigit]
    split
    · next hspan =>
      obtain ⟨rfl, rfl⟩ := Prod.mk.inj hspan
      exact absurd rfl hpoint
    · next hspan =>
      obtain ⟨rfl, rfl⟩ := Prod.mk.inj hspan
      rfl
  | point hbefore hafter =>
    rw [List.append_assoc, List.cons_append, mantissa, spanDigits_append hbefore.digits hstop]
    simp only [spanDigits_append hafter hdigit]
  | fraction hafter =>
    have hnone : spanDigits ([] ++ '.' :: (after ++ rest)) = ([], '.' :: (after ++ rest)) :=
      spanDigits_append (by simp) hstop
    rw [List.nil_append] at hnone
    rw [List.cons_append, mantissa, hnone]
    simp only [spanDigits_append hafter.digits hdigit]
    rfl

theorem exists_mantissa (cs : List Char) (h : ¬((mantissa cs).1 = [] ∧ (mantissa cs).2.1 = [])) :
    ∃ m before after, IsMantissa m before after ∧ cs = m ++ (mantissa cs).2.2 ∧
      (mantissa cs).1 = digitsOf before ∧ (mantissa cs).2.1 = digitsOf after := by
  obtain ⟨before, hbefore, hcs, hdigits, -⟩ := exists_run cs
  unfold mantissa at h ⊢
  split at h
  · next whole rest hspan =>
    simp only [hspan] at hcs hdigits h ⊢
    obtain ⟨after, hafter, hrest, hfraction, -⟩ := exists_run rest
    by_cases hnil : before = []
    · -- Without digits before the point, there are some after it.
      subst hnil
      have hne : after ≠ [] := by
        rintro rfl
        exact h ⟨hdigits, hfraction⟩
      refine ⟨_, [], after, .fraction ⟨hne, hafter⟩, ?_, hdigits, hfraction⟩
      rw [hcs, hrest]
      simp [← hrest]
    · refine ⟨_, before, after, .point ⟨hnil, hbefore⟩ hafter, ?_, hdigits, hfraction⟩
      rw [hcs]
      simp [← hrest]
  · next whole rest hpoint hspan =>
    simp only [hspan] at hcs hdigits h ⊢
    refine ⟨before, before, [], .whole ⟨?_, hbefore⟩, hcs, hdigits, rfl⟩
    rintro rfl
    exact h ⟨hdigits, trivial⟩

/-! ## Whole literals -/

/-- An optional sign and digits: whether the sign is a minus, and the digits. -/
inductive IsWhole : List Char → Bool → List Char → Prop where
  | intro {negative : Bool} {s ds : List Char} : IsSign negative s → IsNumeral ds →
    IsWhole (s ++ ds) negative ds

theorem sign_append_of_isDigit {s : List Char} (hs : IsSign negative s) {c : Char}
    (hc : isDigit c = true) (cs : List Char) : sign (s ++ c :: cs) = (negative, c :: cs) := by
  refine sign_append hs ?_ ?_
  · rintro hplus
    obtain rfl := Option.some.inj hplus
    exact absurd hc (by decide +kernel)
  · rintro hminus
    obtain rfl := Option.some.inj hminus
    exact absurd hc (by decide +kernel)

/-- A text is read as a whole literal when it is one. -/
theorem wholeDigits?_eq_some_iff {digits : List Nat} :
    wholeDigits? cs = some (negative, digits) ↔
      ∃ ds, IsWhole cs negative ds ∧ digits = digitsOf ds := by
  constructor
  · intro h
    unfold wholeDigits? at h
    split at h
    · next d ds hspan =>
      obtain ⟨rfl, rfl⟩ := Prod.mk.inj (Option.some.inj h)
      obtain ⟨s, hs, hcs⟩ := exists_sign cs
      obtain ⟨run, hrun, hrest, hdigits, -⟩ := exists_run (sign cs).2
      rw [hspan, List.append_nil] at hrest
      rw [hspan] at hdigits
      have hne : run ≠ [] := by
        rintro rfl
        exact nomatch hdigits
      have hwhole := IsWhole.intro hs ⟨hne, hrun⟩
      rw [hrest] at hcs
      rw [← hcs] at hwhole
      exact ⟨run, hwhole, hdigits⟩
    · exact nomatch h
  · rintro ⟨ds, ⟨hs, hds⟩, rfl⟩
    obtain ⟨c, cs, rfl⟩ := List.exists_cons_of_ne_nil hds.ne_nil
    obtain ⟨d, ds, hdigits⟩ := List.exists_cons_of_ne_nil hds.digitsOf_ne_nil
    have hsign := sign_append_of_isDigit hs (hds.digits c (List.mem_cons_self ..)) cs
    rw [wholeDigits?, hsign, spanDigits_of_isDigit hds.digits, hdigits]

theorem IsWhole.digits {ds : List Char} (h : IsWhole cs negative ds) :
    ∀ c ∈ ds, isDigit c = true := by
  cases h with
  | intro _ hds => exact hds.digits

/-! ## Exponents -/

/-- An integer of a sign and digits. -/
def ofSigned (negative : Bool) (digits : List Nat) : Int :=
  if negative then -(natOfDigits digits : Int) else natOfDigits digits

/-- An exponent mark and a whole literal, or nothing; the number after the mark. -/
inductive IsExponent : List Char → Int → Prop where
  | none : IsExponent [] 0
  | mark {c : Char} {cs ds : List Char} {negative : Bool} : c = 'e' ∨ c = 'E' →
    IsWhole cs negative ds → IsExponent (c :: cs) (ofSigned negative (digitsOf ds))

theorem exponent?_cons (c : Char) (cs : List Char) : exponent? (c :: cs) =
    if c = 'e' ∨ c = 'E' then (wholeDigits? cs).map fun literal => ofSigned literal.1 literal.2
    else none := by
  rw [exponent?, wholeDigits?]
  dsimp only
  split
  · split <;> rfl
  · rfl

theorem exponent?_eq_some_iff {e : Int} : exponent? cs = some e ↔ IsExponent cs e := by
  constructor
  · intro h
    cases cs with
    | nil =>
      obtain rfl := Option.some.inj h
      exact .none
    | cons c cs =>
      rw [exponent?_cons] at h
      split at h
      · next hmark =>
        obtain ⟨⟨negative, digits⟩, hwhole, rfl⟩ := Option.map_eq_some_iff.1 h
        obtain ⟨ds, hds, rfl⟩ := wholeDigits?_eq_some_iff.1 hwhole
        exact .mark hmark hds
      · exact nomatch h
  · intro h
    cases h with
    | none => rfl
    | mark hmark hwhole =>
      rw [exponent?_cons, if_pos hmark, wholeDigits?_eq_some_iff.2 ⟨_, hwhole, rfl⟩]
      rfl

/-! ## Decimal literals -/

/-- An optional sign, a mantissa and an optional exponent. -/
inductive Spells : List Char → Literal → Prop where
  | intro {negative : Bool} {s m before after rest : List Char} {e : Int} : IsSign negative s →
    IsMantissa m before after → IsExponent rest e →
    Spells (s ++ (m ++ rest)) ⟨negative, digitsOf before, digitsOf after, e⟩

/-- Neither a digit nor a point starts an exponent. -/
theorem IsExponent.of_head? {e : Int} (h : IsExponent rest e) {c : Char} (hc : c ∈ rest.head?) :
    isDigit c = false ∧ c ≠ '.' := by
  cases h with
  | none => exact nomatch hc
  | mark hmark _ =>
    obtain rfl := Option.some.inj hc
    obtain rfl | rfl := hmark <;> exact ⟨by decide +kernel, by decide⟩

/-- There are digits in a mantissa. -/
theorem IsMantissa.digitsOf_ne_nil {m before after : List Char} (h : IsMantissa m before after) :
    ¬(digitsOf before = [] ∧ digitsOf after = []) := by
  cases h with
  | whole hbefore => exact fun hnil => hbefore.digitsOf_ne_nil hnil.1
  | point hbefore _ => exact fun hnil => hbefore.digitsOf_ne_nil hnil.1
  | fraction hafter => exact fun hnil => hafter.digitsOf_ne_nil hnil.2

/-- No sign starts a mantissa. -/
theorem sign_append_mantissa {s m before after : List Char} (hs : IsSign negative s)
    (hm : IsMantissa m before after) (rest : List Char) :
    sign (s ++ (m ++ rest)) = (negative, m ++ rest) := by
  cases hm with
  | whole hbefore =>
    obtain ⟨c, cs, rfl⟩ := List.exists_cons_of_ne_nil hbefore.ne_nil
    exact sign_append_of_isDigit hs (hbefore.digits c (List.mem_cons_self ..)) _
  | point hbefore _ =>
    obtain ⟨c, cs, rfl⟩ := List.exists_cons_of_ne_nil hbefore.ne_nil
    rw [List.append_assoc]
    exact sign_append_of_isDigit hs (hbefore.digits c (List.mem_cons_self ..)) _
  | fraction _ => exact sign_append hs (by simp) (by simp)

/-- A text is read as a decimal literal when it is one. -/
theorem Literal.read?_eq_some_iff {l : Literal} : Literal.read? cs = some l ↔ Spells cs l := by
  constructor
  · intro h
    unfold Literal.read? at h
    dsimp only at h
    split at h
    · exact nomatch h
    · next hdigits =>
      obtain ⟨e, he, rfl⟩ := Option.map_eq_some_iff.1 h
      obtain ⟨s, hs, hcs⟩ := exists_sign cs
      obtain ⟨m, before, after, hm, hrest, hbefore, hafter⟩ := exists_mantissa _ hdigits
      rw [hbefore, hafter]
      have hspells := Spells.intro hs hm (exponent?_eq_some_iff.1 he)
      rwa [← hrest, ← hcs] at hspells
  · rintro ⟨hs, hm, he⟩
    have hmantissa := mantissa_append hm (fun c hc => (he.of_head? hc).1)
      (fun hc => (he.of_head? hc).2 rfl)
    simp only [Literal.read?, sign_append_mantissa hs hm, hmantissa, if_neg hm.digitsOf_ne_nil,
      exponent?_eq_some_iff.2 he, Option.map_some]

/-! ## Agreement -/

theorem ofInt_beq_self (n : Int) : (ofInt n == ofInt n) = true := by
  rw [beq_self, isNaN_ofInt]
  rfl

/-- The sign of a zero is lost in an integer, so that the two are equal and not the same. -/
theorem ofInt_neg_beq (n : Nat) : (ofInt (-(n : Int)) == -Float.ofNat n) = true := by
  cases n with
  | zero => decide +kernel
  | succ n => exact ofInt_beq_self (Int.negSucc n)

/-- The double of a whole literal is equal to the one that it spells as a decimal literal. -/
theorem beq_toFloat_of_ofWholeDigits {digits : List Nat} {x : Float}
    (h : ofWholeDigits negative digits = .ok x) :
    (x == Literal.toFloat ⟨negative, digits, [], 0⟩) = true := by
  unfold ofWholeDigits at h
  split at h
  · exact nomatch h
  · dsimp only at h
    split at h
    · next hdouble =>
      obtain rfl := Except.ok.inj h
      rw [ofInt?_eq_some hdouble, Literal.toFloat, List.append_nil]
      cases negative with
      | false => exact ofInt_beq_self (natOfDigits digits)
      | true => exact ofInt_neg_beq (natOfDigits digits)
    · exact nomatch h

theorem IsWhole.spells {ds : List Char} (h : IsWhole cs negative ds) :
    Spells cs ⟨negative, digitsOf ds, [], 0⟩ := by
  cases h with
  | intro hs hds =>
    have hspells := Spells.intro hs (.whole hds) .none
    rwa [List.append_nil] at hspells

theorem readWhole?_eq_some_iff {result : Except Fault Float} : readWhole? cs = some result ↔
    ∃ negative ds, IsWhole (trim cs) negative ds ∧
      ofWholeDigits negative (digitsOf ds) = result := by
  unfold readWhole?
  rw [Option.map_eq_some_iff]
  constructor
  · rintro ⟨⟨negative, digits⟩, hwhole, hresult⟩
    obtain ⟨ds, hds, rfl⟩ := wholeDigits?_eq_some_iff.1 hwhole
    exact ⟨negative, ds, hds, hresult⟩
  · rintro ⟨negative, ds, hds, hresult⟩
    exact ⟨(negative, digitsOf ds), wholeDigits?_eq_some_iff.2 ⟨ds, hds, rfl⟩, hresult⟩

theorem read?_eq_some_iff {x : Float} :
    read? cs = some x ↔ ∃ l, Spells (trim cs) l ∧ l.toFloat = x := by
  rw [read?, Option.map_eq_some_iff]
  simp only [Literal.read?_eq_some_iff]

/-- A text is read as a decimal literal exactly when, without surrounding blanks, it is one, and
    then as the double nearest to what it spells. It is read as a whole literal exactly when it is
    one, which fails exactly when it has too many digits or is beyond the range of doubles; a
    double that it is read as is equal to the one that is read as a decimal. -/
theorem reads_iff_spelled (cs : List Char) :
    (∀ x, read? cs = some x ↔ ∃ l, Spells (trim cs) l ∧ l.toFloat = x) ∧
      (readWhole? cs = none ↔ ¬∃ negative ds, IsWhole (trim cs) negative ds) ∧
      ((∃ fault, readWhole? cs = some (.error fault)) ↔
        ∃ negative ds, IsWhole (trim cs) negative ds ∧
          (digitLimit < ds.length ∨ overflowBound ≤ natOfDigits (digitsOf ds))) ∧
      ∀ x, readWhole? cs = some (.ok x) → ∃ y, read? cs = some y ∧ (x == y) = true := by
  refine ⟨fun x => read?_eq_some_iff, ?_, ?_, fun x h => ?_⟩
  · rw [Option.eq_none_iff_forall_ne_some, not_exists]
    constructor
    · rintro h negative ⟨ds, hds⟩
      exact h _ (readWhole?_eq_some_iff.2 ⟨negative, ds, hds, rfl⟩)
    · intro h result hresult
      obtain ⟨negative, ds, hds, -⟩ := readWhole?_eq_some_iff.1 hresult
      exact h negative ⟨ds, hds⟩
  · constructor
    · rintro ⟨fault, h⟩
      obtain ⟨negative, ds, hds, hfault⟩ := readWhole?_eq_some_iff.1 h
      have hlarge := ofWholeDigits_eq_error_iff.1 ⟨fault, hfault⟩
      rw [length_digitsOf hds.digits] at hlarge
      exact ⟨negative, ds, hds, hlarge⟩
    · rintro ⟨negative, ds, hds, hlarge⟩
      rw [← length_digitsOf hds.digits] at hlarge
      obtain ⟨fault, hfault⟩ := ofWholeDigits_eq_error_iff.2 hlarge
      exact ⟨fault, readWhole?_eq_some_iff.2 ⟨negative, ds, hds, hfault⟩⟩
  · obtain ⟨negative, ds, hds, hx⟩ := readWhole?_eq_some_iff.1 h
    exact ⟨_, read?_eq_some_iff.2 ⟨_, hds.spells, rfl⟩, beq_toFloat_of_ofWholeDigits hx⟩

end Number

end DecisionFlow
