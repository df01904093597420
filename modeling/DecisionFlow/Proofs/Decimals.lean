import DecisionFlow.Number.Layout
import DecisionFlow.Proofs.Integers

set_option autoImplicit false

/-! # How doubles are written

The decimal of a double is one of the reals that round to it, or an end of the interval of these.
That is enough to tell how it is laid out. A double is below one ten-thousandth exactly when its
decimal is: the interval of a double lies on one side of that number, but for that of the least
double which is not below, and the decimal of this one is computed. So a double with a fraction is
written with a negative exponent below one ten-thousandth, and as digits around a point from there
on. -/

namespace DecisionFlow.Number

/-! ## Exact values -/

/-- The number `m * 2 ^ e`. -/
def binary (m : Nat) (e : Int) : ℚ :=
  m * 2 ^ e

/-- The number that a decimal is. -/
def Decimal.value (d : Decimal) : ℚ :=
  d.digits * 10 ^ d.exponent

theorem binary_le_binary {m m' : Nat} {e e' : Int} (hm : m ≤ m') (he : e ≤ e') :
    binary m e ≤ binary m' e' := by
  unfold binary
  gcongr
  norm_num

theorem binary_pos {m : Nat} (hm : 0 < m) (e : Int) : 0 < binary m e := by
  unfold binary
  positivity

theorem binary_four_mul (m : Nat) (e : Int) : binary (4 * m) (e - 2) = binary m e := by
  rw [binary, binary, zpow_sub₀ two_ne_zero]
  push_cast
  ring

theorem zpow_mul_pow_toNat_neg {b : ℚ} (hb : b ≠ 0) (i : Int) :
    b ^ i * b ^ (-i).toNat = b ^ i.toNat := by
  rw [← zpow_natCast, ← zpow_natCast, ← zpow_add₀ hb]
  congr 1
  omega

section

variable {a b : Nat} {i j : Int}

/-- Both sides of a comparison are multiplied by what makes them natural numbers. -/
theorem exists_scaled (a b : Nat) (i j : Int) : ∃ k : ℚ, 0 < k ∧
    ((a * Nat.pow 10 i.toNat * Nat.pow 2 (-j).toNat : Nat) : ℚ) = Decimal.value ⟨a, i⟩ * k ∧
    ((b * Nat.pow 2 j.toNat * Nat.pow 10 (-i).toNat : Nat) : ℚ) = binary b j * k := by
  refine ⟨10 ^ (-i).toNat * 2 ^ (-j).toNat, by positivity, ?_, ?_⟩
  · have hten := zpow_mul_pow_toNat_neg (b := 10) (by norm_num) i
    push_cast [Nat.pow_eq]
    rw [Decimal.value, ← hten]
    ring
  · have htwo := zpow_mul_pow_toNat_neg (b := 2) (by norm_num) j
    push_cast [Nat.pow_eq]
    rw [binary, ← htwo]
    ring

theorem compareScaled_ne_lt_iff :
    compareScaled a i b j ≠ .lt ↔ binary b j ≤ Decimal.value ⟨a, i⟩ := by
  obtain ⟨k, hk, hleft, hright⟩ := exists_scaled a b i j
  rw [compareScaled, Nat.compare_ne_lt, ← Nat.cast_le (α := ℚ), hleft, hright,
    mul_le_mul_iff_left₀ hk]

theorem compareScaled_ne_gt_iff :
    compareScaled a i b j ≠ .gt ↔ Decimal.value ⟨a, i⟩ ≤ binary b j := by
  obtain ⟨k, hk, hleft, hright⟩ := exists_scaled a b i j
  rw [compareScaled, Nat.compare_ne_gt, ← Nat.cast_le (α := ℚ), hleft, hright,
    mul_le_mul_iff_left₀ hk]

end

/-! ## Shortest decimals -/

/-- A decimal is one of the reals that round to `m * 2 ^ e`, or an end of the interval of these. -/
structure IsNear (m : Nat) (e : Int) (d : Decimal) : Prop where
  lower : binary (lowerQuarters m e) (e - 2) ≤ d.value
  upper : d.value ≤ binary (upperQuarters m) (e - 2)

section

variable {m : Nat} {e : Int} {d : Decimal}

theorem isNear_of_readsBack (h : readsBack m e d = true) : IsNear m e d := by
  rw [readsBack, Bool.and_eq_true, Bool.or_eq_true, Bool.or_eq_true, Bool.and_eq_true,
    Bool.and_eq_true] at h
  simp only [beq_iff_eq] at h
  obtain ⟨hlow, hhigh⟩ := h
  refine ⟨compareScaled_ne_lt_iff.1 fun hlt => ?_, compareScaled_ne_gt_iff.1 fun hgt => ?_⟩
  · obtain h | ⟨-, h⟩ := hlow <;> exact nomatch hlt.symm.trans h
  · obtain h | ⟨-, h⟩ := hhigh <;> exact nomatch hgt.symm.trans h

theorem isNear_of_onGrid {grid : Int} (h : onGrid m e grid = some d) : IsNear m e d := by
  unfold onGrid at h
  dsimp only at h
  split at h
  · exact nomatch h
  · rename_i hbelow _
    rw [← Option.some.inj h]
    exact isNear_of_readsBack hbelow
  · rename_i _ habove
    rw [← Option.some.inj h]
    exact isNear_of_readsBack habove
  · -- Whichever of the two neighbours is taken, it reads back.
    rename_i hbelow habove
    rw [← Option.some.inj h]
    refine isNear_of_readsBack ?_
    split
    · exact hbelow
    · exact habove
    · split
      · exact hbelow
      · exact habove

theorem isNear_of_firstHit {k count : Int} {fuel : Nat}
    (h : firstHit m e k fuel count = some d) : IsNear m e d := by
  induction fuel generalizing count with
  | zero => exact nomatch h
  | succ fuel ih =>
    rw [firstHit] at h
    split at h
    · rename_i hgrid
      exact isNear_of_onGrid (hgrid.trans h)
    · exact ih h

/-- Moving a zero into the exponent changes the digits and not the number. -/
theorem value_stripZeros (fuel : Nat) (d : Decimal) : (stripZeros fuel d).value = d.value := by
  induction fuel generalizing d with
  | zero => rfl
  | succ fuel ih =>
    rw [stripZeros]
    split
    · rename_i hzero
      have hdigits : ((d.digits : Nat) : ℚ) = (d.digits / 10 : Nat) * 10 := by
        exact_mod_cast (Nat.div_mul_cancel (Nat.dvd_of_mod_eq_zero hzero.2)).symm
      rw [ih, Decimal.value, Decimal.value, hdigits, zpow_add_one₀ (by norm_num)]
      ring
    · rfl

theorem lowerQuarters_le (m : Nat) (e : Int) : lowerQuarters m e ≤ 4 * m := by
  unfold lowerQuarters
  split <;> omega

theorem le_lowerQuarters (m : Nat) (e : Int) : 4 * m - 2 ≤ lowerQuarters m e := by
  unfold lowerQuarters
  split <;> omega

theorem isNear_of_value_eq (h : d.value = binary m e) : IsNear m e d := by
  rw [← binary_four_mul] at h
  exact ⟨h ▸ binary_le_binary (lowerQuarters_le m e) le_rfl,
    h ▸ binary_le_binary (Nat.le_add_right _ 2) le_rfl⟩

theorem isNear_shortest (hm : m ≠ 0) : IsNear m e (shortest m e) := by
  rw [shortest, if_neg hm]
  split
  · rename_i d hhit
    have hnear := isNear_of_firstHit hhit
    exact ⟨(value_stripZeros 18 d).symm ▸ hnear.lower, (value_stripZeros 18 d).symm ▸ hnear.upper⟩
  · split
    · rename_i he
      obtain ⟨n, rfl⟩ := Int.eq_ofNat_of_zero_le he
      refine isNear_of_value_eq ?_
      simp [Decimal.value, binary]
    · rename_i he
      obtain ⟨n, hn⟩ := Int.eq_ofNat_of_zero_le (a := -e) (by omega)
      obtain rfl : e = -(n : Int) := by omega
      refine isNear_of_value_eq ?_
      have hten : (5 : ℚ) ^ n * (10 ^ n)⁻¹ = (2 ^ n)⁻¹ := by
        rw [← inv_pow, ← inv_pow, ← mul_pow]
        norm_num
      simp only [Decimal.value, binary, Int.neg_neg, Int.toNat_natCast, Nat.pow_eq, zpow_neg,
        zpow_natCast, Nat.cast_mul, Nat.cast_pow, Nat.cast_ofNat, mul_assoc, hten]

/-! ## Magnitudes -/

theorem le_value_shortest {l : Nat} {f : Int} (hm : m ≠ 0) (hl : l + 2 ≤ 4 * m) (he : f ≤ e - 2) :
    binary l f ≤ (shortest m e).value :=
  (binary_le_binary (by have := le_lowerQuarters m e; omega) he).trans (isNear_shortest hm).lower

theorem value_shortest_le {u : Nat} {f : Int} (hm : m ≠ 0) (hu : 4 * m + 2 ≤ u) (he : e - 2 ≤ f) :
    (shortest m e).value ≤ binary u f :=
  (isNear_shortest hm).upper.trans (binary_le_binary hu he)

/-- A double with a fraction is so small that its decimal is, too. -/
theorem value_shortest_lt (h : IsFinite m e) (hm : m ≠ 0) (he : e < 0) :
    (shortest m e).value < 10 ^ 16 := by
  have hlimit := h.limit
  calc (shortest m e).value ≤ binary (2 ^ 55) (-3) := value_shortest_le hm (by omega) (by omega)
    _ < 10 ^ 16 := by norm_num [binary]

/-- The least double that is not below one ten-thousandth. It is nearest to that decimal, although
    smaller reals round to it as well. -/
theorem shortest_one_tenthousandth : shortest 7378697629483821 (-66) = ⟨1, -4⟩ := by
  decide +kernel

/-- Where doubles around one ten-thousandth are. -/
theorem binary_lt_iff (h : IsFinite m e) :
    binary m e < 1 / 10 ^ 4 ↔ e < -66 ∨ e = -66 ∧ m < 7378697629483821 := by
  have hlimit := h.limit
  constructor
  · intro hlt
    by_contra hnot
    refine not_lt_of_ge ?_ hlt
    by_cases he : e = -66
    · calc (1 : ℚ) / 10 ^ 4 ≤ binary 7378697629483821 (-66) := by norm_num [binary]
        _ ≤ binary m e := binary_le_binary (by omega) (by omega)
    · have hnormal := h.normal (by omega)
      calc (1 : ℚ) / 10 ^ 4 ≤ binary (2 ^ 52) (-65) := by norm_num [binary]
        _ ≤ binary m e := binary_le_binary hnormal (by omega)
  · rintro (he | ⟨rfl, hm⟩)
    · calc binary m e ≤ binary (2 ^ 53) (-67) := binary_le_binary hlimit.le (by omega)
        _ < 1 / 10 ^ 4 := by norm_num [binary]
    · calc binary m (-66) ≤ binary 7378697629483820 (-66) := binary_le_binary (by omega) le_rfl
        _ < 1 / 10 ^ 4 := by norm_num [binary]

/-- A double is below one ten-thousandth exactly when its decimal is. -/
theorem value_shortest_lt_iff (h : IsFinite m e) (hm : m ≠ 0) :
    (shortest m e).value < 1 / 10 ^ 4 ↔ binary m e < 1 / 10 ^ 4 := by
  have hlimit := h.limit
  rw [binary_lt_iff h]
  constructor
  · intro hlt
    by_contra hnot
    refine not_lt_of_ge ?_ hlt
    by_cases he : e = -66
    · subst he
      by_cases hleast : m = 7378697629483821
      · rw [hleast, shortest_one_tenthousandth]
        norm_num [Decimal.value]
      · calc (1 : ℚ) / 10 ^ 4 ≤ binary (4 * 7378697629483822 - 2) (-68) := by norm_num [binary]
          _ ≤ (shortest m (-66)).value := le_value_shortest hm (by omega) (by omega)
    · have hnormal := h.normal (by omega)
      calc (1 : ℚ) / 10 ^ 4 ≤ binary (2 ^ 54 - 2) (-67) := by norm_num [binary]
        _ ≤ (shortest m e).value := le_value_shortest hm (by omega) (by omega)
  · rintro (he | ⟨rfl, hless⟩)
    · calc (shortest m e).value ≤ binary (2 ^ 55 - 2) (-69) :=
          value_shortest_le hm (by omega) (by omega)
        _ < 1 / 10 ^ 4 := by norm_num [binary]
    · calc (shortest m (-66)).value ≤ binary (4 * 7378697629483820 + 2) (-68) :=
          value_shortest_le hm (by omega) (by omega)
        _ < 1 / 10 ^ 4 := by norm_num [binary]

theorem digits_shortest_ne_zero (hm : m ≠ 0) : (shortest m e).digits ≠ 0 := by
  intro hzero
  have hpos : 0 < binary (lowerQuarters m e) (e - 2) :=
    binary_pos (by have := le_lowerQuarters m e; omega) _
  have hlower := (isNear_shortest hm (e := e)).lower
  rw [Decimal.value, hzero, Nat.cast_zero, zero_mul] at hlower
  exact absurd hpos (not_lt_of_ge hlower)

end

/-! ## Digits -/

/-- A text of digits, of which there is at least one. -/
structure IsDigits (cs : List Char) : Prop where
  ne_nil : cs ≠ []
  isDigit : ∀ c ∈ cs, c.isDigit = true

theorem isDigits_digits (n : Nat) : IsDigits (digits n) where
  ne_nil := Nat.toDigits_ne_nil
  isDigit _ hc := Nat.isDigit_of_mem_toDigits (by decide) (by decide) hc

section

variable {before after ds : List Char}

theorem IsDigits.append_left (h : IsDigits before) (hafter : ∀ c ∈ after, c.isDigit = true) :
    IsDigits (before ++ after) where
  ne_nil := List.append_ne_nil_of_left_ne_nil h.ne_nil after
  isDigit := List.forall_mem_append.2 ⟨h.isDigit, hafter⟩

theorem IsDigits.append_right (h : IsDigits after) (hbefore : ∀ c ∈ before, c.isDigit = true) :
    IsDigits (before ++ after) where
  ne_nil := List.append_ne_nil_of_right_ne_nil before h.ne_nil
  isDigit := List.forall_mem_append.2 ⟨hbefore, h.isDigit⟩

theorem isDigits_zero : IsDigits ['0'] :=
  ⟨List.cons_ne_nil _ _, List.forall_mem_singleton.2 rfl⟩

theorem isDigit_of_mem_replicate (n : Nat) : ∀ c ∈ List.replicate n '0', c.isDigit = true := by
  intro c hc
  rw [List.eq_of_mem_replicate hc]
  rfl

/-- Wherever the point of a decimal is, there are digits on both of its sides. -/
theorem exists_positional (h : IsDigits ds) (point : Int) :
    ∃ whole fraction, IsDigits whole ∧ IsDigits fraction ∧
      Layout.positional ds point = whole ++ '.' :: fraction := by
  unfold Layout.positional
  split
  · exact ⟨['0'], _, isDigits_zero, h.append_right (isDigit_of_mem_replicate _), rfl⟩
  · split
    · have htake : ds.take point.toNat ≠ [] := by simp [h.ne_nil]; omega
      have hdrop : ds.drop point.toNat ≠ [] := by simp; omega
      exact ⟨_, _, ⟨htake, fun c hc => h.isDigit c (List.mem_of_mem_take hc)⟩,
        ⟨hdrop, fun c hc => h.isDigit c (List.mem_of_mem_drop hc)⟩, rfl⟩
    · exact ⟨_, ['0'], h.append_left (isDigit_of_mem_replicate _), isDigits_zero, rfl⟩

theorem minus_mem_scientific (l : Layout) (ds : List Char) {exponent : Int} (h : exponent < 0) :
    '-' ∈ l.scientific ds exponent := by
  simp [Layout.scientific, h]

end

/-! ## Layouts -/

/-- The place of the point of a decimal among its digits. -/
def Decimal.point (d : Decimal) : Int :=
  d.exponent + (Number.digits d.digits).length

section

variable {d : Decimal}

theorem Decimal.value_lt_pow_point (d : Decimal) : d.value < 10 ^ d.point := by
  have hlength : 0 < (Number.digits d.digits).length :=
    List.length_pos_iff.2 (isDigits_digits _).ne_nil
  have hdigits : d.digits < 10 ^ (Number.digits d.digits).length :=
    (Nat.length_toDigits_le_iff (by decide) hlength).1 le_rfl
  have hcast : (d.digits : ℚ) < 10 ^ (Number.digits d.digits).length := by exact_mod_cast hdigits
  calc d.value < 10 ^ (Number.digits d.digits).length * 10 ^ d.exponent :=
      mul_lt_mul_of_pos_right hcast (by positivity)
    _ = 10 ^ d.point := by
      rw [Decimal.point, ← zpow_natCast, ← zpow_add₀ (by norm_num), add_comm]

theorem Decimal.pow_point_le_value (h : d.digits ≠ 0) : 10 ^ (d.point - 1) ≤ d.value := by
  obtain ⟨k, hk⟩ := Nat.exists_eq_succ_of_ne_zero
    (mt List.length_eq_zero_iff.1 (isDigits_digits d.digits).ne_nil)
  have hdigits : 10 ^ k ≤ d.digits := by
    obtain rfl | hpos := Nat.eq_zero_or_pos k
    · exact Nat.one_le_iff_ne_zero.2 h
    · by_contra hless
      have hshort := (Nat.length_toDigits_le_iff (by decide) hpos).2 (not_le.1 hless)
      rw [← Number.digits, hk] at hshort
      exact Nat.not_succ_le_self k hshort
  have hcast : (10 : ℚ) ^ k ≤ d.digits := by exact_mod_cast hdigits
  calc (10 : ℚ) ^ (d.point - 1) = 10 ^ k * 10 ^ d.exponent := by
        rw [Decimal.point, hk, ← zpow_natCast, ← zpow_add₀ (by norm_num)]
        congr 1
        push_cast
        ring
    _ ≤ d.value := mul_le_mul_of_nonneg_right hcast (by positivity)

theorem render_eq (h : d.digits ≠ 0) : layout.render d =
    if -4 < d.point ∧ d.point ≤ 16 then Layout.positional (digits d.digits) d.point
    else layout.scientific (digits d.digits) (d.point - 1) := by
  rw [Layout.render, if_neg h]
  rfl

/-- A decimal from one ten-thousandth on is written with a point, if it is not too large. -/
theorem exists_render (h : d.digits ≠ 0) (hlarge : 1 / 10 ^ 4 ≤ d.value)
    (hsmall : d.value < 10 ^ 16) : ∃ whole fraction, IsDigits whole ∧ IsDigits fraction ∧
      layout.render d = whole ++ '.' :: fraction := by
  have hten : (1 : ℚ) < 10 := by norm_num
  have hleast : -4 < d.point := by
    rw [← zpow_lt_zpow_iff_right₀ hten]
    calc (10 : ℚ) ^ (-4 : Int) = 1 / 10 ^ 4 := by norm_num
      _ ≤ d.value := hlarge
      _ < 10 ^ d.point := d.value_lt_pow_point
  have hgreatest : d.point - 1 < 16 := by
    rw [← zpow_lt_zpow_iff_right₀ hten]
    exact (Decimal.pow_point_le_value h).trans_lt (by exact_mod_cast hsmall)
  rw [render_eq h, if_pos ⟨hleast, by omega⟩]
  exact exists_positional (isDigits_digits _) _

/-- A smaller decimal is written with a negative exponent. -/
theorem minus_mem_render (h : d.digits ≠ 0) (hsmall : d.value < 1 / 10 ^ 4) :
    '-' ∈ layout.render d := by
  have hten : (1 : ℚ) < 10 := by norm_num
  have hpoint : d.point - 1 < -4 := by
    rw [← zpow_lt_zpow_iff_right₀ hten]
    calc (10 : ℚ) ^ (d.point - 1) ≤ d.value := Decimal.pow_point_le_value h
      _ < 1 / 10 ^ 4 := hsmall
      _ = 10 ^ (-4 : Int) := by norm_num
  rw [render_eq h, if_neg (by omega)]
  exact minus_mem_scientific _ _ (by omega)

end

/-! ## Doubles -/

/-- The exact value of a double; none for an infinity and for what is no number. -/
def value? (x : Float) : Option ℚ :=
  match parts x with
  | .finite negative m e => some (if negative then -binary m e else binary m e)
  | _ => none

section

variable {x : Float} {c : ℚ} {negative : Bool} {m : Nat} {e : Int}

theorem exists_parts_of_value? (h : value? x = some c) : ∃ negative m e,
    parts x = .finite negative m e ∧ c = if negative then -binary m e else binary m e := by
  unfold value? at h
  split at h
  · rename_i hparts
    exact ⟨_, _, _, hparts, (Option.some.inj h).symm⟩
  · exact nomatch h

theorem cast_signed (negative : Bool) (k : Nat) :
    ((signed negative k : Int) : ℚ) = if negative then -(k : ℚ) else k := by
  cases negative <;> simp [signed]

theorem binary_mul_pow (m : Nat) (e : Int) :
    binary m e * 2 ^ (-e).toNat = (m * 2 ^ e.toNat : Nat) := by
  rw [binary, mul_assoc, zpow_mul_pow_toNat_neg two_ne_zero]
  push_cast
  rfl

/-- A natural number is as large as a double without its sign when it has as many units. -/
theorem binary_eq_iff {k : Nat} : binary m e = k ↔ m * 2 ^ e.toNat = k * 2 ^ (-e).toNat := by
  rw [← Nat.cast_inj (R := ℚ), ← binary_mul_pow, Nat.cast_mul, Nat.cast_pow, Nat.cast_ofNat,
    mul_left_inj' (by positivity)]

theorem abs_of_parts (hc : c = if negative then -binary m e else binary m e) :
    |c| = binary m e := by
  have hnonneg : 0 ≤ binary m e := by
    unfold binary
    positivity
  rw [hc]
  split
  · rw [abs_neg, abs_of_nonneg hnonneg]
  · exact abs_of_nonneg hnonneg

theorem eq_cast_of_toInt? {n : Int} (h : value? x = some c) (hn : toInt? x = some n) : c = n := by
  obtain ⟨negative, m, e, hparts, rfl⟩ := exists_parts_of_value? h
  rw [toInt?_of_parts hparts] at hn
  split at hn
  · rename_i he
    have hunits : binary m e = (m * 2 ^ e.toNat : Nat) := by
      rw [binary_eq_iff, Int.toNat_of_nonpos (by omega : -e ≤ 0), Nat.pow_zero, Nat.mul_one]
    rw [← Option.some.inj hn, cast_signed, hunits]
  · rename_i he
    split at hn
    · rename_i hzeros
      have hunits : binary m e = (m / 2 ^ (-e).toNat : Nat) := by
        rw [binary_eq_iff, Nat.div_mul_cancel (Nat.dvd_of_mod_eq_zero hzeros),
          Int.toNat_of_nonpos (by omega), Nat.pow_zero, Nat.mul_one]
      rw [← Option.some.inj hn, cast_signed, hunits]
    · exact nomatch hn

/-- A double is a whole number when its exact value is an integer. -/
theorem toInt?_eq_some_iff {n : Int} (h : value? x = some c) : toInt? x = some n ↔ c = n := by
  refine ⟨eq_cast_of_toInt? h, fun hc => ?_⟩
  obtain ⟨negative, m, e, hparts, hvalue⟩ := exists_parts_of_value? h
  have hunits : binary m e = n.natAbs := by
    rw [← abs_of_parts hvalue, hc, Nat.cast_natAbs, Int.cast_abs]
  have hwhole : 0 ≤ e ∨ m % 2 ^ (-e).toNat = 0 := by
    by_cases he : 0 ≤ e
    · exact Or.inl he
    · have hnat : e.toNat = 0 := Int.toNat_of_nonpos (by omega)
      rw [binary_eq_iff, hnat, Nat.pow_zero, Nat.mul_one] at hunits
      exact Or.inr (hunits ▸ Nat.mul_mod_left _ _)
  obtain ⟨k, hk⟩ := Option.isSome_iff_exists.1 (isSome_toInt? hparts hwhole)
  have hcast : (k : ℚ) = n := (eq_cast_of_toInt? h hk).symm.trans hc
  rw [hk, Int.cast_injective hcast]

/-- A double with a fraction has a negative exponent, and it is not zero. -/
theorem of_toInt?_eq_none (hparts : parts x = .finite negative m e) (h : toInt? x = none) :
    e < 0 ∧ m ≠ 0 := by
  rw [toInt?_of_parts hparts] at h
  split at h
  · exact nomatch h
  · rename_i he
    refine ⟨by omega, ?_⟩
    rintro rfl
    rw [Nat.zero_mod, if_pos rfl] at h
    exact nomatch h

/-- A double with a fraction, from one ten-thousandth on, is written as digits around a point. -/
theorem exists_text (h : value? x = some c) (hfraction : toInt? x = none)
    (hlarge : 1 / 10 ^ 4 ≤ c) : ∃ whole fraction, IsDigits whole ∧ IsDigits fraction ∧
      text x = String.ofList (whole ++ '.' :: fraction) := by
  obtain ⟨negative, m, e, hparts, hc⟩ := exists_parts_of_value? h
  obtain ⟨he, hm⟩ := of_toInt?_eq_none hparts hfraction
  have hfinite := isFinite_of_parts hparts
  have hpos : 0 < c := lt_of_lt_of_le (by positivity) hlarge
  cases negative with
  | true =>
    rw [if_pos rfl] at hc
    exact absurd (binary_pos (Nat.pos_of_ne_zero hm) e) (by linarith)
  | false =>
    obtain rfl : c = binary m e := hc
    have hvalue : 1 / 10 ^ 4 ≤ (shortest m e).value := by
      rwa [← not_lt, value_shortest_lt_iff hfinite hm, not_lt]
    obtain ⟨whole, fraction, hwhole, hfraction, hrender⟩ :=
      exists_render (digits_shortest_ne_zero hm) hvalue (value_shortest_lt hfinite hm he)
    refine ⟨whole, fraction, hwhole, hfraction, ?_⟩
    rw [text, hparts]
    exact congrArg String.ofList hrender

/-- A smaller one is written with a minus sign, be it its own or that of its exponent. -/
theorem minus_mem_text (h : value? x = some c) (hfraction : toInt? x = none)
    (hsmall : c < 1 / 10 ^ 4) : '-' ∈ (text x).toList := by
  obtain ⟨negative, m, e, hparts, hc⟩ := exists_parts_of_value? h
  obtain ⟨-, hm⟩ := of_toInt?_eq_none hparts hfraction
  rw [text, hparts]
  cases negative with
  | true => simp
  | false =>
    obtain rfl : c = binary m e := hc
    have hrender := minus_mem_render (digits_shortest_ne_zero hm)
      ((value_shortest_lt_iff (isFinite_of_parts hparts) hm).2 hsmall)
    simpa using hrender

end

end DecisionFlow.Number
