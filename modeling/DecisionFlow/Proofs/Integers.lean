import Mathlib
import DecisionFlow.Proofs.Doubles

set_option autoImplicit false

/-! # Integers as doubles

A double that is made of an integer is a whole number, be the integer so large that it is rounded;
and a double that is a whole number is below the magnitude that rounds to an infinity. Both are read
off the exact meaning of the double, which is that of the unpacked number behind its bits. -/

namespace DecisionFlow.Number

open Float.Model UnpackedFloat

/-! ## Unpacked doubles -/

theorem toNat_append_one {n : Nat} (b : BitVec n) : (1#1 ++ b).toNat = Nat.pow 2 n + b.toNat := by
  rw [BitVec.toNat_append, ← Nat.shiftLeft_add_eq_or_of_lt b.isLt]
  simp [Nat.shiftLeft_eq]

theorem toNat_unpackExponent (bits : UInt64) :
    (@unpackExponent .binary64 bits.toBitVec).toNat =
      ((bits >>> 52) &&& 0x7FF).toNat := by
  have hmask : (0x7FF : UInt64).toNat = 2 ^ 11 - 1 := rfl
  rw [UInt64.toNat_and, hmask, Nat.and_two_pow_sub_one_eq_mod]
  simp [unpackExponent]

theorem toNat_unpackMantissa (bits : UInt64) :
    (@unpackMantissa .binary64 bits.toBitVec).toNat =
      (bits &&& 0xFFFFFFFFFFFFF).toNat := by
  have hmask : (0xFFFFFFFFFFFFF : UInt64).toNat = 2 ^ 52 - 1 := rfl
  rw [UInt64.toNat_and, hmask, Nat.and_two_pow_sub_one_eq_mod]
  simp [unpackMantissa]

theorem sign_unpackSign (bits : UInt64) :
    (bits >>> 63 == 1) = (Sign.ofBitVec (@unpackSign .binary64 bits.toBitVec) == .negative) := by
  have hsign : (@unpackSign .binary64 bits.toBitVec).toNat = (bits >>> 63).toNat := by
    have hlt := bits.toNat_lt
    simp [unpackSign]
    omega
  have hone : (bits >>> 63 == 1) = (@unpackSign .binary64 bits.toBitVec == 1#1) := by
    rw [Bool.eq_iff_iff, beq_iff_eq, beq_iff_eq, ← UInt64.toNat_inj, ← BitVec.toNat_inj, hsign]
    rfl
  rw [hone]
  generalize @unpackSign .binary64 bits.toBitVec = b
  revert b
  decide

theorem parts_of_unpack {x : Float} {s : Sign} {m : Nat} {e : Int} {hm : 0 < m}
    (h : x.toModel.unpack = .finite s m e hm) : parts x = .finite (s == .negative) m e := by
  show Parts.ofBits x.toModel.toBits = _
  have hu : UnpackedFloat.unpack .binary64 x.toModel.toBits.toBitVec = .finite s m e hm := h
  generalize x.toModel.toBits = bits at hu
  unfold UnpackedFloat.unpack at hu
  unfold Parts.ofBits
  rw [← toNat_unpackExponent, ← toNat_unpackMantissa, sign_unpackSign]
  dsimp only at hu ⊢
  split at hu
  · split at hu <;> exact nomatch hu
  · rename_i hones
    have hscale : (@unpackExponent .binary64 bits.toBitVec).toNat ≠ 0x7FF :=
      fun hscale => hones (BitVec.toNat_inj.1 hscale)
    rw [if_neg hscale]
    split at hu
    · rename_i hzero
      split at hu
      · exact nomatch hu
      · obtain ⟨rfl, rfl, rfl⟩ := UnpackedFloat.finite.inj hu
        rw [hzero]
        rfl
    · rename_i hzero
      have hscale : (@unpackExponent .binary64 bits.toBitVec).toNat ≠ 0 :=
        fun hscale => hzero (BitVec.toNat_inj.1 hscale)
      obtain ⟨rfl, rfl, rfl⟩ := UnpackedFloat.finite.inj hu
      rw [if_neg hscale, toNat_append_one]
      rfl

/-! ## Normal doubles -/

/-- A mantissa with its leading bit, and an exponent for it, that a double has. -/
structure IsNormal (m : Nat) (e : Int) : Prop where
  least : 2 ^ 52 ≤ m
  limit : m < 2 ^ 53
  exponent : -1074 ≤ e

theorem IsNormal.pos {m : Nat} {e : Int} (h : IsNormal m e) : 0 < m :=
  Nat.lt_of_lt_of_le (Nat.two_pow_pos 52) h.least

theorem IsNormal.log2 {m : Nat} {e : Int} (h : IsNormal m e) : m.log2 = 52 :=
  (Nat.log2_eq_iff (Nat.ne_of_gt h.pos)).2 ⟨h.least, h.limit⟩

theorem unpack_pack_of_isNormal {m : Nat} {e : Int} (h : IsNormal m e) (s : Sign) (he : e ≤ 971) :
    UnpackedFloat.unpack .binary64 (UnpackedFloat.pack .binary64 (.finite s m e h.pos)) =
      .finite s m e h.pos := by
  have hleast := h.exponent
  have hbias : (Format.binary64.exponentBias : Int) = 1023 := rfl
  obtain ⟨biased, hbiased⟩ : ∃ biased : Nat, (biased : Int) = e + 1075 :=
    ⟨(e + 1075).toNat, by omega⟩
  have hpack : UnpackedFloat.pack .binary64 (.finite s m e h.pos) =
      packComponents .binary64 s (BitVec.ofNat 11 biased) (BitVec.ofNat 52 m) := by
    have hexponent : (e + Format.binary64.exponentBias +
        Format.binary64.mantissaBitsWithoutImplicit).toNat = biased := by
      rw [hbias]
      show (e + 1023 + 52).toNat = biased
      omega
    have hfits : ¬2 ^ Format.binary64.exponentBits ≤ biased + 1 := by
      show ¬2048 ≤ biased + 1
      omega
    simp only [UnpackedFloat.pack, hexponent]
    rw [if_neg hfits, h.log2]
    exact if_pos rfl
  have htoNat : (BitVec.ofNat 11 biased).toNat = biased := by
    rw [BitVec.toNat_ofNat]
    omega
  have hones : BitVec.ofNat 11 biased ≠ -1#11 := by
    intro hones
    have hvalue : biased = 2047 := htoNat.symm.trans (congrArg BitVec.toNat hones)
    omega
  have hzero : BitVec.ofNat 11 biased ≠ 0#11 := by
    intro hzero
    have hvalue : biased = 0 := htoNat.symm.trans (congrArg BitVec.toNat hzero)
    omega
  have hmantissa : (1#1 ++ BitVec.ofNat 52 m).toNat = m := by
    have hl := h.least
    have hm := h.limit
    rw [toNat_append_one, BitVec.toNat_ofNat]
    show 2 ^ 52 + m % 2 ^ 52 = m
    omega
  rw [hpack, UnpackedFloat.unpack]
  simp only [unpackMantissa_packComponents, unpackExponent_packComponents,
    unpackSign_packComponents, Sign.ofBitVec_toBitVec]
  rw [if_neg hones, if_neg hzero]
  simp only [hmantissa, htoNat]
  congr 1
  rw [hbias]
  show (biased : Int) - (1023 + 52) = e
  omega

/-! ## Rounding -/

theorem mantissa_shiftRight (em : ExtendedMantissa) (k : Nat) :
    (em >>> k).mantissa = em.mantissa / 2 ^ k := by
  induction k with
  | zero => exact (Nat.div_one _).symm
  | succ k ih =>
    show (em >>> k).mantissa / 2 = _
    rw [ih, Nat.div_div_eq_div_mul, Nat.pow_succ]

theorem roundBit_shiftRight (em : ExtendedMantissa) (k : Nat) :
    (em >>> (k + 1)).roundBit = (em.mantissa / 2 ^ k % 2 != 0) := by
  show ((em >>> k).mantissa % 2 != 0) = _
  rw [mantissa_shiftRight]

/-- Shifting out zeros keeps a mantissa exact. -/
theorem shiftRight_exact (m k : Nat) :
    ExtendedMantissa.ofMantissaAndAccuracy (m * 2 ^ k) .exact >>> k =
      ExtendedMantissa.ofMantissaAndAccuracy m .exact := by
  induction k generalizing m with
  | zero =>
    rw [Nat.pow_zero, Nat.mul_one]
    rfl
  | succ k ih =>
    show (ExtendedMantissa.ofMantissaAndAccuracy (m * 2 ^ (k + 1)) .exact >>> k).shiftRightOne = _
    have hm : m * 2 ^ (k + 1) = m * 2 * 2 ^ k := by
      rw [Nat.pow_succ, Nat.mul_comm (2 ^ k), Nat.mul_assoc]
    rw [hm, ih]
    simp [ExtendedMantissa.ofMantissaAndAccuracy, ExtendedMantissa.shiftRightOne]

/-- A mantissa is rounded up only if the bit behind it is set. -/
theorem roundedMantissa_cases (em : ExtendedMantissa) :
    em.roundedMantissa = em.mantissa ∨
      em.roundedMantissa = em.mantissa + 1 ∧ em.roundBit = true := by
  obtain ⟨m, round, sticky⟩ := em
  cases round with
  | false => cases sticky <;> exact Or.inl rfl
  | true =>
    cases sticky with
    | true => exact Or.inr ⟨rfl, rfl⟩
    | false =>
      -- A tie goes to the even one of two neighbours.
      show m + m % 2 = m ∨ m + m % 2 = m + 1 ∧ true = true
      obtain hm | hm := Nat.mod_two_eq_zero_or_one m
      · exact Or.inl (by rw [hm, Nat.add_zero])
      · exact Or.inr ⟨by rw [hm], rfl⟩

theorem targetExponent_of_mul_le {m k : Nat} {e : Int} (hleast : 2 ^ 52 * 2 ^ k ≤ m)
    (hlimit : m < 2 ^ 53 * 2 ^ k) (he : -1074 ≤ e + k) :
    Format.binary64.targetExponent (totalExponent m e) = e + k := by
  have hpos : m ≠ 0 := by
    have := Nat.two_pow_pos k
    omega
  have hlog : m.log2 = 52 + k := by
    rw [Nat.log2_eq_iff hpos]
    rw [← Nat.pow_add] at hleast hlimit
    exact ⟨hleast, by rwa [show 52 + k + 1 = 53 + k by omega]⟩
  have hbits : (Format.binary64.mantissaBits : Int) = 53 := rfl
  have hmin : Format.binary64.minExponent = -1074 := rfl
  rw [Format.targetExponent, totalExponent, hlog, hbits, hmin]
  omega

theorem shiftToTargetExponent_eq {m k : Nat} {e : Int} {a : Accuracy} (hleast : 2 ^ 52 * 2 ^ k ≤ m)
    (hlimit : m < 2 ^ 53 * 2 ^ k) (he : -1074 ≤ e + k) :
    shiftToTargetExponent .binary64 m e a =
      (ExtendedMantissa.ofMantissaAndAccuracy m a >>> k, e + k) := by
  rw [shiftToTargetExponent, targetExponent_of_mul_le hleast hlimit he]
  have hshift : (e + k - e).toNat = k := by omega
  simp only [shiftToExponent, hshift]

theorem shiftToTargetExponent_of_isNormal {m : Nat} {e : Int} (h : IsNormal m e) :
    shiftToTargetExponent .binary64 m e .exact =
      (ExtendedMantissa.ofMantissaAndAccuracy m .exact, e) := by
  have hshift := shiftToTargetExponent_eq (k := 0) (a := .exact) (m := m) (e := e)
    (by simpa using h.least) (by simpa using h.limit) (by simpa using h.exponent)
  rw [hshift]
  simp
  rfl

/-- Rounding is done in two steps: the mantissa is cut to its length and rounded, and cut again
    where it has become too long by that. -/
theorem roundWithAccuracy_eq {spec : Format} {m : Nat} {e e₁ e₂ : Int} {a : Accuracy}
    {em₁ em₂ : ExtendedMantissa} (hfirst : shiftToTargetExponent spec m e a = (em₁, e₁))
    (hsecond : shiftToTargetExponent spec em₁.roundedMantissa e₁ .exact = (em₂, e₂))
    (hpos : 0 < em₂.mantissa) (s : Sign) :
    roundWithAccuracy spec s m e a = .finite s em₂.mantissa e₂ hpos := by
  simp only [roundWithAccuracy, hfirst, hsecond]
  exact dif_neg (Nat.ne_of_gt hpos)

/-- Where only zeros are cut off, rounding changes nothing. -/
theorem roundWithAccuracy_exact {m k : Nat} {e e' : Int} (h : IsNormal m e') (he : e' = e + k)
    (s : Sign) : roundWithAccuracy .binary64 s (m * 2 ^ k) e .exact = .finite s m e' h.pos := by
  subst he
  have hfirst : shiftToTargetExponent .binary64 (m * 2 ^ k) e .exact =
      (ExtendedMantissa.ofMantissaAndAccuracy m .exact, e + k) := by
    rw [shiftToTargetExponent_eq (Nat.mul_le_mul_right _ h.least)
      (Nat.mul_lt_mul_of_pos_right h.limit (Nat.two_pow_pos k)) h.exponent, shiftRight_exact]
  exact roundWithAccuracy_eq hfirst (shiftToTargetExponent_of_isNormal h) h.pos s

/-- A mantissa that is too long is cut, and rounded up only where the bit behind the cut is set.
    Where that makes it too long again, its exponent is one more. -/
theorem exists_roundWithAccuracy {m k : Nat} {e : Int} (hleast : 2 ^ 52 * 2 ^ (k + 1) ≤ m)
    (hlimit : m < 2 ^ 53 * 2 ^ (k + 1)) (he : -1074 ≤ e + (k + 1 : Nat)) (s : Sign) :
    ∃ m' e', ∃ h : IsNormal m' e',
      roundWithAccuracy .binary64 s m e .exact = .finite s m' e' h.pos ∧
      (e' = e + (k + 1 : Nat) ∨
        e' = e + (k + 1 : Nat) + 1 ∧ (2 ^ 54 - 1) * 2 ^ k ≤ m) := by
  have hfirst := shiftToTargetExponent_eq (a := .exact) hleast hlimit he
  obtain ⟨em, hem⟩ : ∃ em, ExtendedMantissa.ofMantissaAndAccuracy m .exact >>> (k + 1) = em :=
    ⟨_, rfl⟩
  have hmantissa : em.mantissa = m / 2 ^ (k + 1) := hem ▸ mantissa_shiftRight _ (k + 1)
  have hbit : em.roundBit = (m / 2 ^ k % 2 != 0) := hem ▸ roundBit_shiftRight _ k
  have hcases := roundedMantissa_cases em
  rw [hem] at hfirst
  have hlow : 2 ^ 52 ≤ em.mantissa := by
    rw [hmantissa]
    exact (Nat.le_div_iff_mul_le (Nat.two_pow_pos _)).2 hleast
  have hhigh : em.mantissa < 2 ^ 53 := by
    rw [hmantissa]
    exact (Nat.div_lt_iff_lt_mul (Nat.two_pow_pos _)).2 hlimit
  by_cases hfits : em.roundedMantissa < 2 ^ 53
  · have hnormal : IsNormal em.roundedMantissa (e + (k + 1 : Nat)) := ⟨by omega, hfits, he⟩
    exact ⟨_, _, hnormal, roundWithAccuracy_eq hfirst (shiftToTargetExponent_of_isNormal hnormal)
      hnormal.pos s, Or.inl rfl⟩
  · obtain hsame | ⟨hnext, hset⟩ := hcases
    · omega
    have hrounded : em.roundedMantissa = 2 ^ 53 := by omega
    have hnormal : IsNormal (2 ^ 52) (e + (k + 1 : Nat) + 1) := ⟨by omega, by omega, by omega⟩
    have hsecond : shiftToTargetExponent .binary64 em.roundedMantissa (e + (k + 1 : Nat)) .exact =
        (ExtendedMantissa.ofMantissaAndAccuracy (2 ^ 52) .exact, e + (k + 1 : Nat) + 1) := by
      rw [hrounded, shiftToTargetExponent_eq (k := 1) (by omega) (by omega) (by omega)]
      exact congrArg (·, _) (shiftRight_exact (2 ^ 52) 1)
    refine ⟨_, _, hnormal, roundWithAccuracy_eq hfirst hsecond hnormal.pos s, Or.inr ⟨rfl, ?_⟩⟩
    -- All bits up to the one behind the cut are set.
    have hodd : m / 2 ^ k % 2 ≠ 0 := by simpa [hbit] using hset
    rw [Nat.pow_succ, ← Nat.div_div_eq_div_mul] at hmantissa
    exact (Nat.le_div_iff_mul_le (Nat.two_pow_pos k)).1 (by omega)

/-! ## Integers -/

/-- A natural number of at most 53 bits fills a mantissa with zeros behind it. -/
theorem isNormal_of_lt {n : Nat} (hpos : 0 < n) (h : n < 2 ^ 53) :
    IsNormal (n * 2 ^ (52 - n.log2)) (-(52 - n.log2 : Nat)) := by
  have hlog := (Nat.log2_eq_iff (Nat.ne_of_gt hpos)).1 rfl
  have hsmall : n.log2 < 53 := (Nat.log2_lt (Nat.ne_of_gt hpos)).2 h
  have hlow := Nat.mul_le_mul_right (2 ^ (52 - n.log2)) hlog.1
  have hhigh := Nat.mul_lt_mul_of_pos_right hlog.2 (Nat.two_pow_pos (52 - n.log2))
  rw [← Nat.pow_add] at hlow hhigh
  exact ⟨by rwa [show n.log2 + (52 - n.log2) = 52 by omega] at hlow,
    by rwa [show n.log2 + 1 + (52 - n.log2) = 53 by omega] at hhigh, by omega⟩

/-- A short natural number is not rounded. -/
theorem unpack_toFloat_toUInt64 {n : Nat} (hpos : 0 < n) (h : n < 2 ^ 53) :
    n.toUInt64.toFloat.toModel.unpack =
      .finite .positive (n * 2 ^ (52 - n.log2)) (-(52 - n.log2 : Nat))
        (isNormal_of_lt hpos h).pos := by
  have hnormal := isNormal_of_lt hpos h
  have hround : UnpackedFloat.round .binary64 .positive n 0 =
      .finite .positive (n * 2 ^ (52 - n.log2)) (-(52 - n.log2 : Nat)) hnormal.pos := by
    have htarget : Format.binary64.targetExponent (totalExponent n 0) = -(52 - n.log2 : Nat) := by
      have hsmall : n.log2 < 53 := (Nat.log2_lt (Nat.ne_of_gt hpos)).2 h
      have hbits : (Format.binary64.mantissaBits : Int) = 53 := rfl
      have hmin : Format.binary64.minExponent = -1074 := rfl
      rw [Format.targetExponent, totalExponent, hbits, hmin]
      omega
    simp only [UnpackedFloat.round, htarget, decreaseExponent, Int.zero_sub, Int.neg_neg,
      Int.toNat_natCast, Nat.shiftLeft_eq]
    simpa using roundWithAccuracy_exact (k := 0) hnormal (Int.add_zero _).symm .positive
  have hmodel : Float.Model.ofUInt64 n.toUInt64 =
      Float.Model.pack (UnpackedFloat.round .binary64 .positive n 0) := by
    have hn : n.toUInt64.toNat = n := by
      show n % 2 ^ 64 = n
      omega
    have hcompare : compare (n : Int) 0 = .gt := Int.compare_eq_gt.2 (by omega)
    simp only [Float.Model.ofUInt64, UnpackedFloat.ofUInt64, UnpackedFloat.ofNat,
      UnpackedFloat.ofInt, UnpackedFloat.normalize, hn, hcompare, Int.toNat_natCast]
  show (Float.Model.ofUInt64 n.toUInt64).unpack = _
  rw [hmodel, hround]
  exact unpack_pack_of_isNormal hnormal .positive (by omega)

/-- The magnitude that rounds to an infinity has 54 bits that are set, and no others. The number
    of the other bits is a variable, so that no power is ever computed. -/
theorem exists_overflowBound_eq : ∃ l, l = 970 ∧ overflowBound = (2 ^ 54 - 1) * 2 ^ l := by
  have hpow : ∀ k l m, m = k + l → Nat.pow 2 m - Nat.pow 2 l = (2 ^ k - 1) * 2 ^ l := by
    rintro k l m rfl
    rw [Nat.sub_mul, ← Nat.pow_add, Nat.one_mul]
    rfl
  refine ⟨970, rfl, ?_⟩
  unfold overflowBound
  generalize hbits : (1024 : Nat) = bits
  have hbits : bits = 54 + 970 := hbits.symm
  generalize (970 : Nat) = l at *
  exact hpow 54 l bits hbits

theorem log2_lt_of_lt_overflowBound {n : Nat} (hpos : 0 < n) (h : n < overflowBound) :
    n.log2 < 1024 := by
  obtain ⟨l, hl, hbound⟩ := exists_overflowBound_eq
  have hlimit : n < 2 ^ (54 + l) := by
    calc n < (2 ^ 54 - 1) * 2 ^ l := hbound ▸ h
      _ ≤ 2 ^ 54 * 2 ^ l := Nat.mul_le_mul_right _ (Nat.sub_le _ _)
      _ = 2 ^ (54 + l) := (Nat.pow_add 2 54 l).symm
  have hlog := (Nat.log2_lt (Nat.ne_of_gt hpos)).2 hlimit
  omega

/-- A number whose leading 54 bits are all set is below the bound only where it is short enough. -/
theorem lt_of_lt_overflowBound {n k : Nat} (h : n < overflowBound)
    (hset : (2 ^ 54 - 1) * 2 ^ k ≤ n * 2 ^ 53) : k < 1023 := by
  obtain ⟨l, hl, hbound⟩ := exists_overflowBound_eq
  rw [hbound] at h
  refine Nat.lt_of_not_le fun hk => Nat.not_le_of_lt h ?_
  refine Nat.le_of_mul_le_mul_right ?_ (Nat.two_pow_pos 53)
  calc (2 ^ 54 - 1) * 2 ^ l * 2 ^ 53
      = (2 ^ 54 - 1) * 2 ^ (l + 53) := by rw [Nat.mul_assoc, Nat.pow_add]
    _ ≤ (2 ^ 54 - 1) * 2 ^ k :=
      Nat.mul_le_mul_left _ (Nat.pow_le_pow_right (by decide) (by omega))
    _ ≤ n * 2 ^ 53 := hset

/-- A short natural number is multiplied by one, in the place of a power of ten. -/
theorem mul_one_of_isNormal {m : Nat} {e : Int} (h : IsNormal m e) :
    UnpackedFloat.mul .binary64 (.finite .positive m e h.pos)
      (Float.ofBits 0x3FF0000000000000).toModel.unpack = .finite .positive m e h.pos := by
  have hone : (Float.ofBits 0x3FF0000000000000).toModel.unpack =
      .finite .positive (2 ^ 52) (-52) (by decide) := by rfl
  rw [hone]
  exact roundWithAccuracy_exact (k := 52) (e := e + -52) h (by omega) .positive

/-- A long one is rounded as it stands. -/
theorem ofScientific_zero {n : Nat} (hpos : 0 < n) :
    UnpackedFloat.ofScientific .binary64 n 0 =
      roundWithAccuracy .binary64 .positive (n <<< 53) (-53) .exact := by
  rw [UnpackedFloat.ofScientific, dif_neg (Nat.ne_of_gt hpos)]
  split
  · rename_i hlarge
    exact absurd hlarge (by decide)
  · split
    · rename_i hsmall
      have hsmall : (0 : Int) < -(2048 + n.log2) := hsmall
      omega
    · rw [if_pos (Int.le_refl 0)]
      simp only [UnpackedFloat.mul]
      show roundWithAccuracy .binary64 .positive (n <<< 53 * 10 ^ 0) (-53 + 0) .exact = _
      rw [Nat.pow_zero, Nat.mul_one, Int.add_zero]

/-- The double of a natural number is a whole number: its exponent is not negative, or stands for
    zeros at the end of its mantissa. -/
theorem exists_unpack_ofNat {n : Nat} (hpos : 0 < n) (h : n < overflowBound) :
    ∃ m e, ∃ hnormal : IsNormal m e, e ≤ 971 ∧
      (Float.ofNat n).toModel.unpack = .finite .positive m e hnormal.pos ∧
      (0 ≤ e ∨ m % 2 ^ (-e).toNat = 0) := by
  show ∃ m e, ∃ hnormal : IsNormal m e, e ≤ 971 ∧
      (Float.ofScientific n false 0).toModel.unpack = .finite .positive m e hnormal.pos ∧
      (0 ≤ e ∨ m % 2 ^ (-e).toNat = 0)
  unfold Float.ofScientific
  split
  · rename_i hshort
    have hnormal := isNormal_of_lt hpos hshort.1
    refine ⟨_, _, hnormal, by omega, ?_, Or.inr ?_⟩
    · show UnpackedFloat.unpack .binary64 (UnpackedFloat.pack .binary64
        (UnpackedFloat.mul .binary64 n.toUInt64.toFloat.toModel.unpack
          (Float.ofBits 0x3FF0000000000000).toModel.unpack)) = _
      rw [unpack_toFloat_toUInt64 hpos hshort.1, mul_one_of_isNormal hnormal]
      exact unpack_pack_of_isNormal hnormal .positive (by omega)
    · rw [Int.neg_neg, Int.toNat_natCast]
      exact Nat.mul_mod_left n _
  · rename_i hlong
    have hlong : 2 ^ 53 ≤ n := by omega
    have hlog := (Nat.log2_eq_iff (Nat.ne_of_gt hpos)).1 rfl
    have hmany : 53 ≤ n.log2 := (Nat.le_log2 (Nat.ne_of_gt hpos)).2 hlong
    have hfew := log2_lt_of_lt_overflowBound hpos h
    have hleast : 2 ^ 52 * 2 ^ (n.log2 + 1) ≤ n <<< 53 := by
      rw [Nat.shiftLeft_eq, Nat.pow_succ]
      omega
    have hlimit : n <<< 53 < 2 ^ 53 * 2 ^ (n.log2 + 1) := by
      rw [Nat.shiftLeft_eq]
      omega
    obtain ⟨m, e, hnormal, hround, hexponent⟩ :=
      exists_roundWithAccuracy hleast hlimit (e := -53) (by omega) .positive
    have he : e ≤ 971 := by
      obtain rfl | ⟨rfl, hset⟩ := hexponent
      · omega
      · rw [Nat.shiftLeft_eq] at hset
        have hshort := lt_of_lt_overflowBound h hset
        omega
    refine ⟨m, e, hnormal, he, ?_, Or.inl (by omega)⟩
    show UnpackedFloat.unpack .binary64 (UnpackedFloat.pack .binary64
      (UnpackedFloat.ofScientific .binary64 n 0)) = _
    rw [ofScientific_zero hpos, hround]
    exact unpack_pack_of_isNormal hnormal .positive he

/-! ## Whole numbers -/

/-- An integer of a sign and a magnitude. -/
def signed (negative : Bool) (magnitude : Nat) : Int :=
  if negative then -magnitude else magnitude

@[simp] theorem natAbs_signed (negative : Bool) (magnitude : Nat) :
    (signed negative magnitude).natAbs = magnitude := by
  cases negative <;> simp [signed]

/-- A finite double is a whole number when its exponent is not negative, or stands for zeros at the
    end of its mantissa. -/
theorem toInt?_of_parts {x : Float} {negative : Bool} {m : Nat} {e : Int}
    (h : parts x = .finite negative m e) :
    toInt? x =
      if 0 ≤ e then some (signed negative (m * 2 ^ e.toNat))
      else if m % 2 ^ (-e).toNat = 0 then some (signed negative (m / 2 ^ (-e).toNat))
      else none := by
  unfold toInt?
  rw [h]
  dsimp only
  by_cases he : 0 ≤ e
  · rw [if_pos he, if_pos he]
    rfl
  · rw [if_neg he, if_neg he]
    by_cases hzeros : m % 2 ^ (-e).toNat = 0
    · have hpow : m % Nat.pow 2 (-e).toNat = 0 := hzeros
      rw [if_pos hpow, if_pos hzeros]
      rfl
    · have hpow : ¬m % Nat.pow 2 (-e).toNat = 0 := hzeros
      rw [if_neg hpow, if_neg hzeros]
      rfl

theorem isSome_toInt? {x : Float} {negative : Bool} {m : Nat} {e : Int}
    (h : parts x = .finite negative m e) (hwhole : 0 ≤ e ∨ m % 2 ^ (-e).toNat = 0) :
    (toInt? x).isSome = true := by
  rw [toInt?_of_parts h]
  by_cases he : 0 ≤ e
  · rw [if_pos he]
    rfl
  · rw [if_neg he, if_pos (hwhole.resolve_left he)]
    rfl

/-- The double of an integer in the range of doubles is a whole number. -/
theorem isSome_toInt?_ofInt {n : Int} (h : n.natAbs < overflowBound) :
    (toInt? (ofInt n)).isSome = true := by
  cases n with
  | ofNat n =>
    cases n with
    | zero => decide +kernel
    | succ n =>
      obtain ⟨m, e, hnormal, -, hunpack, hwhole⟩ := exists_unpack_ofNat (Nat.succ_pos n) h
      exact isSome_toInt? (parts_of_unpack hunpack) hwhole
  | negSucc n =>
    obtain ⟨m, e, hnormal, he, hunpack, hwhole⟩ := exists_unpack_ofNat (Nat.succ_pos n) h
    have hneg : (ofInt (.negSucc n)).toModel.unpack = .finite .negative m e hnormal.pos := by
      show UnpackedFloat.unpack .binary64 (UnpackedFloat.pack .binary64
        (Float.ofNat (n + 1)).toModel.unpack.neg) = _
      rw [hunpack]
      exact unpack_pack_of_isNormal hnormal .negative he
    exact isSome_toInt? (parts_of_unpack hneg) hwhole

/-! ## The range of doubles -/

/-- The mantissa and the exponent of a finite double: above the least exponent, the mantissa has
    its leading bit. -/
structure IsFinite (m : Nat) (e : Int) : Prop where
  limit : m < 2 ^ 53
  least : -1074 ≤ e
  greatest : e ≤ 971
  normal : -1074 < e → 2 ^ 52 ≤ m

theorem isFinite_of_parts {x : Float} {negative : Bool} {m : Nat} {e : Int}
    (h : parts x = .finite negative m e) : IsFinite m e := by
  unfold parts Parts.ofBits at h
  have hscale : ((x.toBits >>> 52) &&& 0x7FF).toNat ≤ 0x7FF := by
    rw [UInt64.toNat_and]
    exact Nat.and_le_right
  have hmantissa : (x.toBits &&& 0xFFFFFFFFFFFFF).toNat ≤ 0xFFFFFFFFFFFFF := by
    rw [UInt64.toNat_and]
    exact Nat.and_le_right
  generalize ((x.toBits >>> 52) &&& 0x7FF).toNat = scale at h hscale
  generalize (x.toBits &&& 0xFFFFFFFFFFFFF).toNat = mantissa at h hmantissa
  dsimp only at h
  split at h
  · split at h <;> exact nomatch h
  · split at h
    · obtain ⟨-, rfl, rfl⟩ := Parts.finite.inj h
      exact ⟨by omega, by omega, by omega, by omega⟩
    · obtain ⟨-, rfl, rfl⟩ := Parts.finite.inj h
      have hpow : Nat.pow 2 52 = 4503599627370496 := rfl
      exact ⟨by omega, by omega, by omega, by omega⟩

/-- A whole number that is a double is below the magnitude that rounds to an infinity. -/
theorem natAbs_toInt?_lt {x : Float} {n : Int} (h : toInt? x = some n) :
    n.natAbs < overflowBound := by
  cases hparts : parts x with
  | nan => simp [toInt?, hparts] at h
  | infinite negative => simp [toInt?, hparts] at h
  | finite negative m e =>
    have hfinite := isFinite_of_parts hparts
    have hm := hfinite.limit
    obtain ⟨l, hl, hbound⟩ := exists_overflowBound_eq
    rw [toInt?_of_parts hparts] at h
    rw [hbound]
    split at h
    · have hpow : 2 ^ e.toNat ≤ 2 ^ (1 + l) := by
        have hgreatest := hfinite.greatest
        exact Nat.pow_le_pow_right (by decide) (by omega)
      rw [← Option.some.inj h, natAbs_signed]
      calc m * 2 ^ e.toNat ≤ m * 2 ^ (1 + l) := Nat.mul_le_mul_left m hpow
        _ = m * 2 * 2 ^ l := by rw [Nat.pow_add, Nat.pow_one, Nat.mul_assoc]
        _ < (2 ^ 54 - 1) * 2 ^ l :=
          Nat.mul_lt_mul_of_pos_right (by omega) (Nat.two_pow_pos l)
    · split at h
      · rw [← Option.some.inj h, natAbs_signed]
        calc m / 2 ^ (-e).toNat ≤ m := Nat.div_le_self _ _
          _ < 2 ^ 54 - 1 := by omega
          _ ≤ (2 ^ 54 - 1) * 2 ^ l := Nat.le_mul_of_pos_right _ (Nat.two_pow_pos l)
      · exact nomatch h

end DecisionFlow.Number
