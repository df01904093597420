import DecisionFlow.Number.Double

set_option autoImplicit false

/-! # Doubles that are numbers

Of two doubles that are numbers, the one is not greater than the other unless the other is less
than the one; with a double that is no number this is wrong. A double made of an integer is a
number, and so is what arithmetic makes of numbers, but for a few operations on infinities and
zeros. Numbers equal themselves, equality is transitive, in either order two doubles are equal or
not and equally far apart, and from itself a double is at no distance when it is finite, and at none
that is a number else. -/

namespace DecisionFlow.Number

open Float.Model UnpackedFloat

/-! ## Packing -/

/-- Bits stand for a number unless the exponent is all ones and the mantissa is not zero. -/
theorem isNaN_unpack {spec : Format} {b : BitVec spec.numBits}
    (h : unpackExponent b = -1#_ → unpackMantissa b = 0#_) :
    (UnpackedFloat.unpack spec b).isNaN = false := by
  unfold UnpackedFloat.unpack
  dsimp only
  by_cases hones : unpackExponent b = -1#_
  · rw [if_pos hones, if_pos (h hones)]
    rfl
  · rw [if_neg hones]
    by_cases hzero : unpackExponent b = 0#_
    · rw [if_pos hzero]
      by_cases hmantissa : unpackMantissa b = 0#_
      · rw [dif_pos hmantissa]
        rfl
      · rw [dif_neg hmantissa]
        rfl
    · rw [if_neg hzero]
      rfl

theorem isNaN_unpack_packComponents {spec : Format} {s : Sign} {e : BitVec spec.exponentBits}
    {m : BitVec spec.mantissaBitsWithoutImplicit} (h : e = -1#_ → m = 0#_) :
    (UnpackedFloat.unpack spec (packComponents spec s e m)).isNaN = false := by
  refine isNaN_unpack fun hones => ?_
  rw [unpackExponent_packComponents] at hones
  rw [unpackMantissa_packComponents, h hones]

/-- A number is packed into bits that stand for a number. -/
theorem isNaN_unpack_pack {spec : Format} {u : UnpackedFloat} (h : u.isNaN = false) :
    (UnpackedFloat.unpack spec (UnpackedFloat.pack spec u)).isNaN = false := by
  fun_cases UnpackedFloat.pack with
  | case1 => exact nomatch h
  | case2 s => exact isNaN_unpack_packComponents fun _ => rfl
  | case3 s => exact isNaN_unpack_packComponents fun _ => rfl
  | case4 s m e hm biasedExponent _ => exact isNaN_unpack_packComponents fun _ => rfl
  | case5 s m e hm actualMantissaBits biasedExponent hfits _ =>
    -- A normal number has room for its exponent below all ones.
    refine isNaN_unpack_packComponents fun he => ?_
    have hvalue := congrArg BitVec.toNat he
    simp only [BitVec.toNat_ofNat, BitVec.neg_one_eq_allOnes, BitVec.toNat_allOnes] at hvalue
    rw [Nat.mod_eq_of_lt (by omega)] at hvalue
    omega
  | case6 s m e hm actualMantissaBits biasedExponent _ _ =>
    refine isNaN_unpack_packComponents fun he => ?_
    have hbits := Nat.one_lt_two_pow_iff.2 (Nat.pos_iff_ne_zero.1 spec.he)
    have hvalue := congrArg BitVec.toNat he
    simp only [BitVec.toNat_zero, BitVec.neg_one_eq_allOnes, BitVec.toNat_allOnes] at hvalue
    omega

/-! ## Arithmetic -/

theorem isNaN_roundWithAccuracy (spec : Format) (s : Sign) (m : Nat) (e : Int) (a : Accuracy) :
    (roundWithAccuracy spec s m e a).isNaN = false := by
  fun_cases roundWithAccuracy <;> rfl

theorem isNaN_normalize (spec : Format) (m : Int) (e : Int) (s : Sign) :
    (UnpackedFloat.normalize spec m e s).isNaN = false := by
  unfold UnpackedFloat.normalize
  split
  · exact isNaN_roundWithAccuracy ..
  · rfl
  · exact isNaN_roundWithAccuracy ..

theorem isNaN_ofScientific (spec : Format) (m : Nat) (e : Int) :
    (UnpackedFloat.ofScientific spec m e).isNaN = false := by
  fun_cases UnpackedFloat.ofScientific with
  | case1 => rfl
  | case2 => rfl
  | case3 => rfl
  | case4 => exact isNaN_roundWithAccuracy ..
  | case5 => exact isNaN_roundWithAccuracy ..

/-- A finite number plus a number is a number. -/
theorem isNaN_add {x y : Float} (hx : x.isFinite = true) (hy : y.isNaN = false) :
    (x + y).isNaN = false := by
  refine isNaN_unpack_pack (u := UnpackedFloat.add _ x.toModel.unpack y.toModel.unpack) ?_
  have hu : x.toModel.unpack.isFinite = true := hx
  have hv : y.toModel.unpack.isNaN = false := hy
  generalize x.toModel.unpack = u at hu
  generalize y.toModel.unpack = v at hv
  cases u with
  | notANumber => exact nomatch hu
  | infinity s => exact nomatch hu
  | zero s =>
    cases v with
    | zero t => cases s <;> cases t <;> rfl
    | notANumber => exact hv
    | _ => rfl
  | finite s m e hm =>
    cases v with
    | finite t n f hn => exact isNaN_normalize ..
    | notANumber => exact hv
    | _ => rfl

/-- A finite number other than zero has a sign, a mantissa and an exponent. -/
theorem exists_finite {x : Float} (hx : x.isFinite = true) (hzero : (x == 0.0) = false) :
    ∃ s m e hm, x.toModel.unpack = .finite s m e hm := by
  have hu : x.toModel.unpack.isFinite = true := hx
  have huzero : x.toModel.unpack.beq (.zero .positive) = false := hzero
  generalize x.toModel.unpack = u at hu huzero
  cases u with
  | notANumber => exact nomatch hu
  | infinity s => exact nomatch hu
  | zero s => exact nomatch huzero
  | finite s m e hm => exact ⟨s, m, e, hm, rfl⟩

/-- A number times a finite number other than zero is a number. -/
theorem isNaN_mul {x y : Float} (hx : x.isNaN = false) (hy : y.isFinite = true)
    (hzero : (y == 0.0) = false) : (x * y).isNaN = false := by
  refine isNaN_unpack_pack (u := UnpackedFloat.mul _ x.toModel.unpack y.toModel.unpack) ?_
  have hu : x.toModel.unpack.isNaN = false := hx
  generalize x.toModel.unpack = u at hu
  obtain ⟨t, n, f, hn, hv⟩ := exists_finite hy hzero
  rw [hv]
  cases u with
  | finite s m e hm => exact isNaN_roundWithAccuracy ..
  | notANumber => exact hu
  | _ => rfl

/-- A number by a finite number other than zero is a number. -/
theorem isNaN_div {x y : Float} (hx : x.isNaN = false) (hy : y.isFinite = true)
    (hzero : (y == 0.0) = false) : (x / y).isNaN = false := by
  refine isNaN_unpack_pack (u := UnpackedFloat.div _ x.toModel.unpack y.toModel.unpack) ?_
  have hu : x.toModel.unpack.isNaN = false := hx
  generalize x.toModel.unpack = u at hu
  obtain ⟨t, n, f, hn, hv⟩ := exists_finite hy hzero
  rw [hv]
  cases u with
  | finite s m e hm => exact isNaN_roundWithAccuracy ..
  | notANumber => exact hu
  | _ => rfl

theorem isNaN_neg {x : Float} (hx : x.isNaN = false) : (-x).isNaN = false := by
  refine isNaN_unpack_pack (u := x.toModel.unpack.neg) ?_
  have hu : x.toModel.unpack.isNaN = false := hx
  generalize x.toModel.unpack = u at hu
  cases u with
  | notANumber => exact nomatch hu
  | _ => rfl

/-! ## Integers -/

theorem isNaN_ofNat (n : Nat) : (Float.ofNat n).isNaN = false := by
  have hscientific : (Float.ofScientific n false 0).isNaN = false := by
    unfold Float.ofScientific
    split
    · -- A natural number of few bits is multiplied by one, in the place of a power of ten.
      refine isNaN_mul (y := Float.ofBits 0x3FF0000000000000) ?_ (by decide +kernel)
        (by decide +kernel)
      exact isNaN_unpack_pack (isNaN_normalize ..)
    · exact isNaN_unpack_pack (isNaN_ofScientific ..)
  exact hscientific

/-- The double of an integer is a number. -/
theorem isNaN_ofInt (n : Int) : (ofInt n).isNaN = false := by
  rw [ofInt]
  cases n with
  | ofNat n => exact isNaN_ofNat n
  | negSucc n => exact isNaN_neg (isNaN_ofNat (n + 1))

/-! ## Order -/

theorem lt_iff_compare {x y : Float} : x < y ↔ x.toModel.compare y.toModel = some .lt := by
  have hlt : x < y ↔ decide (x.toModel < y.toModel) = true := Iff.rfl
  rw [hlt, decide_eq_true_iff]
  exact beq_iff_eq

theorem le_iff_compare {x y : Float} :
    x ≤ y ↔ ∃ o, x.toModel.compare y.toModel = some o ∧ o.isLE = true := by
  have hle : x ≤ y ↔ decide (x.toModel ≤ y.toModel) = true := Iff.rfl
  rw [hle, decide_eq_true_iff, ← Option.any_eq_true]
  exact Iff.rfl

theorem swap_compare (x y : Float) :
    y.toModel.compare x.toModel = (x.toModel.compare y.toModel).map Ordering.swap := by
  rw [Float.Model.compare, Float.Model.compare]
  generalize x.toModel.unpack = u
  generalize y.toModel.unpack = v
  rcases u with (_ | _) | _ | (_ | _) | ⟨_ | _, m, e, hm⟩ <;>
    rcases v with (_ | _) | _ | (_ | _) | ⟨_ | _, n, f, hn⟩ <;> try rfl
  -- What is left are two finite numbers of one sign.
  case finite.positive.finite.positive =>
    show some ((Ord.compare f e).then (Ord.compare n m)) =
      some ((Ord.compare e f).then (Ord.compare m n)).swap
    rw [Ordering.swap_then, ← Std.OrientedCmp.eq_swap, ← Std.OrientedCmp.eq_swap]
  case finite.negative.finite.negative =>
    show some ((Ord.compare f e).then (Ord.compare n m)).swap =
      some ((Ord.compare e f).then (Ord.compare m n)).swap.swap
    rw [Ordering.swap_swap, Ordering.swap_then, ← Std.OrientedCmp.eq_swap,
      ← Std.OrientedCmp.eq_swap]

/-- Two numbers are comparable, and nothing else is. -/
theorem isSome_compare (x y : Float) :
    (x.toModel.compare y.toModel).isSome = (!x.isNaN && !y.isNaN) := by
  rw [Float.Model.compare, Float.isNaN, Float.isNaN, Float.Model.isNaN, Float.Model.isNaN]
  generalize x.toModel.unpack = u
  generalize y.toModel.unpack = v
  rcases u with (_ | _) | _ | (_ | _) | ⟨_ | _, m, e, hm⟩ <;>
    rcases v with (_ | _) | _ | (_ | _) | ⟨_ | _, n, f, hn⟩ <;> rfl

/-- Of two numbers, one that is not less than the other is at least as great. -/
theorem le_of_not_lt {x y : Float} (hx : x.isNaN = false) (hy : y.isNaN = false) (h : ¬x < y) :
    y ≤ x := by
  have hsome := isSome_compare x y
  rw [hx, hy] at hsome
  obtain ⟨o, ho⟩ := Option.isSome_iff_exists.1 hsome
  rw [lt_iff_compare, ho] at h
  rw [le_iff_compare, swap_compare x y, ho]
  cases o with
  | lt => exact absurd rfl h
  | eq => exact ⟨.eq, rfl, rfl⟩
  | gt => exact ⟨.lt, rfl, rfl⟩

/-- What compares is a number. -/
theorem isNaN_of_le {x y : Float} (h : x ≤ y) : x.isNaN = false ∧ y.isNaN = false := by
  obtain ⟨o, ho, _⟩ := le_iff_compare.1 h
  have hsome := isSome_compare x y
  rw [ho] at hsome
  simpa using hsome

/-- What is less is not greater. -/
theorem le_of_lt {x y : Float} (h : x < y) : x ≤ y :=
  le_iff_compare.2 ⟨.lt, lt_iff_compare.1 h, rfl⟩

/-- What is finite is a number. -/
theorem isNaN_of_isFinite {x : Float} (h : x.isFinite = true) : x.isNaN = false := by
  have hu : x.toModel.unpack.isFinite = true := h
  rw [Float.isNaN, Float.Model.isNaN]
  generalize x.toModel.unpack = u at hu
  cases u with
  | notANumber => exact nomatch hu
  | _ => rfl

/-! ## Equality -/

theorem beq_eq_compare (x y : Float) : (x == y) = (x.toModel.compare y.toModel == some .eq) := rfl

/-- Whether two doubles are equal does not depend on their order. -/
theorem beq_comm (x y : Float) : (x == y) = (y == x) := by
  rw [beq_eq_compare, beq_eq_compare, swap_compare x y]
  cases x.toModel.compare y.toModel with
  | none => rfl
  | some o => cases o <;> rfl

/-- Numbers equal themselves, and nothing else does. -/
theorem beq_self (x : Float) : (x == x) = !x.isNaN := by
  have hsome := isSome_compare x x
  have hswap := swap_compare x x
  rw [beq_eq_compare]
  cases hcompare : x.toModel.compare x.toModel with
  | none =>
    rw [hcompare] at hsome
    simpa using hsome
  | some o =>
    rw [hcompare] at hsome hswap
    cases o with
    | eq => simpa using hsome
    | _ => exact nomatch hswap

/-- Two unpacked numbers are equal: they are the same, or zeros of any sign. -/
inductive Coincide : UnpackedFloat → UnpackedFloat → Prop where
  | zero (s t : Sign) : Coincide (.zero s) (.zero t)
  | infinity (s : Sign) : Coincide (.infinity s) (.infinity s)
  | finite (s : Sign) (m : Nat) (e : Int) (hm : 0 < m) :
    Coincide (.finite s m e hm) (.finite s m e hm)

theorem Coincide.trans {u v w : UnpackedFloat} (huv : Coincide u v) (hvw : Coincide v w) :
    Coincide u w := by
  cases huv with
  | zero s t =>
    cases hvw with
    | zero _ t' => exact .zero s t'
  | infinity s => exact hvw
  | finite s m e hm => exact hvw

theorem eq_of_then_compare {m n : Nat} {e f : Int}
    (h : (Ord.compare e f).then (Ord.compare m n) = .eq) : e = f ∧ m = n := by
  rw [Ordering.then_eq_eq, Int.compare_eq_eq, Nat.compare_eq_eq] at h
  exact h

theorem beq_iff_coincide {x y : Float} :
    (x == y) = true ↔ Coincide x.toModel.unpack y.toModel.unpack := by
  rw [beq_eq_compare, beq_iff_eq, Float.Model.compare]
  generalize x.toModel.unpack = u
  generalize y.toModel.unpack = v
  constructor
  · intro h
    rcases u with (_ | _) | _ | (_ | _) | ⟨_ | _, m, e, hm⟩ <;>
      rcases v with (_ | _) | _ | (_ | _) | ⟨_ | _, n, f, hn⟩ <;>
      first | exact .zero _ _ | exact .infinity _ | skip
    -- Finite numbers of one sign are equal when their parts are; all other pairs differ.
    case finite.positive.finite.positive =>
      obtain ⟨rfl, rfl⟩ := eq_of_then_compare (Option.some.inj h)
      exact .finite ..
    case finite.negative.finite.negative =>
      obtain ⟨rfl, rfl⟩ := eq_of_then_compare (Ordering.swap_eq_eq.1 (Option.some.inj h))
      exact .finite ..
    all_goals exact nomatch h
  · rintro (_ | s | ⟨s, m, e, hm⟩)
    · rfl
    · cases s <;> rfl
    · cases s
      · show some ((Ord.compare e e).then (Ord.compare m m)).swap = some .eq
        simp
      · show some ((Ord.compare e e).then (Ord.compare m m)) = some .eq
        simp

/-- What equals a double equals what the double equals. -/
theorem beq_trans {x y z : Float} (hxy : (x == y) = true) (hyz : (y == z) = true) :
    (x == z) = true :=
  beq_iff_coincide.2 ((beq_iff_coincide.1 hxy).trans (beq_iff_coincide.1 hyz))

/-! ## Differences -/

theorem abs_finite_congr {s t : Sign} {m n : Nat} {e f : Int} {hm : 0 < m} {hn : 0 < n}
    (hmn : m = n) (hef : e = f) : (finite s m e hm).abs = (finite t n f hn).abs := by
  subst hmn hef
  rfl

/-- The sign bit alone makes no difference to the magnitude that is unpacked. -/
theorem abs_unpack_congr {spec : Format} {b b' : BitVec spec.numBits}
    (he : unpackExponent b = unpackExponent b') (hm : unpackMantissa b = unpackMantissa b') :
    (UnpackedFloat.unpack spec b).abs = (UnpackedFloat.unpack spec b').abs := by
  unfold UnpackedFloat.unpack
  dsimp only
  by_cases hones : unpackExponent b' = -BitVec.ofNat _ 1
  · rw [if_pos (he.trans hones), if_pos hones, hm]
    split <;> rfl
  · rw [if_neg (he ▸ hones), if_neg hones]
    by_cases hzero : unpackExponent b' = BitVec.ofNat _ 0
    · rw [if_pos (he.trans hzero), if_pos hzero]
      by_cases hnone : unpackMantissa b' = BitVec.ofNat _ 0
      · rw [dif_pos (hm.trans hnone), dif_pos hnone]
        rfl
      · rw [dif_neg (hm ▸ hnone), dif_neg hnone]
        exact abs_finite_congr (by rw [hm]) (by rw [he])
    · rw [if_neg (he ▸ hzero), if_neg hzero]
      exact abs_finite_congr (by rw [hm]) (by rw [he])

theorem abs_unpack_packComponents (spec : Format) (s t : Sign) (e : BitVec spec.exponentBits)
    (m : BitVec spec.mantissaBitsWithoutImplicit) :
    (UnpackedFloat.unpack spec (packComponents spec s e m)).abs =
      (UnpackedFloat.unpack spec (packComponents spec t e m)).abs := by
  refine abs_unpack_congr ?_ ?_
  · rw [unpackExponent_packComponents, unpackExponent_packComponents]
  · rw [unpackMantissa_packComponents, unpackMantissa_packComponents]

/-- Numbers of one magnitude are packed into numbers of one magnitude. -/
theorem abs_unpack_pack (spec : Format) {u v : UnpackedFloat} (h : u.abs = v.abs) :
    (UnpackedFloat.unpack spec (UnpackedFloat.pack spec u)).abs =
      (UnpackedFloat.unpack spec (UnpackedFloat.pack spec v)).abs := by
  cases u with
  | notANumber =>
    cases v with
    | notANumber => rfl
    | _ => exact nomatch h
  | infinity s =>
    cases v with
    | infinity t => exact abs_unpack_packComponents spec s t _ _
    | _ => exact nomatch h
  | zero s =>
    cases v with
    | zero t => exact abs_unpack_packComponents spec s t _ _
    | _ => exact nomatch h
  | finite s m e hm =>
    cases v with
    | finite t n f hn =>
      obtain ⟨-, rfl, rfl⟩ := UnpackedFloat.finite.inj h
      unfold UnpackedFloat.pack
      dsimp only
      split
      · exact abs_unpack_packComponents spec s t _ _
      · split <;> exact abs_unpack_packComponents spec s t _ _
    | _ => exact nomatch h

/-- A magnitude is rounded alike whatever its sign. -/
theorem abs_round (spec : Format) (s t : Sign) (m : Nat) (e : Int) :
    (UnpackedFloat.round spec s m e).abs = (UnpackedFloat.round spec t m e).abs := by
  unfold UnpackedFloat.round roundWithAccuracy
  dsimp only
  rw [apply_dite UnpackedFloat.abs, apply_dite UnpackedFloat.abs]
  rfl

theorem abs_normalize_neg (spec : Format) (m : Int) (e : Int) (s : Sign) :
    (UnpackedFloat.normalize spec (-m) e s).abs = (UnpackedFloat.normalize spec m e s).abs := by
  unfold UnpackedFloat.normalize
  rcases Int.lt_trichotomy m 0 with hm | rfl | hm
  · rw [Int.compare_eq_lt.2 hm, Int.compare_eq_gt.2 (by omega)]
    exact abs_round ..
  · rfl
  · rw [Int.compare_eq_gt.2 hm, Int.compare_eq_lt.2 (by omega), Int.neg_neg]
    exact abs_round ..

theorem abs_sub_unpacked_comm (spec : Format) (u v : UnpackedFloat) :
    (UnpackedFloat.sub spec u v).abs = (UnpackedFloat.sub spec v u).abs := by
  cases u <;> cases v <;> try rfl
  case infinity.infinity s t => cases s <;> cases t <;> rfl
  case zero.zero s t => cases s <;> cases t <;> rfl
  case finite.finite s m e hm t n f hn =>
    unfold UnpackedFloat.sub
    dsimp only
    rw [Int.min_comm f e, ← Int.neg_sub, abs_normalize_neg]

/-- Two doubles are as far apart in one order as in the other. -/
theorem abs_sub_comm (x y : Float) : (x - y).abs = (y - x).abs := by
  have hpack :=
    abs_unpack_pack .binary64 (abs_sub_unpacked_comm .binary64 x.toModel.unpack y.toModel.unpack)
  exact congrArg (fun u => Float.ofModel (Float.Model.pack u)) hpack

/-- A finite number leaves zero when it is subtracted from itself. -/
theorem sub_self_of_isFinite {x : Float} (h : x.isFinite = true) : x - x = 0.0 := by
  have hu : x.toModel.unpack.isFinite = true := h
  have hsub : UnpackedFloat.sub .binary64 x.toModel.unpack x.toModel.unpack = .zero .positive := by
    generalize x.toModel.unpack = u at hu
    cases u with
    | notANumber => exact nomatch hu
    | infinity s => exact nomatch hu
    | zero s => cases s <;> rfl
    | finite s m e hm =>
      unfold UnpackedFloat.sub
      dsimp only
      rw [Int.sub_self]
      rfl
  exact congrArg (fun u => Float.ofModel (Float.Model.pack u)) hsub

/-- Anything else leaves what is no number. -/
theorem sub_self_of_not_isFinite {x : Float} (h : x.isFinite = false) : x - x = 0.0 / 0.0 := by
  have hu : x.toModel.unpack.isFinite = false := h
  have hsub : UnpackedFloat.sub .binary64 x.toModel.unpack x.toModel.unpack = .notANumber := by
    generalize x.toModel.unpack = u at hu
    cases u with
    | notANumber => rfl
    | infinity s => cases s <;> rfl
    | zero s => exact nomatch hu
    | finite s m e hm => exact nomatch hu
  exact congrArg (fun u => Float.ofModel (Float.Model.pack u)) hsub

end DecisionFlow.Number
