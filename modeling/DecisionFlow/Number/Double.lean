set_option autoImplicit false

/-! # Double precision numbers

The numbers of the value model are IEEE doubles. This module says what a double is in exact terms
(`Parts`), which whole numbers it stands for, and which integers have a double at all. -/

namespace DecisionFlow.Number

/-! ## Exact value -/

/-- The exact meaning of a double. -/
inductive Parts where
  /-- Not a number. -/
  | nan
  /-- An infinity and its sign. -/
  | infinite (negative : Bool)
  /-- The number `mantissa * 2 ^ exponent` and its sign, which zero has too. -/
  | finite (negative : Bool) (mantissa : Nat) (exponent : Int)
  deriving Repr, DecidableEq

/-- Reads the sign, exponent and mantissa fields of the 64 bits of a double. -/
def Parts.ofBits (bits : UInt64) : Parts :=
  let negative := bits >>> 63 == 1
  let scale := ((bits >>> 52) &&& 0x7FF).toNat
  let mantissa := (bits &&& 0xFFFFFFFFFFFFF).toNat
  if scale = 0x7FF then
    if mantissa = 0 then .infinite negative else .nan
  else if scale = 0 then .finite negative mantissa (-1074)
  else .finite negative (Nat.pow 2 52 + mantissa) ((scale : Int) - 1075)

/-- The exact meaning of `x`. -/
def parts (x : Float) : Parts :=
  Parts.ofBits x.toBits

/-- The whole number that `x` is, if it is one. -/
def toInt? (x : Float) : Option Int :=
  match parts x with
  | .finite negative mantissa exponent =>
    let magnitude? : Option Nat :=
      if 0 ≤ exponent then some (mantissa * Nat.pow 2 exponent.toNat)
      else if mantissa % Nat.pow 2 (-exponent).toNat = 0 then
        some (mantissa / Nat.pow 2 (-exponent).toNat)
      else none
    magnitude?.map fun magnitude => if negative then -(magnitude : Int) else magnitude
  | _ => none

/-! ## Integers as doubles -/

/-- The least magnitude that rounds to an infinity: half a unit above the greatest double. -/
@[irreducible] def overflowBound : Nat :=
  Nat.pow 2 1024 - Nat.pow 2 970

/-- The double nearest to an integer; none for an integer beyond the range of doubles. -/
def ofInt? (n : Int) : Option Float :=
  if n.natAbs < overflowBound then some (Float.ofInt n) else none

theorem ofInt?_eq_none_iff {n : Int} : ofInt? n = none ↔ overflowBound ≤ n.natAbs := by
  simp [ofInt?]

/-- The double nearest to an integer; an infinity for an integer beyond the range of doubles. -/
def ofInt (n : Int) : Float :=
  Float.ofInt n

theorem ofInt?_eq_some {n : Int} {x : Float} (h : ofInt? n = some x) : x = ofInt n := by
  rw [ofInt?] at h
  split at h
  · simpa [ofInt] using h.symm
  · simp at h

end DecisionFlow.Number
