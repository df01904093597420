import DecisionFlow.Number.Layout

set_option autoImplicit false

/-! # Numbers with a fixed number of places

A double is rounded to a number of decimal places; a tie goes to the even neighbour. -/

namespace DecisionFlow.Number

/-- The integer nearest to a fraction, the even one of two. -/
def roundDiv (num den : Nat) : Nat :=
  let q := num / den
  let r := num % den
  if 2 * r < den then q else if den < 2 * r then q + 1 else q + q % 2

/-- The number of units of the last place in `mantissa * 2 ^ exponent`. -/
def fixedUnits (places mantissa : Nat) (exponent : Int) : Nat :=
  if 0 ≤ exponent then mantissa * Nat.pow 2 exponent.toNat * Nat.pow 10 places
  else roundDiv (mantissa * Nat.pow 10 places) (Nat.pow 2 (-exponent).toNat)

/-- The digits of a number of units with the point before the last places. -/
def placePoint (places units : Nat) : List Char :=
  let ds := digits units
  let ds := List.replicate (places + 1 - ds.length) '0' ++ ds
  let front := ds.length - places
  if places = 0 then ds else ds.take front ++ '.' :: ds.drop front

/-- The text of a double with a fixed number of places. -/
def fixedText (places : Nat) (x : Float) : String :=
  match parts x with
  | .nan => "nan"
  | .infinite negative => if negative then "-inf" else "inf"
  | .finite negative mantissa exponent =>
    let size := placePoint places (fixedUnits places mantissa exponent)
    String.ofList (if negative then '-' :: size else size)

example : fixedText 2 0.125 = "0.12" ∧ fixedText 2 12.345 = "12.35" ∧ fixedText 2 3 = "3.00" := by
  decide +kernel

end DecisionFlow.Number
