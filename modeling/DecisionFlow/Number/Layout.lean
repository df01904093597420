import DecisionFlow.Number.Shortest

set_option autoImplicit false

/-! # Numbers as text

A double is written with its shortest digits, positionally where its size allows and otherwise
with an exponent. A point is always there, so that a double never looks like an integer. -/

namespace DecisionFlow.Number

/-! ## Layout -/

/-- Where positional writing starts and ends, and how exponents look. -/
structure Layout where
  /-- The least decimal exponent written positionally. -/
  least : Int
  /-- The first decimal exponent above it that is not. -/
  limit : Int
  /-- The fewest digits of an exponent. -/
  exponentDigits : Nat

/-- Numbers from `0.0001` on and below `10 ^ 16` are written positionally; an exponent has a sign
    and at least two digits. -/
def layout : Layout :=
  ⟨-4, 16, 2⟩

/-- The decimal digits of a natural number. -/
def digits (n : Nat) : List Char :=
  Nat.toDigits 10 n

/-- The text of a decimal, given its digits and the number of them before the point. -/
def Layout.positional (ds : List Char) (point : Int) : List Char :=
  if point ≤ 0 then ['0', '.'] ++ List.replicate (-point).toNat '0' ++ ds
  else if point < ds.length then ds.take point.toNat ++ '.' :: ds.drop point.toNat
  else ds ++ List.replicate (point.toNat - ds.length) '0' ++ ['.', '0']

/-- The text with an exponent: one digit before the point, and no point without digits after. -/
def Layout.scientific (l : Layout) (ds : List Char) (exponent : Int) : List Char :=
  let size := digits exponent.natAbs
  ds.take 1 ++ (if ds.length ≤ 1 then [] else '.' :: ds.drop 1)
    ++ ['e', if exponent < 0 then '-' else '+']
    ++ List.replicate (l.exponentDigits - size.length) '0' ++ size

/-- The text of a decimal. -/
def Layout.render (l : Layout) (d : Decimal) : List Char :=
  if d.digits = 0 then ['0', '.', '0']
  else
    let ds := digits d.digits
    let point := d.exponent + ds.length
    if l.least < point ∧ point ≤ l.limit then positional ds point
    else l.scientific ds (point - 1)

/-! ## Doubles -/

/-- The text of a double. -/
def text (x : Float) : String :=
  match parts x with
  | .nan => "nan"
  | .infinite negative => if negative then "-inf" else "inf"
  | .finite negative mantissa exponent =>
    let size := layout.render (shortest mantissa exponent)
    String.ofList (if negative then '-' :: size else size)

/-- The text of an integer. -/
def intText (n : Int) : String :=
  String.ofList (if n < 0 then '-' :: digits n.natAbs else digits n.natAbs)

/-- The text of a double as a person writes it: a whole number without point or exponent. -/
def plainText (x : Float) : String :=
  match toInt? x with
  | some n => intText n
  | none => text x

example : text 0.1 = "0.1" ∧ text 49 = "49.0" ∧ text 1e16 = "1e+16" ∧ text 0.00001 = "1e-05" := by
  decide +kernel

example : text (-0.0) = "-0.0" ∧ text 1.5e300 = "1.5e+300" ∧ text 0.0001 = "0.0001" := by
  decide +kernel

example : plainText 5 = "5" ∧ plainText (-0.0) = "0" ∧ plainText 1e17 = "100000000000000000" := by
  decide +kernel

end DecisionFlow.Number
