import DecisionFlow.Number.Double

set_option autoImplicit false

/-! # Shortest decimals

The decimal with the fewest digits that reads back as a given double; of two that are equally
short the nearer one, and of two equally near the one with an even last digit. The search compares
exact numbers only: a double stands for the interval of reals that round to it. -/

namespace DecisionFlow.Number

/-- The number `digits * 10 ^ exponent`. -/
structure Decimal where
  /-- The digits, as a number. -/
  digits : Nat
  /-- The power of ten they are multiplied by. -/
  exponent : Int
  deriving Repr, DecidableEq

/-! ## The interval of a double -/

/-- Compares `a * 10 ^ i` with `b * 2 ^ j`. -/
def compareScaled (a : Nat) (i : Int) (b : Nat) (j : Int) : Ordering :=
  compare (a * Nat.pow 10 i.toNat * Nat.pow 2 (-j).toNat)
    (b * Nat.pow 2 j.toNat * Nat.pow 10 (-i).toNat)

/-- The lower end of the reals that round to `mantissa * 2 ^ exponent`, in quarters of the unit
    `2 ^ exponent`. Below a power of two the neighbour is half as far away, except at the least
    exponent. -/
def lowerQuarters (mantissa : Nat) (exponent : Int) : Nat :=
  if mantissa = Nat.pow 2 52 ∧ -1074 < exponent then 4 * mantissa - 1 else 4 * mantissa - 2

/-- The upper end, in quarters of the unit. -/
def upperQuarters (mantissa : Nat) : Nat :=
  4 * mantissa + 2

/-- Whether a decimal is one of the reals that round to `mantissa * 2 ^ exponent`. An end belongs
    to the interval when the mantissa is even, because a tie goes to the even mantissa. -/
def readsBack (mantissa : Nat) (exponent : Int) (d : Decimal) : Bool :=
  let low := compareScaled d.digits d.exponent (lowerQuarters mantissa exponent) (exponent - 2)
  let high := compareScaled d.digits d.exponent (upperQuarters mantissa) (exponent - 2)
  (low == .gt || (mantissa % 2 == 0 && low == .eq))
    && (high == .lt || (mantissa % 2 == 0 && high == .eq))

/-! ## The search -/

/-- The least `k` at or above `k` with `mantissa * 2 ^ exponent < 10 ^ k`, looked for in `fuel`
    steps. -/
def raiseScale (mantissa : Nat) (exponent : Int) : Nat → Int → Int
  | 0, k => k
  | fuel + 1, k =>
    if compareScaled 1 k mantissa exponent == .gt then k
    else raiseScale mantissa exponent fuel (k + 1)

/-- The number of digits before the point of a positive number; zero or negative for a number
    below one tenth. The search starts a little below the answer that the binary logarithm
    suggests. -/
def scale (mantissa : Nat) (exponent : Int) : Int :=
  let log := (mantissa.log2 : Int) + exponent
  raiseScale mantissa exponent 6 (log * 30103 / 100000 - 1)

/-- The whole part of `mantissa * 2 ^ exponent / 10 ^ grid`. -/
def gridFloor (mantissa : Nat) (exponent grid : Int) : Nat :=
  (mantissa * Nat.pow 2 exponent.toNat * Nat.pow 10 (-grid).toNat) /
    (Nat.pow 10 grid.toNat * Nat.pow 2 (-exponent).toNat)

/-- The better of the two neighbours of `mantissa * 2 ^ exponent` among the multiples of
    `10 ^ grid`, if one of them reads back. -/
def onGrid (mantissa : Nat) (exponent grid : Int) : Option Decimal :=
  let below := gridFloor mantissa exponent grid
  let reads (digits : Nat) := readsBack mantissa exponent ⟨digits, grid⟩
  match reads below, reads (below + 1) with
  | false, false => none
  | true, false => some ⟨below, grid⟩
  | false, true => some ⟨below + 1, grid⟩
  | true, true =>
    let digits :=
      match compareScaled (2 * below + 1) grid (2 * mantissa) exponent with
      | .gt => below
      | .lt => below + 1
      | .eq => if below % 2 = 0 then below else below + 1
    some ⟨digits, grid⟩

/-- The first grid with a hit, from `count` digits on, looked for in `fuel` steps. -/
def firstHit (mantissa : Nat) (exponent k : Int) : Nat → Int → Option Decimal
  | 0, _ => none
  | fuel + 1, count =>
    match onGrid mantissa exponent (k - count) with
    | some d => some d
    | none => firstHit mantissa exponent k fuel (count + 1)

/-- Moves the zeros at the end of the digits into the exponent. -/
def stripZeros : Nat → Decimal → Decimal
  | 0, d => d
  | fuel + 1, d =>
    if d.digits ≠ 0 ∧ d.digits % 10 = 0 then stripZeros fuel ⟨d.digits / 10, d.exponent + 1⟩ else d

/-- The shortest decimal of a positive double. Seventeen digits always suffice; without a hit the
    exact value is given. -/
def shortest (mantissa : Nat) (exponent : Int) : Decimal :=
  if mantissa = 0 then ⟨0, 0⟩
  else
    match firstHit mantissa exponent (scale mantissa exponent) 17 1 with
    | some d => stripZeros 18 d
    | none =>
      if 0 ≤ exponent then ⟨mantissa * Nat.pow 2 exponent.toNat, 0⟩
      else ⟨mantissa * Nat.pow 5 (-exponent).toNat, exponent⟩

end DecisionFlow.Number
