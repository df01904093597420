import DecisionFlow.Number.Double
import DecisionFlow.Text.Blank
import DecisionFlow.Text.Digit

set_option autoImplicit false

/-! # Number literals

Two grammars over texts without surrounding blanks. A decimal literal is an optional sign, digits
with an optional point among or around them, and an optional exponent. A whole literal is an
optional sign and digits. Digits of every script count, and the two may be mixed. -/

namespace DecisionFlow.Number

open Text

/-! ## Decimal literals -/

/-- A decimal literal, in its parts. -/
structure Literal where
  /-- Whether it starts with a minus sign. -/
  negative : Bool
  /-- The digits before the point. -/
  whole : List Nat
  /-- The digits after the point. -/
  fraction : List Nat
  /-- The number after the exponent mark, zero without one. -/
  exponent : Int
  deriving Repr, DecidableEq

/-- Splits off a leading sign; true for a minus. -/
def sign : List Char → Bool × List Char
  | '-' :: cs => (true, cs)
  | '+' :: cs => (false, cs)
  | cs => (false, cs)

/-- The digits of the whole part, those after a point, and the rest. -/
def mantissa (cs : List Char) : List Nat × List Nat × List Char :=
  match spanDigits cs with
  | (whole, '.' :: rest) => (whole, (spanDigits rest).1, (spanDigits rest).2)
  | (whole, rest) => (whole, [], rest)

/-- The exponent that makes up all of a text; zero for an empty text. -/
def exponent? : List Char → Option Int
  | [] => some 0
  | c :: cs =>
    if c = 'e' ∨ c = 'E' then
      match sign cs with
      | (negative, digits) =>
        match spanDigits digits with
        | (d :: ds, []) =>
          let size : Int := natOfDigits (d :: ds)
          some (if negative then -size else size)
        | _ => none
    else none

/-- Reads a decimal literal that makes up all of a text. -/
def Literal.read? (cs : List Char) : Option Literal :=
  let (negative, unsigned) := sign cs
  let (whole, fraction, rest) := mantissa unsigned
  if whole = [] ∧ fraction = [] then none
  else (exponent? rest).map fun exponent => ⟨negative, whole, fraction, exponent⟩

/-- The double nearest to a literal's exact value, ties to even. -/
def Literal.toFloat (l : Literal) : Float :=
  let scale := l.exponent - l.fraction.length
  let size := Float.ofScientific (natOfDigits (l.whole ++ l.fraction)) (scale < 0) scale.natAbs
  if l.negative then -size else size

/-- The number that a text without its surrounding blanks spells. -/
def read? (cs : List Char) : Option Float :=
  (Literal.read? (trim cs)).map Literal.toFloat

/-! ## Whole literals -/

/-- Why a whole literal has no double, or an integer no digits. -/
inductive Fault where
  /-- More digits than `digitLimit`; the count. -/
  | tooManyDigits (count : Nat)
  /-- A magnitude of `overflowBound` or more. -/
  | tooLarge
  /-- Too many digits to be written. -/
  | unwritable
  deriving Repr, DecidableEq

/-- The most digits that a whole literal may have. -/
def digitLimit : Nat :=
  4300

/-- The least magnitude that has more digits than `digitLimit`. -/
@[irreducible] def writingBound : Nat :=
  Nat.pow 10 digitLimit

/-- Whether an integer has few enough digits to be written. -/
def isWritable (n : Int) : Bool :=
  n.natAbs < writingBound

/-- The sign and the digits of a whole literal that makes up all of a text. -/
def wholeDigits? (cs : List Char) : Option (Bool × List Nat) :=
  match spanDigits (sign cs).2 with
  | (d :: ds, []) => some ((sign cs).1, d :: ds)
  | _ => none

/-- The double of a whole literal. -/
def ofWholeDigits (negative : Bool) (digits : List Nat) : Except Fault Float :=
  if digitLimit < digits.length then .error (.tooManyDigits digits.length)
  else
    let size : Int := natOfDigits digits
    match ofInt? (if negative then -size else size) with
    | some x => .ok x
    | none => .error .tooLarge

/-- The number that a text without its surrounding blanks spells as a whole literal; none when it
    is no whole literal. -/
def readWhole? (cs : List Char) : Option (Except Fault Float) :=
  (wholeDigits? (trim cs)).map fun (negative, digits) => ofWholeDigits negative digits

/-- The wording for an integer with too many digits; `found` says how many, where that is known. -/
def digitLimitMessage (found : String) : String :=
  s!"Exceeds the limit ({digitLimit} digits) for integer string conversion{found}; "
    ++ "use sys.set_int_max_str_digits() to increase the limit"

/-- The wording of a fault. -/
def Fault.message : Fault → String
  | .tooManyDigits count => digitLimitMessage s!": value has {count} digits"
  | .tooLarge => "int too large to convert to float"
  | .unwritable => digitLimitMessage ""

end DecisionFlow.Number
