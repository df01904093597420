import DecisionFlow.Number.Literal
import DecisionFlow.Value.Basic

set_option autoImplicit false

/-! # Coercions

What a value counts for as a number, and what it means as the outcome of a condition. -/

namespace DecisionFlow.Value

/-- The number that a value counts for: a number itself, and a text that spells one. Truth values
    are no numbers. -/
def toNumber? : Value → Option Float
  | .num x => some x
  | .str s => Number.read? s.toList
  | _ => none

/-- The outcome of a condition with this value: a truth value itself, a text when it is not empty,
    and anything else but null. -/
def truth : Value → Bool
  | .bool b => b
  | .str s => s ≠ ""
  | .null => false
  | _ => true

end DecisionFlow.Value
