set_option autoImplicit false

/-! # Runs of code points

A class of characters is given by the runs of code points that make it up. -/

namespace DecisionFlow.Text

/-- The first and the last code point of each of some runs. -/
abbrev Runs := List (Nat × Nat)

/-- Whether a character is in one of some runs. -/
def Runs.has (runs : Runs) (c : Char) : Bool :=
  runs.any fun (first, last) => first ≤ c.toNat && c.toNat ≤ last

end DecisionFlow.Text
