import DecisionFlow.Expression.Evaluation
import DecisionFlow.Graph.Content

set_option autoImplicit false

/-! # Switches

A switch passes its context on when one of its branches applies and gives nothing otherwise. It
does not choose the edge to follow. -/

namespace DecisionFlow.Switch

/-- Whether a branch applies: one with a condition when that holds, and a default branch always. -/
def applies (context : Value) (b : Branch) : Bool :=
  b.isDefault || Expression.holds b.condition context

/-- The value of a switch in a context. -/
def evaluate (s : Switch) (context : Value) : Value :=
  if s.branches.any (applies context) then context else .null

end DecisionFlow.Switch
