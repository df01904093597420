import DecisionFlow.Expression.Evaluation
import DecisionFlow.Fault
import DecisionFlow.Json.Printer

set_option autoImplicit false

/-! # Data as expressions

Where an expression may be any datum, a text is evaluated and anything else is a fault. As a
condition, null holds like a blank text, and any other datum that is no text does not. -/

namespace DecisionFlow.Expression

/-- The value of an expression, with a fault of its own. -/
def evaluateText (text : String) (context : Value) : Except Fault Value :=
  (evaluate text context).mapError fun f => .badExpression text f.message

/-- The value of a datum as an expression. -/
def evaluateDatum (j : Json) (context : Value) : Except Fault Value :=
  match j with
  | .str text => evaluateText text context
  | j =>
    .error <| .badExpression (String.ofList j.display)
      s!"expected string expression, got {j.kindName}"

/-- The outcome of a datum as a condition. -/
def holdsDatum (j : Json) (context : Value) : Bool :=
  match j with
  | .null => true
  | .str text => holds text context
  | _ => false

theorem holds_eq_truth {text : String} {context v : Value} (hb : Text.trim text.toList ≠ [])
    (h : evaluate text context = .ok v) : holds text context = v.truth := by
  simp [holds, hb, h]

theorem holds_of_blank {text : String} (hb : Text.trim text.toList = []) (context : Value) :
    holds text context = true := by
  simp [holds, hb]

theorem holds_of_fault {text : String} {context : Value} {f : Number.Fault}
    (hb : Text.trim text.toList ≠ []) (h : evaluate text context = .error f) :
    holds text context = false := by
  simp [holds, hb, h]

end DecisionFlow.Expression
