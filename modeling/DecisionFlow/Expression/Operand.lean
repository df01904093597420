import DecisionFlow.Text.Word
import DecisionFlow.Value.Coercion
import DecisionFlow.Value.Path

set_option autoImplicit false

/-! # Operands

One side of an operator, or one branch of a choice. An operand is a literal, a quotation, a dotted
path or the name of a property, tried in this order; a name that the context does not have stands
for itself. Reading an operand never fails, and never looks for operators in it. -/

namespace DecisionFlow.Expression

open Text

/-- The property of the context that a text names, or the text itself. -/
def nameValue (cs : List Char) (context : Value) : Value :=
  match context.property? (String.ofList cs) with
  | some v => v
  | none => .str (String.ofList cs)

/-- The value of an operand without surrounding blanks. -/
def trimmedOperand (cs : List Char) (context : Value) : Value :=
  match Number.read? cs with
  | some x => .num x
  | none =>
    match readBool? cs with
    | some b => .bool b
    | none =>
      match unquote? cs with
      | some inner => .str (String.ofList inner)
      | none => if '.' ∈ cs then context.atPath (String.ofList cs) else nameValue cs context

/-- The value of an operand. -/
def operand (cs : List Char) (context : Value) : Value :=
  trimmedOperand (trim cs) context

end DecisionFlow.Expression
