import DecisionFlow.Expression.Form
import DecisionFlow.Expression.Operand
import DecisionFlow.Value.Equality

set_option autoImplicit false

/-! # Evaluating expressions

The value of an expression in a context, and the outcome of an expression as a condition. The only
fault is a whole literal without a double; as the outcome of a condition a fault counts for no.

The condition of a choice has no question mark in it, so it makes no choice itself, and evaluation
needs no recursion. -/

namespace DecisionFlow.Expression

open Text

/-! ## Operations -/

/-- The result of an operator. Dividing by a zero gives zero. -/
def Arithmetic.apply (op : Arithmetic) (left right : Float) : Float :=
  match op with
  | .times => left * right
  | .over => if right == 0.0 then 0.0 else left / right
  | .plus => left + right
  | .minus => left - right

/-- Numbers closer than this are equal in a comparison. -/
def closeness : Float :=
  0.0001

/-- The result of a comparison of two numbers. -/
def Comparison.ofNumbers (op : Comparison) (left right : Float) : Bool :=
  match op with
  | .atLeast => right ≤ left
  | .atMost => left ≤ right
  | .above => right < left
  | .below => left < right
  | .equals => (left - right).abs < closeness

/-- The result of a comparison. Where one side counts for no number only equality can hold. -/
def Comparison.apply (op : Comparison) (left right : Value) : Bool :=
  match left.toNumber?, right.toNumber? with
  | some x, some y => op.ofNumbers x y
  | _, _ => op == .equals && left.equal right

/-! ## Expressions -/

/-- The value of a form that makes no choice; `cs` is the text of the form. An operation on
    anything but numbers gives the text itself. -/
def Plain.evaluate (cs : List Char) (context : Value) : Plain → Except Number.Fault Value
  | .arithmetic op left right =>
    match (operand left context).toNumber?, (operand right context).toNumber? with
    | some x, some y => .ok (.num (op.apply x y))
    | _, _ => .ok (.str (String.ofList cs))
  | .comparison op left right =>
    .ok (.bool (op.apply (operand left context) (operand right context)))
  | .path => .ok (context.atPath (String.ofList cs))
  | .quotation inner => .ok (.str (String.ofList inner))
  | .whole result => result.map .num
  | .number x => .ok (.num x)
  | .flag b => .ok (.bool b)
  | .name => .ok (nameValue cs context)

/-- The outcome of a condition that makes no choice. A blank condition holds. -/
def plainHolds (cs : List Char) (context : Value) : Bool :=
  let condition := trim cs
  if condition = [] then true
  else
    match (plainForm condition).evaluate condition context with
    | .ok v => v.truth
    | .error _ => false

/-- The value of an expression without surrounding blanks. -/
def evaluateTrimmed (cs : List Char) (context : Value) : Except Number.Fault Value :=
  match form cs with
  | .plain form => form.evaluate cs context
  | .choice condition yes no =>
    .ok (operand (if plainHolds condition context then yes else no) context)

/-- The value of an expression. -/
def evaluate (text : String) (context : Value) : Except Number.Fault Value :=
  evaluateTrimmed (trim text.toList) context

/-- The outcome of an expression as a condition: a blank text holds, and a fault does not. -/
def holds (text : String) (context : Value) : Bool :=
  if trim text.toList = [] then true
  else
    match evaluate text context with
    | .ok v => v.truth
    | .error _ => false

end DecisionFlow.Expression
