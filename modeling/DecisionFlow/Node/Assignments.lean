import DecisionFlow.Expression.Evaluation
import DecisionFlow.Fault
import DecisionFlow.Graph.Content

set_option autoImplicit false

/-! # Assignments

The expressions of an expression node are evaluated one after the other, each in the context that
the node got, and their values are written into a new object at the paths of their fields. -/

namespace DecisionFlow

/-- Why an assignment fails. -/
inductive AssignmentCause where
  /-- The expression has no value. -/
  | expression (fault : Number.Fault)
  /-- The field cannot be written after the fields before it. -/
  | field (conflict : Value.Conflict)
  deriving Repr, DecidableEq

/-- A failed assignment. -/
structure AssignmentFault where
  /-- The path of the field. -/
  field : String
  /-- The expression. -/
  expression : String
  /-- Why it fails. -/
  cause : AssignmentCause
  deriving Repr, DecidableEq

/-- The fault behind a failed assignment. -/
def AssignmentFault.fault (f : AssignmentFault) : Fault :=
  match f.cause with
  | .expression fault => .badExpression f.expression fault.message
  | .field conflict => .conflict conflict

/-- The wording of a failed assignment. -/
def AssignmentFault.message (f : AssignmentFault) : String :=
  s!"Expression '{f.expression}' for field '{f.field}' failed: {f.fault.message}"

namespace Assignments

/-- Writes the value of one expression at the path of its field. -/
def assign (context : Value) (members : Fields Value) (field expression : String) :
    Except AssignmentFault (Fields Value) :=
  match Expression.evaluate expression context with
  | .error fault => .error ⟨field, expression, .expression fault⟩
  | .ok v =>
    (Value.writePath members field v).mapError fun conflict => ⟨field, expression, .field conflict⟩

/-- Writes the values of expressions into an object. -/
def assignAll (context : Value) :
    Fields Value → List (String × String) → Except AssignmentFault (Fields Value)
  | members, [] => .ok members
  | members, (field, expression) :: rest =>
    match assign context members field expression with
    | .error fault => .error fault
    | .ok members => assignAll context members rest

/-- The object that the expressions make up. -/
def evaluate (a : Assignments) (context : Value) : Except AssignmentFault Value :=
  (assignAll context [] a.expressions).map .obj

end Assignments

end DecisionFlow
