import DecisionFlow.Number.Literal
import DecisionFlow.Text.Segment
import DecisionFlow.Text.Word

set_option autoImplicit false

/-! # The forms of an expression

An expression has one of a few forms, told by the marks that occur in its text. The first form that
fits is taken, the mark that gives the form is looked for anywhere in the text, and its two sides
are operands: there is no precedence and there are no parentheses. -/

namespace DecisionFlow.Expression

open Text

/-! ## Operators -/

/-- Operators on numbers. -/
inductive Arithmetic where
  | times | over | plus | minus
  deriving Repr, DecidableEq

/-- The mark of an operator. -/
def Arithmetic.mark : Arithmetic → Char
  | .times => '*'
  | .over => '/'
  | .plus => '+'
  | .minus => '-'

/-- The operators in the order in which their marks are looked for. -/
def Arithmetic.all : List Arithmetic :=
  [.times, .over, .plus, .minus]

/-- Comparisons. -/
inductive Comparison where
  | atLeast | atMost | above | below | equals
  deriving Repr, DecidableEq

/-- The mark of a comparison. -/
def Comparison.mark : Comparison → List Char
  | .atLeast => ['>', '=']
  | .atMost => ['<', '=']
  | .above => ['>']
  | .below => ['<']
  | .equals => ['=', '=']

/-- The comparisons in the order in which their marks are looked for. -/
def Comparison.all : List Comparison :=
  [.atLeast, .atMost, .above, .below, .equals]

/-! ## Forms without a condition -/

/-- The form of an expression that makes no choice. -/
inductive Plain where
  /-- An operation on two operands. -/
  | arithmetic (op : Arithmetic) (left right : List Char)
  /-- A comparison of two operands. -/
  | comparison (op : Comparison) (left right : List Char)
  /-- A dotted path. -/
  | path
  /-- A text in double quotes; what stands between them. -/
  | quotation (inner : List Char)
  /-- A whole literal, read as an integer first. -/
  | whole (number : Except Number.Fault Float)
  /-- Any other number literal. -/
  | number (x : Float)
  /-- A truth value. -/
  | flag (b : Bool)
  /-- The name of a property, or a text that stands for itself. -/
  | name

/-- The first operator of the list whose mark occurs, with the text cut at its first occurrence. -/
def firstArithmetic (cs : List Char) : List Arithmetic → Option Plain
  | [] => none
  | op :: ops =>
    match cut [op.mark] cs with
    | some (left, right) => some (.arithmetic op left right)
    | none => firstArithmetic cs ops

/-- The first comparison of the list whose mark occurs, with the text cut at its first
    occurrence. -/
def firstComparison (cs : List Char) : List Comparison → Option Plain
  | [] => none
  | op :: ops =>
    match cut op.mark cs with
    | some (left, right) => some (.comparison op left right)
    | none => firstComparison cs ops

/-- The form of a text without operators. -/
def atomForm (cs : List Char) : Plain :=
  if '.' ∈ cs then .path
  else
    match unquote? cs with
    | some inner => .quotation inner
    | none =>
      match Number.readWhole? cs with
      | some number => .whole number
      | none =>
        match Number.read? cs with
        | some x => .number x
        | none =>
          match readBool? cs with
          | some b => .flag b
          | none => .name

/-- The form of a text as an expression that makes no choice. -/
def plainForm (cs : List Char) : Plain :=
  match firstArithmetic cs Arithmetic.all with
  | some form => form
  | none =>
    match firstComparison cs Comparison.all with
    | some form => form
    | none => atomForm cs

/-! ## All forms -/

/-- The form of an expression. -/
inductive Form where
  /-- An expression that makes no choice. -/
  | plain (form : Plain)
  /-- A choice between two operands by a condition. -/
  | choice (condition yes no : List Char)

/-- Whether a text has the mark of an arithmetic operator. -/
def hasArithmetic (cs : List Char) : Bool :=
  cs.any fun c => Arithmetic.all.any fun op => op.mark == c

/-- The three parts of a choice: before the first question mark, from there to the last colon, and
    after that colon. When no colon follows the question mark the part between them is empty. -/
def choiceParts? (cs : List Char) : Option (List Char × List Char × List Char) :=
  match cut ['?'] cs with
  | none => none
  | some (condition, rest) =>
    match cutLast ':' rest with
    | some (yes, no) => some (condition, yes, no)
    | none => (cutLast ':' cs).map fun (_, no) => (condition, [], no)

/-- The form of a text without surrounding blanks. -/
def form (cs : List Char) : Form :=
  if hasArithmetic cs then .plain (plainForm cs)
  else
    match choiceParts? cs with
    | some (condition, yes, no) => .choice condition yes no
    | none => .plain (plainForm cs)

end DecisionFlow.Expression
