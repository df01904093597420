import DecisionFlow.Expression.Evaluation
import DecisionFlow.Fault
import DecisionFlow.Graph.Content
import DecisionFlow.Node.Cell

set_option autoImplicit false

/-! # Decision tables

A row matches when every one of its conditions holds; blank conditions always do. The row then
gives an object with its results at the paths of the output columns. The hit policy says what
becomes of the rows that match. -/

namespace DecisionFlow

/-! ## Rows -/

namespace Row

/-- Whether all conditions of a row hold. Blank cells are passed over, and the first condition that
    does not hold ends the row. -/
def holds (context : Value) : List Json → Except Fault Bool
  | [] => .ok true
  | cell :: cells =>
    match Cell.isBlank cell with
    | .error f => .error (.number f)
    | .ok true => holds context cells
    | .ok false =>
      match Cell.text cell with
      | .error f => .error (.number f)
      | .ok condition =>
        if Expression.holds condition context then holds context cells else .ok false

section

variable {cell : Json} {condition : String} {f : Number.Fault} {context : Value}

theorem holds_cons_of_text_eq_error (h : Cell.text cell = .error f) (cells : List Json) :
    holds context (cell :: cells) = .error (.number f) := by
  rw [holds, Cell.isBlank, h]
  rfl

/-- A blank cell is a condition that holds, so only the texts of the cells matter. -/
theorem holds_cons_of_text_eq_ok (h : Cell.text cell = .ok condition) (cells : List Json) :
    holds context (cell :: cells) =
      if Expression.holds condition context then holds context cells else .ok false := by
  rw [holds, Cell.isBlank, h]
  by_cases hblank : Text.trim condition.toList = []
  · simp [Except.map, Cell.isBlankText, Expression.holds, hblank]
  · have htext : Cell.isBlankText condition = false := by simpa [Cell.isBlankText] using hblank
    simp [Except.map, htext]

end

/-- Writes results at the paths of their columns. -/
def write : Fields Value → List (Column × Json) → Except Fault (Fields Value)
  | members, [] => .ok members
  | members, (column, cell) :: cells =>
    match Value.ofJson? cell with
    | none => .error (.number .tooLarge)
    | some v =>
      match Value.writePath members column.field v with
      | .error conflict => .error (.conflict conflict)
      | .ok members => write members cells

end Row

namespace Table

/-- The conditions of a row. -/
def conditions (t : Table) (row : List Json) : List Json :=
  row.take t.inputs.length

/-- The results of a row with their columns; a short row has fewer results than there are
    columns. -/
def results (t : Table) (row : List Json) : List (Column × Json) :=
  t.outputs.zip (row.drop t.inputs.length)

/-- What a row gives: nothing when it does not match. -/
def hit? (t : Table) (context : Value) (row : List Json) : Except Fault (Option Value) :=
  match Row.holds context (t.conditions row) with
  | .error f => .error f
  | .ok false => .ok none
  | .ok true => (Row.write [] (t.results row)).map fun members => some (.obj members)

/-! ## Hit policies -/

/-- What the first matching row gives; later rows are not looked at. -/
def firstHit? (t : Table) (context : Value) : List (List Json) → Except Fault (Option Value)
  | [] => .ok none
  | row :: rows =>
    match t.hit? context row with
    | .error f => .error f
    | .ok (some v) => .ok (some v)
    | .ok none => firstHit? t context rows

/-- What all matching rows give. -/
def hits (t : Table) (context : Value) : List (List Json) → Except Fault (List Value)
  | [] => .ok []
  | row :: rows =>
    match t.hit? context row with
    | .error f => .error f
    | .ok hit => (hits t context rows).map fun vs => hit.toList ++ vs

end Table

/-- What becomes of the rows that match. -/
inductive HitPolicy where
  /-- The first counts and ends the search. -/
  | first
  /-- All count. -/
  | collect
  /-- The first counts, but all are looked at. -/
  | other
  deriving Repr, DecidableEq

/-- The policy of a name in letters of any case. No other letter than an ASCII one lowers to a
    letter of the two names. -/
def HitPolicy.ofName (name : String) : HitPolicy :=
  let lowered := String.ofList (name.toList.map Char.toLower)
  if lowered = "first" then .first else if lowered = "collect" then .collect else .other

/-- The value of a decision table in a context. -/
def Table.evaluate (t : Table) (context : Value) : Except Fault Value :=
  match HitPolicy.ofName t.hitPolicy with
  | .first => (t.firstHit? context t.rules).map fun hit => hit.getD .null
  | .collect => (t.hits context t.rules).map .list
  | .other => (t.hits context t.rules).map fun vs => vs.head?.getD .null

end DecisionFlow
