import DecisionFlow.Check.Scalar
import DecisionFlow.Graph.Kind

set_option autoImplicit false

/-! # Node contents

What a node carries: the expressions of an expression node, a decision table, the branches of a
switch, or an object that only an extension knows how to read. Each content is read from a datum
and written as one, and writing names every member. -/

namespace DecisionFlow

/-! ## Contents -/

/-- The content of an expression node: expressions under the dotted paths of their results. -/
structure Assignments where
  /-- Expressions in the order of evaluation. -/
  expressions : Fields String
  deriving Repr, DecidableEq

/-- A column of a decision table. -/
structure Column where
  /-- The column's identifier. -/
  id : String
  /-- The column's name on display. -/
  name : String
  /-- The column's type on display. -/
  type : String
  /-- The dotted path of the column: where an output goes. -/
  field : String
  deriving Repr, DecidableEq

/-- A decision table. Each row holds a condition for every input column, then a result for every
    output column; a row may be too short. -/
structure Table where
  /-- What happens when several rows match. -/
  hitPolicy : String
  /-- The columns of conditions. -/
  inputs : List Column
  /-- The columns of results. -/
  outputs : List Column
  /-- The rows. -/
  rules : List (List Json)

/-- A branch of a switch. -/
structure Branch where
  /-- The branch's identifier. -/
  id : String
  /-- The condition under which the branch is taken. -/
  condition : String
  /-- Whether the branch is taken when no condition holds. -/
  isDefault : Bool
  deriving Repr, DecidableEq

/-- The content of a switch. -/
structure Switch where
  /-- What happens when several conditions hold; for display. -/
  hitPolicy : String
  /-- The branches. -/
  branches : List Branch
  deriving Repr, DecidableEq

/-- The content of a node. -/
inductive Content where
  /-- An object as it stands. -/
  | raw (members : Fields Json)
  /-- Expressions. -/
  | assignments (content : Assignments)
  /-- A decision table. -/
  | table (content : Table)
  /-- A switch. -/
  | switch (content : Switch)

/-! ## Reading -/

/-- Reads expressions. -/
def Assignments.check : Check Assignments :=
  Check.record fun members =>
    (Check.optional members "expressions" "expressions" [] (Check.fields Check.text)).map
      Assignments.mk

/-- Reads a column. -/
def Column.check : Check Column :=
  Check.record fun members =>
    ((((Check.optional members "id" "id" "" Check.text).map Column.mk).apply
      (Check.optional members "name" "name" "" Check.text)).apply
      (Check.optional members "type" "type" "expression" Check.text)).apply
      (Check.optional members "field" "field" "" Check.text)

/-- Reads a decision table. -/
def Table.check : Check Table :=
  Check.record fun members =>
    ((((Check.optional members "hitPolicy" "hit_policy" "first" Check.text).map Table.mk).apply
      (Check.optional members "inputs" "inputs" [] (Check.list Column.check))).apply
      (Check.optional members "outputs" "outputs" [] (Check.list Column.check))).apply
      (Check.optional members "rules" "rules" [] (Check.list (Check.list Check.any)))

/-- Reads a branch. -/
def Branch.check (origin : Origin) : Check Branch :=
  Check.record fun members =>
    (((Check.optional members "id" "id" "" Check.text).map Branch.mk).apply
      (Check.optional members "condition" "condition" "" Check.text)).apply
      (Check.optional members "isDefault" "is_default" false (Check.flag origin))

/-- Reads a switch. -/
def Switch.check (origin : Origin) : Check Switch :=
  Check.record fun members =>
    ((Check.optional members "hitPolicy" "hit_policy" "first" Check.text).map Switch.mk).apply
      (Check.optional members "statements" "statements" [] (Check.list (Branch.check origin)))

/-- How the content of a node with the given tag is read, when the tag says how. It counts as data
    at hand. -/
def Content.checkFor? (tag : String) : Option (Check Content) :=
  match NodeKind.ofTag? tag with
  | some .expression => some fun j => (Assignments.check j).map .assignments
  | some .table => some fun j => (Table.check j).map .table
  | some .switch => some fun j => (Switch.check .data j).map .switch
  | _ => none

/-- Under the full tag and the short one, a content is read in the same way. -/
theorem Content.checkFor?_congr {tag tag' : String} (h : canonicalTag tag = canonicalTag tag') :
    Content.checkFor? tag = Content.checkFor? tag' := by
  rw [checkFor?, checkFor?, NodeKind.ofTag?_congr h]

/-! ## Writing -/

/-- The datum of expressions. -/
def Assignments.toJson (a : Assignments) : Json :=
  .obj [("expressions", .obj (Fields.mapValues .str a.expressions))]

/-- The datum of a column. -/
def Column.toJson (c : Column) : Json :=
  .obj [("id", .str c.id), ("name", .str c.name), ("type", .str c.type), ("field", .str c.field)]

/-- The datum of a decision table. -/
def Table.toJson (t : Table) : Json :=
  .obj [("hitPolicy", .str t.hitPolicy), ("inputs", .arr (t.inputs.map Column.toJson)),
    ("outputs", .arr (t.outputs.map Column.toJson)), ("rules", .arr (t.rules.map .arr))]

/-- The datum of a branch. -/
def Branch.toJson (b : Branch) : Json :=
  .obj [("id", .str b.id), ("condition", .str b.condition), ("isDefault", .bool b.isDefault)]

/-- The datum of a switch. -/
def Switch.toJson (s : Switch) : Json :=
  .obj [("hitPolicy", .str s.hitPolicy), ("statements", .arr (s.branches.map Branch.toJson))]

/-- The datum of a content. -/
def Content.toJson : Content → Json
  | .raw members => .obj members
  | .assignments content => content.toJson
  | .table content => content.toJson
  | .switch content => content.toJson

end DecisionFlow
