import DecisionFlow.Check.Scalar

set_option autoImplicit false

/-! # Evaluation options and visits

What a caller may ask for besides the result, and the record of a visit to a node. -/

namespace DecisionFlow

/-- What to report, and how long an evaluation may take. -/
structure Options where
  /-- Whether to report every visit. -/
  includeTrace : Bool
  /-- Whether to report the time taken and the number of visits. -/
  includePerformance : Bool
  /-- How many milliseconds may pass before the last node starts. -/
  maxExecutionTimeMs : Int
  deriving Repr, DecidableEq

/-- Only the result, within half a minute. -/
def Options.default : Options :=
  ⟨false, false, 30000⟩

/-- Reads options. -/
def Options.check (origin : Origin) : Check Options :=
  Check.record fun members =>
    (((Check.optional members "includeTrace" "include_trace" false
      (Check.flag origin)).map Options.mk).apply
      (Check.optional members "includePerformance" "include_performance" false
        (Check.flag origin))).apply
      (Check.optional members "maxExecutionTimeMs" "max_execution_time_ms" 30000
        Check.positiveInt)

/-- The datum of options. -/
def Options.toJson (o : Options) : Json :=
  .obj [("includeTrace", .bool o.includeTrace), ("includePerformance", .bool o.includePerformance),
    ("maxExecutionTimeMs", .int o.maxExecutionTimeMs)]

/-- The record of a visit to a node. -/
structure Visit where
  /-- The node's identifier. -/
  id : String
  /-- The node's name. -/
  name : String
  /-- The node's tag. -/
  tag : String
  /-- The context that the node got. -/
  input : Json
  /-- What the node gave. -/
  output : Json
  /-- The milliseconds that the node took. -/
  executionTime : Float

/-- Reads a visit. -/
def Visit.check (origin : Origin) : Check Visit :=
  Check.record fun members =>
    ((((((Check.required members "id" "node_id" Check.text).map Visit.mk).apply
      (Check.optional members "name" "name" "" Check.text)).apply
      (Check.required members "type" "type" Check.text)).apply
      (Check.optional members "input" "input" .null Check.any)).apply
      (Check.optional members "output" "output" .null Check.any)).apply
      (Check.optional members "executionTime" "execution_time_ms" 0.0
        (Check.number origin))

/-- The datum of a visit. -/
def Visit.toJson (v : Visit) : Json :=
  .obj [("id", .str v.id), ("name", .str v.name), ("type", .str v.tag), ("input", v.input),
    ("output", v.output), ("executionTime", .num v.executionTime)]

end DecisionFlow
