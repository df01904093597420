import DecisionFlow.Graph.Definition
import DecisionFlow.Graph.Options
import DecisionFlow.Value.Basic

set_option autoImplicit false

/-! # Reports

What an evaluation tells its caller: the result and, when they were asked for, the stops of the
walk and its performance. -/

namespace DecisionFlow

/-! ## Stops -/

/-- A stop of a walk at a node. -/
structure Stop where
  /-- The key of the node. -/
  key : String
  /-- The node. -/
  node : Node
  /-- The context that the node got. -/
  input : Value
  /-- What the node gave. -/
  output : Value
  /-- The milliseconds that the node took. -/
  time : Float

namespace Stop

/-- Where the stop is. -/
def station (s : Stop) : Station :=
  (s.key, s.node)

/-- The context of the node after a stop. -/
def passedOn (s : Stop) : Value :=
  if s.output.isNull then s.input else s.output

/-- The record of a stop. -/
def toVisit (s : Stop) : Visit :=
  ⟨s.node.id, s.node.name, s.node.tag, s.input.toJson, s.output.toJson, s.time⟩

end Stop

/-! ## Reports -/

/-- The time that an evaluation took, and the number of its stops. -/
structure Performance where
  /-- The milliseconds between the start and the end. -/
  time : Float
  /-- The number of visited nodes. -/
  visited : Nat

/-- What an evaluation reports. -/
structure Report where
  /-- The result. -/
  result : Value
  /-- The stops, when they were asked for. -/
  trace : Option (List Stop)
  /-- The performance, when it was asked for. -/
  performance : Option Performance

/-- The datum of a performance. -/
def Performance.toJson (p : Performance) : Json :=
  .obj [("executionTimeMs", .num p.time), ("nodesVisited", .int p.visited)]

/-- The datum of a report, with the parts that were asked for. -/
def Report.toJson (r : Report) : Json :=
  .obj <|
    ("result", r.result.toJson) ::
      ((r.trace.map fun stops => ("trace", Json.arr (stops.map fun s => s.toVisit.toJson))).toList
        ++ (r.performance.map fun p => ("performance", p.toJson)).toList)

end DecisionFlow
