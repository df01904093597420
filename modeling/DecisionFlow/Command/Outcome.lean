import DecisionFlow.Engine.Evaluation
import DecisionFlow.Number.Fixed
import DecisionFlow.Text.Grid

set_option autoImplicit false

/-! # Outcomes

What a command line comes to: texts for the terminal, and the status with which the program
exits. -/

namespace DecisionFlow

/-- The title of a fault that the program reports: one of a graph or of a source. Any other fault
    ends the program. -/
def Fault.title? : Fault → Option String
  | .noEntry _ => some "GraphStructureError"
  | .badGraph _ => some "GraphStructureError"
  | .unknownTag _ _ => some "UnknownNodeTypeError"
  | .nodeFailed _ _ _ => some "NodeExecutionError"
  | .timedOut _ => some "EvaluationTimeoutError"
  | .badExpression _ _ => some "ExpressionError"
  | .abandoned _ => some "DecisionGraphError"
  | .source f => some (if f.isAbsence then "DecisionNotFoundError" else "LoaderError")
  | _ => none

namespace Command

open Text

/-! ## Screens -/

/-- What is shown of an evaluation. -/
structure ReportScreen where
  /-- The lines that name the decision. -/
  heading : List String
  /-- The result. -/
  result : Value
  /-- The lines of the table of stops, with its header. -/
  trace : Option (List (List String))
  /-- The lines about the performance. -/
  performance : Option (List String)

/-- What is shown of a graph. -/
structure GraphScreen where
  /-- The name. -/
  title : String
  /-- The lines of the description. -/
  description : List String
  /-- The lines of the table of nodes, with its header. -/
  nodes : List (List String)
  /-- The lines of the table of edges, with its header. -/
  edges : List (List String)

/-- The table of the stops of an evaluation. -/
def traceTable (stops : List Stop) : List (List String) :=
  ["Node", "Type", "Time (ms)", "Output"] ::
    stops.map fun s =>
      [if s.node.name = "" then s.node.id else s.node.name, s.node.tag, Number.fixedText 2 s.time,
        s.output.toJson.toText]

/-- The lines about a performance. -/
def performanceLines (p : Performance) : List String :=
  [s!"  executionTimeMs: {Number.text p.time}", s!"  nodesVisited: {p.visited}"]

/-- The screen of an evaluation under a key. -/
def ReportScreen.ofReport (key : String) (r : Report) :
    Except Markup.MarkupFault ReportScreen := do
  let heading ← Grid.blockLines s!"[bold]Decision:[/bold] {key}"
  let trace ←
    match r.trace with
    | none => pure none
    | some stops => (Grid.render (traceTable stops)).map some
  pure ⟨heading, r.result, trace, r.performance.map performanceLines⟩

/-- The table of the nodes of a graph. -/
def nodeTable (g : Definition) : List (List String) :=
  ["ID", "Name", "Type"] :: g.nodes.map fun (_, n) => [n.id, n.name, n.tag]

/-- The table of the edges of a graph. -/
def edgeTable (g : Definition) : List (List String) :=
  ["ID", "Source", "Target"] :: g.edges.map fun e => [e.id, e.source, e.target]

/-- The title of a graph: its name or, without one, its identifier; on one line. -/
def graphTitle (g : Definition) : Except Markup.MarkupFault String :=
  Grid.titleLine (if g.name = "" then g.id else g.name)

/-- The screen of a graph. -/
def GraphScreen.ofGraph (g : Definition) : Except Markup.MarkupFault GraphScreen := do
  let title ← graphTitle g
  let description ← Grid.blockLines (g.description.getD "")
  let nodes ← Grid.render (nodeTable g)
  let edges ← Grid.render (edgeTable g)
  pure ⟨title, description, nodes, edges⟩

/-! ## Outcomes -/

/-- What a command line comes to. -/
inductive Outcome where
  /-- The words make no sense. -/
  | usage
  /-- An explanation was asked for. -/
  | help
  /-- The version was asked for. -/
  | version
  /-- The program breaks off with a fault. -/
  | broken (f : Fault)
  /-- The program breaks off because a text cannot be shown. -/
  | unshowable (f : Markup.MarkupFault)
  /-- A fault is reported under its title, with its wording as it is shown. -/
  | refused (title shown : String)
  /-- A report as a document. -/
  | document (r : Report)
  /-- A report on a screen. -/
  | report (s : ReportScreen)
  /-- A graph on a screen. -/
  | graph (s : GraphScreen)
  /-- The steps of an evaluation did not suffice. -/
  | unfinished

/-- What a fault comes to: it is reported, or the program breaks off. -/
def Outcome.ofFault (f : Fault) : Outcome :=
  match f.title? with
  | none => .broken f
  | some title =>
    match Markup.render s!"[red]✗ {title}: {f.message}[/red]" with
    | .ok shown => .refused title (String.ofList shown)
    | .error m => .unshowable m

/-- The status with which the program exits. -/
def Outcome.status : Outcome → UInt8
  | .usage => 2
  | .broken _ => 1
  | .unshowable _ => 1
  | .refused _ _ => 1
  | .unfinished => 1
  | _ => 0

/-- The program's name and version. -/
def versionText : String :=
  "cli, version 1.0.0"

end Command

end DecisionFlow
