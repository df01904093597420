import DecisionFlow.Command.Outcome
import DecisionFlow.Json.Indented

set_option autoImplicit false

/-! # Outcomes on a terminal

The lines that the program prints for an outcome, as plain text: a table has its columns side by
side, and a heading stands above it. -/

namespace DecisionFlow.Command

/-! ## Tables -/

/-- A text filled up with blanks to a number of cells. -/
def fill (width : Nat) (s : String) : String :=
  String.ofList (s.toList ++ List.replicate (width - Text.cellCount s.toList) ' ')

/-- The lines of a table. -/
def tableLines (rows : List (List String)) : List String :=
  let widths := Text.Grid.columnWidths (rows.map fun row => row.map String.toList)
  rows.map fun row => String.intercalate "  " ((widths.zip row).map fun (width, s) => fill width s)

/-- Lines under a heading. -/
def under (heading : String) (lines : List String) : List String :=
  "" :: heading :: lines

/-! ## Outcomes -/

/-- How the program is called. -/
def usageLines : List String :=
  ["Usage: cli [OPTIONS] COMMAND [ARGS]...", "", "Commands:",
    "  evaluate  Evaluate the decision stored under KEY.",
    "  show      Show the nodes and edges of the decision stored under KEY."]

/-- The lines of a report. -/
def ReportScreen.lines (s : ReportScreen) : List String :=
  s.heading ++ "Result:" :: s.result.toJson.toIndentedText ::
    (((s.trace.map fun rows => under "Execution Trace" (tableLines rows)).getD [])
      ++ ((s.performance.map fun lines => under "Performance:" lines).getD []))

/-- The lines of a graph. -/
def GraphScreen.lines (s : GraphScreen) : List String :=
  s.title :: (s.description ++ under "Nodes" (tableLines s.nodes)
    ++ under "Edges" (tableLines s.edges))

/-- The lines that the program prints for an outcome. -/
def Outcome.lines : Outcome → List String
  | .usage => usageLines
  | .help => usageLines
  | .version => [versionText]
  | .broken f => [f.message]
  | .unshowable m => [m.message]
  | .refused _ shown => [shown]
  | .document r => [r.toJson.toIndentedText]
  | .report s => s.lines
  | .graph s => s.lines
  | .unfinished => ["The evaluation did not come to an end."]

/-- Whether the lines of an outcome are about a mistake. -/
def Outcome.isMistake : Outcome → Bool
  | .usage => true
  | .broken _ => true
  | .unshowable _ => true
  | .unfinished => true
  | _ => false

end DecisionFlow.Command
