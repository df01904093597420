import DecisionFlow.Fault
import DecisionFlow.Check.Scalar
import DecisionFlow.Graph.Options
import DecisionFlow.Number.Grouped

set_option autoImplicit false

/-! # Settings

Defaults for a whole program, read from the variables of its environment. A variable that is not
set leaves its default; one that is set must be readable. -/

namespace DecisionFlow

/-- The variables of an environment. -/
abbrev Environment := Fields String

/-- Defaults for a whole program. -/
structure Settings where
  /-- The folder with the decisions. -/
  folder : String
  /-- Whether the folder keeps what it has read. -/
  keeps : Bool
  /-- How many milliseconds an evaluation may take. -/
  budget : Int
  /-- Whether to report every visit. -/
  trace : Bool
  /-- Whether to report the time taken. -/
  performance : Bool
  /-- Which messages are logged. -/
  logLevel : String
  deriving Repr, DecidableEq

namespace Settings

/-- The value of a variable, or its default. -/
def valueOf (env : Environment) (name default : String) : String :=
  (Fields.get? env name).getD default

/-- The names of all variables. -/
def variableNames : List String :=
  ["DECISIONS_DIR", "KEEP_DECISIONS_IN_MEMORY", "MAX_EXECUTION_TIME_MS", "INCLUDE_TRACE",
    "INCLUDE_PERFORMANCE", "LOG_LEVEL"]

/-- The folder in an environment. -/
def folderIn (env : Environment) : String :=
  valueOf env "DECISIONS_DIR" "decisions"

/-- The budget in an environment. -/
def readBudget (env : Environment) : Except Fault Int :=
  let text := valueOf env "MAX_EXECUTION_TIME_MS" "30000"
  match Number.Grouped.read text with
  | .ok n => .ok n
  | .error .malformed => .error (.notInteger text)
  | .error (.tooManyDigits count) => .error (.number (.tooManyDigits count))

/-- A truth value in an environment; no is the default. -/
def readFlag (env : Environment) (name member : String) : Checked Bool :=
  (Check.flag .data (.str (valueOf env name "false"))).under (.field member)

/-- The settings with a given budget. -/
def withBudget (env : Environment) (budget : Int) : Checked Settings :=
  ((((((Checked.ok (folderIn env)).map Settings.mk).apply
    (readFlag env "KEEP_DECISIONS_IN_MEMORY" "keep_decisions_in_memory")).apply
    ((Check.positiveInt (.int budget)).under (.field "max_execution_time_ms"))).apply
    (readFlag env "INCLUDE_TRACE" "include_trace")).apply
    (readFlag env "INCLUDE_PERFORMANCE" "include_performance")).apply
    (.ok (valueOf env "LOG_LEVEL" "WARNING"))

/-- The settings in an environment. -/
def read (env : Environment) : Except Fault Settings :=
  match readBudget env with
  | .error f => .error f
  | .ok budget =>
    match withBudget env budget with
    | .ok s => .ok s
    | .bad issues => .error (.invalid "Settings" issues)

/-- The datum of settings. -/
def toJson (s : Settings) : Json :=
  .obj [("decisions_dir", .str s.folder), ("keep_decisions_in_memory", .bool s.keeps),
    ("max_execution_time_ms", .int s.budget), ("include_trace", .bool s.trace),
    ("include_performance", .bool s.performance), ("log_level", .str s.logLevel)]

/-- The options that settings ask for. -/
def options (s : Settings) : Options :=
  ⟨s.trace, s.performance, s.budget⟩

end Settings

end DecisionFlow
