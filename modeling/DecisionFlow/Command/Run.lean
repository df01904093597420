import DecisionFlow.Command.Outcome
import DecisionFlow.Command.Request
import DecisionFlow.Json.Reader
import DecisionFlow.Settings
import DecisionFlow.Source.Folder

set_option autoImplicit false

/-! # Running a command line

The settings are read when something depends on them for the first time: the level of messages
unless the command line gives it, and then what the command needs of them. -/

namespace DecisionFlow.Command

/-! ## Surroundings -/

/-- What a command line depends on besides its words. -/
structure Surroundings where
  /-- The variables of the environment. -/
  environment : Environment
  /-- The files. -/
  desk : Desk
  /-- The clock. -/
  clock : Clock

/-- The folder with the decisions at a path. -/
def Surroundings.folderAt (w : Surroundings) (path : String) (keeps : Bool) : Folder :=
  ⟨w.desk.here.follow path, path, keeps⟩

/-! ## Evaluating -/

/-- Why there is no context. -/
inductive ContextFault where
  /-- The document follows no grammar. -/
  | malformed
  /-- Anything else. -/
  | fault (f : Fault)

/-- The context in a document. -/
def contextOfText (text : String) : Except ContextFault Json :=
  match Json.ofText? text with
  | .ok j => .ok j
  | .error .malformed => .error .malformed
  | .error (.tooManyDigits count) => .error (.fault (.number (.tooManyDigits count)))

/-- The context of a request: that of its file, or else its own. A missing or empty document stands
    for an empty object. -/
def EvaluateRequest.readContext (r : EvaluateRequest) : Except ContextFault Json :=
  match r.contextFile with
  | some bytes =>
    match Text.decodeUtf8 bytes with
    | .ok cs => contextOfText (String.ofList cs)
    | .error f => .error (.fault (.undecodable f))
  | none =>
    match r.context with
    | none => .ok (.obj [])
    | some text => if text = "" then .ok (.obj []) else contextOfText text

/-- The options of a request: each one as the request says, and otherwise as the settings do. -/
def EvaluateRequest.options (r : EvaluateRequest) (s : Settings) : Options :=
  ⟨r.trace.getD s.trace, r.performance.getD s.performance, r.budget.getD s.budget⟩

/-- The engine of a request. -/
def EvaluateRequest.engine (r : EvaluateRequest) (w : Surroundings) (s : Settings) :
    Engine FolderState :=
  Engine.withHandlers (Source.folder (w.folderAt (r.folder.getD s.folder) s.keeps)) []

/-- What a report comes to. -/
def EvaluateRequest.outcome (r : EvaluateRequest) (report : Report) : Outcome :=
  if r.json then .document report
  else
    match ReportScreen.ofReport r.key report with
    | .ok screen => .report screen
    | .error m => .unshowable m

/-- Evaluates the decision of a request in a context. -/
def EvaluateRequest.runIn (r : EvaluateRequest) (w : Surroundings) (s : Settings) (context : Json) :
    Outcome :=
  let start : State FolderState := State.start ⟨w.desk.tree, []⟩ w.clock
  match (r.engine w s).evaluate r.key context (r.options s) start with
  | none => .unfinished
  | some (.error f, _) => .ofFault f
  | some (.ok report, _) => r.outcome report

/-- Runs a request to evaluate a decision. -/
def EvaluateRequest.run (r : EvaluateRequest) (w : Surroundings) : Outcome :=
  match Settings.read w.environment with
  | .error f => .broken f
  | .ok s =>
    match r.readContext with
    | .error .malformed => .usage
    | .error (.fault f) => .broken f
    | .ok context => r.runIn w s context

/-! ## Showing -/

/-- The folder that a request names, or else that of the settings. -/
def ShowRequest.folderPath (r : ShowRequest) (w : Surroundings) : Except Fault String :=
  match r.folder with
  | some path => .ok path
  | none => (Settings.read w.environment).map Settings.folder

/-- Runs a request to show a decision. -/
def ShowRequest.run (r : ShowRequest) (w : Surroundings) : Outcome :=
  match r.folderPath w with
  | .error f => .broken f
  | .ok path =>
    match (w.folderAt path false).read w.desk.tree r.key with
    | .error f => .ofFault f
    | .ok g =>
      match GraphScreen.ofGraph g with
      | .ok screen => .graph screen
      | .error m => .unshowable m

/-! ## Command lines -/

/-- The folder and the context file that the words of a command name, and the key of its
    decision. -/
def namedPaths (known : Fields Arity) (words : List String) :
    Option String × Option String × List String :=
  match parse known true words with
  | none => (none, none, [])
  | some w => (w.value? "--decisions-dir", w.value? "--context-file", w.rest)

/-- Where the files are that a command line may look at, from `here` on. -/
def locations (environment : Environment) (here : Files.Location) (words : List String) :
    List Files.Location :=
  match Start.ofWords words with
  | .command _ _ rest =>
    let (folder?, file?, keys) := namedPaths evaluateOptions rest
    let path := folder?.getD (Settings.folderIn environment)
    let folder : Folder := ⟨here.follow path, path, false⟩
    folder.location :: (file?.map here.follow).toList ++ keys.flatMap folder.candidates
  | _ => []

/-- Checks the level of messages in the settings. -/
def checkLevel (w : Surroundings) : Option Outcome :=
  match Settings.read w.environment with
  | .error f => some (.broken f)
  | .ok s => if namesLevel s.logLevel then none else some .usage

/-- Runs the words of a command. -/
def runCommand (w : Surroundings) (name : Name) (words : List String) : Outcome :=
  match name with
  | .evaluate =>
    match EvaluateRequest.ofWords w.desk words with
    | .usage => .usage
    | .impossiblePath => .broken .impossiblePath
    | .help => .help
    | .request r => r.run w
  | .show =>
    match ShowRequest.ofWords w.desk words with
    | .usage => .usage
    | .impossiblePath => .broken .impossiblePath
    | .help => .help
    | .request r => r.run w

/-- Runs a command line. -/
def run (w : Surroundings) (words : List String) : Outcome :=
  match Start.ofWords words with
  | .usage => .usage
  | .help => .help
  | .version => .version
  | .command levelGiven name rest =>
    match if levelGiven then none else checkLevel w with
    | some outcome => outcome
    | none => runCommand w name rest

end DecisionFlow.Command
