import DecisionFlow.Command.Options
import DecisionFlow.Files.Tree
import DecisionFlow.Number.Grouped

set_option autoImplicit false

/-! # Requests

What a command line asks for. Its first words are the options of the program, then comes the name
of a command, and the words after it belong to the command. -/

namespace DecisionFlow.Command

/-! ## The program -/

/-- The options of the program. -/
def programOptions : Fields Arity :=
  [("--version", .flag), ("--help", .flag), ("--log-level", .value)]

/-- The levels of messages. -/
def logLevels : List String :=
  ["DEBUG", "INFO", "WARNING", "ERROR", "CRITICAL"]

/-- A text in capital letters. Of all letters that are not ASCII, only the one without a dot has a
    capital in one of the levels. -/
def capitals (s : String) : String :=
  String.ofList (s.toList.map fun c => if c = 'ı' then 'I' else c.toUpper)

/-- Whether a text names a level in letters of any case. -/
def namesLevel (s : String) : Bool :=
  logLevels.contains (capitals s)

/-- Whether an option names a level: no letter but an ASCII one counts for another case of a letter
    in a level. -/
def optionNamesLevel (s : String) : Bool :=
  logLevels.contains (String.ofList (s.toList.map Char.toUpper))

/-- The commands. -/
inductive Name where
  | evaluate | show
  deriving Repr, DecidableEq

/-- The command of a name. -/
def Name.ofText? (s : String) : Option Name :=
  if s = "evaluate" then some .evaluate else if s = "show" then some .show else none

/-- What the words of the program ask for. -/
inductive Start where
  /-- The words make no sense. -/
  | usage
  /-- An explanation. -/
  | help
  /-- The version. -/
  | version
  /-- A command with its words, and whether the level of messages was given. -/
  | command (levelGiven : Bool) (name : Name) (words : List String)
  deriving Repr, DecidableEq

/-- The explanation or the version, when the options ask for one: the first of them counts. -/
def Words.eager? (w : Words) : Option Start :=
  (w.first? ["--help", "--version"]).map fun name => if name = "--help" then .help else .version

/-- What words ask for that should have been a command. A word with a dash is read as an option
    once more. -/
def unknownCommand (words : List String) : Start :=
  match parse programOptions false words with
  | some w => w.eager?.getD .usage
  | none => .usage

/-- What the words of the program ask for. -/
def Start.ofWords (words : List String) : Start :=
  match parse programOptions false words with
  | none => .usage
  | some w =>
    match w.eager? with
    | some s => s
    | none =>
      let level := w.value? "--log-level"
      if level.any fun s => !optionNamesLevel s then .usage
      else
        match w.rest with
        | [] => .usage
        | name :: rest =>
          match Name.ofText? name with
          | some found => .command level.isSome found rest
          | none => unknownCommand w.rest

/-! ## Commands -/

/-- Why the value of an option is not taken. -/
inductive Refusal where
  /-- It makes no sense. -/
  | usage
  /-- It is a path that no file can have. -/
  | impossiblePath
  deriving Repr, DecidableEq

/-- What the words of a command ask for. -/
inductive Asked (α : Type) where
  /-- The words make no sense. -/
  | usage
  /-- A path among the words is one that no file can have. -/
  | impossiblePath
  /-- An explanation. -/
  | help
  /-- The command itself. -/
  | request (r : α)

/-- The options of the command that evaluates a decision. -/
def evaluateOptions : Fields Arity :=
  [("--context", .value), ("--context-file", .value), ("--decisions-dir", .value),
    ("--trace", .flag), ("--no-trace", .flag), ("--performance", .flag),
    ("--no-performance", .flag), ("--timeout-ms", .value), ("--json", .flag), ("--help", .flag)]

/-- The options of the command that shows a decision. -/
def showOptions : Fields Arity :=
  [("--decisions-dir", .value), ("--help", .flag)]

/-- A request to evaluate a decision. What is missing is left to the settings. -/
structure EvaluateRequest where
  /-- The key of the decision. -/
  key : String
  /-- The document of the context. -/
  context : Option String
  /-- The bytes of a file with the document of the context. -/
  contextFile : Option (List UInt8)
  /-- The folder with the decisions. -/
  folder : Option String
  /-- Whether to report every visit. -/
  trace : Option Bool
  /-- Whether to report the time taken. -/
  performance : Option Bool
  /-- How many milliseconds the evaluation may take. -/
  budget : Option Int
  /-- Whether to print a document. -/
  json : Bool
  deriving Repr, DecidableEq

/-- A request to show a decision. -/
structure ShowRequest where
  /-- The key of the decision. -/
  key : String
  /-- The folder with the decisions. -/
  folder : Option String
  deriving Repr, DecidableEq

/-- The files that a command can see, and where relative paths start. -/
structure Desk where
  /-- The files. -/
  tree : Files.Tree
  /-- Where relative paths start. -/
  here : Files.Location

/-- The bytes of an existing file. -/
def Desk.fileAt? (d : Desk) (path : String) : Option (List UInt8) :=
  match d.tree.find? d.here path with
  | some (.file bytes) => some bytes
  | _ => none

/-- An integer above zero. -/
def positive? (s : String) : Option Int :=
  match Number.Grouped.read s with
  | .ok n => if 0 < n then some n else none
  | .error _ => none

/-- The single word besides the options. -/
def Words.only? (w : Words) : Option String :=
  match w.rest with
  | [word] => some word
  | _ => none

/-- Why the value of an option is not taken, if it is not. -/
def Desk.refusal? (d : Desk) (name value : String) : Option Refusal :=
  if name = "--context-file" then
    if Files.isImpossible value then some .impossiblePath
    else if (d.fileAt? value).isNone then some .usage
    else none
  else if name = "--decisions-dir" then
    if Files.isImpossible value then some .impossiblePath
    else if (d.fileAt? value).isSome then some .usage
    else none
  else if name = "--timeout-ms" then
    if (positive? value).isNone then some .usage else none
  else none

/-- Why the options of a command are not taken. The option that is named first counts, with the
    value that it is given last. -/
def Words.refusal? (w : Words) (d : Desk) : Option Refusal :=
  w.given.findSome? fun g => (w.value? g.name).bind (d.refusal? g.name)

/-- Reads the words of a command: an explanation comes before everything but wrong options, and the
    values of options come before the other words. -/
def Asked.ofWords {α : Type} (d : Desk) (known : Fields Arity) (words : List String)
    (read : Words → Option α) : Asked α :=
  match parse known true words with
  | none => .usage
  | some w =>
    if w.has "--help" then .help
    else
      match w.refusal? d with
      | some .usage => .usage
      | some .impossiblePath => .impossiblePath
      | none =>
        match read w with
        | none => .usage
        | some r => .request r

/-- Reads a request to evaluate a decision. -/
def EvaluateRequest.ofWords (d : Desk) (words : List String) : Asked EvaluateRequest :=
  Asked.ofWords d evaluateOptions words fun w =>
    w.only?.map fun key =>
      ⟨key, w.value? "--context", (w.value? "--context-file").bind d.fileAt?,
        w.value? "--decisions-dir", w.choice? "--trace" "--no-trace",
        w.choice? "--performance" "--no-performance", (w.value? "--timeout-ms").bind positive?,
        w.has "--json"⟩

/-- Reads a request to show a decision. -/
def ShowRequest.ofWords (d : Desk) (words : List String) : Asked ShowRequest :=
  Asked.ofWords d showOptions words fun w =>
    w.only?.map fun key => ⟨key, w.value? "--decisions-dir"⟩

end DecisionFlow.Command
