import DecisionFlow.Check.Basic
import DecisionFlow.Number.Layout
import DecisionFlow.Number.Literal
import DecisionFlow.Text.Quoted
import DecisionFlow.Text.Utf8
import DecisionFlow.Value.Path

set_option autoImplicit false

/-! # Faults

Why a graph could not be found or evaluated. A fault says its cause; the wording is in `message`.
Graph faults concern the graph and its evaluation, source faults the place graphs come from, and
every other fault is the business of a single node: `Fault.atNode` makes it a graph fault. -/

namespace DecisionFlow

/-! ## Sources -/

/-- Why a source gives no graph for a key. -/
inductive SourceFault where
  /-- The source of this name has no graphs at all. -/
  | refused (source key : String)
  /-- Nothing is stored under the key. -/
  | absent (key : String)
  /-- No file has the path that the key leads to. -/
  | absentFile (path key : String)
  /-- What is stored under the key is no graph, for this many reasons. -/
  | unreadable (key : String) (count : Nat)
  /-- The callback failed. -/
  | callbackFailed (key reason : String)
  /-- A callback's own report, in its own words, and whether it says that there is nothing. -/
  | reported (nothing : Bool) (reason key : String)
  deriving Repr, DecidableEq

namespace SourceFault

/-- The key that a fault names. -/
def key : SourceFault → String
  | .refused _ key => key
  | .absent key => key
  | .absentFile _ key => key
  | .unreadable key _ => key
  | .callbackFailed key _ => key
  | .reported _ _ key => key

/-- Whether a fault says that there is nothing under the key. -/
def isAbsence : SourceFault → Bool
  | .absent _ => true
  | .absentFile _ _ => true
  | .reported nothing _ _ => nothing
  | _ => false

/-- The wording of a fault. -/
def message : SourceFault → String
  | .refused source key =>
    s!"Cannot load decision '{key}' with {source}. Use create_decision instead."
  | .absent key => s!"Decision not found: {key}"
  | .absentFile path _ => s!"Decision file not found: {path}"
  | .unreadable key count => s!"Failed to deserialize decision '{key}': {count} validation error(s)"
  | .callbackFailed key reason => s!"Loader callback failed for '{key}': {reason}"
  | .reported _ reason _ => reason

end SourceFault

/-! ## All faults -/

/-- Why an evaluation, or anything on the way to it, fails. -/
inductive Fault where
  /-- The graph has no node of kind input. -/
  | noEntry (label : String)
  /-- No handler is registered for the tag of a node. -/
  | unknownTag (id tag : String)
  /-- A node failed. -/
  | nodeFailed (id tag reason : String)
  /-- The deadline passed; the budget in milliseconds. -/
  | timedOut (budget : Int)
  /-- An expression has no value. -/
  | badExpression (text reason : String)
  /-- A handler finds that the graph cannot be run. -/
  | badGraph (reason : String)
  /-- A handler gives up for a reason that has no name of its own. -/
  | abandoned (reason : String)
  /-- A source gives no graph. -/
  | source (fault : SourceFault)
  /-- A datum is not the record it should be. -/
  | invalid (record : String) (issues : List Issue)
  /-- An integer has no double. -/
  | number (fault : Number.Fault)
  /-- A text is no integer. -/
  | notInteger (text : String)
  /-- Something other than an object is in the way of a write. -/
  | conflict (conflict : Value.Conflict)
  /-- A handler gives something that is no value. -/
  | foreign (kind : String)
  /-- A file holds no text. -/
  | undecodable (fault : Text.Utf8Fault)
  /-- No file can have a path, because a null character is in it. -/
  | impossiblePath
  /-- A path is too long for any file, or has a name that is. -/
  | nameTooLong (path : String)
  /-- Too many evaluations wait for each other. -/
  | tooDeep
  /-- A failure outside the library, under the name it came with. -/
  | external (name reason : String)
  deriving Repr, DecidableEq

namespace Fault

/-- The wording for a record with issues. -/
def invalidMessage (record : String) (count : Nat) : String :=
  if count = 1 then s!"1 validation error for {record}"
  else s!"{count} validation errors for {record}"

/-- How much of a text a fault shows. -/
def shownLength : Nat :=
  200

/-- The wording for a text that is no integer. -/
def notIntegerMessage (text : String) : String :=
  let shown := String.ofList ((Text.quoted text.toList).take shownLength)
  s!"invalid literal for int() with base 10: {shown}"

/-- The wording of a fault. -/
def message : Fault → String
  | .noEntry label => s!"No input node found in decision graph '{label}'"
  | .unknownTag id tag => s!"No handler found for node type: {tag} (node '{id}')"
  | .nodeFailed id tag reason => s!"Error executing node '{id}' of type '{tag}': {reason}"
  | .timedOut budget => s!"Decision evaluation timed out after {Number.intText budget}ms"
  | .badExpression text reason => s!"Error evaluating expression '{text}': {reason}"
  | .badGraph reason => reason
  | .abandoned reason => reason
  | .source fault => fault.message
  | .invalid record issues => invalidMessage record issues.length
  | .number fault => fault.message
  | .notInteger text => notIntegerMessage text
  | .conflict c => c.message
  | .foreign kind => s!"Unsupported value type: {kind}"
  | .undecodable fault => fault.message
  | .impossiblePath => "embedded null byte"
  | .nameTooLong path =>
    let shown := String.ofList (Text.quoted path.toList)
    s!"[Errno 36] File name too long: {shown}"
  | .tooDeep => "maximum recursion depth exceeded"
  | .external _ reason => reason

/-- Whether a fault concerns the graph and its evaluation. -/
def isGraphFault : Fault → Bool
  | .noEntry _ => true
  | .unknownTag _ _ => true
  | .nodeFailed _ _ _ => true
  | .timedOut _ => true
  | .badExpression _ _ => true
  | .badGraph _ => true
  | .abandoned _ => true
  | _ => false

/-- Whether a fault comes from a source. -/
def isSourceFault : Fault → Bool
  | .source _ => true
  | _ => false

/-- Whether a fault leaves a node as it is: a graph fault, but for that of a single expression. -/
def passesNode : Fault → Bool
  | .badExpression _ _ => false
  | f => f.isGraphFault

/-- What a fault in the handler of a node becomes outside the node. -/
def atNode (id tag : String) (f : Fault) : Fault :=
  if f.passesNode then f else .nodeFailed id tag f.message

theorem passesNode_atNode (id tag : String) (f : Fault) : (f.atNode id tag).passesNode = true := by
  unfold atNode
  split
  · assumption
  · rfl

/-- A fault that has left one node leaves every other node unchanged. -/
theorem atNode_atNode (id tag id' tag' : String) (f : Fault) :
    (f.atNode id tag).atNode id' tag' = f.atNode id tag := by
  have h := passesNode_atNode id tag f
  generalize f.atNode id tag = g at h ⊢
  simp [atNode, h]

end Fault

end DecisionFlow
