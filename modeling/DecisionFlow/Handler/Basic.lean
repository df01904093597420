import DecisionFlow.Fault
import DecisionFlow.Report

set_option autoImplicit false

/-! # Handlers

A handler says what the nodes of a tag do. For a node and its context it gives an action, which may
ask for the evaluation of other decisions and wait before it ends with a reply or a fault. An action
is a tree: what it does next depends on the answers that it gets.

Evaluations are all that an action can ask for, and it asks for one after another. A handler that
gets a decision without evaluating it, makes one of a graph, calls the source by itself or has two
evaluations run at the same time is no action. -/

namespace DecisionFlow

/-! ## Replies -/

/-- What a node gives in the end. -/
inductive Reply where
  /-- A value. -/
  | value (v : Value)
  /-- A datum, which may have no value. -/
  | datum (j : Json)
  /-- The content of a node. -/
  | content (c : Content)
  /-- Something of a kind that is no datum. -/
  | foreign (kind : String)

namespace Reply

/-- The value of a datum, if it has one. -/
def valueOfDatum (j : Json) : Except Fault Value :=
  match Value.ofJson? j with
  | some v => .ok v
  | none => .error (.number .tooLarge)

/-- The value of a reply, if it has one. -/
def toValue : Reply → Except Fault Value
  | .value v => .ok v
  | .datum j => valueOfDatum j
  | .content c => valueOfDatum c.toJson
  | .foreign kind => .error (.foreign kind)

@[simp] theorem valueOfDatum_toJson (v : Value) : valueOfDatum v.toJson = .ok v := by
  simp [valueOfDatum, Value.ofJson?_toJson]

end Reply

/-! ## Actions -/

/-- What a handler does at a node. -/
inductive Action where
  /-- Ends with a reply. -/
  | reply (r : Reply)
  /-- Ends with a fault. -/
  | fail (f : Fault)
  /-- Has the decision under a key evaluated in a context, and goes on with the report. -/
  | evaluate (key : String) (context : Json) (o : Options) (next : Except Fault Report → Action)
  /-- Waits for some seconds and goes on. -/
  | wait (seconds : Float) (next : Action)

namespace Action

/-- Ends with a value. -/
def give (v : Value) : Action :=
  .reply (.value v)

/-- Ends as a result says. -/
def ofResult : Except Fault Value → Action
  | .ok v => give v
  | .error f => .fail f

/-- Has the decision under a key evaluated with default options, and goes on with the result. -/
def ask (key : String) (context : Value) (next : Except Fault Value → Action) : Action :=
  .evaluate key context.toJson Options.default fun answer => next (answer.map Report.result)

end Action

/-! ## Handlers -/

/-- What the nodes of some tags do. -/
structure Handler where
  /-- The tag that names the handler. -/
  tag : String
  /-- Further tags whose nodes it handles. -/
  aliases : List String
  /-- Whether the evaluation ends after its nodes. -/
  terminal : Bool
  /-- What a node does in a context. -/
  act : Node → Value → Action

/-- The further tags of a handler that names none: the short tags of its own. -/
def Handler.defaultAliases (tag : String) : List String :=
  shortTagsOf (canonicalTag tag)

/-- The tags under which a handler is registered. -/
def Handler.tags (h : Handler) : List String :=
  canonicalTag h.tag :: h.aliases

end DecisionFlow
