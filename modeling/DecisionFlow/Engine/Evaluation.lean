import DecisionFlow.Engine.Walk

set_option autoImplicit false

/-! # Evaluations

An engine evaluates decisions: of a graph at hand, or of the graph that its source has under a key.
Handlers may have other decisions evaluated by the same engine, and those again others, up to a
limit. What an evaluation reports besides its result is left to its options and changes nothing
else. -/

namespace DecisionFlow

variable {σ : Type}

/-! ## Reports -/

/-- The report of a walk with its log. The clock is read once more only when the performance was
    asked for. -/
def Log.report (log : Log) (o : Options) (started : Float) (result : Value) (s : State σ) :
    Report × State σ :=
  let trace := log.trace.map Array.toList
  if o.includePerformance then
    (⟨result, trace, some ⟨(s.clock.now - started) * 1000.0, log.visited⟩⟩, s.tick)
  else (⟨result, trace, none⟩, s)

/-! ## Graphs -/

/-- The time after which no node starts. -/
def deadline (started : Float) (budget : Int) : Except Fault Float :=
  match Number.ofInt? budget with
  | some ms => .ok (started + ms / 1000.0)
  | none => .error (.number .tooLarge)

/-- Where an evaluation starts, and with which context. -/
def Definition.start (g : Definition) (context : Json) : Except Fault (Station × Value) :=
  match g.inputNode? with
  | none => .error (.noEntry g.label)
  | some entry => (Reply.valueOfDatum context).map fun v => (entry, v)

/-- What an engine needs besides its state. -/
structure Engine (σ : Type) where
  /-- Where graphs come from. -/
  source : Source σ
  /-- The handlers. -/
  registry : Registry
  /-- How many steps a walk may take. -/
  steps : Nat
  /-- How many evaluations may wait for each other. -/
  depth : Nat

namespace Engine

/-- How many steps a walk may take unless something else is said. By the counting clock, every
    deadline passes before. -/
def stepLimit : Nat :=
  100000

/-- How many evaluations may wait for each other unless something else is said. -/
def depthLimit : Nat :=
  240

/-- An engine with the standard handlers and further ones. -/
def withHandlers (source : Source σ) (extra : List Handler) : Engine σ :=
  ⟨source, Registry.withExtra extra, stepLimit, depthLimit⟩

/-- The route of a walk through a graph. -/
def route (e : Engine σ) (ask : Ask σ) (g : Definition) (o : Options) (limit : Float) : Route σ :=
  ⟨g, e.registry, ask, o.maxExecutionTimeMs, limit⟩

/-- Walks through a graph in a context. -/
def walkThrough (e : Engine σ) (ask : Ask σ) (g : Definition) (context : Json) (o : Options)
    (s : State σ) : Outcome σ (Value × Log) :=
  match deadline s.clock.now o.maxExecutionTimeMs with
  | .error f => some (.error f, s.tick)
  | .ok limit =>
    match g.start context with
    | .error f => some (.error f, s.tick)
    | .ok (entry, v) =>
      (e.route ask g o limit).walkOn e.steps entry v (.start o.includeTrace) s.tick

/-- Evaluates a graph in a context. -/
def evaluateGraph (e : Engine σ) (ask : Ask σ) (g : Definition) (context : Json) (o : Options)
    (s : State σ) : Outcome σ Report :=
  (e.walkThrough ask g context o s).andThen fun (result, log) t =>
    let (report, t) := log.report o s.clock.now result t
    some (.ok report, t)

/-- Evaluates the decision under a key, with `ask` for the handlers of its nodes. -/
def evaluateKey (e : Engine σ) (ask : Ask σ) (key : String) (context : Json) (o : Options)
    (s : State σ) : Outcome σ Report :=
  match s.decisionFor e.source key with
  | (.error f, s) => some (.error f, s)
  | (.ok d, s) => e.evaluateGraph ask d.graph context o s

/-- Evaluates the decision under a key for a handler, when that many more evaluations may wait. -/
def askAt (e : Engine σ) : Nat → Ask σ
  | 0, _, _, _, s => some (.error .tooDeep, s)
  | depth + 1, key, context, o, s => e.evaluateKey (askAt e depth) key context o s

/-- Evaluates the decision under a key for a handler. -/
def ask (e : Engine σ) : Ask σ :=
  e.askAt e.depth

/-- Evaluates the decision under a key. -/
def evaluate (e : Engine σ) (key : String) (context : Json) (o : Options) (s : State σ) :
    Outcome σ Report :=
  e.evaluateKey e.ask key context o s

/-- Evaluates a decision at hand. -/
def evaluateDecision (e : Engine σ) (d : Decision) (context : Json) (o : Options) (s : State σ) :
    Outcome σ Report :=
  e.evaluateGraph e.ask d.graph context o s

end Engine

end DecisionFlow
