import DecisionFlow.Engine.Evaluation

set_option autoImplicit false

/-! # Sessions

The steps that the user of an engine can take, one after the other: no step begins before the one
before it has ended. A step that fails does not end the session. -/

namespace DecisionFlow

variable {σ : Type}

/-- A step of a session. -/
inductive Step (σ : Type) where
  /-- Loads a graph past the engine. -/
  | load (key : String)
  /-- Gets the decision for a key. -/
  | get (key : String)
  /-- Makes a decision of a graph. -/
  | create (g : Definition)
  /-- Evaluates the decision for a key. -/
  | evaluate (key : String) (context : Json) (o : Options)
  /-- Evaluates a decision at hand. -/
  | rerun (d : Decision) (context : Json) (o : Options)
  /-- Changes the state of the source. -/
  | change (f : σ → σ)

/-- What a step gives when it does not fail. -/
inductive Answer where
  /-- A graph. -/
  | graph (g : Definition)
  /-- A decision. -/
  | decision (d : Decision)
  /-- A report. -/
  | report (r : Report)
  /-- Nothing. -/
  | done

namespace Engine

/-- Takes a step. -/
def step (e : Engine σ) (s : State σ) : Step σ → Outcome σ Answer
  | .load key =>
    let (result, store) := e.source.load key s.store
    some (result.map .graph, { s with store := store })
  | .get key =>
    let (result, s) := s.decisionFor e.source key
    some (result.map .decision, s)
  | .create g =>
    let (d, s) := s.create g
    some (.ok (.decision d), s)
  | .evaluate key context o =>
    (e.evaluate key context o s).map fun (result, s) => (result.map .report, s)
  | .rerun d context o =>
    (e.evaluateDecision d context o s).map fun (result, s) => (result.map .report, s)
  | .change f => some (.ok .done, { s with store := f s.store })

/-- Takes steps one after the other. -/
def run (e : Engine σ) (s : State σ) : List (Step σ) → Option (List (Except Fault Answer) × State σ)
  | [] => some ([], s)
  | first :: rest =>
    match e.step s first with
    | none => none
    | some (answer, s) => (run e s rest).map fun (answers, s) => (answer :: answers, s)

end Engine

end DecisionFlow
