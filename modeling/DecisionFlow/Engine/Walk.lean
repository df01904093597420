import DecisionFlow.Engine.State
import DecisionFlow.Graph.Options

set_option autoImplicit false

/-! # Walks

An evaluation walks through a graph, from the first input node along the first edge of every node,
until a handler ends it or no edge leads on. What a node gives is the context of the next one, and
when it gives nothing the next one gets the same context. Before every node the clock is read, and
a walk that is past its deadline fails.

A walk keeps a log: it counts the nodes that it has visited, and notes the stops when they are asked
for.

A walk through a cycle ends only by its deadline, so a walk gets a number of steps that it may
take; `none` says that they did not suffice. -/

namespace DecisionFlow

variable {σ : Type}

/-- What a computation with a state gives, unless its steps did not suffice: a result or a fault,
    and the state after it. -/
abbrev Outcome (σ α : Type) := Option (Except Fault α × State σ)

/-- Goes on with a result and the state after it. -/
def Outcome.andThen {α β : Type} (x : Outcome σ α) (next : α → State σ → Outcome σ β) :
    Outcome σ β :=
  match x with
  | none => none
  | some (.error f, s) => some (.error f, s)
  | some (.ok a, s) => next a s

namespace Outcome

variable {α β : Type}

@[simp] theorem andThen_none (next : α → State σ → Outcome σ β) :
    andThen (none : Outcome σ α) next = none := rfl

@[simp] theorem andThen_error (f : Fault) (s : State σ) (next : α → State σ → Outcome σ β) :
    andThen (some (.error f, s)) next = some (.error f, s) := rfl

@[simp] theorem andThen_ok (a : α) (s : State σ) (next : α → State σ → Outcome σ β) :
    andThen (some (.ok a, s)) next = next a s := rfl

theorem andThen_eq_ok_iff {x : Outcome σ α} {next : α → State σ → Outcome σ β} {b : β}
    {s' : State σ} :
    x.andThen next = some (.ok b, s') ↔
      ∃ a s, x = some (.ok a, s) ∧ next a s = some (.ok b, s') := by
  rcases x with _ | ⟨f | a, s⟩ <;> simp [and_assoc]

theorem andThen_eq_error_iff {x : Outcome σ α} {next : α → State σ → Outcome σ β} {f : Fault}
    {s' : State σ} :
    x.andThen next = some (.error f, s') ↔
      x = some (.error f, s') ∨
        ∃ a s, x = some (.ok a, s) ∧ next a s = some (.error f, s') := by
  rcases x with _ | ⟨g | a, s⟩ <;> simp [and_assoc]

end Outcome

/-- How the decision under a key is evaluated in a context on behalf of a handler. -/
abbrev Ask (σ : Type) := String → Json → Options → State σ → Outcome σ Report

/-! ## One node -/

/-- Runs an action. -/
def Action.run (ask : Ask σ) : Action → State σ → Outcome σ Reply
  | .reply r, s => some (.ok r, s)
  | .fail f, s => some (.error f, s)
  | .evaluate key context o next, s =>
    match ask key context o s with
    | none => none
    | some (answer, s) => (next answer).run ask s
  | .wait seconds next, s => next.run ask (s.wait seconds)

/-- What a handler gives for a node in a context: the value of its reply. Faults leave the node as
    graph faults. -/
def Handler.visit (ask : Ask σ) (h : Handler) (n : Node) (context : Value) (s : State σ) :
    Outcome σ Value :=
  match (h.act n context).run ask s with
  | none => none
  | some (result, s) =>
    some ((result.bind Reply.toValue).mapError fun f => f.atNode n.id n.tag, s)

/-! ## Logs -/

/-- What a walk notes on its way for the report. -/
structure Log where
  /-- The stops in order, when they are asked for. -/
  trace : Option (Array Stop)
  /-- How many nodes were visited. -/
  visited : Nat

namespace Log

/-- The log before the first node. -/
def start (traced : Bool) : Log :=
  ⟨if traced then some #[] else none, 0⟩

/-- Notes a stop. -/
def note (log : Log) (stop : Stop) : Log :=
  ⟨log.trace.map fun stops => stops.push stop, log.visited + 1⟩

@[simp] theorem trace_note (log : Log) (stop : Stop) :
    (log.note stop).trace = log.trace.map fun stops => stops.push stop := rfl

@[simp] theorem visited_note (log : Log) (stop : Stop) :
    (log.note stop).visited = log.visited + 1 := rfl

end Log

/-! ## Walks -/

/-- What stays the same during a walk. -/
structure Route (σ : Type) where
  /-- The graph. -/
  graph : Definition
  /-- The handlers. -/
  registry : Registry
  /-- How handlers have other decisions evaluated. -/
  ask : Ask σ
  /-- How many milliseconds the walk may take. -/
  budget : Int
  /-- The time after which no node starts. -/
  deadline : Float

namespace Route

/-- The node after one that a handler has visited, if the walk goes on. -/
def next? (r : Route σ) (h : Handler) (n : Node) : Option Station :=
  if h.terminal then none else r.graph.next? n

/-- Checks the deadline, and finds the handler of a node. -/
def handlerFor (r : Route σ) (n : Node) (now : Float) : Except Fault Handler :=
  if r.deadline < now then .error (.timedOut r.budget)
  else
    match r.registry.handler? n.tag with
    | some h => .ok h
    | none => .error (.unknownTag n.id n.tag)

/-- Visits one node: its handler and the stop. The clock is read before the handler is looked for,
    before it starts and after it has ended. -/
def visit (r : Route σ) (station : Station) (context : Value) (s : State σ) :
    Outcome σ (Handler × Stop) :=
  match r.handlerFor station.2 s.clock.now with
  | .error f => some (.error f, s.tick)
  | .ok h =>
    let started := s.tick.clock.now
    (h.visit r.ask station.2 context s.tick.tick).andThen fun output s =>
      let time := (s.clock.now - started) * 1000.0
      some (.ok (h, ⟨station.1, station.2, context, output, time⟩), s.tick)

/-- Where a turn of a walk leads. -/
inductive Departure where
  /-- The walk has come to its end, with a result. -/
  | ends (result : Value)
  /-- The walk goes on to a node with a context. -/
  | goes (next : Station) (context : Value)

/-- One turn of a walk: visits a node, notes the stop, and looks where the walk goes on. -/
def turn (r : Route σ) (station : Station) (context : Value) (log : Log) (s : State σ) :
    Outcome σ (Departure × Log) :=
  (r.visit station context s).andThen fun (h, stop) s =>
    match r.next? h station.2 with
    | none => some (.ok (.ends stop.output, log.note stop), s)
    | some next => some (.ok (.goes next stop.passedOn, log.note stop), s)

/-- Walks on from a node with a log, in at most the given number of steps. -/
def walkOn (r : Route σ) : Nat → Station → Value → Log → State σ → Outcome σ (Value × Log)
  | 0, _, _, _, _ => none
  | steps + 1, station, context, log, s =>
    (r.turn station context log s).andThen fun (departure, log) s =>
      match departure with
      | .ends result => some (.ok (result, log), s)
      | .goes next context => walkOn r steps next context log s

end Route

end DecisionFlow
