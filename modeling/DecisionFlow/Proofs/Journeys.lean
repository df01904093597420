import DecisionFlow.Engine.Evaluation

set_option autoImplicit false

/-! # Journeys

What a walk notes has no say in where it goes. So a walk can be told without its log, as the journey
that it makes: its stops and its result. The walk with a log makes the same journey
(`Route.walkOn_eq_walk`), and its log says what the journey says: as many visits as there are stops
and, when they are asked for, the stops themselves. So an evaluation makes a journey and reports it
(`Engine.evaluateGraph_eq_travel`), and later proofs are about journeys. -/

namespace DecisionFlow

variable {σ : Type}

/-! ## Walks without a log -/

/-- A walk that came to its end. -/
structure Journey where
  /-- The stops in order. -/
  stops : List Stop
  /-- What the last node gave. -/
  result : Value

/-- A journey that starts one stop earlier. -/
def Journey.after (first : Stop) (j : Journey) : Journey :=
  ⟨first :: j.stops, j.result⟩

/-- A journey with a single stop. -/
def Journey.single (only : Stop) : Journey :=
  ⟨[only], only.output⟩

/-- Walks on from a node without a log, in at most the given number of steps. -/
def Route.walk (r : Route σ) : Nat → Station → Value → State σ → Outcome σ Journey
  | 0, _, _, _ => none
  | steps + 1, station, context, s =>
    (r.visit station context s).andThen fun (h, stop) s =>
      match r.next? h station.2 with
      | none => some (.ok (.single stop), s)
      | some next =>
        (walk r steps next stop.passedOn s).andThen fun j s => some (.ok (j.after stop), s)

/-! ## Logs of journeys -/

namespace Log

/-- Notes some stops in order. -/
def noteAll (log : Log) (stops : List Stop) : Log :=
  stops.foldl note log

theorem noteAll_cons (log : Log) (stop : Stop) (stops : List Stop) :
    log.noteAll (stop :: stops) = (log.note stop).noteAll stops := rfl

/-- A log without a trace gets none, and one with a trace gets the stops at its end. -/
theorem toList_trace_noteAll (log : Log) (stops : List Stop) :
    (log.noteAll stops).trace.map Array.toList =
      log.trace.map fun noted => noted.toList ++ stops := by
  induction stops generalizing log with
  | nil => simp [noteAll]
  | cons stop stops ih =>
    rw [noteAll_cons, ih, trace_note]
    cases log.trace <;> simp

/-- Every stop counts, noted or not. -/
theorem visited_noteAll (log : Log) (stops : List Stop) :
    (log.noteAll stops).visited = log.visited + stops.length := by
  induction stops generalizing log with
  | nil => rfl
  | cons stop stops ih =>
    rw [noteAll_cons, ih, visited_note, List.length_cons]
    omega

end Log

/-- A walk with a log makes the journey of the walk without one, and notes its stops. -/
theorem Route.walkOn_eq_walk (r : Route σ) (steps : Nat) (station : Station) (context : Value)
    (log : Log) (s : State σ) :
    r.walkOn steps station context log s =
      (r.walk steps station context s).andThen fun j t =>
        some (.ok (j.result, log.noteAll j.stops), t) := by
  -- The log grows from turn to turn, so the induction is for every log.
  induction steps generalizing station context log s with
  | zero => rfl
  | succ steps ih =>
    rw [walkOn, walk, turn]
    rcases r.visit station context s with _ | ⟨f | ⟨h, stop⟩, t⟩
    · rfl
    · rfl
    · simp only [Outcome.andThen_ok]
      cases r.next? h station.2 with
      | none => rfl
      | some next =>
        simp only [Outcome.andThen_ok, ih]
        rcases r.walk steps next stop.passedOn t with _ | ⟨f | j, u⟩ <;> rfl

/-! ## Reports of journeys -/

/-- The report of a journey. -/
def Journey.report (o : Options) (started : Float) (j : Journey) (s : State σ) :
    Report × State σ :=
  let trace := if o.includeTrace then some j.stops else none
  if o.includePerformance then
    (⟨j.result, trace, some ⟨(s.clock.now - started) * 1000.0, j.stops.length⟩⟩, s.tick)
  else (⟨j.result, trace, none⟩, s)

/-- A log with the stops of a journey is reported as the journey is. -/
theorem Log.report_noteAll (o : Options) (started : Float) (j : Journey) (s : State σ) :
    ((start o.includeTrace).noteAll j.stops).report o started j.result s =
      j.report o started s := by
  rw [report, Journey.report, toList_trace_noteAll, visited_noteAll]
  cases o.includeTrace <;> simp [start]

namespace Engine

variable (e : Engine σ) (ask : Ask σ) (g : Definition) (context : Json) (o : Options) (s : State σ)

/-- Walks through a graph in a context without a log. -/
def travel : Outcome σ Journey :=
  match deadline s.clock.now o.maxExecutionTimeMs with
  | .error f => some (.error f, s.tick)
  | .ok limit =>
    match g.start context with
    | .error f => some (.error f, s.tick)
    | .ok (entry, v) => (e.route ask g o limit).walk e.steps entry v s.tick

theorem walkThrough_eq_travel :
    e.walkThrough ask g context o s =
      (e.travel ask g context o s).andThen fun j t =>
        some (.ok (j.result, (Log.start o.includeTrace).noteAll j.stops), t) := by
  rw [walkThrough, travel]
  cases deadline s.clock.now o.maxExecutionTimeMs with
  | error f => rfl
  | ok limit =>
    rcases g.start context with f | ⟨entry, v⟩
    · rfl
    · exact Route.walkOn_eq_walk ..

/-- An evaluation makes a journey and reports it. -/
theorem evaluateGraph_eq_travel :
    e.evaluateGraph ask g context o s =
      (e.travel ask g context o s).andThen fun j t =>
        some (.ok (j.report o s.clock.now t).1, (j.report o s.clock.now t).2) := by
  rw [evaluateGraph, walkThrough_eq_travel]
  rcases e.travel ask g context o s with _ | ⟨f | j, t⟩
  · rfl
  · rfl
  · simp only [Outcome.andThen_ok, Log.report_noteAll]

end Engine

end DecisionFlow
