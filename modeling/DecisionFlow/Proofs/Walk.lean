import DecisionFlow.Proofs.Journeys
import DecisionFlow.Proofs.Results

set_option autoImplicit false

/-! # The rules of a walk

What each part of a walk does, said once: which node follows a node, what a handler gives, when a
visit succeeds and with which fault it fails. Everything about whole walks is derived from these
rules, and no later proof opens the functions. -/

namespace DecisionFlow

variable {σ : Type}

/-- Whether a computation gives a result. -/
def Outcome.isOk {α : Type} : Outcome σ α → Bool
  | some (.ok _, _) => true
  | _ => false

theorem Outcome.isOk_iff {α : Type} {x : Outcome σ α} :
    x.isOk = true ↔ ∃ a s, x = some (.ok a, s) := by
  rcases x with _ | ⟨f | a, s⟩ <;> simp [Outcome.isOk]

/-! ## Edges -/

/-- The first edge that starts at a node. -/
def Definition.firstEdge? (g : Definition) (n : Node) : Option Edge :=
  g.edges.find? fun e => e.source = n.id

theorem Definition.firstEdge?_eq_head? (g : Definition) (n : Node) :
    g.firstEdge? n = (g.edgesFrom n.id).head? := by
  simp [Definition.firstEdge?, Definition.edgesFrom]

theorem Definition.next?_eq_bind (g : Definition) (n : Node) :
    g.next? n = (g.firstEdge? n).bind fun e =>
      (Fields.get? g.nodes e.target).map fun next => (e.target, next) := by
  rw [Definition.firstEdge?_eq_head?, Definition.next?]
  cases g.edgesFrom n.id <;> rfl

/-- The next node is the one under the key that the first edge names. -/
theorem Definition.next?_eq_some_iff {g : Definition} {n : Node} {next : Station} :
    g.next? n = some next ↔
      ∃ e, g.firstEdge? n = some e ∧ e.target = next.1 ∧
        Fields.get? g.nodes next.1 = some next.2 := by
  obtain ⟨key, node⟩ := next
  rw [Definition.next?_eq_bind]
  constructor
  · intro h
    obtain ⟨e, he, h⟩ := Option.bind_eq_some_iff.1 h
    obtain ⟨m, hm, h⟩ := Option.map_eq_some_iff.1 h
    obtain ⟨rfl, rfl⟩ := Prod.mk.inj h
    exact ⟨e, he, rfl, hm⟩
  · rintro ⟨e, he, rfl, hm⟩
    simp [he, hm]

/-- No node follows when no edge starts at a node, or the first one leads to no node. -/
theorem Definition.next?_eq_none_iff {g : Definition} {n : Node} :
    g.next? n = none ↔
      g.firstEdge? n = none ∨
        ∃ e, g.firstEdge? n = some e ∧ e.target ∉ Fields.keys g.nodes := by
  rw [Definition.next?_eq_bind]
  cases g.firstEdge? n with
  | none => simp
  | some e => simp [Fields.mem_keys_iff_has, Fields.has]

namespace Route

theorem next?_eq_none_iff {r : Route σ} {h : Handler} {n : Node} :
    r.next? h n = none ↔ h.terminal = true ∨ r.graph.next? n = none := by
  cases ht : h.terminal <;> simp [next?, ht]

theorem next?_eq_some_iff {r : Route σ} {h : Handler} {n : Node} {next : Station} :
    r.next? h n = some next ↔ h.terminal = false ∧ r.graph.next? n = some next := by
  cases ht : h.terminal <;> simp [next?, ht]

end Route

/-! ## Handlers -/

/-- A handler gives the value of the reply in which its action ends. -/
theorem Handler.visit_eq_ok_iff {ask : Ask σ} {h : Handler} {n : Node} {context output : Value}
    {s s' : State σ} :
    h.visit ask n context s = some (.ok output, s') ↔
      ∃ reply, (h.act n context).run ask s = some (.ok reply, s') ∧
        reply.toValue = .ok output := by
  rw [Handler.visit]
  rcases (h.act n context).run ask s with _ | ⟨f | reply, t⟩
  · simp
  · simp [Except.bind, mapError_eq_ok_iff]
  · simp [Except.bind, mapError_eq_ok_iff, and_assoc, and_comm (a := t = s')]

/-- A handler fails with what its action failed with, or its reply has no value. -/
theorem Handler.visit_eq_error_iff {ask : Ask σ} {h : Handler} {n : Node} {context : Value}
    {f : Fault} {s s' : State σ} :
    h.visit ask n context s = some (.error f, s') ↔
      ∃ result g, (h.act n context).run ask s = some (result, s') ∧
        result.bind Reply.toValue = .error g ∧ f = g.atNode n.id n.tag := by
  rw [Handler.visit]
  rcases (h.act n context).run ask s with _ | ⟨result, t⟩
  · simp
  · simp only [Option.some.injEq, Prod.mk.injEq, mapError_eq_error_iff]
    constructor
    · rintro ⟨⟨g, hg, hf⟩, rfl⟩
      exact ⟨result, g, ⟨rfl, rfl⟩, hg, hf⟩
    · rintro ⟨result', g, ⟨rfl, rfl⟩, hg, hf⟩
      exact ⟨⟨g, hg, hf⟩, rfl⟩

/-! ## Visits -/

namespace Route

theorem handlerFor_eq_ok_iff {r : Route σ} {n : Node} {now : Float} {h : Handler} :
    r.handlerFor n now = .ok h ↔ ¬r.deadline < now ∧ r.registry.handler? n.tag = some h := by
  unfold handlerFor
  split
  · simp_all
  · cases hh : r.registry.handler? n.tag <;> simp_all

/-- A visit fails before the handler runs when it is late or there is no handler. -/
theorem handlerFor_eq_error_iff {r : Route σ} {n : Node} {now : Float} {f : Fault} :
    r.handlerFor n now = .error f ↔
      r.deadline < now ∧ f = .timedOut r.budget ∨
        ¬r.deadline < now ∧ r.registry.handler? n.tag = none ∧ f = .unknownTag n.id n.tag := by
  unfold handlerFor
  split
  · next hl => simp [hl, eq_comm]
  · next hl =>
    cases hh : r.registry.handler? n.tag with
    | none => simp [hl, eq_comm]
    | some h => simp [hl]

/-- The stop that a visit makes, given what the handler gave and the state after it. -/
def stopAt (station : Station) (context output : Value) (s t : State σ) : Stop :=
  ⟨station.1, station.2, context, output, (t.clock.now - s.tick.clock.now) * 1000.0⟩

theorem visit_eq_ok_iff {r : Route σ} {station : Station} {context : Value} {h : Handler}
    {stop : Stop} {s s' : State σ} :
    r.visit station context s = some (.ok (h, stop), s') ↔
      r.handlerFor station.2 s.clock.now = .ok h ∧
        ∃ output t, h.visit r.ask station.2 context s.tick.tick = some (.ok output, t) ∧
          stop = stopAt station context output s t ∧ s' = t.tick := by
  unfold visit
  cases hh : r.handlerFor station.2 s.clock.now with
  | error f => simp
  | ok k =>
    simp only [Outcome.andThen_eq_ok_iff, Option.some.injEq, Prod.mk.injEq, Except.ok.injEq]
    constructor
    · rintro ⟨output, t, hv, ⟨rfl, rfl⟩, rfl⟩
      exact ⟨rfl, output, t, hv, rfl, rfl⟩
    · rintro ⟨rfl, output, t, hv, rfl, rfl⟩
      exact ⟨output, t, hv, ⟨rfl, rfl⟩, rfl⟩

theorem visit_eq_error_iff {r : Route σ} {station : Station} {context : Value} {f : Fault}
    {s s' : State σ} :
    r.visit station context s = some (.error f, s') ↔
      r.handlerFor station.2 s.clock.now = .error f ∧ s' = s.tick ∨
        ∃ h, r.handlerFor station.2 s.clock.now = .ok h ∧
          h.visit r.ask station.2 context s.tick.tick = some (.error f, s') := by
  unfold visit
  cases hh : r.handlerFor station.2 s.clock.now with
  | error g => simp [eq_comm]
  | ok k => simp [Outcome.andThen_eq_error_iff]

/-! ## Steps of a walk -/

/-- A walk comes to its end with its first stop, or goes on from the next node. -/
theorem walk_succ_eq_ok_iff {r : Route σ} {steps : Nat} {station : Station} {context : Value}
    {j : Journey} {s s' : State σ} :
    r.walk (steps + 1) station context s = some (.ok j, s') ↔
      ∃ h stop t, r.visit station context s = some (.ok (h, stop), t) ∧
        (r.next? h station.2 = none ∧ j = .single stop ∧ s' = t ∨
          ∃ next rest, r.next? h station.2 = some next ∧
            r.walk steps next stop.passedOn t = some (.ok rest, s') ∧ j = rest.after stop) := by
  rw [walk, Outcome.andThen_eq_ok_iff]
  constructor
  · rintro ⟨⟨h, stop⟩, t, hv, hw⟩
    refine ⟨h, stop, t, hv, ?_⟩
    cases hn : r.next? h station.2 with
    | none =>
      simp only [hn, Option.some.injEq, Prod.mk.injEq, Except.ok.injEq] at hw
      exact Or.inl ⟨rfl, hw.1.symm, hw.2.symm⟩
    | some next =>
      simp only [hn, Outcome.andThen_eq_ok_iff, Option.some.injEq, Prod.mk.injEq,
        Except.ok.injEq] at hw
      obtain ⟨rest, u, hw, rfl, rfl⟩ := hw
      exact Or.inr ⟨next, rest, rfl, hw, rfl⟩
  · rintro ⟨h, stop, t, hv, ⟨hn, rfl, rfl⟩ | ⟨next, rest, hn, hw, rfl⟩⟩
    · exact ⟨(h, stop), s', hv, by simp [hn]⟩
    · exact ⟨(h, stop), t, hv, by simp [hn, hw]⟩

/-- A walk fails at its first node, or further on. -/
theorem walk_succ_eq_error_iff {r : Route σ} {steps : Nat} {station : Station} {context : Value}
    {f : Fault} {s s' : State σ} :
    r.walk (steps + 1) station context s = some (.error f, s') ↔
      r.visit station context s = some (.error f, s') ∨
        ∃ h stop t next, r.visit station context s = some (.ok (h, stop), t) ∧
          r.next? h station.2 = some next ∧
          r.walk steps next stop.passedOn t = some (.error f, s') := by
  rw [walk, Outcome.andThen_eq_error_iff]
  refine or_congr_right ⟨?_, ?_⟩
  · rintro ⟨⟨h, stop⟩, t, hv, hw⟩
    cases hn : r.next? h station.2 with
    | none => simp [hn] at hw
    | some next =>
      simp only [hn, Outcome.andThen_eq_error_iff, Option.some.injEq, Prod.mk.injEq,
        reduceCtorEq, false_and, and_false, exists_false, or_false] at hw
      exact ⟨h, stop, t, next, hv, hn, hw⟩
  · rintro ⟨h, stop, t, next, hv, hn, hw⟩
    exact ⟨(h, stop), t, hv, by simp [hn, hw]⟩

end Route

/-! ## Evaluations -/

theorem deadline_eq_error_iff {started : Float} {budget : Int} {f : Fault} :
    deadline started budget = .error f ↔
      Number.ofInt? budget = none ∧ f = .number .tooLarge := by
  unfold deadline
  cases Number.ofInt? budget <;> simp [eq_comm]

theorem Definition.start_eq_ok_iff {g : Definition} {context : Json} {entry : Station}
    {v : Value} :
    g.start context = .ok (entry, v) ↔
      g.inputNode? = some entry ∧ Value.ofJson? context = some v := by
  unfold Definition.start Reply.valueOfDatum
  cases g.inputNode? <;> cases Value.ofJson? context <;> simp [Except.map]

theorem Definition.start_eq_error_iff {g : Definition} {context : Json} {f : Fault} :
    g.start context = .error f ↔
      g.inputNode? = none ∧ f = .noEntry g.label ∨
        g.inputNode? ≠ none ∧ Value.ofJson? context = none ∧ f = .number .tooLarge := by
  unfold Definition.start Reply.valueOfDatum
  cases g.inputNode? <;> cases Value.ofJson? context <;> simp [Except.map, eq_comm]

/-- A report has the parts that were asked for, and the clock is read for the performance only. -/
theorem Journey.report_eq_iff {j : Journey} {o : Options} {started : Float} {s s' : State σ}
    {report : Report} :
    j.report o started s = (report, s') ↔
      report.result = j.result ∧
        report.trace = (if o.includeTrace then some j.stops else none) ∧
        report.performance = (if o.includePerformance then
          some ⟨(s.clock.now - started) * 1000.0, j.stops.length⟩ else none) ∧
        s' = if o.includePerformance then s.tick else s := by
  obtain ⟨result, trace, performance⟩ := report
  unfold Journey.report
  cases o.includePerformance
  all_goals
    simp only [Bool.false_eq_true, if_true, if_false, Prod.mk.injEq, Report.mk.injEq]
    grind

namespace Engine

variable {e : Engine σ} {ask : Ask σ} {g : Definition} {context : Json} {o : Options}
  {s s' : State σ}

theorem travel_eq_ok_iff {j : Journey} :
    e.travel ask g context o s = some (.ok j, s') ↔
      ∃ limit entry v, deadline s.clock.now o.maxExecutionTimeMs = .ok limit ∧
        g.start context = .ok (entry, v) ∧
        (e.route ask g o limit).walk e.steps entry v s.tick = some (.ok j, s') := by
  unfold travel
  cases deadline s.clock.now o.maxExecutionTimeMs with
  | error f => simp
  | ok limit =>
    rcases g.start context with f | ⟨entry, v⟩
    · simp
    · simp [and_assoc]

/-- A walk fails before its first node or at one of its nodes. -/
theorem travel_eq_error_iff {f : Fault} :
    e.travel ask g context o s = some (.error f, s') ↔
      deadline s.clock.now o.maxExecutionTimeMs = .error f ∧ s' = s.tick ∨
        ∃ limit, deadline s.clock.now o.maxExecutionTimeMs = .ok limit ∧
          (g.start context = .error f ∧ s' = s.tick ∨
            ∃ entry v, g.start context = .ok (entry, v) ∧
              (e.route ask g o limit).walk e.steps entry v s.tick = some (.error f, s')) := by
  unfold travel
  cases deadline s.clock.now o.maxExecutionTimeMs with
  | error f => simp [eq_comm]
  | ok limit =>
    rcases g.start context with f | ⟨entry, v⟩
    · simp [eq_comm]
    · simp [and_assoc]

theorem evaluateGraph_eq_ok_iff_travel {report : Report} :
    e.evaluateGraph ask g context o s = some (.ok report, s') ↔
      ∃ j t, e.travel ask g context o s = some (.ok j, t) ∧
        j.report o s.clock.now t = (report, s') := by
  simp [evaluateGraph_eq_travel, Outcome.andThen_eq_ok_iff, Prod.ext_iff]

theorem evaluateGraph_eq_error_iff_travel {f : Fault} :
    e.evaluateGraph ask g context o s = some (.error f, s') ↔
      e.travel ask g context o s = some (.error f, s') := by
  simp [evaluateGraph_eq_travel, Outcome.andThen_eq_error_iff]

end Engine

end DecisionFlow
