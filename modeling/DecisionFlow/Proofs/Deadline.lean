import DecisionFlow.Proofs.Doubles
import DecisionFlow.Proofs.Faults
import DecisionFlow.Proofs.Matching

set_option autoImplicit false

/-! # The deadline of an evaluation

Before every node the clock is read, and a reading past the deadline ends the evaluation there,
whatever the node is. So handlers start in time, and nothing depends on what is registered for a
node that the walk comes to late. After the last node the clock is not compared any more: an
evaluation comes to its end however long its last handler takes. -/

namespace DecisionFlow

variable {σ : Type}

/-! ## The deadline -/

/-- The time after which an evaluation that starts at a time starts no handler. -/
def Options.limit (o : Options) (started : Float) : Float :=
  started + Number.ofInt o.maxExecutionTimeMs / 1000.0

theorem Options.limit_of_deadline {o : Options} {started limit : Float}
    (h : deadline started o.maxExecutionTimeMs = .ok limit) : limit = o.limit started := by
  unfold deadline at h
  split at h
  · next ms hms =>
    rw [Number.ofInt?_eq_some hms] at h
    exact (Except.ok.inj h).symm
  · exact nomatch h

/-- A deadline is a number, so that every reading that is one compares with it. -/
theorem Options.isNaN_limit (o : Options) {started : Float} (h : started.isFinite = true) :
    (o.limit started).isNaN = false := by
  refine Number.isNaN_add h (Number.isNaN_div (Number.isNaN_ofInt _) ?_ ?_)
  · decide +kernel
  · decide +kernel

/-! ## Walks -/

namespace Route

variable {r : Route σ} {p q : Standpoint σ} {h : Handler} {stop : Stop} {t : State σ}

/-- A walk that comes to a visit after which nothing follows ends with what the visit gave, at
    whatever time. -/
theorem Reaches.exists_walkFrom {steps : Nat} (hreach : r.Reaches steps p q)
    (hvisit : r.visitAt q = some (.ok (h, stop), t)) (hlast : r.next? h q.station.2 = none) :
    ∃ j, r.walkFrom steps p = some (.ok j, t) ∧ j.result = stop.output := by
  induction hreach with
  | here => exact ⟨.single stop, walk_succ_eq_ok_iff.2 ⟨h, stop, t, hvisit, .inl ⟨hlast, rfl, rfl⟩⟩,
      rfl⟩
  | onward hgo _ ih =>
    obtain ⟨j, hwalk, hresult⟩ := ih hvisit hlast
    obtain ⟨first, hfirst⟩ := hgo.walkFrom_succ
    exact ⟨j.after first, by rw [hfirst, hwalk, Outcome.andThen_ok], hresult⟩

/-- From a standpoint where the visit fails no walk goes on. -/
theorem Reaches.eq_of_visitAt_error {steps : Nat} {f : Fault} (hreach : r.Reaches steps p q)
    (hvisit : r.visitAt p = some (.error f, t)) : q = p := by
  cases hreach with
  | here => rfl
  | onward hgo _ =>
    obtain ⟨k, stop, hgoes, _⟩ := hgo
    exact nomatch hvisit.symm.trans hgoes

end Route

/-- A standpoint is late: the clock shows a time past the deadline. -/
def Standpoint.IsLate (q : Standpoint σ) (o : Options) (started : Float) : Prop :=
  o.limit started < q.state.clock.now

namespace Engine

variable {e : Engine σ} {ask : Ask σ} {g : Definition} {context : Json} {o : Options}
  {s s' : State σ} {q : Standpoint σ} {h : Handler}

/-! ## Late standpoints -/

/-- The route of an evaluation, with its deadline. -/
abbrev timedRoute (e : Engine σ) (ask : Ask σ) (g : Definition) (o : Options) (started : Float) :
    Route σ :=
  e.route ask g o (o.limit started)

theorem ComesTo.reaches {steps : Nat} (hq : e.ComesTo ask g context o s steps q) :
    ∃ entry v, deadline s.clock.now o.maxExecutionTimeMs = .ok (o.limit s.clock.now) ∧
      g.start context = .ok (entry, v) ∧
      (e.timedRoute ask g o s.clock.now).Reaches steps ⟨entry, v, s.tick⟩ q := by
  obtain ⟨limit, entry, v, hlimit, hstart, hreach⟩ := hq
  obtain rfl := Options.limit_of_deadline hlimit
  exact ⟨entry, v, hlimit, hstart, hreach⟩

theorem Starts.comesTo (hs : e.Starts ask g context o s q h) :
    e.ComesTo ask g context o s e.steps q ∧
      (e.timedRoute ask g o s.clock.now).handlerFor q.station.2 q.state.clock.now = .ok h := by
  obtain ⟨limit, entry, v, hlimit, hstart, hreach, hh⟩ := hs
  obtain rfl := Options.limit_of_deadline hlimit
  exact ⟨⟨_, entry, v, hlimit, hstart, hreach⟩, hh⟩

theorem Starts.not_isLate (hs : e.Starts ask g context o s q h) : ¬q.IsLate o s.clock.now :=
  (Route.handlerFor_eq_ok_iff.1 hs.comesTo.2).1

theorem visitAt_of_isLate (hlate : q.IsLate o s.clock.now) :
    (e.timedRoute ask g o s.clock.now).visitAt q =
      some (.error (.timedOut o.maxExecutionTimeMs), q.state.tick) :=
  Route.visit_eq_error_iff.2 (.inl ⟨Route.handlerFor_eq_error_iff.2 (.inl ⟨hlate, rfl⟩), rfl⟩)

theorem visitAt_of_unknownTag (hlate : ¬q.IsLate o s.clock.now)
    (hh : e.registry.handler? q.station.2.tag = none) :
    (e.timedRoute ask g o s.clock.now).visitAt q =
      some (.error (.unknownTag q.station.2.id q.station.2.tag), q.state.tick) :=
  Route.visit_eq_error_iff.2
    (.inl ⟨Route.handlerFor_eq_error_iff.2 (.inr ⟨hlate, hh, rfl⟩), rfl⟩)

/-- In time, a visit is what the handler makes of it. -/
theorem visitAt_of_handler (hlate : ¬q.IsLate o s.clock.now)
    (hh : e.registry.handler? q.station.2.tag = some h) :
    (e.timedRoute ask g o s.clock.now).visitAt q =
      (h.visit ask q.station.2 q.context q.state.tick.tick).andThen fun output t =>
        some (.ok (h, Route.stopAt q.station q.context output q.state t), t.tick) := by
  have hfor : (e.timedRoute ask g o s.clock.now).handlerFor q.station.2 q.state.clock.now =
      .ok h := Route.handlerFor_eq_ok_iff.2 ⟨hlate, hh⟩
  rw [Route.visitAt, Route.visit, hfor]
  rfl

/-- The fault of a visit is the fault of the evaluation that comes to it. -/
theorem ComesTo.evaluateGraph_eq {f : Fault} (hq : e.ComesTo ask g context o s e.steps q)
    (hvisit : (e.timedRoute ask g o s.clock.now).visitAt q = some (.error f, s')) :
    e.evaluateGraph ask g context o s = some (.error f, s') := by
  obtain ⟨entry, v, hlimit, hstart, hreach⟩ := hq.reaches
  have hwalk := Route.walkFrom_eq_error_iff.2 ⟨q, hreach, hvisit⟩
  rw [evaluateGraph_eq_error_iff_travel, travel_eq_error_iff]
  exact Or.inr ⟨_, hlimit, Or.inr ⟨entry, v, hstart, hwalk⟩⟩

/-- An evaluation is timed out at a late standpoint, or a handler that has started in time is. -/
theorem timedOut_cases {budget : Int}
    (htimeout : e.evaluateGraph ask g context o s = some (.error (.timedOut budget), s')) :
    (∃ q, e.ComesTo ask g context o s e.steps q ∧ q.IsLate o s.clock.now ∧
      budget = o.maxExecutionTimeMs ∧ s' = q.state.tick) ∨
    ∃ q h, e.Starts ask g context o s q h ∧
      h.visit ask q.station.2 q.context q.state.tick.tick =
        some (.error (.timedOut budget), s') := by
  obtain hlarge | ⟨_, hentry⟩ | ⟨limit, entry, v, q, hlimit, hstart, hreach, hv⟩ :=
    evaluateGraph_error_cases htimeout
  · have heq := hlarge.evaluateGraph_eq e ask s
    rw [htimeout] at heq
    exact nomatch heq
  · exact nomatch hentry
  · obtain rfl := Options.limit_of_deadline hlimit
    obtain ⟨hh, rfl⟩ | ⟨h, hh, hvisit⟩ := Route.visit_eq_error_iff.1 hv
    · obtain ⟨hlate, hfault⟩ | ⟨_, _, hfault⟩ := Route.handlerFor_eq_error_iff.1 hh
      · exact .inl ⟨q, ⟨_, entry, v, hlimit, hstart, hreach⟩, hlate, Fault.timedOut.inj hfault, rfl⟩
      · exact nomatch hfault
    · exact .inr ⟨q, h, ⟨_, entry, v, hlimit, hstart, hreach, hh⟩, hvisit⟩

/-! ## The last handler -/

/-- An evaluation whose last handler gives something returns it, at whatever time. -/
theorem Starts.exists_report {output : Value} {t : State σ}
    (hs : e.Starts ask g context o s q h)
    (hlast : (e.timedRoute ask g o s.clock.now).next? h q.station.2 = none)
    (hvisit : h.visit ask q.station.2 q.context q.state.tick.tick = some (.ok output, t)) :
    ∃ report s', e.evaluateGraph ask g context o s = some (.ok report, s') ∧
      report.result = output := by
  obtain ⟨hcomes, hh⟩ := hs.comesTo
  obtain ⟨entry, v, hlimit, hstart, hreach⟩ := hcomes.reaches
  have hvisitAt := Route.visit_eq_ok_iff.2 ⟨hh, output, t, hvisit, rfl, rfl⟩
  obtain ⟨j, hwalk, hresult⟩ := hreach.exists_walkFrom hvisitAt hlast
  have htravel := travel_eq_ok_iff.2 ⟨_, entry, v, hlimit, hstart, hwalk⟩
  rcases hreport : j.report o s.clock.now t.tick with ⟨report, s'⟩
  refine ⟨report, s', evaluateGraph_eq_ok_iff_travel.2 ⟨j, t.tick, htravel, hreport⟩, ?_⟩
  exact (Journey.report_eq_iff.1 hreport).1.trans hresult

end Engine

/-! ## Registries -/

/-- What a registry makes of a node in a context: whether its handler is terminal, and what it
    does. -/
def Registry.answer? (r : Registry) (n : Node) (v : Value) : Option (Bool × Action) :=
  (r.handler? n.tag).map fun h => (h.terminal, h.act n v)

/-- The engine with other handlers. -/
def Engine.withRegistry (e : Engine σ) (registry : Registry) : Engine σ :=
  { e with registry := registry }

namespace Engine

variable {e : Engine σ} {ask : Ask σ} {g : Definition} {context : Json} {o : Options}
  {s s' : State σ} {q : Standpoint σ} {h : Handler} {registry : Registry}

/-- Two registries that make the same of the nodes in time have routes that match. -/
theorem matches_withRegistry
    (hsame : ∀ steps q, e.ComesTo ask g context o s steps q → ¬q.IsLate o s.clock.now →
      registry.answer? q.station.2 q.context = e.registry.answer? q.station.2 q.context)
    (hlimit : deadline s.clock.now o.maxExecutionTimeMs = .ok (o.limit s.clock.now)) :
    (e.timedRoute ask g o s.clock.now).Matches
      ((e.withRegistry registry).timedRoute ask g o s.clock.now) Eq Eq
      (fun p p' => p = p' ∧ ∃ steps, e.ComesTo ask g context o s steps p) := by
  rintro p _ ⟨rfl, steps, hp⟩
  by_cases hlate : p.IsLate o s.clock.now
  · rw [visitAt_of_isLate hlate, visitAt_of_isLate hlate]
    exact .error rfl
  · have hanswer := hsame steps p hp hlate
    unfold Registry.answer? at hanswer
    cases hh : e.registry.handler? p.station.2.tag with
    | none =>
      rw [hh, Option.map_none, Option.map_eq_none_iff] at hanswer
      rw [visitAt_of_unknownTag hlate hh, visitAt_of_unknownTag hlate hanswer]
      exact .error rfl
    | some h =>
      rw [hh, Option.map_some] at hanswer
      obtain ⟨h', hh', heq⟩ := Option.map_eq_some_iff.1 hanswer
      obtain ⟨hterminal, hact⟩ := Prod.mk.inj heq
      have hvisit : h'.visit ask p.station.2 p.context = h.visit ask p.station.2 p.context := by
        funext t
        rw [Handler.visit, Handler.visit, hact]
      have hnext : ((e.withRegistry registry).timedRoute ask g o s.clock.now).next? h'
          p.station.2 = (e.timedRoute ask g o s.clock.now).next? h p.station.2 := by
        rw [Route.next?, Route.next?, hterminal]
        rfl
      have hpasses : (e.timedRoute ask g o s.clock.now).visitAt p = _ := visitAt_of_handler hlate hh
      rw [hpasses, visitAt_of_handler hlate hh', hvisit]
      refine (Outcome.Alike.refl (fun _ => rfl) _).with_left.andThen fun output _ t hv => ?_
      obtain ⟨hgives, rfl⟩ := hv
      rw [hgives, Outcome.andThen_ok] at hpasses
      refine .ok ⟨rfl, ?_⟩
      dsimp only
      rw [hnext]
      cases hn : (e.timedRoute ask g o s.clock.now).next? h p.station.2 with
      | none => exact .ends rfl
      | some next =>
        -- The walks go on to one standpoint, and both come there.
        exact .goes ⟨rfl, steps + 1, hp.snoc hlimit ⟨h, _, hpasses, hn, rfl⟩⟩

/-- Registries that make the same of the nodes that an evaluation comes to in time give the same
    evaluation. -/
theorem evaluateGraph_withRegistry
    (hsame : ∀ steps q, e.ComesTo ask g context o s steps q → ¬q.IsLate o s.clock.now →
      registry.answer? q.station.2 q.context = e.registry.answer? q.station.2 q.context) :
    (e.withRegistry registry).evaluateGraph ask g context o s =
      e.evaluateGraph ask g context o s := by
  have htravel : (e.withRegistry registry).travel ask g context o s =
      e.travel ask g context o s := by
    unfold travel
    cases hlimit : deadline s.clock.now o.maxExecutionTimeMs with
    | error f => rfl
    | ok limit =>
      obtain rfl := Options.limit_of_deadline hlimit
      cases hstart : g.start context with
      | error f => rfl
      | ok start =>
        obtain ⟨entry, v⟩ := start
        have hentry : e.ComesTo ask g context o s 1 ⟨entry, v, s.tick⟩ :=
          ⟨_, entry, v, hlimit, hstart, .here⟩
        have hwalks := (matches_withRegistry hsame hlimit).walkFrom_alike ⟨rfl, 1, hentry⟩ e.steps
        exact (hwalks.mono fun j j' _ hj => hj.eq).eq.symm
  rw [evaluateGraph_eq_travel, evaluateGraph_eq_travel, htravel]

/-- Evaluations keep their deadline, which is the time of the start and the budget in seconds.
    Handlers start at readings that are not past it, hence at most as great when the start is finite
    and the reading does not fall below it. At a reading past it the evaluation fails with the
    budget, whatever the node there is, and no handler starts there or further on; what is
    registered for nodes that are late makes no difference. When the last handler has started in
    time, the evaluation returns what the handler gives or fails as it does, however late it is
    then. And an evaluation is timed out only when it is late before a node, or when a handler fails
    in this way by itself. -/
theorem deadline_kept (e : Engine σ) (ask : Ask σ) (g : Definition) (context : Json) (o : Options)
    (s : State σ) :
    (∀ q h, e.Starts ask g context o s q h →
      ¬o.limit s.clock.now < q.state.clock.now ∧
      (s.clock.now.isFinite = true → s.clock.now ≤ q.state.clock.now →
        q.state.clock.now ≤ o.limit s.clock.now)) ∧
    (∀ q, e.ComesTo ask g context o s e.steps q → o.limit s.clock.now < q.state.clock.now →
      e.evaluateGraph ask g context o s =
        some (.error (.timedOut o.maxExecutionTimeMs), q.state.tick) ∧
      ∀ steps q' h, (e.timedRoute ask g o s.clock.now).Reaches steps q q' →
        ¬e.Starts ask g context o s q' h) ∧
    (∀ registry : Registry,
      (∀ steps q, e.ComesTo ask g context o s steps q →
        ¬o.limit s.clock.now < q.state.clock.now →
          registry.answer? q.station.2 q.context = e.registry.answer? q.station.2 q.context) →
      (e.withRegistry registry).evaluateGraph ask g context o s =
        e.evaluateGraph ask g context o s) ∧
    (∀ q h, e.Starts ask g context o s q h →
      (e.timedRoute ask g o s.clock.now).next? h q.station.2 = none →
      (∀ output t, h.visit ask q.station.2 q.context q.state.tick.tick = some (.ok output, t) →
        ∃ report s', e.evaluateGraph ask g context o s = some (.ok report, s') ∧
          report.result = output) ∧
      ∀ f t, h.visit ask q.station.2 q.context q.state.tick.tick = some (.error f, t) →
        e.evaluateGraph ask g context o s = some (.error f, t)) ∧
    ∀ budget s', e.evaluateGraph ask g context o s = some (.error (.timedOut budget), s') →
      (∃ q, e.ComesTo ask g context o s e.steps q ∧ o.limit s.clock.now < q.state.clock.now ∧
        budget = o.maxExecutionTimeMs ∧ s' = q.state.tick) ∨
      ∃ q h, e.Starts ask g context o s q h ∧
        h.visit ask q.station.2 q.context q.state.tick.tick =
          some (.error (.timedOut budget), s') := by
  refine ⟨?_, ?_, ?_, ?_, ?_⟩
  · intro q h hs
    refine ⟨hs.not_isLate, fun hfinite hle => ?_⟩
    have hreading := (Number.isNaN_of_le hle).2
    exact Number.le_of_not_lt (o.isNaN_limit hfinite) hreading hs.not_isLate
  · intro q hq hlate
    have hvisit : (e.timedRoute ask g o s.clock.now).visitAt q = _ := visitAt_of_isLate hlate
    refine ⟨hq.evaluateGraph_eq hvisit, fun steps q' h hreach hs => ?_⟩
    obtain rfl := hreach.eq_of_visitAt_error hvisit
    exact hs.not_isLate hlate
  · intro registry hsame
    exact evaluateGraph_withRegistry hsame
  · intro q h hs hlast
    exact ⟨fun output t hvisit => hs.exists_report hlast hvisit,
      fun f t hvisit => hs.evaluateGraph_eq hvisit⟩
  · intro budget s' htimeout
    exact timedOut_cases htimeout

end Engine

/-- A clock of which each reading is a second after the one before: at a node of an unknown tag the
    evaluation is late, and it ends at the node before although that one ended late. -/
example :
    let clock := Clock.ofReadings fun n => n.toFloat
    let nodes := [("in", Sample.node "in" "input"), ("odd", Sample.node "odd" "?")]
    let run (edges : List Edge) := Sample.engine.evaluateGraph Sample.engine.ask
      ⟨"late", "", none, nodes, edges⟩ .null ⟨false, false, 2000⟩ (State.start [] clock)
    (match run [Sample.edge "in" "odd"] with
      | some (.error f, s) => f == .timedOut 2000 && s.clock.taken == 5
      | _ => false) = true ∧ (run []).isOk = true := by
  decide +kernel

end DecisionFlow
