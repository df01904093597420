import DecisionFlow.Proofs.Reach
import Mathlib.Data.List.Chain

set_option autoImplicit false

/-! # What a trace says

The stops of an evaluation, told without the functions that make them: which stop comes first, what
each node gave, why one stop follows another, and why the last one is the last. An evaluation
returns a report exactly when there are stops of which all this is true, and it does return one
when its path ends and every check on the way passes. -/

namespace DecisionFlow

variable {σ : Type}

/-! ## Turns -/

/-- A stop of a walk, with the states before and after it. -/
structure Turn (σ : Type) where
  /-- The stop. -/
  stop : Stop
  /-- The state before the clock is read for the deadline. -/
  before : State σ
  /-- The state after the clock is read for the end of the visit. -/
  after : State σ

namespace Turn

/-- A turn is what the handler makes of it: the handler of the node's tag is started in time, and
    its action ends in a reply whose value is the output. -/
structure RunBy (t : Turn σ) (r : Route σ) (h : Handler) : Prop where
  /-- The clock shows no time past the deadline. -/
  inTime : ¬r.deadline < t.before.clock.now
  /-- The handler is registered for the tag of the node. -/
  registered : r.registry.handler? t.stop.node.tag = some h
  /-- The output is the value of what the handler gives for the node and the input. -/
  gives : ∃ reply u,
    (h.act t.stop.node t.stop.input).run r.ask t.before.tick.tick = some (.ok reply, u) ∧
      reply.toValue = .ok t.stop.output ∧
      t.stop.time = (u.clock.now - t.before.tick.clock.now) * 1000.0 ∧ t.after = u.tick

/-- One turn leads to another: no terminal handler, the first edge to the key of the next node, and
    the output as the next input unless it is null. -/
structure LeadsTo (r : Route σ) (t u : Turn σ) : Prop where
  /-- The handler of the node is not terminal. -/
  goesOn : ∃ h, r.registry.handler? t.stop.node.tag = some h ∧ h.terminal = false
  /-- The first edge from the node leads to the next key. -/
  edge : ∃ e, r.graph.firstEdge? t.stop.node = some e ∧ e.target = u.stop.key
  /-- The next node stands under that key. -/
  node : Fields.get? r.graph.nodes u.stop.key = some u.stop.node
  /-- A null output leaves the input as it is. -/
  input : u.stop.input = if t.stop.output.isNull then t.stop.input else t.stop.output
  /-- Nothing happens between the turns. -/
  state : u.before = t.after

/-- A turn is the last one: its handler is terminal, no edge starts at its node, or the first edge
    leads to no node, wherever later edges lead. -/
def Ends (r : Route σ) (t : Turn σ) : Prop :=
  (∃ h, r.registry.handler? t.stop.node.tag = some h ∧ h.terminal = true) ∨
    r.graph.firstEdge? t.stop.node = none ∨
    ∃ e, r.graph.firstEdge? t.stop.node = some e ∧ e.target ∉ Fields.keys r.graph.nodes

variable {r : Route σ} {t u : Turn σ} {h : Handler}

theorem RunBy.ends_iff (hr : t.RunBy r h) : t.Ends r ↔ r.next? h t.stop.node = none := by
  rw [Route.next?_eq_none_iff, Definition.next?_eq_none_iff, Ends, hr.registered]
  simp

theorem RunBy.leadsTo_iff (hr : t.RunBy r h) :
    t.LeadsTo r u ↔
      r.next? h t.stop.node = some u.stop.station ∧ u.stop.input = t.stop.passedOn ∧
        u.before = t.after := by
  rw [Route.next?_eq_some_iff, Definition.next?_eq_some_iff]
  constructor
  · rintro ⟨⟨k, hk, hterm⟩, ⟨e, he, hkey⟩, hnode, hinput, hstate⟩
    obtain rfl := Option.some.inj (hr.registered.symm.trans hk)
    exact ⟨⟨hterm, e, he, hkey, hnode⟩, hinput, hstate⟩
  · rintro ⟨⟨hterm, e, he, hkey, hnode⟩, hinput, hstate⟩
    exact ⟨⟨h, hr.registered, hterm⟩, ⟨e, he, hkey⟩, hnode, hinput, hstate⟩

end Turn

/-- A visit that succeeds is a turn. -/
theorem Route.visit_eq_ok_iff_runBy {r : Route σ} {station : Station} {context : Value}
    {h : Handler} {stop : Stop} {s s' : State σ} :
    r.visit station context s = some (.ok (h, stop), s') ↔
      stop.station = station ∧ stop.input = context ∧ Turn.RunBy ⟨stop, s, s'⟩ r h := by
  rw [visit_eq_ok_iff, handlerFor_eq_ok_iff]
  constructor
  · rintro ⟨⟨hlate, hh⟩, output, t, hv, rfl, rfl⟩
    obtain ⟨reply, hrun, hreply⟩ := Handler.visit_eq_ok_iff.1 hv
    exact ⟨rfl, rfl, hlate, hh, reply, t, hrun, hreply, rfl, rfl⟩
  · rintro ⟨rfl, rfl, hlate, hh, reply, u, hrun, hreply, htime, rfl⟩
    obtain ⟨key, node, input, output, time⟩ := stop
    have hstop : (⟨key, node, input, output, time⟩ : Stop) = stopAt (key, node) input output s u :=
      congrArg (Stop.mk key node input output) htime
    exact ⟨⟨hlate, hh⟩, output, u, Handler.visit_eq_ok_iff.2 ⟨reply, hrun, hreply⟩, hstop, rfl⟩

/-! ## Tours -/

/-- The turns of a whole walk. -/
structure Route.Tour (r : Route σ) (entry : Station) (context : Value) (s : State σ)
    (turns : List (Turn σ)) (s' : State σ) : Prop where
  /-- The first turn is at the entry, with the context of the walk. -/
  first : ∃ t, turns.head? = some t ∧ t.stop.station = entry ∧ t.stop.input = context ∧ t.before = s
  /-- Every turn is run by a handler. -/
  run : ∀ t ∈ turns, ∃ h, t.RunBy r h
  /-- Every turn leads to the next one. -/
  leads : turns.IsChain (Turn.LeadsTo r)
  /-- The last turn ends the walk. -/
  last : ∃ t, turns.getLast? = some t ∧ t.Ends r ∧ t.after = s'

namespace Route

variable {r : Route σ} {t u : Turn σ} {h : Handler} {rest : List (Turn σ)} {s' : State σ}

theorem tour_singleton_iff (hr : t.RunBy r h) :
    r.Tour t.stop.station t.stop.input t.before [t] s' ↔ t.Ends r ∧ t.after = s' := by
  constructor
  · intro ht
    obtain ⟨v, hv, hends, hafter⟩ := ht.last
    obtain rfl := Option.some.inj hv
    exact ⟨hends, hafter⟩
  · rintro ⟨hends, rfl⟩
    exact ⟨⟨t, rfl, rfl, rfl, rfl⟩, by simpa using ⟨h, hr⟩, .singleton t, ⟨t, rfl, hends, rfl⟩⟩

theorem tour_cons_cons_iff (hr : t.RunBy r h) :
    r.Tour t.stop.station t.stop.input t.before (t :: u :: rest) s' ↔
      t.LeadsTo r u ∧ r.Tour u.stop.station u.stop.input u.before (u :: rest) s' := by
  constructor
  · rintro ⟨_, hrun, hleads, hlast⟩
    rw [List.isChain_cons_cons] at hleads
    rw [List.getLast?_cons_cons] at hlast
    exact ⟨hleads.1, ⟨u, rfl, rfl, rfl, rfl⟩, fun v hv => hrun v (List.mem_cons_of_mem _ hv),
      hleads.2, hlast⟩
  · rintro ⟨hlead, _, hrun, hleads, hlast⟩
    refine ⟨⟨t, rfl, rfl, rfl, rfl⟩, List.forall_mem_cons.2 ⟨⟨h, hr⟩, hrun⟩, ?_, ?_⟩
    · exact List.isChain_cons_cons.2 ⟨hlead, hleads⟩
    · rwa [List.getLast?_cons_cons]

/-- A tour starts with a turn at its entry. -/
theorem Tour.exists_cons {entry : Station} {context : Value} {s : State σ} {turns : List (Turn σ)}
    (ht : r.Tour entry context s turns s') :
    ∃ t rest h, turns = t :: rest ∧ t.RunBy r h ∧ t.stop.station = entry ∧
      t.stop.input = context ∧ t.before = s := by
  obtain ⟨t, hhead, hstation, hinput, hbefore⟩ := ht.first
  obtain ⟨rest, rfl⟩ := List.head?_eq_some_iff.1 hhead
  obtain ⟨h, hr⟩ := ht.run t (List.mem_cons_self ..)
  exact ⟨t, rest, h, rfl, hr, hstation, hinput, hbefore⟩

/-- The journey of some turns. -/
def IsJourneyOf (j : Journey) (turns : List (Turn σ)) : Prop :=
  j.stops = turns.map Turn.stop ∧ turns.getLast?.map (fun t => t.stop.output) = some j.result

/-- A walk comes to its end exactly with the tours that are short enough. -/
theorem walk_eq_ok_iff {steps : Nat} {entry : Station} {context : Value} {j : Journey}
    {s s' : State σ} :
    r.walk steps entry context s = some (.ok j, s') ↔
      ∃ turns, r.Tour entry context s turns s' ∧ turns.length ≤ steps ∧ IsJourneyOf j turns := by
  induction steps generalizing entry context j s with
  | zero =>
    constructor
    · intro hw
      simp [walk] at hw
    · rintro ⟨turns, ht, hlen, _⟩
      obtain ⟨t, rest, h, rfl, _⟩ := ht.exists_cons
      simp at hlen
  | succ steps ih =>
    rw [walk_succ_eq_ok_iff]
    constructor
    · rintro ⟨h, stop, t, hv, ⟨hn, rfl, rfl⟩ | ⟨next, rest, hn, hw, rfl⟩⟩
      · obtain ⟨rfl, rfl, hr⟩ := visit_eq_ok_iff_runBy.1 hv
        exact ⟨[⟨stop, s, s'⟩], (tour_singleton_iff hr).2 ⟨hr.ends_iff.2 hn, rfl⟩, by simp,
          rfl, rfl⟩
      · obtain ⟨rfl, rfl, hr⟩ := visit_eq_ok_iff_runBy.1 hv
        -- The tour of the rest starts where the first turn leads, so it goes on from there.
        obtain ⟨turns, ht, hlen, hstops, hresult⟩ := ih.1 hw
        obtain ⟨u, more, k, rfl, _, rfl, hinput, rfl⟩ := ht.exists_cons
        have hlead : Turn.LeadsTo r ⟨stop, s, u.before⟩ u := hr.leadsTo_iff.2 ⟨hn, hinput, rfl⟩
        rw [← hinput] at ht
        refine ⟨⟨stop, s, u.before⟩ :: u :: more, (tour_cons_cons_iff hr).2 ⟨hlead, ht⟩, ?_, ?_, ?_⟩
        · simpa using hlen
        · simp [Journey.after, hstops]
        · simpa [Journey.after] using hresult
    · rintro ⟨turns, ht, hlen, hstops, hresult⟩
      obtain ⟨t, rest, h, rfl, hr, rfl, rfl, rfl⟩ := ht.exists_cons
      refine ⟨h, t.stop, t.after, visit_eq_ok_iff_runBy.2 ⟨rfl, rfl, hr⟩, ?_⟩
      cases rest with
      | nil =>
        obtain ⟨hends, rfl⟩ := (tour_singleton_iff hr).1 ht
        obtain ⟨stops, result⟩ := j
        simp only [List.map_cons, List.map_nil, List.getLast?_singleton, Option.map_some,
          Option.some.injEq] at hstops hresult
        subst hstops hresult
        exact Or.inl ⟨hr.ends_iff.1 hends, rfl, rfl⟩
      | cons u more =>
        obtain ⟨hlead, htail⟩ := (tour_cons_cons_iff hr).1 ht
        obtain ⟨hn, hinput, hbefore⟩ := hr.leadsTo_iff.1 hlead
        -- Without its first turn the tour is that of a walk that starts at the second.
        rw [hinput, hbefore] at htail
        rw [List.getLast?_cons_cons] at hresult
        obtain ⟨stops, result⟩ := j
        obtain rfl : stops = _ := hstops
        exact Or.inr ⟨u.stop.station, ⟨(u :: more).map Turn.stop, result⟩, hn,
          ih.2 ⟨u :: more, htail, Nat.le_of_succ_le_succ hlen, rfl, hresult⟩, rfl⟩

end Route

/-! ## Evaluations -/

/-- Every check at a standpoint passes: it is in time, the tag of its node has a handler, and what
    the handler gives has a value. -/
def Standpoint.Passes (q : Standpoint σ) (r : Route σ) : Prop :=
  ¬r.deadline < q.state.clock.now ∧
    ∃ h reply t v, r.registry.handler? q.station.2.tag = some h ∧
      (h.act q.station.2 q.context).run r.ask q.state.tick.tick = some (.ok reply, t) ∧
      reply.toValue = .ok v

theorem Standpoint.Passes.visitAt {q : Standpoint σ} {r : Route σ} (hq : q.Passes r) :
    ∃ h stop t, r.visitAt q = some (.ok (h, stop), t) := by
  obtain ⟨hlate, h, reply, t, v, hh, hrun, hv⟩ := hq
  refine ⟨h, Route.stopAt q.station q.context v q.state t, t.tick, Route.visit_eq_ok_iff.2 ?_⟩
  exact ⟨Route.handlerFor_eq_ok_iff.2 ⟨hlate, hh⟩, v, t,
    Handler.visit_eq_ok_iff.2 ⟨reply, hrun, hv⟩, rfl, rfl⟩

/-- An evaluation returns a report exactly when there is a tour for it: the trace lists the stops
    of the tour, the result is the output of the last stop, null or not, and the number of visited
    nodes is that of the stops. And an evaluation does return when its path ends and every check at
    the standpoints that it comes to passes. -/
theorem Engine.returns_iff_tour (e : Engine σ) (ask : Ask σ) (g : Definition) (context : Json)
    (o : Options) (s : State σ) :
    (∀ report s', e.evaluateGraph ask g context o s = some (.ok report, s') ↔
      ∃ limit entry v turns t, deadline s.clock.now o.maxExecutionTimeMs = .ok limit ∧
        g.inputNode? = some entry ∧ Value.ofJson? context = some v ∧
        (e.route ask g o limit).Tour entry v s.tick turns t ∧ turns.length ≤ e.steps ∧
        turns.getLast?.map (fun t => t.stop.output) = some report.result ∧
        report.trace = (if o.includeTrace then some (turns.map Turn.stop) else none) ∧
        report.performance = (if o.includePerformance then
          some ⟨(t.clock.now - s.clock.now) * 1000.0, turns.length⟩ else none) ∧
        s' = if o.includePerformance then t.tick else t) ∧
    ∀ limit entry v stations, deadline s.clock.now o.maxExecutionTimeMs = .ok limit →
      g.inputNode? = some entry → Value.ofJson? context = some v →
      Trail (g.after? e.registry.isTerminal) entry stations → stations.length ≤ e.steps →
      (∀ q, (e.route ask g o limit).Reaches e.steps ⟨entry, v, s.tick⟩ q →
        q.Passes (e.route ask g o limit)) →
      ∃ report s', e.evaluateGraph ask g context o s = some (.ok report, s') := by
  constructor
  · intro report s'
    rw [evaluateGraph_eq_ok_iff_travel]
    constructor
    · rintro ⟨j, t, hj, hreport⟩
      obtain ⟨limit, entry, v, hlimit, hstart, hw⟩ := travel_eq_ok_iff.1 hj
      obtain ⟨hentry, hv⟩ := Definition.start_eq_ok_iff.1 hstart
      obtain ⟨turns, htour, hlen, hstops, hlast⟩ := Route.walk_eq_ok_iff.1 hw
      obtain ⟨hresult, htrace, hperf, hstate⟩ := Journey.report_eq_iff.1 hreport
      rw [hstops] at htrace
      rw [hstops, List.length_map] at hperf
      exact ⟨limit, entry, v, turns, t, hlimit, hentry, hv, htour, hlen, hresult ▸ hlast, htrace,
        hperf, hstate⟩
    · rintro ⟨limit, entry, v, turns, t, hlimit, hentry, hv, htour, hlen, hlast, htrace, hperf,
        hstate⟩
      have hw := Route.walk_eq_ok_iff.2
        ⟨turns, htour, hlen, (⟨rfl, hlast⟩ : Route.IsJourneyOf ⟨_, report.result⟩ turns)⟩
      refine ⟨_, t, travel_eq_ok_iff.2
        ⟨limit, entry, v, hlimit, Definition.start_eq_ok_iff.2 ⟨hentry, hv⟩, hw⟩, ?_⟩
      exact Journey.report_eq_iff.2 ⟨rfl, htrace, by rw [hperf, List.length_map], hstate⟩
  · intro limit entry v stations hlimit hentry hv htrail hlen hpass
    obtain ⟨j, t, hw⟩ := Route.exists_walk_of_trail (r := e.route ask g o limit)
      (p := ⟨entry, v, s.tick⟩) htrail hlen fun q hq => (hpass q hq).visitAt
    have hj : e.travel ask g context o s = some (.ok j, t) := travel_eq_ok_iff.2
      ⟨limit, entry, v, hlimit, Definition.start_eq_ok_iff.2 ⟨hentry, hv⟩, hw⟩
    exact ⟨_, _, evaluateGraph_eq_ok_iff_travel.2 ⟨j, t, hj, rfl⟩⟩

end DecisionFlow
