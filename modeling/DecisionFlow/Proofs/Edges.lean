import DecisionFlow.Proofs.Reach

set_option autoImplicit false

/-! # Where edges lead

An edge starts at a node by its identifier and leads to a node by its key, and nothing in a graph
makes the two agree. So an edge that names the identifier of a node leads to a node with that
identifier exactly when there is one under the key of the same name. In a graph whose nodes stand
under their identifiers this is always so. In any other graph the walk may end instead, and nothing
says that it has ended too early. -/

namespace DecisionFlow

variable {σ : Type}

/-! ## Names -/

/-- Every node stands under its own identifier. -/
def Definition.KeyedById (g : Definition) : Prop :=
  ∀ station ∈ g.nodes, station.1 = station.2.id

/-- Some node of the graph has the identifier. -/
def Definition.HasId (g : Definition) (id : String) : Prop :=
  ∃ station ∈ g.nodes, station.2.id = id

/-- Where nodes stand under their identifiers, an identifier of a node is a key of one. -/
theorem Definition.KeyedById.exists_get? {g : Definition} (hg : g.KeyedById) {id : String}
    (hid : g.HasId id) : ∃ n, Fields.get? g.nodes id = some n ∧ n.id = id := by
  obtain ⟨station, hmem, rfl⟩ := hid
  have hkey : station.2.id ∈ Fields.keys g.nodes := by
    rw [← hg station hmem]
    exact List.mem_map_of_mem hmem
  rw [Fields.mem_keys_iff_has, Fields.has, Option.isSome_iff_exists] at hkey
  obtain ⟨n, hn⟩ := hkey
  exact ⟨n, hn, (hg _ (Fields.mem_of_get? hn)).symm⟩

/-! ## Going on -/

namespace Route

variable {r : Route σ} {p q : Standpoint σ} {h : Handler} {stop : Stop} {t : State σ} {e : Edge}

/-- After the visit of a node whose handler is not terminal, a walk goes on to the node under the
    key that the first edge names. -/
theorem goes_iff_get? (hvisit : r.visitAt p = some (.ok (h, stop), t)) (hterm : h.terminal = false)
    (he : r.graph.firstEdge? p.station.2 = some e) :
    r.Goes p q ↔ q.station.1 = e.target ∧ Fields.get? r.graph.nodes e.target = some q.station.2 ∧
      q.context = stop.passedOn ∧ q.state = t := by
  have hnext : r.next? h p.station.2 = some q.station ↔
      q.station.1 = e.target ∧ Fields.get? r.graph.nodes e.target = some q.station.2 := by
    rw [next?_eq_some_iff, Definition.next?_eq_some_iff]
    constructor
    · rintro ⟨_, e', he', hkey, hnode⟩
      obtain rfl := Option.some.inj (he.symm.trans he')
      exact ⟨hkey.symm, hkey ▸ hnode⟩
    · rintro ⟨hkey, hnode⟩
      exact ⟨hterm, e, he, hkey.symm, hkey ▸ hnode⟩
  constructor
  · -- A visit has one outcome, so this is the handler and the stop of the given one.
    rintro ⟨h', stop', hvisit', hn, hc⟩
    rw [hvisit] at hvisit'
    simp only [Option.some.injEq, Prod.mk.injEq, Except.ok.injEq] at hvisit'
    obtain ⟨⟨rfl, rfl⟩, rfl⟩ := hvisit'
    obtain ⟨hkey, hnode⟩ := hnext.1 hn
    exact ⟨hkey, hnode, hc, rfl⟩
  · rintro ⟨hkey, hnode, hc, rfl⟩
    exact ⟨h, stop, hvisit, hnext.2 ⟨hkey, hnode⟩, hc⟩

/-- When there is no node under that key, the walk has come to its end, and its result is what the
    node gave. -/
theorem walkFrom_of_not_mem_keys (hvisit : r.visitAt p = some (.ok (h, stop), t))
    (he : r.graph.firstEdge? p.station.2 = some e) (hkey : e.target ∉ Fields.keys r.graph.nodes)
    (steps : Nat) : r.walkFrom (steps + 1) p = some (.ok (.single stop), t) := by
  have hnone : r.next? h p.station.2 = none :=
    next?_eq_none_iff.2 (Or.inr (Definition.next?_eq_none_iff.2 (Or.inr ⟨e, he, hkey⟩)))
  exact walk_succ_eq_ok_iff.2 ⟨h, stop, t, hvisit, Or.inl ⟨hnone, rfl, rfl⟩⟩

end Route

/-! ## Evaluations -/

namespace Engine

/-- An evaluation takes a route, comes to a standpoint on it and visits the node there, with the
    handler, the stop and the state after it. -/
def VisitsAt (e : Engine σ) (ask : Ask σ) (g : Definition) (context : Json) (o : Options)
    (s : State σ) (r : Route σ) (p : Standpoint σ) (h : Handler) (stop : Stop) (t : State σ) :
    Prop :=
  ∃ limit entry v, deadline s.clock.now o.maxExecutionTimeMs = .ok limit ∧
    g.start context = .ok (entry, v) ∧ r = e.route ask g o limit ∧
    r.Reaches e.steps ⟨entry, v, s.tick⟩ p ∧ r.visitAt p = some (.ok (h, stop), t)

/-- An evaluation that returns has visited the input node. -/
theorem exists_visitsAt_of_returns {e : Engine σ} {ask : Ask σ} {g : Definition} {context : Json}
    {o : Options} {s s' : State σ} {report : Report} {entry : Station}
    (hentry : g.inputNode? = some entry)
    (h : e.evaluateGraph ask g context o s = some (.ok report, s')) :
    ∃ r v k stop t, e.VisitsAt ask g context o s r ⟨entry, v, s.tick⟩ k stop t ∧
      e.registry.handler? entry.2.tag = some k := by
  obtain ⟨j, u, hj, _⟩ := evaluateGraph_eq_ok_iff_travel.1 h
  obtain ⟨limit, entry', v, hlimit, hstart, hw⟩ := travel_eq_ok_iff.1 hj
  obtain rfl := Option.some.inj (hentry.symm.trans (Definition.start_eq_ok_iff.1 hstart).1)
  cases hsteps : e.steps with
  | zero => simp [hsteps, Route.walk] at hw
  | succ steps =>
    rw [hsteps] at hw
    obtain ⟨k, stop, t, hv, _⟩ := Route.walk_succ_eq_ok_iff.1 hw
    have hreach : (e.route ask g o limit).Reaches e.steps ⟨entry, v, s.tick⟩
        ⟨entry, v, s.tick⟩ := by
      rw [hsteps]
      exact .here
    obtain ⟨hh, _⟩ := Route.visit_eq_ok_iff.1 hv
    exact ⟨_, v, k, stop, t, ⟨limit, entry, v, hlimit, hstart, rfl, hreach, hv⟩,
      (Route.handlerFor_eq_ok_iff.1 hh).2⟩

/-- Let an evaluation visit a node whose handler is not terminal, and let the first edge from the
    node name an identifier. The walk goes on to a node with that identifier exactly when the node
    under the key of that name has it. So it does in a graph whose nodes stand under their
    identifiers, for every identifier of a node. And where there is no node under that key the walk
    ends at this visit, even when some node has the identifier. -/
theorem goes_on_iff_keyed (e : Engine σ) (ask : Ask σ) (g : Definition) (context : Json)
    (o : Options) (s : State σ) (r : Route σ) (p : Standpoint σ) (h : Handler) (stop : Stop)
    (t : State σ) (edge : Edge) (hvisit : e.VisitsAt ask g context o s r p h stop t)
    (hterm : h.terminal = false) (hedge : g.firstEdge? p.station.2 = some edge) :
    ((∃ q, r.Goes p q ∧ q.station.2.id = edge.target) ↔
      ∃ n, Fields.get? g.nodes edge.target = some n ∧ n.id = edge.target) ∧
    (g.KeyedById → g.HasId edge.target → ∃ q, r.Goes p q ∧ q.station.2.id = edge.target) ∧
    (edge.target ∉ Fields.keys g.nodes →
      ∀ steps, r.walkFrom (steps + 1) p = some (.ok (.single stop), t)) := by
  obtain ⟨limit, entry, v, _, _, rfl, _, hv⟩ := hvisit
  have hgoes : (∃ q, (e.route ask g o limit).Goes p q ∧ q.station.2.id = edge.target) ↔
      ∃ n, Fields.get? g.nodes edge.target = some n ∧ n.id = edge.target := by
    constructor
    · rintro ⟨q, hgo, hid⟩
      obtain ⟨_, hnode, _⟩ := (Route.goes_iff_get? hv hterm hedge).1 hgo
      exact ⟨q.station.2, hnode, hid⟩
    · rintro ⟨n, hnode, hid⟩
      have hgo := (Route.goes_iff_get? (q := ⟨(edge.target, n), stop.passedOn, t⟩) hv hterm hedge).2
        ⟨rfl, hnode, rfl, rfl⟩
      exact ⟨_, hgo, hid⟩
  refine ⟨hgoes, fun hg hid => hgoes.2 (hg.exists_get? hid), fun hkey steps => ?_⟩
  exact Route.walkFrom_of_not_mem_keys hv hedge hkey steps

end Engine

/-! ## Samples -/

namespace Sample

/-- A graph with a node whose key is not its identifier, and an edge that names the identifier. -/
def renamed : Definition :=
  ⟨"renamed", "", none,
    [("in", node "in" "input"),
      ("sum",
        ⟨"total", "", "expression", some (.assignments ⟨[("total", "price * count")]⟩), none⟩)],
    [edge "in" "total"]⟩

/-- An evaluation of a graph by the sample engine visits the input node. -/
theorem exists_visitsAt (g : Definition) (id : String)
    (hentry : g.inputNode? = some ("in", node id "input"))
    (hok : (engine.evaluateGraph engine.ask g .null .default start).isOk = true) :
    ∃ r v stop t, engine.VisitsAt engine.ask g .null .default start r
      ⟨("in", node id "input"), v, start.tick⟩ Handler.input stop t := by
  obtain ⟨report, s', h⟩ := Outcome.isOk_iff.1 hok
  obtain ⟨r, v, k, stop, t, hv, hk⟩ := Engine.exists_visitsAt_of_returns hentry h
  obtain rfl : Handler.input = k := Option.some.inj hk
  exact ⟨r, v, stop, t, hv⟩

end Sample

/-- The relay's nodes stand under their identifiers, so that its first edge leads on. -/
theorem Engine.goes_on_relay :
    Sample.relay.KeyedById ∧ ∃ (r : Route Shelf) (p q : Standpoint Shelf),
      r.Goes p q ∧ q.station.2.id = "table" := by
  have hkeyed : Sample.relay.KeyedById := by
    unfold Definition.KeyedById
    decide
  refine ⟨hkeyed, ?_⟩
  obtain ⟨r, v, stop, t, hv⟩ := Sample.exists_visitsAt Sample.relay "in" rfl
    (by decide +kernel)
  have hid : Sample.relay.HasId "table" :=
    ⟨("table", Sample.node "table" "decisionTable"), by simp [Sample.relay], rfl⟩
  have hgoes := goes_on_iff_keyed _ _ _ _ _ _ _ _ _ _ _ (Sample.edge "in" "table") hv rfl rfl
  obtain ⟨q, hgo, hq⟩ := hgoes.2.1 hkeyed hid
  exact ⟨r, _, q, hgo, hq⟩

/-- Not every graph that can be read is like that: the edge to the renamed node ends the walk. -/
theorem Engine.ends_before_renamed :
    Definition.check Sample.renamed.toJson = .ok Sample.renamed ∧ Sample.renamed.HasId "total" ∧
    ∃ r p stop t, Sample.engine.VisitsAt Sample.engine.ask Sample.renamed .null .default
        Sample.start r p Handler.input stop t ∧
      Sample.renamed.firstEdge? p.station.2 = some (Sample.edge "in" "total") ∧
      ¬∃ q, r.Goes p q ∧ q.station.2.id = "total" := by
  have hcheck : Definition.check Sample.renamed.toJson = .ok Sample.renamed := by rfl
  have hid : Sample.renamed.HasId "total" :=
    ⟨_, List.mem_cons_of_mem _ (List.mem_singleton_self _), rfl⟩
  obtain ⟨r, v, stop, t, hv⟩ := Sample.exists_visitsAt Sample.renamed "in" rfl
    (by decide +kernel)
  refine ⟨hcheck, hid, r, _, stop, t, hv, rfl, ?_⟩
  -- The walk could only go on to the node under the key, and there is none.
  rintro ⟨q, hgo, hq⟩
  obtain ⟨limit, entry, v', _, _, rfl, _, hvisit⟩ := hv
  obtain ⟨_, hnode, _⟩ := (Route.goes_iff_get? hvisit rfl rfl).1 hgo
  have hnone : Fields.get? Sample.renamed.nodes "total" = none := rfl
  exact absurd (hnone.symm.trans hnode) (by simp)

end DecisionFlow
