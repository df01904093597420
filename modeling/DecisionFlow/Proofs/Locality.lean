import DecisionFlow.Proofs.Matching

set_option autoImplicit false

/-! # What an evaluation looks at

An evaluation looks at the first input node, at the nodes that it comes to, and at the first edges
of those that it passes. A graph that has all of these is evaluated like the first one, whatever
else is in either of them: other nodes, also of unknown tags, later edges, and edges of nodes that
the walk never comes to. -/

namespace DecisionFlow

variable {σ : Type}

/-- Two stops at one node, with one context and output and time. Only the keys may differ. -/
structure Stop.SameNode (a b : Stop) : Prop where
  node : a.node = b.node
  input : a.input = b.input
  output : a.output = b.output
  time : a.time = b.time

namespace Engine

/-- An evaluation comes to a standpoint, and the visit by a handler succeeds there. -/
def Passes (e : Engine σ) (ask : Ask σ) (g : Definition) (context : Json) (o : Options)
    (s : State σ) (q : Standpoint σ) (h : Handler) : Prop :=
  ∃ steps limit stop t, e.ComesTo ask g context o s steps q ∧
    deadline s.clock.now o.maxExecutionTimeMs = .ok limit ∧
    (e.route ask g o limit).visitAt q = some (.ok (h, stop), t)

/-- A second graph has all of the first one that an evaluation of the first one looks at. -/
structure SameAlong (e : Engine σ) (ask : Ask σ) (g g' : Definition) (context : Json) (o : Options)
    (s : State σ) : Prop where
  /-- Both graphs are called the same. -/
  id : g.id = g'.id
  /-- Both graphs are named the same. -/
  name : g.name = g'.name
  /-- The first input node is the same, if there is one. -/
  entry : g.inputNode?.map Prod.snd = g'.inputNode?.map Prod.snd
  /-- Under every key that the evaluation comes to there is the same node. -/
  node : ∀ steps q, e.ComesTo ask g context o s steps q →
    Fields.get? g'.nodes q.station.1 = some q.station.2
  /-- Where the walk does not end by the handler, the node has the same first edge or none. -/
  edge : ∀ q h, e.Passes ask g context o s q h → h.terminal = false →
    g.firstEdge? q.station.2 = g'.firstEdge? q.station.2
  /-- Where the walk ends because the edge leads to no node, the edge leads to no node again. -/
  dangling : ∀ q h edge, e.Passes ask g context o s q h → h.terminal = false →
    g.firstEdge? q.station.2 = some edge → edge.target ∉ Fields.keys g.nodes →
    edge.target ∉ Fields.keys g'.nodes

variable {e : Engine σ} {ask : Ask σ} {g g' : Definition} {context : Json} {o : Options}
  {s : State σ} {p p' : Standpoint σ}

/-- The standpoints of the two evaluations: the second one stands before the same node, in the same
    context and state. -/
structure Follows (e : Engine σ) (ask : Ask σ) (g : Definition) (context : Json) (o : Options)
    (s : State σ) (p p' : Standpoint σ) : Prop where
  comes : ∃ steps, e.ComesTo ask g context o s steps p
  node : p'.station.2 = p.station.2
  context : p'.context = p.context
  state : p'.state = p.state

/-- After a node that both walks have passed, both end or both go on to the same node. -/
theorem SameAlong.onward (hsame : e.SameAlong ask g g' context o s) {limit : Float}
    (hlimit : deadline s.clock.now o.maxExecutionTimeMs = .ok limit)
    (hp : e.Follows ask g context o s p p') {h : Handler} {stop stop' : Stop} {t : State σ}
    (hvisit : (e.route ask g o limit).visitAt p = some (.ok (h, stop), t))
    (hstop : stop.SameNode stop') :
    Route.Onward (e.Follows ask g context o s) stop stop' t
      ((e.route ask g o limit).next? h p.station.2)
      ((e.route ask g' o limit).next? h p'.station.2) := by
  obtain ⟨steps, hcomes⟩ := hp.comes
  have hpasses : e.Passes ask g context o s p h := ⟨steps, limit, stop, t, hcomes, hlimit, hvisit⟩
  have hpassedOn : stop'.passedOn = stop.passedOn := by
    simp only [Stop.passedOn, hstop.input, hstop.output]
  rw [hp.node]
  cases hterminal : h.terminal with
  | true =>
    rw [Route.next?_eq_none_iff.2 (Or.inl hterminal), Route.next?_eq_none_iff.2 (Or.inl hterminal)]
    exact .ends hstop.output
  | false =>
    have hedge := hsame.edge p h hpasses hterminal
    cases hnext : g.next? p.station.2 with
    | none =>
      -- Without a next node in the first graph, there is no edge or the edge is dangling.
      have hnext' : g'.next? p.station.2 = none := by
        rcases Definition.next?_eq_none_iff.1 hnext with hnone | ⟨edge, hfirst, htarget⟩
        · exact Definition.next?_eq_none_iff.2 (Or.inl (hedge ▸ hnone))
        · exact Definition.next?_eq_none_iff.2 (Or.inr ⟨edge, hedge ▸ hfirst,
            hsame.dangling p h edge hpasses hterminal hfirst htarget⟩)
      rw [Route.next?_eq_none_iff.2 (Or.inr hnext), Route.next?_eq_none_iff.2 (Or.inr hnext')]
      exact .ends hstop.output
    | some next =>
      obtain ⟨edge, hfirst, htarget, _⟩ := Definition.next?_eq_some_iff.1 hnext
      have hroute := Route.next?_eq_some_iff (r := e.route ask g o limit).2 ⟨hterminal, hnext⟩
      have hgo : (e.route ask g o limit).Goes p ⟨next, stop.passedOn, t⟩ :=
        ⟨h, stop, hvisit, hroute, rfl⟩
      have hcomes' := hcomes.snoc hlimit hgo
      have hnext' : g'.next? p.station.2 = some next :=
        Definition.next?_eq_some_iff.2
          ⟨edge, hedge ▸ hfirst, htarget, hsame.node _ _ hcomes'⟩
      have hroute' := Route.next?_eq_some_iff (r := e.route ask g' o limit).2 ⟨hterminal, hnext'⟩
      rw [hroute, hroute']
      exact .goes ⟨⟨steps + 1, hcomes'⟩, rfl, hpassedOn, rfl⟩

/-- What an evaluation looks at decides how it goes. -/
theorem SameAlong.matching (hsame : e.SameAlong ask g g' context o s) :
    e.Matching ask g g' context o s Eq Stop.SameNode (e.Follows ask g context o s) where
  label := by simp only [Definition.label, hsame.id, hsame.name]
  tooLarge := rfl
  entry := by
    have hentry := hsame.entry
    cases hg : g.inputNode? with
    | none =>
      rw [hg, Option.map_none] at hentry
      rw [Option.map_eq_none_iff.1 hentry.symm]
      exact .none
    | some entry =>
      rw [hg, Option.map_some] at hentry
      obtain ⟨entry', hg', hnode⟩ := Option.map_eq_some_iff.1 hentry.symm
      rw [hg']
      refine .some fun limit v hlimit hv => ⟨⟨1, ?_⟩, hnode, rfl, rfl⟩
      exact ⟨limit, entry, v, hlimit, Definition.start_eq_ok_iff.2 ⟨hg, hv⟩, .here⟩
  route limit hlimit := by
    intro p p' hp
    obtain ⟨hcomes, hnode, hcontext, hstate⟩ := hp
    rw [route_eq_through e ask g g']
    refine Route.visitAt_alike (V := fun output output' _ => output = output') hstate
      (by rw [hnode]) rfl (by rw [hnode]) (fun h _ => ?_) fun h output output' t hvisit hv => ?_
    · rw [hnode, hcontext]
      exact Outcome.Alike.refl (fun _ => rfl) _
    · have hstop : (Route.stopAt p.station p.context output p.state t).SameNode
          (Route.stopAt p'.station p'.context output' p.state t) :=
        ⟨hnode.symm, hcontext.symm, hv, rfl⟩
      exact ⟨hstop, hsame.onward hlimit ⟨hcomes, hnode, hcontext, hstate⟩ hvisit hstop⟩

/-- The parts of a graph that an evaluation does not come to do not matter: a second graph with the
    same name and the same first input node, with the same node under every key that the evaluation
    comes to and the same first edges where it passes, is evaluated to the same result or fault,
    with the same stops and the same number of them, and leaves the same state. -/
theorem evaluateGraph_alike_of_sameAlong (e : Engine σ) (ask : Ask σ) (g g' : Definition)
    (context : Json) (o : Options) (s : State σ) (h : e.SameAlong ask g g' context o s) :
    Outcome.Alike Eq (fun r r' _ => Report.Alike Stop.SameNode r r')
      (e.evaluateGraph ask g context o s) (e.evaluateGraph ask g' context o s) :=
  h.matching.evaluateGraph_alike

end Engine

/-! ## Samples -/

/-- The relay with another order, a node of an unknown tag, and further edges. -/
def Sample.crowdedRelay : Definition :=
  ⟨"relay", "", some "crowded", [("in", node "in" "input"), ("odd", node "odd" "?"),
    ("out", node "out" "output"), ("table", node "table" "decisionTable"),
    ("again", node "again" "input")],
    [edge "odd" "in", edge "in" "table", edge "in" "odd", edge "table" "out", edge "out" "odd"]⟩

/-- The relay is evaluated in the crowd as it is alone. -/
theorem Engine.evaluateGraph_alike_crowdedRelay :
    Sample.engine.SameAlong Sample.engine.ask Sample.relay Sample.crowdedRelay (.int 1) .default
      Sample.start ∧
    Outcome.Alike Eq (fun r r' _ => Report.Alike Stop.SameNode r r')
      (Sample.engine.evaluateGraph Sample.engine.ask Sample.relay (.int 1) .default Sample.start)
      (Sample.engine.evaluateGraph Sample.engine.ask Sample.crowdedRelay (.int 1) .default
        Sample.start) := by
  have hnodes : ∀ station ∈ Sample.relay.nodes,
      Fields.get? Sample.crowdedRelay.nodes station.1 = some station.2 ∧
      (station.2.tag = "output" ∨
        Sample.relay.firstEdge? station.2 = Sample.crowdedRelay.firstEdge? station.2) ∧
      ∀ edge, Sample.relay.firstEdge? station.2 = some edge →
        edge.target ∈ Fields.keys Sample.relay.nodes := by
    intro station hstation
    simp only [Sample.relay, List.mem_cons, List.not_mem_nil, or_false] at hstation
    obtain rfl | rfl | rfl := hstation
    · exact ⟨rfl, .inr rfl, by rintro edge ⟨⟩; decide⟩
    · exact ⟨rfl, .inr rfl, by rintro edge ⟨⟩; decide⟩
    · exact ⟨rfl, .inl rfl, by rintro edge ⟨⟩⟩
  have hsame : Sample.engine.SameAlong Sample.engine.ask Sample.relay Sample.crowdedRelay (.int 1)
      .default Sample.start := by
    refine ⟨rfl, rfl, rfl, ?_, ?_, ?_⟩
    · intro steps q hq
      exact (hnodes q.station hq.mem_nodes).1
    · rintro q h ⟨steps, limit, stop, t, hq, _, hvisit⟩ hterminal
      refine (hnodes q.station hq.mem_nodes).2.1.resolve_left fun htag => ?_
      -- The walk ends at the output node by its handler.
      obtain ⟨hhandler, _⟩ := Route.visit_eq_ok_iff.1 hvisit
      have hh := (Route.handlerFor_eq_ok_iff.1 hhandler).2
      rw [htag] at hh
      obtain rfl : Handler.output = h := Option.some.inj hh
      exact nomatch hterminal
    · rintro q h edge ⟨steps, limit, stop, t, hq, _⟩ _ hfirst hdangling
      exact absurd ((hnodes q.station hq.mem_nodes).2.2 edge hfirst) hdangling
  exact ⟨hsame, evaluateGraph_alike_of_sameAlong _ _ _ _ _ _ _ hsame⟩

end DecisionFlow
