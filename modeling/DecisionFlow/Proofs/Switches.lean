import DecisionFlow.Proofs.Counterparts
import DecisionFlow.Proofs.Failures

set_option autoImplicit false

/-! # Switches on the way

A switch gives its context or null, and a walk that goes on after null keeps the context. So what
the branches of a switch say shows in the stop at the switch and nowhere else, as long as the walk
goes on from there. For the last node of a walk this is wrong: its null is the result. -/

namespace DecisionFlow

variable {σ : Type}

/-! ## Variants -/

/-- A switch after which walks go on: its first edge leads to a node. -/
def Definition.FollowedSwitch (g : Definition) (n : Node) : Prop :=
  NodeKind.ofTag? n.tag = some .switch ∧
    ∃ edge, g.firstEdge? n = some edge ∧ edge.target ∈ Fields.keys g.nodes

/-- A node of a graph again, or a switch after which walks go on, with another content. -/
inductive Definition.Variant (g : Definition) (n : Node) : Node → Prop where
  | same : Variant g n n
  | switch (content : Option Content) : g.FollowedSwitch n →
    Variant g n { n with content := content }

/-- A stop of a walk again, or one at a switch after which walks go on: with another content of the
    switch, and both outputs the context or null. -/
inductive Stop.Variant (g : Definition) (stop : Stop) : Stop → Prop where
  | same : Variant g stop stop
  | switch (content : Option Content) (output : Value) : g.FollowedSwitch stop.node →
    stop.output = stop.input ∨ stop.output = .null → output = stop.input ∨ output = .null →
    Variant g stop { stop with node := { stop.node with content := content }, output := output }

/-- Variants of nodes that carry what their tags ask for. -/
def Definition.FitVariant (g : Definition) (n n' : Node) : Prop :=
  g.Variant n n' ∧ n.Fits ∧ n'.Fits

/-- Graphs whose nodes fit and are variants have nodes that are fitting variants. -/
theorem Definition.Counterparts.fit {g g' : Definition} (h : g.Counterparts g.Variant g')
    (hg : g.Fits) (hg' : g'.Fits) : g.Counterparts g.FitVariant g' := by
  refine ⟨h.id, h.name, h.edges, ?_⟩
  have hnodes := h.nodes
  unfold Definition.Fits at hg hg'
  generalize g.nodes = nodes at hnodes hg
  generalize g'.nodes = nodes' at hnodes hg'
  induction hnodes with
  | nil => exact .nil
  | cons hab _ ih =>
    rw [List.forall_mem_cons] at hg hg'
    exact .cons ⟨hab.1, hab.2, hg.1, hg'.1⟩ (ih hg.2 hg'.2)

/-! ## Visits -/

/-- After a stop that gave its context or null, the context stays. -/
theorem Stop.passedOn_eq_input {stop : Stop}
    (h : stop.output = stop.input ∨ stop.output = .null) : stop.passedOn = stop.input := by
  unfold passedOn
  obtain h | h := h
  · rw [h, ite_self]
  · rw [h]
    rfl

namespace Route

variable {r : Route σ} {g' : Definition} {p p' : Standpoint σ}

/-- Visits at variants of a node are alike, and hand on the same. -/
theorem visitAt_variant
    (hregistry : ∀ tag, NodeKind.ofTag? tag = some .switch →
      r.registry.handler? tag = some .switch)
    (hp : Standpoint.Counterparts r.graph.FitVariant p p') :
    Outcome.Alike Eq
      (fun x x' _ => x.2.Variant r.graph x'.2 ∧ r.HandOn p.station.2 x x')
      (r.visitAt p) ((r.through g').visitAt p') := by
  obtain ⟨⟨key, n⟩, v, s⟩ := p
  obtain ⟨⟨key', n'⟩, v', s'⟩ := p'
  obtain ⟨⟨hkey, hvariant, hfits, hfits'⟩, hcontext, hstate⟩ := hp
  dsimp only at hkey hvariant hfits hfits' hcontext hstate ⊢
  subst hkey hcontext hstate
  cases hvariant with
  | same =>
    -- The visits are the same: nothing but the route's graph differs, and visits do not look at it.
    refine (Outcome.Alike.refl (fun _ => rfl) (r.visitAt ⟨(key, n), v', s'⟩)).mono ?_
    rintro x _ _ rfl
    exact ⟨.same, rfl, rfl, fun _ => rfl⟩
  | switch content hswitch =>
    have hhandler := hregistry n.tag hswitch.1
    refine visitAt_alike
      (V := fun w w' _ => (w = v' ∨ w = .null) ∧ (w' = v' ∨ w' = .null)) rfl rfl rfl rfl ?_ ?_
    · intro h hh
      obtain rfl := Option.some.inj (hhandler.symm.trans hh)
      obtain ⟨w, hact, hw⟩ := Handler.switch_act hfits hswitch.1 v'
      obtain ⟨w', hact', hw'⟩ := Handler.switch_act hfits' hswitch.1 v'
      rw [Handler.visit_of_give hact, Handler.visit_of_give hact']
      exact .ok ⟨hw, hw'⟩
    · rintro h w w' t hvisit ⟨hw, hw'⟩
      obtain ⟨hfor, _⟩ := visit_eq_ok_iff.1 hvisit
      obtain rfl : Handler.switch = h :=
        Option.some.inj (hhandler.symm.trans (handlerFor_eq_ok_iff.1 hfor).2)
      refine ⟨.switch content w' hswitch hw hw', rfl, ?_, fun hnext => ?_⟩
      · rw [Stop.passedOn_eq_input hw, Stop.passedOn_eq_input hw']
        rfl
      · -- The walk goes on after the switch.
        obtain ⟨_, edge, hedge, htarget⟩ := hswitch
        obtain hterminal | hnone := next?_eq_none_iff.1 hnext
        · exact nomatch hterminal
        · obtain hnone | ⟨edge', hedge', hdangling⟩ := Definition.next?_eq_none_iff.1 hnone
          · exact nomatch hnone.symm.trans hedge
          · obtain rfl := Option.some.inj (hedge.symm.trans hedge')
            exact absurd htarget hdangling

end Route

/-! ## Evaluations -/

namespace Engine

variable {e : Engine σ} {ask : Ask σ} {g g' : Definition} {context : Json} {o : Options}
  {s : State σ}

theorem matching_of_variant
    (hregistry : ∀ tag, NodeKind.ofTag? tag = some .switch →
      e.registry.handler? tag = some .switch)
    (h : g.Counterparts g.FitVariant g') :
    e.Matching ask g g' context o s Eq (Stop.Variant g)
      (Standpoint.Counterparts g.FitVariant) := by
  have hid : ∀ n n', g.FitVariant n n' → n.id = n'.id ∧ n.tag = n'.tag := by
    rintro n n' ⟨hvariant, _⟩
    cases hvariant <;> exact ⟨rfl, rfl⟩
  refine h.matching (fun _ => rfl) (fun n n' hn => (hid n n' hn).1)
    (fun n n' hn => congrArg canonicalTag (hid n n' hn).2) fun limit p p' hp => ?_
  rw [route_eq_through e ask g g']
  exact Route.visitAt_variant (r := e.route ask g o limit) hregistry hp

/-- Switches are inert on the way. Take two graphs that were read and differ only in the contents of
    switches after which walks go on, and the standard handler for switches. Then an evaluation of
    the one comes to the same result or fault as one of the other, with stops that differ only in
    what those switches gave, the context or null; and where the one comes the other comes, to the
    same node in the same context and state. -/
theorem switches_inert (e : Engine σ)
    (he : ∀ tag, NodeKind.ofTag? tag = some .switch → e.registry.handler? tag = some .switch)
    (ask : Ask σ) (j j' : Json) (g g' : Definition) (hg : Definition.check j = .ok g)
    (hg' : Definition.check j' = .ok g') (h : g.Counterparts g.Variant g') (context : Json)
    (o : Options) (s : State σ) :
    Outcome.Alike Eq (fun r r' _ => Report.Alike (Stop.Variant g) r r')
      (e.evaluateGraph ask g context o s) (e.evaluateGraph ask g' context o s) ∧
    (∀ steps q, e.ComesTo ask g context o s steps q →
      ∃ q', e.ComesTo ask g' context o s steps q' ∧ Standpoint.Counterparts g.Variant q q') ∧
    ∀ steps q', e.ComesTo ask g' context o s steps q' →
      ∃ q, e.ComesTo ask g context o s steps q ∧ Standpoint.Counterparts g.Variant q q' := by
  have hfit := h.fit (Definition.fits_of_check hg) (Definition.fits_of_check hg')
  have hmatching : e.Matching ask g g' context o s Eq (Stop.Variant g)
      (Standpoint.Counterparts g.FitVariant) := matching_of_variant he hfit
  refine ⟨hmatching.evaluateGraph_alike, fun steps q hq => ?_, fun steps q' hq' => ?_⟩
  · obtain ⟨q', hq', hm⟩ := hmatching.exists_comesTo hq
    exact ⟨q', hq', ⟨hm.station.1, hm.station.2.1⟩, hm.context, hm.state⟩
  · obtain ⟨q, hq, hm⟩ := hmatching.symm.exists_comesTo hq'
    exact ⟨q, hq, ⟨hm.station.1, hm.station.2.1⟩, hm.context, hm.state⟩

end Engine

/-! ## Samples -/

/-- A switch with the given branches between the input node and the output node. -/
def Sample.gate (branches : List Branch) : Definition :=
  ⟨"gate", "", none,
    [("in", node "in" "input"),
      ("gate", ⟨"gate", "", "switch", some (.switch ⟨"first", branches⟩), none⟩),
      ("out", node "out" "output")],
    [edge "in" "gate", edge "gate" "out"]⟩

/-- A gate without branches gives null, one with a default branch its context, and the evaluations
    of both are alike. -/
theorem Engine.switches_inert_gate :
    (∀ tag, NodeKind.ofTag? tag = some .switch →
      Sample.engine.registry.handler? tag = some .switch) ∧
    Definition.check (Sample.gate []).toJson = .ok (Sample.gate []) ∧
    Definition.check (Sample.gate [⟨"", "", true⟩]).toJson = .ok (Sample.gate [⟨"", "", true⟩]) ∧
    (Sample.gate []).Counterparts (Sample.gate []).Variant (Sample.gate [⟨"", "", true⟩]) ∧
    Outcome.Alike Eq (fun r r' _ => Report.Alike (Stop.Variant (Sample.gate [])) r r')
      (Sample.engine.evaluateGraph Sample.engine.ask (Sample.gate []) (.int 1) .default
        Sample.start)
      (Sample.engine.evaluateGraph Sample.engine.ask (Sample.gate [⟨"", "", true⟩]) (.int 1)
        .default Sample.start) := by
  have hregistry : ∀ tag, NodeKind.ofTag? tag = some .switch →
      Sample.engine.registry.handler? tag = some .switch := by
    intro tag htag
    have hfound := List.find?_some htag
    simp only [decide_eq_true_eq] at hfound
    obtain rfl | rfl := hfound <;> rfl
  have hcheck : Definition.check (Sample.gate []).toJson = .ok (Sample.gate []) := by rfl
  have hcheck' : Definition.check (Sample.gate [⟨"", "", true⟩]).toJson =
      .ok (Sample.gate [⟨"", "", true⟩]) := by rfl
  have hvariant : (Sample.gate []).Counterparts (Sample.gate []).Variant
      (Sample.gate [⟨"", "", true⟩]) := by
    have hfollowed : (Sample.gate []).FollowedSwitch
        ⟨"gate", "", "switch", some (.switch ⟨"first", []⟩), none⟩ :=
      ⟨by decide +kernel, Sample.edge "gate" "out", rfl, by decide⟩
    exact ⟨rfl, rfl, rfl, .cons ⟨rfl, .same⟩ (.cons ⟨rfl, .switch _ hfollowed⟩
      (.cons ⟨rfl, .same⟩ .nil))⟩
  have hinert := switches_inert Sample.engine hregistry Sample.engine.ask _ _ _ _ hcheck hcheck'
    hvariant (.int 1) .default Sample.start
  exact ⟨hregistry, hcheck, hcheck', hvariant, hinert.1⟩

end DecisionFlow
