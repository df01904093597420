import DecisionFlow.Proofs.Matching

set_option autoImplicit false

/-! # Graphs node by node

Two graphs with the same edges, in which the nodes under each key go together. What is asked of the
visits of two such nodes is only that they are alike, and that what they hand on is the same: then
the evaluations of the graphs match. -/

namespace DecisionFlow

variable {σ : Type}

/-- Two stations under one key whose nodes go together. -/
def Station.Counterparts (R : Node → Node → Prop) (a b : Station) : Prop :=
  a.1 = b.1 ∧ R a.2 b.2

/-- Two graphs with one name and the same edges, whose stations go together one by one. -/
structure Definition.Counterparts (R : Node → Node → Prop) (g g' : Definition) : Prop where
  id : g.id = g'.id
  name : g.name = g'.name
  edges : g.edges = g'.edges
  nodes : List.Forall₂ (Station.Counterparts R) g.nodes g'.nodes

/-- Two standpoints before nodes that go together, in one context and state. -/
structure Standpoint.Counterparts (R : Node → Node → Prop) (p p' : Standpoint σ) : Prop where
  station : Station.Counterparts R p.station p'.station
  context : p'.context = p.context
  state : p'.state = p.state

/-- Two visits hand on the same: the next node gets the same context, if the walk goes on, and when
    it may be that the walk ends, both give the same. -/
structure Route.HandOn (r : Route σ) (n : Node) (x x' : Handler × Stop) : Prop where
  terminal : x.1.terminal = x'.1.terminal
  passedOn : x.2.passedOn = x'.2.passedOn
  output : r.next? x.1 n = none → x.2.output = x'.2.output

namespace Definition.Counterparts

variable {R : Node → Node → Prop} {g g' : Definition} {n n' : Node}

theorem refl (hR : ∀ n, R n n) (g : Definition) : g.Counterparts R g :=
  ⟨rfl, rfl, rfl, List.forall₂_same.2 fun a _ => ⟨rfl, hR a.2⟩⟩

theorem label_eq (h : g.Counterparts R g') : g.label = g'.label := by
  simp only [Definition.label, h.id, h.name]

theorem inputNode?_rel (h : g.Counterparts R g')
    (htag : ∀ n n', R n n' → canonicalTag n.tag = canonicalTag n'.tag) :
    Option.Rel (Station.Counterparts R) g.inputNode? g'.inputNode? := by
  refine find?_rel (fun a b hab => ?_) h.nodes
  rw [htag a.2 b.2 hab.2]

theorem next?_rel (h : g.Counterparts R g') (hid : n.id = n'.id) :
    Option.Rel (Station.Counterparts R) (g.next? n) (g'.next? n') := by
  have hedge : g.firstEdge? n = g'.firstEdge? n' := by
    simp only [Definition.firstEdge?, h.edges, hid]
  rw [Definition.next?_eq_bind, Definition.next?_eq_bind, hedge]
  cases g'.firstEdge? n' with
  | none => exact .none
  | some edge =>
    have hnode := Fields.get?_rel (R := fun _ => R) h.nodes edge.target
    dsimp only [Option.bind_some]
    generalize Fields.get? g.nodes edge.target = next at hnode ⊢
    generalize Fields.get? g'.nodes edge.target = next' at hnode ⊢
    cases hnode with
    | none => exact .none
    | some hnext => exact .some ⟨rfl, hnext⟩

/-- After visits that hand on the same, both walks end with one result or go on to nodes that go
    together. -/
theorem onward {r r' : Route σ} (h : r.graph.Counterparts R r'.graph) (hid : n.id = n'.id)
    {x x' : Handler × Stop} (hx : r.HandOn n x x') (s : State σ) :
    Route.Onward (Standpoint.Counterparts R) x.2 x'.2 s (r.next? x.1 n) (r'.next? x'.1 n') := by
  have hnext : Option.Rel (Station.Counterparts R) (r.next? x.1 n) (r'.next? x'.1 n') := by
    rw [Route.next?, Route.next?, hx.terminal]
    split
    · exact .none
    · exact h.next?_rel hid
  have houtput := hx.output
  generalize r.next? x.1 n = next at hnext houtput ⊢
  generalize r'.next? x'.1 n' = next' at hnext ⊢
  cases hnext with
  | none => exact .ends (houtput rfl)
  | some hstation => exact .goes ⟨hstation, hx.passedOn.symm, rfl⟩

/-- Evaluations match when visits of nodes that go together are alike and hand on the same. -/
theorem matching {e : Engine σ} {ask : Ask σ} {context : Json} {o : Options} {s : State σ}
    {F : Fault → Fault → Prop} {S : Stop → Stop → Prop} (h : g.Counterparts R g')
    (hF : ∀ f, F f f) (hid : ∀ n n', R n n' → n.id = n'.id)
    (htag : ∀ n n', R n n' → canonicalTag n.tag = canonicalTag n'.tag)
    (hvisit : ∀ limit p p', Standpoint.Counterparts R p p' → Outcome.Alike F
      (fun x x' _ => S x.2 x'.2 ∧ (e.route ask g o limit).HandOn p.station.2 x x')
      ((e.route ask g o limit).visitAt p) ((e.route ask g' o limit).visitAt p')) :
    e.Matching ask g g' context o s F S (Standpoint.Counterparts R) where
  label := h.label_eq ▸ hF _
  tooLarge := hF _
  entry := by
    have hentry := h.inputNode?_rel htag
    generalize g.inputNode? = entry at hentry ⊢
    generalize g'.inputNode? = entry' at hentry ⊢
    cases hentry with
    | none => exact .none
    | some hstation => exact .some fun _ _ _ _ => ⟨hstation, rfl, rfl⟩
  route limit _ := by
    intro p p' hp
    refine (hvisit limit p p' hp).mono fun x x' t hx => ⟨hx.1, ?_⟩
    have hgraph : (e.route ask g o limit).graph.Counterparts R (e.route ask g' o limit).graph := h
    exact hgraph.onward (hid _ _ hp.station.2) hx.2 t

end Definition.Counterparts

end DecisionFlow
