import DecisionFlow.Proofs.Path

set_option autoImplicit false

/-! # Standpoints of a walk

A walk stands before a node with a context and a state, and a visit that succeeds brings it to its
next standpoint. A walk ends with a fault exactly when it comes to a standpoint where the visit
does, and one that comes to no such standpoint on its path comes to its end. -/

namespace DecisionFlow

variable {σ : Type}

/-- Where a walk stands: before a node, with its context and the state. -/
structure Standpoint (σ : Type) where
  /-- The key and the node. -/
  station : Station
  /-- The context of the node. -/
  context : Value
  /-- The state before the visit. -/
  state : State σ

namespace Route

variable {r : Route σ} {p q : Standpoint σ}

/-- The visit at a standpoint. -/
def visitAt (r : Route σ) (p : Standpoint σ) : Outcome σ (Handler × Stop) :=
  r.visit p.station p.context p.state

/-- The walk from a standpoint on. -/
def walkFrom (r : Route σ) (steps : Nat) (p : Standpoint σ) : Outcome σ Journey :=
  r.walk steps p.station p.context p.state

/-- The visit at a standpoint succeeds and leads on to the next standpoint. -/
def Goes (r : Route σ) (p q : Standpoint σ) : Prop :=
  ∃ h stop, r.visitAt p = some (.ok (h, stop), q.state) ∧
    r.next? h p.station.2 = some q.station ∧ q.context = stop.passedOn

/-- A walk that stands at one standpoint comes to another one and visits it, in at most the given
    number of steps. -/
inductive Reaches (r : Route σ) : Nat → Standpoint σ → Standpoint σ → Prop where
  /-- It stands there. -/
  | here {steps : Nat} {p : Standpoint σ} : Reaches r (steps + 1) p p
  /-- It goes on and comes there. -/
  | onward {steps : Nat} {p m q : Standpoint σ} : r.Goes p m → Reaches r steps m q →
    Reaches r (steps + 1) p q

/-- Going on with a walk is walking from the next standpoint on. -/
theorem Goes.walkFrom_succ (h : r.Goes p q) :
    ∃ stop, ∀ steps, r.walkFrom (steps + 1) p =
      (r.walkFrom steps q).andThen fun j s => some (.ok (j.after stop), s) := by
  obtain ⟨k, stop, hv, hn, hc⟩ := h
  refine ⟨stop, fun steps => ?_⟩
  rw [visitAt] at hv
  simp only [walkFrom, walk, hv, Outcome.andThen_ok, hn, hc]

/-- A walk fails exactly when it comes to a standpoint where the visit fails. -/
theorem walkFrom_eq_error_iff {steps : Nat} {f : Fault} {s' : State σ} :
    r.walkFrom steps p = some (.error f, s') ↔
      ∃ q, r.Reaches steps p q ∧ r.visitAt q = some (.error f, s') := by
  constructor
  · intro hw
    induction steps generalizing p with
    | zero => simp [walkFrom, walk] at hw
    | succ steps ih =>
      rcases walk_succ_eq_error_iff.1 hw with hv | ⟨h, stop, t, next, hv, hn, hw⟩
      · exact ⟨p, .here, hv⟩
      · obtain ⟨q, hq, hf⟩ := ih (p := ⟨next, stop.passedOn, t⟩) hw
        have hgo : r.Goes p ⟨next, stop.passedOn, t⟩ := ⟨h, stop, hv, hn, rfl⟩
        exact ⟨q, .onward hgo hq, hf⟩
  · rintro ⟨q, hq, hf⟩
    induction hq with
    | here => exact walk_succ_eq_error_iff.2 (Or.inl hf)
    | @onward steps p m q hgo _ ih =>
      obtain ⟨stop, hstop⟩ := hgo.walkFrom_succ
      rw [hstop steps, ih hf, Outcome.andThen_error]

/-- A walk that starts at a node of the graph comes to nodes of the graph only. -/
theorem Reaches.mem_nodes {steps : Nat} (h : r.Reaches steps p q)
    (hp : p.station ∈ r.graph.nodes) : q.station ∈ r.graph.nodes := by
  induction h with
  | here => exact hp
  | onward hgo _ ih =>
    obtain ⟨k, stop, _, hnext, _⟩ := hgo
    obtain ⟨_, _, _, hnode⟩ := Definition.next?_eq_some_iff.1 (next?_eq_some_iff.1 hnext).2
    exact ih (Fields.mem_of_get? hnode)

/-- A walk comes to its end when its path does, and every visit on the way succeeds. -/
theorem exists_walk_of_trail {stations : List Station} {steps : Nat}
    (ht : Trail (r.graph.after? r.registry.isTerminal) p.station stations)
    (hlen : stations.length ≤ steps)
    (hv : ∀ q, r.Reaches steps p q → ∃ h stop t, r.visitAt q = some (.ok (h, stop), t)) :
    ∃ j s', r.walkFrom steps p = some (.ok j, s') := by
  induction steps generalizing p stations with
  | zero =>
    cases ht <;> simp at hlen
  | succ steps ih =>
    obtain ⟨h, stop, t, hvisit⟩ := hv p .here
    have hafter := after?_eq_of_visit hvisit
    cases ht with
    | last hn =>
      rw [hafter] at hn
      exact ⟨_, _, walk_succ_eq_ok_iff.2 ⟨h, stop, t, hvisit, Or.inl ⟨hn, rfl, rfl⟩⟩⟩
    | @step _ next rest hn ht =>
      rw [hafter] at hn
      have hgo : r.Goes p ⟨next, stop.passedOn, t⟩ := ⟨h, stop, hvisit, hn, rfl⟩
      obtain ⟨j, s', hw⟩ := ih (p := ⟨next, stop.passedOn, t⟩) ht
        (Nat.le_of_succ_le_succ hlen) fun q hq => hv q (.onward hgo hq)
      exact ⟨_, _, walk_succ_eq_ok_iff.2 ⟨h, stop, t, hvisit, Or.inr ⟨next, j, hn, hw, rfl⟩⟩⟩

end Route

end DecisionFlow
