import DecisionFlow.Proofs.Walk
import DecisionFlow.Source.Shelf
import Mathlib.Data.List.Nodup
import Mathlib.Data.List.Perm.Subperm
import Mathlib.Logic.Function.Iterate

set_option autoImplicit false

/-! # The path through a graph

Which node a walk visits next depends on the graph and on which handlers are terminal, and on
nothing that happens during the walk. So all walks that come to their end visit the same nodes: the
path from the input node along first edges. A path that meets a node twice goes round in circles,
and no walk along it ever comes to an end. -/

namespace DecisionFlow

variable {σ : Type}

/-! ## Trails -/

/-- What follows an element, and so on up to an element that nothing follows. -/
inductive Trail {α : Type} (next : α → Option α) : α → List α → Prop where
  /-- Nothing follows. -/
  | last {a : α} : next a = none → Trail next a [a]
  /-- An element follows, and others follow it. -/
  | step {a b : α} {rest : List α} : next a = some b → Trail next b rest → Trail next a (a :: rest)

namespace Trail

variable {α : Type} {next : α → Option α} {a b : α} {as bs : List α}

/-- The first element decides the whole trail. -/
theorem unique (h : Trail next a as) (h' : Trail next a bs) : as = bs := by
  induction h generalizing bs with
  | last hn =>
    cases h' with
    | last => rfl
    | step hb => exact absurd (hn.symm.trans hb) (by simp)
  | step hb _ ih =>
    cases h' with
    | last hn => exact absurd (hn.symm.trans hb) (by simp)
    | step hb' ht =>
      obtain rfl := Option.some.inj (hb.symm.trans hb')
      rw [ih ht]

/-- From each of its elements on, a trail is the trail of that element. -/
theorem of_mem (h : Trail next a as) (hb : b ∈ as) : ∃ before rest, as = before ++ rest ∧
    Trail next b rest := by
  induction h with
  | last hn =>
    obtain rfl := List.mem_singleton.1 hb
    exact ⟨[], _, rfl, .last hn⟩
  | step hn ht ih =>
    rcases List.mem_cons.1 hb with rfl | hb
    · exact ⟨[], _, rfl, .step hn ht⟩
    · obtain ⟨before, rest, rfl, hr⟩ := ih hb
      exact ⟨_ :: before, rest, rfl, hr⟩

/-- No element stands twice on a trail: its trail would be a proper part of itself. -/
theorem nodup (h : Trail next a as) : as.Nodup := by
  induction h with
  | last => exact List.nodup_singleton _
  | @step a b rest hn ht ih =>
    refine List.nodup_cons.2 ⟨fun ha => ?_, ih⟩
    -- The trail of `a` that starts inside `rest` is the whole trail, so it is no shorter.
    obtain ⟨before, again, rfl, hr⟩ := ht.of_mem ha
    have hlen := congrArg List.length (hr.unique (.step hn ht))
    simp only [List.length_cons, List.length_append] at hlen
    omega

/-- What is kept from one element to the next holds of every element. -/
theorem forall_mem {p : α → Prop} (h : Trail next a as) (ha : p a)
    (hp : ∀ a b, p a → next a = some b → p b) : ∀ b ∈ as, p b := by
  induction h with
  | last => simpa using ha
  | step hn _ ih => exact List.forall_mem_cons.2 ⟨ha, ih (hp _ _ ha hn)⟩

end Trail

/-- A trail lists what stands so many steps after its first element. -/
theorem Trail.getElem?_eq {α : Type} {next : α → Option α} {a : α} {as : List α}
    (h : Trail next a as) (n : Nat) : as[n]? = (fun x => x.bind next)^[n] (some a) := by
  induction h generalizing n with
  | last hn =>
    cases n with
    | zero => rfl
    | succ n =>
      rw [Function.iterate_succ_apply, Option.bind_some, hn, Function.iterate_fixed rfl]
      rfl
  | step hn _ ih =>
    cases n with
    | zero => rfl
    | succ n =>
      rw [Function.iterate_succ_apply, Option.bind_some, hn, ← ih n]
      rfl

/-! ## Paths -/

/-- Every key of the graph is there once. -/
def Definition.WellKeyed (g : Definition) : Prop :=
  (Fields.keys g.nodes).Nodup

/-- A graph that was read has every key once. -/
theorem Definition.wellKeyed_of_check {j : Json} {g : Definition} (h : Definition.check j = .ok g) :
    g.WellKeyed := by
  obtain hnone | ⟨nodes, hnodes⟩ := Definition.nodes_of_check h
  · rw [Definition.WellKeyed, hnone]
    exact List.nodup_nil
  · exact Check.nodup_keys_of_fields hnodes

/-- Whether a walk ends after the nodes with a tag. -/
def Registry.isTerminal (r : Registry) (tag : String) : Bool :=
  (r.handler? tag).any Handler.terminal

/-- The station after one, given which tags are terminal. -/
def Definition.after? (g : Definition) (terminal : String → Bool) (station : Station) :
    Option Station :=
  if terminal station.2.tag then none else g.next? station.2

/-- The station so many steps after the input node. -/
def Definition.pathAt? (g : Definition) (terminal : String → Bool) (n : Nat) : Option Station :=
  (fun x => x.bind (g.after? terminal))^[n] g.inputNode?

theorem Definition.mem_of_inputNode? {g : Definition} {entry : Station}
    (h : g.inputNode? = some entry) : entry ∈ g.nodes :=
  List.mem_of_find?_eq_some h

theorem Definition.mem_of_after? {g : Definition} {terminal : String → Bool} {a b : Station}
    (h : g.after? terminal a = some b) : b ∈ g.nodes := by
  unfold Definition.after? at h
  split at h
  · simp at h
  · obtain ⟨_, _, _, hb⟩ := Definition.next?_eq_some_iff.1 h
    exact Fields.mem_of_get? hb

namespace Trail

variable {g : Definition} {terminal : String → Bool} {entry : Station} {stations : List Station}

theorem mem_nodes (h : Trail (g.after? terminal) entry stations) (he : entry ∈ g.nodes) :
    ∀ station ∈ stations, station ∈ g.nodes :=
  h.forall_mem he fun _ _ _ hb => Definition.mem_of_after? hb

/-- No key stands twice on a path, even when several keys have nodes of one identifier. -/
theorem nodup_keys (h : Trail (g.after? terminal) entry stations) (he : entry ∈ g.nodes)
    (hg : g.WellKeyed) : (stations.map Prod.fst).Nodup :=
  h.nodup.map_on fun a ha b hb =>
    List.inj_on_of_nodup_map hg (h.mem_nodes he a ha) (h.mem_nodes he b hb)

theorem length_le (h : Trail (g.after? terminal) entry stations) (he : entry ∈ g.nodes) :
    stations.length ≤ g.nodes.length :=
  (List.subperm_of_subset h.nodup (h.mem_nodes he)).length_le

end Trail

/-! ## Walks -/

namespace Route

/-- After a visit, the walk goes on along the path. -/
theorem after?_eq_of_visit {r : Route σ} {station : Station} {context : Value} {h : Handler}
    {stop : Stop} {s s' : State σ} (hv : r.visit station context s = some (.ok (h, stop), s')) :
    r.graph.after? r.registry.isTerminal station = r.next? h station.2 := by
  obtain ⟨hh, _⟩ := visit_eq_ok_iff.1 hv
  have hterm : r.registry.isTerminal station.2.tag = h.terminal := by
    simp [Registry.isTerminal, (handlerFor_eq_ok_iff.1 hh).2]
  simp [Definition.after?, next?, hterm]

/-- A walk that comes to its end has followed the path. -/
theorem trail_of_walk {r : Route σ} {steps : Nat} {station : Station} {context : Value}
    {j : Journey} {s s' : State σ} (h : r.walk steps station context s = some (.ok j, s')) :
    Trail (r.graph.after? r.registry.isTerminal) station (j.stops.map Stop.station) := by
  induction steps generalizing station context j s with
  | zero => simp [walk] at h
  | succ steps ih =>
    obtain ⟨h, stop, t, hv, hrest⟩ := walk_succ_eq_ok_iff.1 h
    have hafter := after?_eq_of_visit hv
    obtain ⟨_, _, _, _, rfl, _⟩ := visit_eq_ok_iff.1 hv
    rcases hrest with ⟨hn, rfl, rfl⟩ | ⟨next, rest, hn, hw, rfl⟩
    · exact .last (hafter.trans hn)
    · exact .step (hafter.trans hn) (ih hw)

end Route

/-! ## Evaluations -/

namespace Engine

/-- An evaluation comes to its end, and has visited these stations in this order. -/
def Visits (e : Engine σ) (ask : Ask σ) (g : Definition) (context : Json) (o : Options)
    (s : State σ) (stations : List Station) : Prop :=
  ∃ j t, e.travel ask g context o s = some (.ok j, t) ∧ j.stops.map Stop.station = stations

variable {e : Engine σ} {ask : Ask σ} {g : Definition} {context : Json} {o : Options}
  {s s' : State σ} {stations : List Station}

/-- What was visited is the path from the input node. -/
theorem Visits.trail (h : e.Visits ask g context o s stations) :
    ∃ entry, g.inputNode? = some entry ∧
      Trail (g.after? e.registry.isTerminal) entry stations := by
  obtain ⟨j, t, hj, rfl⟩ := h
  obtain ⟨limit, entry, v, _, hstart, hw⟩ := travel_eq_ok_iff.1 hj
  exact ⟨entry, (Definition.start_eq_ok_iff.1 hstart).1, Route.trail_of_walk hw⟩

/-- An evaluation that returns has visited some stations, and its report is about them. -/
theorem exists_visits {report : Report}
    (h : e.evaluateGraph ask g context o s = some (.ok report, s')) :
    ∃ stations, e.Visits ask g context o s stations ∧
      (∀ stops ∈ report.trace, stops.map Stop.station = stations) ∧
      ∀ p ∈ report.performance, p.visited = stations.length := by
  obtain ⟨j, t, hj, hr⟩ := evaluateGraph_eq_ok_iff_travel.1 h
  refine ⟨_, ⟨j, t, hj, rfl⟩, ?_⟩
  obtain ⟨_, htrace, hperf, _⟩ := Journey.report_eq_iff.1 hr
  rw [htrace, hperf]
  cases o.includeTrace <;> cases o.includePerformance <;> simp

/-- The visited stations have distinct keys, so there are no more of them than nodes. -/
theorem Visits.nodup_keys (h : e.Visits ask g context o s stations) (hg : g.WellKeyed) :
    (stations.map Prod.fst).Nodup ∧ stations.length ≤ g.nodes.length := by
  obtain ⟨entry, hentry, ht⟩ := h.trail
  have hmem := Definition.mem_of_inputNode? hentry
  exact ⟨ht.nodup_keys hmem hg, ht.length_le hmem⟩

/-- Two evaluations of a graph visit the same stations, whatever the handlers give. -/
theorem Visits.unique {τ : Type} {e' : Engine τ} {ask' : Ask τ} {context' : Json} {o' : Options}
    {t : State τ} {stations' : List Station} (h : e.Visits ask g context o s stations)
    (h' : e'.Visits ask' g context' o' t stations')
    (hterm : e.registry.isTerminal = e'.registry.isTerminal) : stations = stations' := by
  obtain ⟨entry, hentry, ht⟩ := h.trail
  obtain ⟨entry', hentry', ht'⟩ := h'.trail
  obtain rfl := Option.some.inj (hentry.symm.trans hentry')
  rw [← hterm] at ht'
  exact ht.unique ht'

/-- The stations of an evaluation stand at their places on the path. -/
theorem Visits.getElem?_eq (h : e.Visits ask g context o s stations) (n : Nat) :
    stations[n]? = g.pathAt? e.registry.isTerminal n := by
  obtain ⟨entry, hentry, ht⟩ := h.trail
  rw [ht.getElem?_eq, Definition.pathAt?, hentry]

/-- On a path that comes to one key twice, no evaluation visits anything to the end. -/
theorem not_visits_of_return (hg : g.WellKeyed) {m n : Nat} {a b : Station} (hmn : m < n)
    (ha : g.pathAt? e.registry.isTerminal m = some a)
    (hb : g.pathAt? e.registry.isTerminal n = some b) (hab : a.1 = b.1) :
    ¬e.Visits ask g context o s stations := by
  intro h
  have hkeys := (h.nodup_keys hg).1
  have hm : (stations.map Prod.fst)[m]? = some a.1 := by simp [h.getElem?_eq, ha]
  have hn : (stations.map Prod.fst)[n]? = some a.1 := by simp [h.getElem?_eq, hb, hab]
  obtain ⟨hlm, hm⟩ := List.getElem?_eq_some_iff.1 hm
  obtain ⟨hln, hn⟩ := List.getElem?_eq_some_iff.1 hn
  have heq := (hkeys.getElem_inj_iff).1 (hm.trans hn.symm)
  omega

/-- The path of an evaluation does not depend on data: of a graph with distinct keys, an
    evaluation that returns visits every key at most once, any two evaluations that return visit
    the same stations, and none returns when the path comes to a key twice. -/
theorem visits_path (g : Definition) (hg : g.WellKeyed) :
    (∀ {σ : Type} (e : Engine σ) (ask : Ask σ) (context : Json) (o : Options) (s s' : State σ)
        (report : Report), e.evaluateGraph ask g context o s = some (.ok report, s') →
      ∃ stations, e.Visits ask g context o s stations ∧ (stations.map Prod.fst).Nodup ∧
        stations.length ≤ g.nodes.length ∧
        (∀ stops ∈ report.trace, stops.map Stop.station = stations) ∧
        ∀ p ∈ report.performance, p.visited = stations.length) ∧
    (∀ {σ τ : Type} (e : Engine σ) (e' : Engine τ) (ask : Ask σ) (ask' : Ask τ)
        (context context' : Json) (o o' : Options) (s : State σ) (t : State τ)
        (stations stations' : List Station), e.registry.isTerminal = e'.registry.isTerminal →
      e.Visits ask g context o s stations → e'.Visits ask' g context' o' t stations' →
      stations = stations') ∧
    ∀ {σ : Type} (e : Engine σ) (m n : Nat) (a b : Station), m < n →
      g.pathAt? e.registry.isTerminal m = some a → g.pathAt? e.registry.isTerminal n = some b →
      a.1 = b.1 → ∀ (ask : Ask σ) (context : Json) (o : Options) (s s' : State σ)
        (result : Except Fault Report), e.evaluateGraph ask g context o s = some (result, s') →
        ∃ f, result = .error f := by
  refine ⟨?_, ?_, ?_⟩
  · intro σ e ask context o s s' report h
    obtain ⟨stations, hv, htrace, hperf⟩ := exists_visits h
    obtain ⟨hkeys, hlen⟩ := hv.nodup_keys hg
    exact ⟨stations, hv, hkeys, hlen, htrace, hperf⟩
  · intro σ τ e e' ask ask' context context' o o' s t stations stations' hterm h h'
    exact h.unique h' hterm
  · intro σ e m n a b hmn ha hb hab ask context o s s' result h
    cases result with
    | error f => exact ⟨f, rfl⟩
    | ok report =>
      obtain ⟨stations, hv, _⟩ := exists_visits h
      exact absurd hv (not_visits_of_return hg hmn ha hb hab)

end Engine

/-! ## Samples -/

namespace Sample

/-- A node without content. -/
def node (id tag : String) : Node :=
  ⟨id, "", tag, none, none⟩

/-- An edge between two nodes. -/
def edge (source target : String) : Edge :=
  ⟨"", source, target, "edge"⟩

/-- A path of three nodes, of which the second gives nothing. -/
def relay : Definition :=
  ⟨"relay", "", none, [("in", node "in" "input"), ("table", node "table" "decisionTable"),
    ("out", node "out" "output")], [edge "in" "table", edge "table" "out", edge "in" "out"]⟩

/-- Two keys whose nodes have one identifier, so that the edge to the second one is a ring. -/
def ring : Definition :=
  ⟨"ring", "", none, [("in", node "in" "input"), ("again", node "in" "switch")],
    [edge "in" "again"]⟩

/-- An engine with the standard handlers and nothing to load. -/
def engine : Engine Shelf :=
  Engine.withHandlers Source.shelf []

/-- A state in which no time passes. -/
def start : State Shelf :=
  State.start [] (Clock.ofReadings fun _ => 0.0)

end Sample

/-- The relay is evaluated along three distinct keys, and the ring gives no result. -/
theorem Engine.visits_path_relay_ring :
    Sample.relay.WellKeyed ∧ Sample.ring.WellKeyed ∧
      (∃ stations, Sample.engine.Visits Sample.engine.ask Sample.relay (.int 1) .default
        Sample.start stations ∧ (stations.map Prod.fst).Nodup ∧ stations.length ≤ 3) ∧
      (Sample.engine.evaluateGraph Sample.engine.ask Sample.ring (.int 1) .default
        Sample.start).isOk = false := by
  have hrelay : Sample.relay.WellKeyed := by unfold Definition.WellKeyed; decide
  have hring : Sample.ring.WellKeyed := by unfold Definition.WellKeyed; decide
  refine ⟨hrelay, hring, ?_, ?_⟩
  · have hok : (Sample.engine.evaluateGraph Sample.engine.ask Sample.relay (.int 1) .default
        Sample.start).isOk = true := by decide +kernel
    obtain ⟨report, s', h⟩ := Outcome.isOk_iff.1 hok
    obtain ⟨stations, hv, hkeys, hlen, _⟩ := (visits_path Sample.relay hrelay).1 _ _ _ _ _ _ _ h
    exact ⟨stations, hv, hkeys, hlen⟩
  · by_contra hok
    obtain ⟨report, s', h⟩ := Outcome.isOk_iff.1 (by simpa using hok)
    obtain ⟨f, hf⟩ := (visits_path Sample.ring hring).2.2 Sample.engine 1 2
      ("again", Sample.node "in" "switch") ("again", Sample.node "in" "switch") (by decide) rfl rfl
      rfl _ _ _ _ _ _ h
    simp at hf

end DecisionFlow
