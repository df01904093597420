import DecisionFlow.Proofs.Alignment
import DecisionFlow.Proofs.Reach

set_option autoImplicit false

/-! # Evaluations of two graphs

Two walks by one engine through two graphs match as long as they stand before nodes whose visits are
alike and lead on to such nodes again. Walks that match at their entries match wherever they come,
so they end alike: both with a result, both with a fault, or neither. What has to be said of two
graphs is therefore said of single visits. -/

namespace DecisionFlow

variable {σ : Type}

/-! ## Outcomes -/

/-- Two computations come to the same end in the same state: to faults or results that go together,
    or both to none. -/
inductive Outcome.Alike {α β : Type} (F : Fault → Fault → Prop) (P : α → β → State σ → Prop) :
    Outcome σ α → Outcome σ β → Prop where
  /-- The steps of both do not suffice. -/
  | unfinished : Alike F P none none
  /-- Both fail. -/
  | error {f f' : Fault} {s : State σ} : F f f' →
    Alike F P (some (.error f, s)) (some (.error f', s))
  /-- Both give a result. -/
  | ok {a : α} {b : β} {s : State σ} : P a b s → Alike F P (some (.ok a, s)) (some (.ok b, s))

namespace Outcome

variable {α β γ δ : Type} {F : Fault → Fault → Prop} {P : α → β → State σ → Prop}
  {Q : γ → δ → State σ → Prop} {x : Outcome σ α} {y : Outcome σ β}

theorem Alike.andThen (h : Alike F P x y) {next : α → State σ → Outcome σ γ}
    {next' : β → State σ → Outcome σ δ}
    (hnext : ∀ a b s, P a b s → Alike F Q (next a s) (next' b s)) :
    Alike F Q (x.andThen next) (y.andThen next') := by
  cases h with
  | unfinished => exact .unfinished
  | error hf => exact .error hf
  | ok hp => exact hnext _ _ _ hp

theorem Alike.mono {P' : α → β → State σ → Prop} (h : Alike F P x y)
    (hp : ∀ a b s, P a b s → P' a b s) : Alike F P' x y := by
  cases h with
  | unfinished => exact .unfinished
  | error hf => exact .error hf
  | ok h => exact .ok (hp _ _ _ h)

/-- Results that go together are those of the computations. -/
theorem Alike.with_left (h : Alike F P x y) :
    Alike F (fun a b s => x = some (.ok a, s) ∧ P a b s) x y := by
  cases h with
  | unfinished => exact .unfinished
  | error hf => exact .error hf
  | ok hp => exact .ok ⟨rfl, hp⟩

theorem Alike.symm (h : Alike F P x y) : Alike (flip F) (fun b a s => P a b s) y x := by
  cases h with
  | unfinished => exact .unfinished
  | error hf => exact .error hf
  | ok hp => exact .ok hp

/-- A computation is like itself. -/
theorem Alike.refl (hF : ∀ f, F f f) (x : Outcome σ α) : Alike F (fun a b _ => a = b) x x := by
  rcases x with _ | ⟨f | a, s⟩
  · exact .unfinished
  · exact .error (hF f)
  · exact .ok rfl

/-- Computations that come to the same end with one result are the same. -/
theorem Alike.eq {x y : Outcome σ α} (h : Alike Eq (fun a b _ => a = b) x y) : x = y := by
  cases h with
  | unfinished => rfl
  | error hf => rw [hf]
  | ok hab => rw [hab]

end Outcome

/-! ## Journeys and reports -/

/-- Two journeys with stops that go together and one result. -/
structure Journey.Alike (S : Stop → Stop → Prop) (j j' : Journey) : Prop where
  /-- The stops go together one by one. -/
  stops : List.Forall₂ S j.stops j'.stops
  /-- The result is the same. -/
  result : j.result = j'.result

theorem Journey.Alike.eq {j j' : Journey} (h : j.Alike Eq j') : j = j' := by
  obtain ⟨hstops, hresult⟩ := h
  rw [List.forall₂_eq_eq_eq] at hstops
  obtain ⟨stops, result⟩ := j
  obtain ⟨stops', result'⟩ := j'
  exact congrArg₂ Journey.mk hstops hresult

/-- Two reports with one result, and with stops that go together where they were asked for. -/
structure Report.Alike (S : Stop → Stop → Prop) (r r' : Report) : Prop where
  /-- The result is the same. -/
  result : r.result = r'.result
  /-- The stops go together one by one. -/
  trace : Option.Rel (List.Forall₂ S) r.trace r'.trace
  /-- The time and the number of visited nodes are the same. -/
  performance : r.performance = r'.performance

/-- Journeys that are alike are reported alike. -/
theorem Journey.Alike.report {S : Stop → Stop → Prop} {j j' : Journey} (h : j.Alike S j')
    (o : Options) (started : Float) (s : State σ) :
    Report.Alike S (j.report o started s).1 (j'.report o started s).1 ∧
      (j.report o started s).2 = (j'.report o started s).2 := by
  have htrace : Option.Rel (List.Forall₂ S) (if o.includeTrace then some j.stops else none)
      (if o.includeTrace then some j'.stops else none) := by
    split
    · exact .some h.stops
    · exact .none
  have hlength := h.stops.length_eq
  unfold Journey.report
  cases o.includePerformance
  · exact ⟨⟨h.result, htrace, rfl⟩, rfl⟩
  · exact ⟨⟨h.result, htrace, by simp [hlength]⟩, rfl⟩

/-! ## Walks -/

namespace Route

variable {F : Fault → Fault → Prop} {S : Stop → Stop → Prop}
  {M : Standpoint σ → Standpoint σ → Prop} {r r' : Route σ} {p p' q : Standpoint σ}

/-- The same route through another graph. -/
def through (r : Route σ) (g : Definition) : Route σ :=
  ⟨g, r.registry, r.ask, r.budget, r.deadline⟩

/-- After two stops, both walks end with one result, or they go on to standpoints that match. -/
inductive Onward (M : Standpoint σ → Standpoint σ → Prop) (stop stop' : Stop) (s : State σ) :
    Option Station → Option Station → Prop where
  /-- Both walks end. -/
  | ends : stop.output = stop'.output → Onward M stop stop' s none none
  /-- Both walks go on. -/
  | goes {next next' : Station} : M ⟨next, stop.passedOn, s⟩ ⟨next', stop'.passedOn, s⟩ →
    Onward M stop stop' s (some next) (some next')

/-- At standpoints that match, the visits of two routes are alike, and so is what follows them. -/
def Matches (r r' : Route σ) (F : Fault → Fault → Prop) (S : Stop → Stop → Prop)
    (M : Standpoint σ → Standpoint σ → Prop) : Prop :=
  ∀ p p', M p p' → Outcome.Alike F
    (fun x x' s => S x.2 x'.2 ∧
      Onward M x.2 x'.2 s (r.next? x.1 p.station.2) (r'.next? x'.1 p'.station.2))
    (r.visitAt p) (r'.visitAt p')

theorem Onward.symm {stop stop' : Stop} {s : State σ} {next next' : Option Station}
    (h : Onward M stop stop' s next next') : Onward (flip M) stop' stop s next' next := by
  cases h with
  | ends houtput => exact .ends houtput.symm
  | goes hm => exact .goes hm

theorem Matches.symm (h : r.Matches r' F S M) : r'.Matches r (flip F) (flip S) (flip M) := by
  intro p' p hm
  have hvisits := (h p p' hm).symm
  generalize r'.visitAt p' = outcome' at hvisits ⊢
  generalize r.visitAt p = outcome at hvisits ⊢
  cases hvisits with
  | unfinished => exact .unfinished
  | error hf => exact .error hf
  | ok hx => exact .ok ⟨hx.1, hx.2.symm⟩

/-- Walks from standpoints that match are alike. -/
theorem Matches.walkFrom_alike (h : r.Matches r' F S M) (hm : M p p') (steps : Nat) :
    Outcome.Alike F (fun j j' _ => Journey.Alike S j j') (r.walkFrom steps p)
      (r'.walkFrom steps p') := by
  induction steps generalizing p p' with
  | zero => exact .unfinished
  | succ steps ih =>
    rw [walkFrom, walkFrom, walk, walk]
    refine (h p p' hm).andThen ?_
    rintro ⟨k, stop⟩ ⟨k', stop'⟩ s ⟨hstops, honward⟩
    dsimp only at honward ⊢
    generalize r.next? k p.station.2 = onward at honward ⊢
    generalize r'.next? k' p'.station.2 = onward' at honward ⊢
    cases honward with
    | ends houtput => exact .ok ⟨.cons hstops .nil, houtput⟩
    | goes hm' =>
      refine (ih hm').andThen fun j j' t hj => ?_
      exact .ok ⟨.cons hstops hj.stops, hj.result⟩

/-- Where the one walk goes on, the other goes on to a standpoint that matches. -/
theorem Matches.exists_goes (h : r.Matches r' F S M) (hm : M p p') (hgo : r.Goes p q) :
    ∃ q', r'.Goes p' q' ∧ M q q' := by
  obtain ⟨station, context, s⟩ := q
  obtain ⟨k, stop, hvisit, hnext, rfl⟩ := hgo
  have hvisits := h p p' hm
  rw [hvisit] at hvisits
  generalize hvisit' : r'.visitAt p' = outcome at hvisits
  cases hvisits with
  | @ok _ x' _ hx =>
    have honward := hx.2
    rw [hnext] at honward
    generalize hnext' : r'.next? x'.1 p'.station.2 = onward at honward
    cases honward with
    | @goes _ next' hm' =>
      exact ⟨⟨next', x'.2.passedOn, s⟩, ⟨x'.1, x'.2, hvisit', hnext', rfl⟩, hm'⟩

/-- Where the one walk comes, the other comes to a standpoint that matches, after as many steps. -/
theorem Matches.exists_reaches (h : r.Matches r' F S M) {steps : Nat} (hq : r.Reaches steps p q)
    (hm : M p p') : ∃ q', r'.Reaches steps p' q' ∧ M q q' := by
  induction hq generalizing p' with
  | here => exact ⟨p', .here, hm⟩
  | onward hgo _ ih =>
    obtain ⟨m', hgo', hm'⟩ := h.exists_goes hm hgo
    obtain ⟨q', hreach, hq'⟩ := ih hm'
    exact ⟨q', .onward hgo' hreach, hq'⟩

/-- A walk that comes to a standpoint and goes on comes to the next one. -/
theorem Reaches.snoc {steps : Nat} (h : r.Reaches steps p p') (hgo : r.Goes p' q) :
    r.Reaches (steps + 1) p q := by
  induction h with
  | here => exact .onward hgo .here
  | onward hfirst _ ih => exact .onward hfirst (ih hgo)

/-- Visits by one route through two graphs are alike when they start in one state, the tags have one
    handler, and what the handler gives is alike. -/
theorem visitAt_alike {g' : Definition} {V : Value → Value → State σ → Prop}
    {Q : Handler × Stop → Handler × Stop → State σ → Prop} (hstate : p'.state = p.state)
    (hhandler : r.registry.handler? p'.station.2.tag = r.registry.handler? p.station.2.tag)
    (hlate : F (.timedOut r.budget) (.timedOut r.budget))
    (hunknown : F (.unknownTag p.station.2.id p.station.2.tag)
      (.unknownTag p'.station.2.id p'.station.2.tag))
    (hvisit : ∀ h, r.registry.handler? p.station.2.tag = some h → Outcome.Alike F V
      (h.visit r.ask p.station.2 p.context p.state.tick.tick)
      (h.visit r.ask p'.station.2 p'.context p.state.tick.tick))
    (hstop : ∀ h output output' t,
      r.visitAt p = some (.ok (h, stopAt p.station p.context output p.state t), t.tick) →
      V output output' t → Q (h, stopAt p.station p.context output p.state t)
        (h, stopAt p'.station p'.context output' p.state t) t.tick) :
    Outcome.Alike F Q (r.visitAt p) ((r.through g').visitAt p') := by
  rw [visitAt] at hstop
  rw [visitAt, visitAt, visit, visit, hstate]
  by_cases hdeadline : r.deadline < p.state.clock.now
  · have hfor : r.handlerFor p.station.2 p.state.clock.now = .error (.timedOut r.budget) :=
      handlerFor_eq_error_iff.2 (.inl ⟨hdeadline, rfl⟩)
    have hfor' : (r.through g').handlerFor p'.station.2 p.state.clock.now =
        .error (.timedOut r.budget) := handlerFor_eq_error_iff.2 (.inl ⟨hdeadline, rfl⟩)
    rw [hfor, hfor']
    exact .error hlate
  · cases hh : r.registry.handler? p.station.2.tag with
    | none =>
      have hfor : r.handlerFor p.station.2 p.state.clock.now =
          .error (.unknownTag p.station.2.id p.station.2.tag) :=
        handlerFor_eq_error_iff.2 (.inr ⟨hdeadline, hh, rfl⟩)
      have hfor' : (r.through g').handlerFor p'.station.2 p.state.clock.now =
          .error (.unknownTag p'.station.2.id p'.station.2.tag) :=
        handlerFor_eq_error_iff.2 (.inr ⟨hdeadline, hhandler.trans hh, rfl⟩)
      rw [hfor, hfor']
      exact .error hunknown
    | some h =>
      have hfor : r.handlerFor p.station.2 p.state.clock.now = .ok h :=
        handlerFor_eq_ok_iff.2 ⟨hdeadline, hh⟩
      have hfor' : (r.through g').handlerFor p'.station.2 p.state.clock.now = .ok h :=
        handlerFor_eq_ok_iff.2 ⟨hdeadline, hhandler.trans hh⟩
      rw [hfor, hfor']
      refine (hvisit h hh).with_left.andThen fun output output' t hv => .ok ?_
      exact hstop h output output' t (visit_eq_ok_iff.2 ⟨hfor, output, t, hv.1, rfl, rfl⟩) hv.2

end Route

/-! ## Evaluations -/

namespace Engine

/-- An evaluation comes to a standpoint, within so many steps. -/
def ComesTo (e : Engine σ) (ask : Ask σ) (g : Definition) (context : Json) (o : Options)
    (s : State σ) (steps : Nat) (q : Standpoint σ) : Prop :=
  ∃ limit entry v, deadline s.clock.now o.maxExecutionTimeMs = .ok limit ∧
    g.start context = .ok (entry, v) ∧
    (e.route ask g o limit).Reaches steps ⟨entry, v, s.tick⟩ q

/-- The routes through two graphs are the same but for the graph. -/
theorem route_eq_through (e : Engine σ) (ask : Ask σ) (g g' : Definition) (o : Options)
    (limit : Float) : e.route ask g' o limit = (e.route ask g o limit).through g' := rfl

variable {e : Engine σ} {ask : Ask σ} {g g' : Definition} {context : Json} {o : Options}
  {s : State σ} {F : Fault → Fault → Prop} {S : Stop → Stop → Prop}
  {M : Standpoint σ → Standpoint σ → Prop}

/-- From where an evaluation comes to, it comes to where its walk goes on. -/
theorem ComesTo.snoc {steps : Nat} {p q : Standpoint σ} {limit : Float}
    (h : e.ComesTo ask g context o s steps p)
    (hlimit : deadline s.clock.now o.maxExecutionTimeMs = .ok limit)
    (hgo : (e.route ask g o limit).Goes p q) : e.ComesTo ask g context o s (steps + 1) q := by
  obtain ⟨limit', entry, v, hlimit', hstart, hreach⟩ := h
  obtain rfl := Except.ok.inj (hlimit.symm.trans hlimit')
  exact ⟨limit, entry, v, hlimit, hstart, hreach.snoc hgo⟩

/-- An evaluation comes to nodes of its graph only. -/
theorem ComesTo.mem_nodes {steps : Nat} {q : Standpoint σ}
    (h : e.ComesTo ask g context o s steps q) : q.station ∈ g.nodes := by
  obtain ⟨limit, entry, v, _, hstart, hreach⟩ := h
  exact hreach.mem_nodes (Definition.mem_of_inputNode? (Definition.start_eq_ok_iff.1 hstart).1)

/-- The evaluations of two graphs match: they are called the same, they start at standpoints that
    match or have no entry, and their routes match. -/
structure Matching (e : Engine σ) (ask : Ask σ) (g g' : Definition) (context : Json) (o : Options)
    (s : State σ) (F : Fault → Fault → Prop) (S : Stop → Stop → Prop)
    (M : Standpoint σ → Standpoint σ → Prop) : Prop where
  /-- Without an entry, they are called the same. -/
  label : F (.noEntry g.label) (.noEntry g'.label)
  /-- Numbers that are too large are noticed for both. -/
  tooLarge : F (.number .tooLarge) (.number .tooLarge)
  /-- Both have an entry or neither, and the walks start at standpoints that match. -/
  entry : Option.Rel (fun a b => ∀ limit v, deadline s.clock.now o.maxExecutionTimeMs = .ok limit →
    Value.ofJson? context = some v → M ⟨a, v, s.tick⟩ ⟨b, v, s.tick⟩) g.inputNode? g'.inputNode?
  /-- The routes match. -/
  route : ∀ limit, deadline s.clock.now o.maxExecutionTimeMs = .ok limit →
    (e.route ask g o limit).Matches (e.route ask g' o limit) F S M

theorem Matching.symm (h : e.Matching ask g g' context o s F S M) :
    e.Matching ask g' g context o s (flip F) (flip S) (flip M) where
  label := h.label
  tooLarge := h.tooLarge
  entry := by
    have hentry := h.entry
    generalize g.inputNode? = entry at hentry ⊢
    generalize g'.inputNode? = entry' at hentry ⊢
    cases hentry with
    | none => exact .none
    | some hm => exact .some hm
  route limit hlimit := (h.route limit hlimit).symm

/-- Evaluations that match are alike. -/
theorem Matching.evaluateGraph_alike (h : e.Matching ask g g' context o s F S M) :
    Outcome.Alike F (fun r r' _ => Report.Alike S r r') (e.evaluateGraph ask g context o s)
      (e.evaluateGraph ask g' context o s) := by
  rw [evaluateGraph_eq_travel, evaluateGraph_eq_travel]
  refine Outcome.Alike.andThen (P := fun j j' _ => Journey.Alike S j j') ?_ fun j j' t hj => ?_
  · unfold travel
    cases hlimit : deadline s.clock.now o.maxExecutionTimeMs with
    | error f =>
      obtain ⟨_, rfl⟩ := deadline_eq_error_iff.1 hlimit
      exact .error h.tooLarge
    | ok limit =>
      have hentry := h.entry
      unfold Definition.start Reply.valueOfDatum
      generalize g.inputNode? = entry at hentry ⊢
      generalize g'.inputNode? = entry' at hentry ⊢
      cases hentry with
      | none => exact .error h.label
      | some hm =>
        cases hv : Value.ofJson? context with
        | none => exact .error h.tooLarge
        | some v => exact (h.route limit hlimit).walkFrom_alike (hm limit v hlimit hv) e.steps
  · obtain ⟨hreport, hstate⟩ := hj.report o s.clock.now t
    rw [← hstate]
    exact .ok hreport

/-- Where the one evaluation comes, the other comes to a standpoint that matches. -/
theorem Matching.exists_comesTo (h : e.Matching ask g g' context o s F S M) {steps : Nat}
    {q : Standpoint σ} (hq : e.ComesTo ask g context o s steps q) :
    ∃ q', e.ComesTo ask g' context o s steps q' ∧ M q q' := by
  obtain ⟨limit, entry, v, hlimit, hstart, hreach⟩ := hq
  obtain ⟨hg, hv⟩ := Definition.start_eq_ok_iff.1 hstart
  have hentry := h.entry
  rw [hg] at hentry
  generalize hg' : g'.inputNode? = entry' at hentry
  cases hentry with
  | @some _ b hm =>
    obtain ⟨q', hreach', hq'⟩ :=
      (h.route limit hlimit).exists_reaches hreach (hm limit v hlimit hv)
    exact ⟨q', ⟨limit, b, v, hlimit, Definition.start_eq_ok_iff.2 ⟨hg', hv⟩, hreach'⟩, hq'⟩

end Engine

end DecisionFlow
