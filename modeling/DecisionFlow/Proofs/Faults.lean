import DecisionFlow.Engine.Session
import DecisionFlow.Proofs.Normalization
import DecisionFlow.Proofs.Reach

set_option autoImplicit false

/-! # The faults of an evaluation

An evaluation fails before its first node or because of a node. What a handler fails with gets the
name of its node once, where it leaves the node. On its way out through the nodes whose handlers
wait for the evaluation nothing is added to it any more, however many of them there are. -/

namespace DecisionFlow

variable {σ : Type}

/-! ## Calls -/

/-- A call for an evaluation that the action of a handler comes to. -/
structure Call (σ : Type) where
  /-- The key of the decision. -/
  key : String
  /-- The context. -/
  context : Json
  /-- The options. -/
  options : Options
  /-- What the action goes on with. -/
  next : Except Fault Report → Action
  /-- The state at the call. -/
  state : State σ

/-- An action that runs from a state comes to a call. -/
inductive Action.Calls (ask : Ask σ) : Action → State σ → Call σ → Prop where
  /-- The action begins with the call. -/
  | here {key : String} {context : Json} {o : Options} {next : Except Fault Report → Action}
    {s : State σ} : Calls ask (.evaluate key context o next) s ⟨key, context, o, next, s⟩
  /-- The call comes after another one. -/
  | later {key : String} {context : Json} {o : Options} {next : Except Fault Report → Action}
    {s t : State σ} {answer : Except Fault Report} {c : Call σ} :
    ask key context o s = some (answer, t) → Calls ask (next answer) t c →
    Calls ask (.evaluate key context o next) s c
  /-- The call comes after some waiting. -/
  | waited {seconds : Float} {next : Action} {s : State σ} {c : Call σ} :
    Calls ask next (s.wait seconds) c → Calls ask (.wait seconds next) s c

/-- What an action ends with is what it ends with after the answer to the call. -/
theorem Action.Calls.run_eq {ask : Ask σ} {a : Action} {s t : State σ} {c : Call σ}
    {answer : Except Fault Report} (h : a.Calls ask s c)
    (hask : ask c.key c.context c.options c.state = some (answer, t)) :
    a.run ask s = (c.next answer).run ask t := by
  induction h with
  | here =>
    rw [Action.run]
    simp only [hask]
  | later hfirst _ ih =>
    rw [Action.run]
    simp only [hfirst]
    exact ih hask
  | waited _ ih =>
    rw [Action.run]
    exact ih hask

/-- A call lets a fault pass: after an evaluation that ends with it, so does the action. -/
def Call.Passes (c : Call σ) (ask : Ask σ) (f : Fault) : Prop :=
  ∀ t, ask c.key c.context c.options c.state = some (.error f, t) →
    ∃ u, (c.next (.error f)).run ask t = some (.error f, u)

/-! ## Starting handlers -/

namespace Engine

/-- An evaluation comes to a standpoint and starts the handler of its node. -/
def Starts (e : Engine σ) (ask : Ask σ) (g : Definition) (context : Json) (o : Options)
    (s : State σ) (q : Standpoint σ) (h : Handler) : Prop :=
  ∃ limit entry v, deadline s.clock.now o.maxExecutionTimeMs = .ok limit ∧
    g.start context = .ok (entry, v) ∧
    (e.route ask g o limit).Reaches e.steps ⟨entry, v, s.tick⟩ q ∧
    (e.route ask g o limit).handlerFor q.station.2 q.state.clock.now = .ok h

variable {e : Engine σ} {ask : Ask σ} {g : Definition} {context : Json} {o : Options}
  {s s' : State σ} {q : Standpoint σ} {h : Handler}

/-- The fault of a handler that an evaluation starts is the fault of the evaluation. -/
theorem Starts.evaluateGraph_eq (hs : e.Starts ask g context o s q h) {f : Fault}
    (hf : h.visit ask q.station.2 q.context q.state.tick.tick = some (.error f, s')) :
    e.evaluateGraph ask g context o s = some (.error f, s') := by
  obtain ⟨limit, entry, v, hlimit, hstart, hreach, hh⟩ := hs
  have hvisit : (e.route ask g o limit).visitAt q = some (.error f, s') :=
    Route.visit_eq_error_iff.2 (Or.inr ⟨h, hh, hf⟩)
  have hwalk := Route.walkFrom_eq_error_iff.2 ⟨q, hreach, hvisit⟩
  rw [evaluateGraph_eq_error_iff_travel, travel_eq_error_iff]
  exact Or.inr ⟨limit, hlimit, Or.inr ⟨entry, v, hstart, hwalk⟩⟩

/-! ## Raised faults -/

/-- While a graph is evaluated, with so many evaluations that may still wait, the handler of a node
    fails, and no handler that waits for it stops the fault. -/
inductive Raises (e : Engine σ) :
    Nat → Definition → Json → Options → State σ → Node → Fault → Prop where
  /-- The handler of a node of the graph fails: its action does, or its reply has no value. -/
  | own {depth : Nat} {g : Definition} {context : Json} {o : Options} {s t : State σ}
    {q : Standpoint σ} {h : Handler} {result : Except Fault Reply} {f : Fault} :
    e.Starts (e.askAt depth) g context o s q h →
    (h.act q.station.2 q.context).run (e.askAt depth) q.state.tick.tick = some (result, t) →
    result.bind Reply.toValue = .error f → Raises e depth g context o s q.station.2 f
  /-- The handler of a node of the graph calls for an evaluation in which a handler fails, and lets
      the fault that comes back pass. -/
  | inner {depth : Nat} {g : Definition} {context : Json} {o : Options} {s t : State σ}
    {q : Standpoint σ} {h : Handler} {c : Call σ} {d : Decision} {n : Node} {f : Fault} :
    e.Starts (e.askAt (depth + 1)) g context o s q h →
    (h.act q.station.2 q.context).Calls (e.askAt (depth + 1)) q.state.tick.tick c →
    c.state.decisionFor e.source c.key = (.ok d, t) →
    Raises e depth d.graph c.context c.options t n f →
    c.Passes (e.askAt (depth + 1)) (f.atNode n.id n.tag) →
    Raises e (depth + 1) g context o s n f

/-- What comes out of an evaluation is the raised fault with the name of the node that raised it,
    from however deep inside. -/
theorem Raises.evaluateGraph_eq {depth : Nat} {n : Node} {f : Fault}
    (hf : e.Raises depth g context o s n f) :
    ∃ s', e.evaluateGraph (e.askAt depth) g context o s =
      some (.error (f.atNode n.id n.tag), s') := by
  induction hf with
  | own hstart hrun hreply =>
    exact ⟨_, hstart.evaluateGraph_eq (Handler.visit_eq_error_iff.2 ⟨_, _, hrun, hreply, rfl⟩)⟩
  | @inner depth g context o s t q h c d n f hstart hcalls hd _ hpass ih =>
    obtain ⟨w, hinner⟩ := ih
    have hask : e.askAt (depth + 1) c.key c.context c.options c.state =
        some (.error (f.atNode n.id n.tag), w) := by
      simp only [askAt, evaluateKey, hd, hinner]
    obtain ⟨u, hrest⟩ := hpass w hask
    have hrun : (h.act q.station.2 q.context).run (e.askAt (depth + 1)) q.state.tick.tick =
        some (.error (f.atNode n.id n.tag), u) :=
      (hcalls.run_eq hask).trans hrest
    -- The fault already has the name of its node, so leaving this node adds nothing to it.
    have hvisit := Handler.visit_eq_error_iff.2 ⟨_, _, hrun, rfl, rfl⟩
    rw [Fault.atNode_atNode] at hvisit
    exact ⟨u, hstart.evaluateGraph_eq hvisit⟩

/-! ## All faults -/

/-- A number is too large before any handler has started: the budget, or an integer in the context
    of a graph that has an entry. -/
def TooLarge (g : Definition) (context : Json) (o : Options) : Prop :=
  Number.overflowBound ≤ o.maxExecutionTimeMs.natAbs ∨
    o.maxExecutionTimeMs.natAbs < Number.overflowBound ∧ g.inputNode? ≠ none ∧
      ∃ n, context.HasInt n ∧ Number.overflowBound ≤ n.natAbs

/-- A number that is too large is noticed whatever the handlers are. -/
theorem TooLarge.evaluateGraph_eq (hlarge : TooLarge g context o) (e : Engine σ) (ask : Ask σ)
    (s : State σ) :
    e.evaluateGraph ask g context o s = some (.error (.number .tooLarge), s.tick) := by
  rw [evaluateGraph_eq_error_iff_travel, travel_eq_error_iff]
  rcases hlarge with hbudget | ⟨hbudget, hentry, hcontext⟩
  · exact Or.inl ⟨deadline_eq_error_iff.2 ⟨Number.ofInt?_eq_none_iff.2 hbudget, rfl⟩, rfl⟩
  · cases hlimit : deadline s.clock.now o.maxExecutionTimeMs with
    | error f =>
      have hnone := (deadline_eq_error_iff.1 hlimit).1
      exact absurd (Number.ofInt?_eq_none_iff.1 hnone) (Nat.not_le.2 hbudget)
    | ok limit =>
      have hnone := Value.ofJson?_eq_none_iff.2 hcontext
      have hstart := Definition.start_eq_error_iff.2 (Or.inr ⟨hentry, hnone, rfl⟩)
      exact Or.inr ⟨limit, rfl, Or.inl ⟨hstart, rfl⟩⟩

/-- An evaluation fails for a number that is too large, for want of an entry, or at a standpoint
    that it comes to. -/
theorem evaluateGraph_error_cases {f : Fault}
    (h : e.evaluateGraph ask g context o s = some (.error f, s')) :
    TooLarge g context o ∨ g.inputNode? = none ∧ f = .noEntry g.label ∨
      ∃ limit entry v q, deadline s.clock.now o.maxExecutionTimeMs = .ok limit ∧
        g.start context = .ok (entry, v) ∧
        (e.route ask g o limit).Reaches e.steps ⟨entry, v, s.tick⟩ q ∧
        (e.route ask g o limit).visitAt q = some (.error f, s') := by
  rw [evaluateGraph_eq_error_iff_travel, travel_eq_error_iff] at h
  rcases h with ⟨hlimit, _⟩ | ⟨limit, hlimit, ⟨hstart, _⟩ | ⟨entry, v, hstart, hw⟩⟩
  · have hbudget := Number.ofInt?_eq_none_iff.1 (deadline_eq_error_iff.1 hlimit).1
    exact Or.inl (Or.inl hbudget)
  · rcases Definition.start_eq_error_iff.1 hstart with hentry | ⟨hentry, hcontext, _⟩
    · exact Or.inr (Or.inl hentry)
    · by_cases hbudget : Number.overflowBound ≤ o.maxExecutionTimeMs.natAbs
      · exact Or.inl (Or.inl hbudget)
      · have hlarge := Value.ofJson?_eq_none_iff.1 hcontext
        exact Or.inl (Or.inr ⟨Nat.not_le.1 hbudget, hentry, hlarge⟩)
  · obtain ⟨q, hreach, hv⟩ := (Route.walkFrom_eq_error_iff (p := ⟨entry, v, s.tick⟩)).1 hw
    exact Or.inr (Or.inr ⟨limit, entry, v, q, hlimit, hstart, hreach, hv⟩)

/-- Every fault of an evaluation has a cause: a number that is too large, in which case no handler
    has started, or one of the causes that make it a graph fault. -/
theorem cause_of_error {depth : Nat} {f : Fault}
    (h : e.evaluateGraph (e.askAt depth) g context o s = some (.error f, s')) :
    TooLarge g context o ∨ g.inputNode? = none ∧ f = .noEntry g.label ∨
      f = .timedOut o.maxExecutionTimeMs ∨
      (∃ n : Node, e.registry.handler? n.tag = none ∧ f = .unknownTag n.id n.tag) ∨
      ∃ n raised, e.Raises depth g context o s n raised ∧ f = raised.atNode n.id n.tag := by
  rcases evaluateGraph_error_cases h with hlarge | hentry |
    ⟨limit, entry, v, q, hlimit, hstart, hreach, hv⟩
  · exact Or.inl hlarge
  · exact Or.inr (Or.inl hentry)
  · refine Or.inr (Or.inr ?_)
    rcases Route.visit_eq_error_iff.1 hv with ⟨hh, _⟩ | ⟨k, hh, hk⟩
    · rcases Route.handlerFor_eq_error_iff.1 hh with ⟨_, rfl⟩ | ⟨_, hnone, rfl⟩
      · exact Or.inl rfl
      · exact Or.inr (Or.inl ⟨q.station.2, hnone, rfl⟩)
    · obtain ⟨result, raised, hrun, hreply, rfl⟩ := Handler.visit_eq_error_iff.1 hk
      have hstarts : e.Starts (e.askAt depth) g context o s q k :=
        ⟨limit, entry, v, hlimit, hstart, hreach, hh⟩
      exact Or.inr (Or.inr ⟨q.station.2, raised, .own hstarts hrun hreply, rfl⟩)

/-- Faults are graph faults that name their node once. An evaluation that fails has found a number
    too large before any handler started, or it leaves a graph fault that is not the fault of a
    single expression. And what a handler raises, however many evaluations deep, comes out as it is
    when it is such a graph fault, and otherwise as the failure of its node with its message. -/
theorem faults_named_once (e : Engine σ) (depth : Nat) (g : Definition) (context : Json)
    (o : Options) (s : State σ) :
    (∀ f s', e.evaluateGraph (e.askAt depth) g context o s = some (.error f, s') →
      (f = .number .tooLarge ∧ s' = s.tick ∧ TooLarge g context o ∧
        ∀ (e' : Engine σ) (ask : Ask σ),
          e'.evaluateGraph ask g context o s = some (.error f, s')) ∨
      f.passesNode = true ∧
        (f = .noEntry g.label ∨ f = .timedOut o.maxExecutionTimeMs ∨
          (∃ n : Node, e.registry.handler? n.tag = none ∧ f = .unknownTag n.id n.tag) ∨
          ∃ n raised, e.Raises depth g context o s n raised ∧ f = raised.atNode n.id n.tag)) ∧
    ∀ n f, e.Raises depth g context o s n f →
      ∃ s', e.evaluateGraph (e.askAt depth) g context o s =
        some (.error (if f.passesNode then f else .nodeFailed n.id n.tag f.message), s') := by
  constructor
  · intro f s' h
    rcases cause_of_error h with hlarge | ⟨_, rfl⟩ | rfl | ⟨n, hn, rfl⟩ | ⟨n, raised, hraised, rfl⟩
    · have heq := hlarge.evaluateGraph_eq e (e.askAt depth) s
      rw [h] at heq
      obtain ⟨hf, rfl⟩ := Prod.mk.inj (Option.some.inj heq)
      obtain rfl := Except.error.inj hf
      exact Or.inl ⟨rfl, rfl, hlarge, fun e' ask => hlarge.evaluateGraph_eq e' ask s⟩
    · exact Or.inr ⟨rfl, Or.inl rfl⟩
    · exact Or.inr ⟨rfl, Or.inr (Or.inl rfl)⟩
    · exact Or.inr ⟨rfl, Or.inr (Or.inr (Or.inl ⟨n, hn, rfl⟩))⟩
    · have hpasses := Fault.passesNode_atNode n.id n.tag raised
      exact Or.inr ⟨hpasses, Or.inr (Or.inr (Or.inr ⟨n, raised, hraised, rfl⟩))⟩
  · intro n f hf
    exact hf.evaluateGraph_eq

end Engine

namespace Sample

/-- A handler that has the decision that its node is named after evaluated, and fails at a node
    without a name. -/
def chained : Handler :=
  ⟨"inputNode", [], false, fun n context =>
    if n.name = "" then .fail (.external "RuntimeError" "boom")
    else .ask n.name context Action.ofResult⟩

/-- A graph with a single node. -/
def chain (id name : String) : Definition :=
  ⟨"chain", "", none, [("in", ⟨id, name, "inputNode", none, none⟩)], []⟩

end Sample

/-- A failure two evaluations deep has the name of the innermost node, and no other. -/
example :
    let e := Engine.withHandlers Source.shelf [Sample.chained]
    let graphs := [("b", Sample.chain "second" "c"), ("c", Sample.chain "third" "")]
    let s := State.start graphs Sample.start.clock
    (match e.evaluateGraph e.ask (Sample.chain "first" "b") .null .default s with
      | some (.error f, _) => f == .nodeFailed "third" "inputNode" "boom"
      | _ => false) = true := by
  decide +kernel

end DecisionFlow
