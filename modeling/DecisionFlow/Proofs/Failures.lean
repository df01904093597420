import DecisionFlow.Handler.Registry
import DecisionFlow.Proofs.Contents
import DecisionFlow.Proofs.Faults
import DecisionFlow.Proofs.HitPolicies
import DecisionFlow.Proofs.Literals
import DecisionFlow.Proofs.Writing

set_option autoImplicit false

/-! # Why the nodes of the built-in kinds fail

Input and output nodes and switches never fail. A node with expressions fails for want of a value
of one of them, or because one of its fields blocks a later one; a decision table fails for an
integer in one of its cells that no double is near to, or because one of its columns blocks a later
one. This holds of every graph that was read, in every context. -/

namespace DecisionFlow

variable {σ : Type}

/-! ## Cells -/

/-- A cell without a text has an integer beyond the range of doubles. -/
theorem Cell.hasOversized_of_text {cell : Json} {fault : Number.Fault}
    (h : text cell = .error fault) : cell.HasOversized := by
  have hwritten : cell.ints.all Number.isWritable = false → cell.HasOversized := by
    intro hall
    obtain ⟨n, hn, hlong⟩ := List.all_eq_false.1 hall
    have hbound : Number.writingBound ≤ n.natAbs := by simpa [Number.isWritable] using hlong
    exact ⟨n, Json.hasInt_of_mem_ints hn, Nat.le_trans Number.overflowBound_le_writingBound hbound⟩
  unfold text at h
  split at h
  · exact nomatch h
  · exact nomatch h
  · next n =>
    split at h
    · exact nomatch h
    · next hnone => exact ⟨n, .int, Number.ofInt?_eq_none_iff.1 hnone⟩
  · exact nomatch h
  · exact nomatch h
  · -- A list or an object is written with all the integers in it.
    split at h
    · exact nomatch h
    · next hall => exact hwritten (by simpa using hall)

theorem Cell.hasOversized_of_ofJson? {cell : Json} (h : Value.ofJson? cell = none) :
    cell.HasOversized :=
  Value.ofJson?_eq_none_iff.1 h

/-! ## Tables -/

theorem Path.HasBlock.mono {fields all : List String} (h : HasBlock fields)
    (hsub : fields.Sublist all) : HasBlock all := by
  obtain ⟨field, other, hpair, hblocks⟩ := h
  exact ⟨field, other, hpair.trans hsub, hblocks⟩

/-- A decision table that may fail: a cell has an integer beyond the range of doubles, or a column
    blocks a later one. -/
def Table.MayFail (t : Table) : Prop :=
  (∃ row ∈ t.rules, ∃ cell ∈ row, cell.HasOversized) ∨ Path.HasBlock (t.outputs.map Column.field)

/-- A fault that a table fails with is none of a graph. -/
theorem Row.holds_error {context : Value} {cells : List Json} {fault : Fault}
    (h : holds context cells = .error fault) :
    fault.passesNode = false ∧ ∃ cell ∈ cells, cell.HasOversized := by
  induction cells with
  | nil => exact nomatch h
  | cons cell cells ih =>
    cases htext : Cell.text cell with
    | error f =>
      rw [holds_cons_of_text_eq_error htext] at h
      obtain rfl := Except.error.inj h
      exact ⟨rfl, cell, List.mem_cons_self .., Cell.hasOversized_of_text htext⟩
    | ok condition =>
      rw [holds_cons_of_text_eq_ok htext] at h
      split at h
      · obtain ⟨hpasses, c, hm, hc⟩ := ih h
        exact ⟨hpasses, c, List.mem_cons_of_mem _ hm, hc⟩
      · exact nomatch h

theorem Table.map_field_results_sublist (columns : List Column) (cells : List Json) :
    ((columns.zip cells).map fun entry => entry.1.field).Sublist (columns.map Column.field) := by
  induction columns generalizing cells with
  | nil => simp
  | cons column columns ih =>
    cases cells with
    | nil => simp
    | cons cell cells => exact (ih cells).cons_cons _

/-- A table with a row that fails may fail. -/
theorem Table.mayFail_of_hit? {t : Table} {context : Value} {row : List Json} {fault : Fault}
    (hrow : row ∈ t.rules) (h : t.hit? context row = .error fault) :
    fault.passesNode = false ∧ t.MayFail := by
  unfold hit? at h
  split at h
  · next f hholds =>
    obtain rfl := Except.error.inj h
    obtain ⟨hpasses, cell, hm, hcell⟩ := Row.holds_error hholds
    exact ⟨hpasses, Or.inl ⟨row, hrow, cell, List.mem_of_mem_take hm, hcell⟩⟩
  · exact nomatch h
  · obtain ⟨hpasses, hcause⟩ := Row.write_error Value.leavesBelow_nil (map_eq_error_iff.1 h)
    refine ⟨hpasses, ?_⟩
    obtain ⟨column, cell, hm, hcell⟩ | hblock := hcause
    · have hcells : cell ∈ row.drop t.inputs.length := (List.of_mem_zip hm).2
      exact Or.inl ⟨row, hrow, cell, List.mem_of_mem_drop hcells,
        Cell.hasOversized_of_ofJson? hcell⟩
    · exact Or.inr (hblock.mono (map_field_results_sublist _ _))

/-- A table that fails may fail; the fault is the business of its node. -/
theorem Table.mayFail_of_evaluate {t : Table} {context : Value} {fault : Fault}
    (h : t.evaluate context = .error fault) : fault.passesNode = false ∧ t.MayFail := by
  -- Whatever the policy is, collecting would fail with this fault too.
  have hhits : t.hits context t.rules = .error fault := by
    unfold evaluate at h
    split at h
    · exact hits_of_firstHit?_error (map_eq_error_iff.1 h)
    · exact map_eq_error_iff.1 h
    · exact map_eq_error_iff.1 h
  obtain ⟨before, row, after, hrules, -, hrow⟩ := exists_failing_of_hits hhits
  exact mayFail_of_hit? (by simp [hrules]) hrow

/-! ## Expressions -/

/-- Expressions that may fail: one of them is an oversized literal, or a field blocks a later
    one. -/
def Assignments.MayFail (a : Assignments) : Prop :=
  (∃ field expression, (field, expression) ∈ a.expressions ∧
    Expression.IsOversized (Text.trim expression.toList)) ∨
  Path.HasBlock (Fields.keys a.expressions)

/-- Expressions that fail may fail. -/
theorem Assignments.mayFail_of_evaluate {a : Assignments} {context : Value}
    {fault : AssignmentFault} (h : a.evaluate context = .error fault) : a.MayFail := by
  obtain ⟨field, expression, f, hm, hf⟩ | hblock :=
    assignAll_error Value.leavesBelow_nil (map_eq_error_iff.1 h)
  · exact Or.inl ⟨field, expression, hm, Expression.evaluate_eq_error_iff.1 ⟨f, hf⟩⟩
  · exact Or.inr hblock

/-! ## Nodes -/

/-- A node that may fail: its expressions may, or its table. -/
inductive Node.MayFail (n : Node) : Prop where
  | expression {a : Assignments} : NodeKind.ofTag? n.tag = some .expression →
    n.content = some (.assignments a) → a.MayFail → MayFail n
  | table {t : Table} : NodeKind.ofTag? n.tag = some .table → n.content = some (.table t) →
    t.MayFail → MayFail n

/-- The standard handler of a kind of node. -/
def NodeKind.handler : NodeKind → Handler
  | .input => .input
  | .output => .output
  | .expression => .expression
  | .table => .table
  | .switch => .switch

/-- Without further handlers, a tag has the standard handler of its kind. -/
theorem Registry.exists_kind_of_handler? {tag : String} {h : Handler}
    (hh : (Registry.withExtra []).handler? tag = some h) :
    ∃ kind, NodeKind.ofTag? tag = some kind ∧ h = kind.handler := by
  have hmem : (tag, h) ∈ Registry.withExtra [] := Fields.mem_of_get? hh
  have hentries : Registry.withExtra [] =
      [("inputNode", .input), ("input", .input), ("outputNode", .output), ("output", .output),
        ("decisionTableNode", .table), ("decisionTable", .table),
        ("expressionNode", .expression), ("expression", .expression),
        ("switchNode", .switch), ("switch", .switch)] := by
    rfl
  simp only [hentries, List.mem_cons, Prod.mk.injEq, List.not_mem_nil, or_false] at hmem
  -- Each kind is registered under two tags.
  obtain ⟨rfl, rfl⟩ | ⟨rfl, rfl⟩ | ⟨rfl, rfl⟩ | ⟨rfl, rfl⟩ | ⟨rfl, rfl⟩ | ⟨rfl, rfl⟩ | ⟨rfl, rfl⟩ |
    ⟨rfl, rfl⟩ | ⟨rfl, rfl⟩ | ⟨rfl, rfl⟩ := hmem
  · exact ⟨.input, by decide +kernel, rfl⟩
  · exact ⟨.input, by decide +kernel, rfl⟩
  · exact ⟨.output, by decide +kernel, rfl⟩
  · exact ⟨.output, by decide +kernel, rfl⟩
  · exact ⟨.table, by decide +kernel, rfl⟩
  · exact ⟨.table, by decide +kernel, rfl⟩
  · exact ⟨.expression, by decide +kernel, rfl⟩
  · exact ⟨.expression, by decide +kernel, rfl⟩
  · exact ⟨.switch, by decide +kernel, rfl⟩
  · exact ⟨.switch, by decide +kernel, rfl⟩

/-! ## Handlers -/

namespace Handler

variable {ask : Ask σ} {h : Handler} {n : Node} {context v : Value} {s : State σ} {f : Fault}

theorem visit_of_give (hact : h.act n context = .give v) :
    h.visit ask n context s = some (.ok v, s) := by
  rw [visit, hact]
  rfl

theorem visit_of_fail (hact : h.act n context = .fail f) :
    h.visit ask n context s = some (.error (f.atNode n.id n.tag), s) := by
  rw [visit, hact]
  rfl

end Handler

/-- A fault that is the business of its node becomes the failure of the node. -/
theorem Fault.atNode_of_not_passesNode {f : Fault} (h : f.passesNode = false) (id tag : String) :
    f.atNode id tag = .nodeFailed id tag f.message := by
  simp [atNode, h]

/-- A node that computes with a content that can be read gives a value, or fails as the computation
    does. -/
theorem Node.compute_cases {α : Type} {n : Node} {read : Content → Except Fault α} {without : Value}
    {evaluate : α → Except Fault Value} (hread : ∀ c, n.content = some c → ∃ a, read c = .ok a) :
    (∃ v, n.compute read without evaluate = .give v) ∨
    ∃ c a f, n.content = some c ∧ read c = .ok a ∧ evaluate a = .error f ∧
      n.compute read without evaluate = .fail f := by
  cases hc : n.content with
  | none => exact Or.inl ⟨without, by simp [compute, hc]⟩
  | some c =>
    obtain ⟨a, ha⟩ := hread c hc
    have hcompute : n.compute read without evaluate = .ofResult (evaluate a) := by
      simp only [compute, hc, ha]
      rfl
    cases hvalue : evaluate a with
    | ok v => exact Or.inl ⟨v, by rw [hcompute, hvalue]; rfl⟩
    | error f => exact Or.inr ⟨c, a, f, rfl, ha, hvalue, by rw [hcompute, hvalue]; rfl⟩

/-- A switch gives its context or null. -/
theorem Handler.switch_act {n : Node} (hfits : n.Fits)
    (hkind : NodeKind.ofTag? n.tag = some .switch) (context : Value) :
    ∃ v, Handler.switch.act n context = .give v ∧ (v = context ∨ v = .null) := by
  cases hc : n.content with
  | none => exact ⟨context, by simp [Handler.switch, ofKind, Node.compute, hc], .inl rfl⟩
  | some c =>
    obtain ⟨s, rfl⟩ := (hfits c hc).switch hkind
    have hact : Handler.switch.act n context = .give (s.evaluate context) := by
      simp only [Handler.switch, ofKind, Node.compute, hc]
      rfl
    refine ⟨s.evaluate context, hact, ?_⟩
    unfold Switch.evaluate
    split
    · exact .inl rfl
    · exact .inr rfl

/-- What the standard handler of a kind does with a node: it gives a value, or it fails because the
    node is one that may fail, and the fault is the failure of this node. -/
theorem NodeKind.act_cases {kind : NodeKind} {n : Node} (hfits : n.Fits)
    (hkind : NodeKind.ofTag? n.tag = some kind) (context : Value) :
    (∃ v, kind.handler.act n context = .give v) ∨
    (∃ f reason, kind.handler.act n context = .fail f ∧
      f.atNode n.id n.tag = .nodeFailed n.id n.tag reason) ∧ n.MayFail := by
  cases kind with
  | input => exact Or.inl ⟨context, rfl⟩
  | output => exact Or.inl ⟨context, rfl⟩
  | switch =>
    obtain ⟨v, hact, _⟩ := Handler.switch_act hfits hkind context
    exact Or.inl ⟨v, hact⟩
  | table =>
    have hread : ∀ c, n.content = some c → ∃ t, c = .table t ∧ Table.ofContent c = .ok t := by
      intro c hc
      obtain ⟨t, rfl⟩ := (hfits c hc).table hkind
      exact ⟨t, rfl, rfl⟩
    obtain hgives | ⟨c, t, f, hc, ht, hf, hact⟩ :=
      Node.compute_cases fun c hc => (hread c hc).imp fun _ => And.right
    · exact Or.inl hgives
    · obtain ⟨t', rfl, ht'⟩ := hread c hc
      obtain rfl := Except.ok.inj (ht.symm.trans ht')
      obtain ⟨hpasses, hfails⟩ := Table.mayFail_of_evaluate hf
      have hnamed := Fault.atNode_of_not_passesNode hpasses n.id n.tag
      exact Or.inr ⟨⟨f, _, hact, hnamed⟩, .table hkind hc hfails⟩
  | expression =>
    have hread : ∀ c, n.content = some c →
        ∃ a, c = .assignments a ∧ Assignments.ofContent c = .ok a := by
      intro c hc
      obtain ⟨a, rfl⟩ := (hfits c hc).expression hkind
      exact ⟨a, rfl, rfl⟩
    obtain hgives | ⟨c, a, f, hc, ha, hf, hact⟩ :=
      Node.compute_cases fun c hc => (hread c hc).imp fun _ => And.right
    · exact Or.inl hgives
    · obtain ⟨a', rfl, ha'⟩ := hread c hc
      obtain rfl := Except.ok.inj (ha.symm.trans ha')
      -- The handler has named the node itself, so leaving the node adds nothing.
      obtain ⟨fault, hfault, rfl⟩ := mapError_eq_error_iff.1 hf
      have hfails := Assignments.mayFail_of_evaluate hfault
      exact Or.inr ⟨⟨_, fault.message, hact, rfl⟩, .expression hkind hc hfails⟩

/-- A visit of a node by its standard handler gives a value, or the node fails and is one that may
    fail. -/
theorem Handler.visit_cases {h : Handler} {n : Node} (hfits : n.Fits)
    (hh : (Registry.withExtra []).handler? n.tag = some h) (ask : Ask σ) (v : Value)
    (s : State σ) :
    (∃ w, h.visit ask n v s = some (.ok w, s)) ∨
    (∃ reason, h.visit ask n v s = some (.error (.nodeFailed n.id n.tag reason), s)) ∧
      n.MayFail := by
  obtain ⟨kind, hkind, rfl⟩ := Registry.exists_kind_of_handler? hh
  obtain ⟨w, hact⟩ | ⟨⟨f, reason, hact, hnamed⟩, hfails⟩ := NodeKind.act_cases hfits hkind v
  · exact Or.inl ⟨w, visit_of_give hact⟩
  · exact Or.inr ⟨⟨reason, hnamed ▸ visit_of_fail hact⟩, hfails⟩

theorem Node.MayFail.kind {n : Node} (h : n.MayFail) :
    NodeKind.ofTag? n.tag = some .expression ∨ NodeKind.ofTag? n.tag = some .table := by
  cases h with
  | expression hkind => exact Or.inl hkind
  | table hkind => exact Or.inr hkind

/-! ## Evaluations -/

namespace Engine

variable {e : Engine σ} {ask : Ask σ} {g : Definition} {context : Json} {o : Options}
  {s s' : State σ}

/-- An evaluation fails in the name of a node when the visit of a node of the graph does. -/
theorem exists_visit_of_nodeFailed {id tag reason : String}
    (h : e.evaluateGraph ask g context o s = some (.error (.nodeFailed id tag reason), s')) :
    ∃ station ∈ g.nodes, ∃ k v t, e.registry.handler? station.2.tag = some k ∧
      k.visit ask station.2 v t = some (.error (.nodeFailed id tag reason), s') := by
  obtain hlarge | ⟨_, hentry⟩ | ⟨limit, entry, v, q, _, hstart, hreach, hv⟩ :=
    evaluateGraph_error_cases h
  · -- A number that is too large is noticed before any node.
    have heq := hlarge.evaluateGraph_eq e ask s
    rw [h] at heq
    exact nomatch heq
  · exact nomatch hentry
  · -- The walk has come to a node of the graph, and its visit fails.
    have hentry := Definition.mem_of_inputNode? (Definition.start_eq_ok_iff.1 hstart).1
    have hmem : q.station ∈ g.nodes := hreach.mem_nodes hentry
    obtain ⟨hh, _⟩ | ⟨k, hh, hk⟩ := Route.visit_eq_error_iff.1 hv
    · obtain ⟨_, hf⟩ | ⟨_, _, hf⟩ := Route.handlerFor_eq_error_iff.1 hh
      · exact nomatch hf
      · exact nomatch hf
    · exact ⟨q.station, hmem, k, _, _, (Route.handlerFor_eq_ok_iff.1 hh).2, hk⟩

/-- In a graph that was read, under the standard handlers, a visit gives a value or fails because
    the node is one that may fail; then it fails in the name of the node. Input and output nodes and
    switches give a value. And when an evaluation fails in the name of a node, a node of the graph
    has this name and may fail. -/
theorem nodes_fail_only_for_cause (e : Engine σ) (he : e.registry = Registry.withExtra [])
    (ask : Ask σ) (j : Json) (g : Definition) (hg : Definition.check j = .ok g) :
    (∀ station ∈ g.nodes, ∀ h, e.registry.handler? station.2.tag = some h → ∀ v s,
      (∃ w, h.visit ask station.2 v s = some (.ok w, s)) ∨
      (∃ reason, h.visit ask station.2 v s =
        some (.error (.nodeFailed station.2.id station.2.tag reason), s)) ∧ station.2.MayFail) ∧
    (∀ station ∈ g.nodes, ∀ kind ∈ [NodeKind.input, .output, .switch],
      NodeKind.ofTag? station.2.tag = some kind → ∀ h,
        e.registry.handler? station.2.tag = some h → ∀ v s,
          ∃ w, h.visit ask station.2 v s = some (.ok w, s)) ∧
    ∀ context o s id tag reason s',
      e.evaluateGraph ask g context o s = some (.error (.nodeFailed id tag reason), s') →
        ∃ station ∈ g.nodes, station.2.id = id ∧ station.2.tag = tag ∧ station.2.MayFail := by
  have hfits := Definition.fits_of_check hg
  refine ⟨?_, ?_, ?_⟩
  · intro station hstation h hh v s
    exact Handler.visit_cases (hfits station hstation) (he ▸ hh) ask v s
  · intro station hstation kind hmem hkind h hh v s
    obtain hgives | ⟨-, hfails⟩ := Handler.visit_cases (hfits station hstation) (he ▸ hh) ask v s
    · exact hgives
    · -- What may fail is of another kind.
      obtain hkind' | hkind' := hfails.kind
      · simp [Option.some.inj (hkind.symm.trans hkind')] at hmem
      · simp [Option.some.inj (hkind.symm.trans hkind')] at hmem
  · intro context o s id tag reason s' h
    obtain ⟨station, hmem, k, v, t, hk, hvisit⟩ := exists_visit_of_nodeFailed h
    refine ⟨station, hmem, ?_⟩
    obtain ⟨w, hgives⟩ | ⟨⟨_, hfault⟩, hfails⟩ :=
      Handler.visit_cases (hfits station hmem) (he ▸ hk) ask v t
    · exact nomatch hgives.symm.trans hvisit
    · have hsame := hfault.symm.trans hvisit
      simp only [Option.some.injEq, Prod.mk.injEq, Except.error.injEq,
        Fault.nodeFailed.injEq] at hsame
      exact ⟨hsame.1.1, hsame.1.2.1, hfails⟩

end Engine

/-! ## Samples -/

/-- The fault that a computation ends with. -/
def Outcome.fault? {α : Type} : Outcome σ α → Option Fault
  | some (.error f, _) => some f
  | _ => none

theorem Outcome.fault?_eq_some_iff {α : Type} {x : Outcome σ α} {f : Fault} :
    x.fault? = some f ↔ ∃ s, x = some (.error f, s) := by
  rcases x with _ | ⟨g | a, s⟩ <;> simp [Outcome.fault?]

/-- A graph with a node one of whose fields blocks the next one. -/
def Sample.blocked : Definition :=
  ⟨"blocked", "", none,
    [("in", node "in" "input"),
      ("sum", ⟨"sum", "", "expression", some (.assignments ⟨[("a", "1"), ("a.b", "2")]⟩), none⟩)],
    [edge "in" "sum"]⟩

/-- The node with the blocked field fails, and is one that may. -/
theorem Engine.nodes_fail_only_for_cause_blocked :
    Sample.engine.registry = Registry.withExtra [] ∧
    Definition.check Sample.blocked.toJson = .ok Sample.blocked ∧
    ∃ reason, (Sample.engine.evaluateGraph Sample.engine.ask Sample.blocked .null .default
        Sample.start).fault? = some (.nodeFailed "sum" "expression" reason) ∧
      ∃ station ∈ Sample.blocked.nodes, station.2.id = "sum" ∧ station.2.tag = "expression" ∧
        station.2.MayFail := by
  have hcheck : Definition.check Sample.blocked.toJson = .ok Sample.blocked := by rfl
  have hfault : (Sample.engine.evaluateGraph Sample.engine.ask Sample.blocked .null .default
      Sample.start).fault? = some (.nodeFailed "sum" "expression"
        (AssignmentFault.message ⟨"a.b", "2", .field ⟨"a.b", "a"⟩⟩)) := by
    decide +kernel
  obtain ⟨s', h⟩ := Outcome.fault?_eq_some_iff.1 hfault
  have hcauses := nodes_fail_only_for_cause Sample.engine rfl Sample.engine.ask
    Sample.blocked.toJson Sample.blocked hcheck
  exact ⟨rfl, hcheck, _, hfault, hcauses.2.2 _ _ _ _ _ _ _ h⟩

end DecisionFlow
