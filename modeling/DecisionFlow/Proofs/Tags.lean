import DecisionFlow.Proofs.Registries
import DecisionFlow.Proofs.Retagging

set_option autoImplicit false

/-! # Both tags of a kind

Contents and the entry are found by the full tag of a node, handlers by the tag as it stands, in a
registry that has every handler under its full tag and under the short ones. All three agree: a
graph is evaluated alike whichever of the two tags its nodes have, as long as no handler looks at
the tag for anything but the wording of its faults. -/

namespace DecisionFlow

variable {σ : Type}

/-! ## Faults -/

/-- Two faults that are the same, but that they may name a node's tag in two ways. -/
inductive Fault.SameButTag : Fault → Fault → Prop where
  | same {f : Fault} : SameButTag f f
  | unknownTag {id tag tag' : String} : canonicalTag tag = canonicalTag tag' →
    SameButTag (.unknownTag id tag) (.unknownTag id tag')
  | nodeFailed {id tag tag' reason : String} : canonicalTag tag = canonicalTag tag' →
    SameButTag (.nodeFailed id tag reason) (.nodeFailed id tag' reason)

theorem Fault.SameButTag.atNode {f f' : Fault} (h : f.SameButTag f') {tag tag' : String}
    (htag : canonicalTag tag = canonicalTag tag') (id : String) :
    (f.atNode id tag).SameButTag (f'.atNode id tag') := by
  cases h with
  | same =>
    unfold Fault.atNode
    split
    · exact .same
    · exact .nodeFailed htag
  | unknownTag hown => exact .unknownTag hown
  | nodeFailed hown => exact .nodeFailed hown

/-! ## Actions -/

/-- Two actions that do the same, whatever they are answered, but for the faults that they end
    with. -/
inductive Action.Alike (F : Fault → Fault → Prop) : Action → Action → Prop where
  | reply (r : Reply) : Alike F (.reply r) (.reply r)
  | fail {f f' : Fault} : F f f' → Alike F (.fail f) (.fail f')
  | evaluate (key : String) (context : Json) (o : Options)
    {next next' : Except Fault Report → Action} : (∀ answer, Alike F (next answer) (next' answer)) →
    Alike F (.evaluate key context o next) (.evaluate key context o next')
  | wait (seconds : Float) {next next' : Action} : Alike F next next' →
    Alike F (.wait seconds next) (.wait seconds next')

namespace Action

variable {F : Fault → Fault → Prop} {a a' : Action}

theorem Alike.refl (hF : ∀ f, F f f) (a : Action) : Alike F a a := by
  induction a with
  | reply r => exact .reply r
  | fail f => exact .fail (hF f)
  | evaluate key context o next ih => exact .evaluate key context o ih
  | wait seconds next ih => exact .wait seconds ih

theorem Alike.run (h : Alike F a a') (ask : Ask σ) (s : State σ) :
    Outcome.Alike F (fun r r' _ => r = r') (a.run ask s) (a'.run ask s) := by
  induction h generalizing s with
  | reply r => exact .ok rfl
  | fail hf => exact .error hf
  | evaluate key context o _ ih =>
    rw [Action.run, Action.run]
    cases ask key context o s with
    | none => exact .unfinished
    | some answered => exact ih answered.1 answered.2
  | wait seconds _ ih => exact ih (s.wait seconds)

end Action

/-! ## Handlers -/

namespace Handler

/-- At nodes that are the same but for the texts of their tags, a handler does the same, but that a
    fault may name the tag. -/
def IgnoresTags (h : Handler) : Prop :=
  ∀ n n' context, n.SameButTag n' →
    (h.act n context).Alike Fault.SameButTag (h.act n' context)

/-- A computation with the content of a node does not look at the tag. -/
theorem compute_alike {α : Type} {n n' : Node} (hcontent : n.content = n'.content)
    {read : Content → Except Fault α} {without : Value}
    {evaluate evaluate' : α → Except Fault Value}
    (h : ∀ a, (Action.ofResult (evaluate a)).Alike Fault.SameButTag
      (Action.ofResult (evaluate' a))) :
    (n.compute read without evaluate).Alike Fault.SameButTag
      (n'.compute read without evaluate') := by
  unfold Node.compute
  rw [hcontent]
  cases n'.content with
  | none => exact .reply _
  | some c =>
    dsimp only
    cases read c with
    | error f => exact .fail .same
    | ok a => exact h a

theorem ignoresTags_of_mem_standard : ∀ h ∈ Handler.standard, h.IgnoresTags := by
  intro h hmem n n' context hn
  simp only [standard, List.mem_cons, List.not_mem_nil, or_false] at hmem
  obtain rfl | rfl | rfl | rfl | rfl := hmem
  · exact .reply _
  · exact .reply _
  · exact compute_alike hn.content fun t => .refl (fun _ => .same) _
  · refine compute_alike hn.content fun a => ?_
    -- The one standard handler that looks at the tag names it in its fault.
    cases a.evaluate context with
    | ok v => exact .reply _
    | error fault => exact hn.id ▸ .fail (.nodeFailed hn.tag)
  · exact compute_alike hn.content fun s => .refl (fun _ => .same) _

/-- Visits of nodes that are the same but for the texts of their tags are alike. -/
theorem IgnoresTags.visit_alike {h : Handler} (hh : h.IgnoresTags) {n n' : Node}
    (hn : n.SameButTag n') (ask : Ask σ) (context : Value) (s : State σ) :
    Outcome.Alike Fault.SameButTag (fun v v' _ => v = v') (h.visit ask n context s)
      (h.visit ask n' context s) := by
  have hrun := (hh n n' context hn).run ask s
  rw [visit, visit]
  generalize (h.act n context).run ask s = outcome at hrun ⊢
  generalize (h.act n' context).run ask s = outcome' at hrun ⊢
  cases hrun with
  | unfinished => exact .unfinished
  | error hf => exact .error (hn.id ▸ hf.atNode hn.tag n.id)
  | @ok r r' t hr =>
    subst hr
    dsimp only [Except.bind]
    cases r.toValue with
    | error f => exact .error (hn.id ▸ Fault.SameButTag.same.atNode hn.tag n.id)
    | ok v => exact .ok rfl

end Handler

/-! ## Evaluations -/

/-- Two stops that are the same but for the text of the node's tag. -/
structure Stop.SameButTag (a b : Stop) : Prop where
  key : a.key = b.key
  node : a.node.SameButTag b.node
  input : a.input = b.input
  output : a.output = b.output
  time : a.time = b.time

namespace Engine

variable {extra : List Handler} {e : Engine σ} {ask : Ask σ} {g g' : Definition} {context : Json}
  {o : Options} {s : State σ}

theorem matching_of_sameButTag (haliases : ∀ h ∈ extra, h.KeepsAliases)
    (hignores : ∀ h ∈ extra, h.IgnoresTags) (he : e.registry = Registry.withExtra extra)
    (h : g.Counterparts Node.SameButTag g') :
    e.Matching ask g g' context o s Fault.SameButTag Stop.SameButTag
      (Standpoint.Counterparts Node.SameButTag) := by
  refine h.matching (fun _ => .same) (fun _ _ hn => hn.id) (fun _ _ hn => hn.tag)
    fun limit p p' hp => ?_
  obtain ⟨⟨hkey, hnode⟩, hcontext, hstate⟩ := hp
  have hregistry : (e.route ask g o limit).registry = Registry.withExtra extra := he
  rw [route_eq_through e ask g g']
  refine Route.visitAt_alike (V := fun v v' _ => v = v') hstate ?_ .same ?_ ?_ ?_
  · rw [hregistry, Registry.handler?_congr haliases hnode.tag]
  · exact hnode.id ▸ .unknownTag hnode.tag
  · intro k hk
    rw [hregistry] at hk
    have hk' : k.IgnoresTags := by
      rcases List.mem_append.1 (Fields.mem_of_get?_route hk) with hmem | hmem
      · exact Handler.ignoresTags_of_mem_standard k hmem
      · exact hignores k hmem
    rw [hcontext]
    exact hk'.visit_alike hnode ask p.context _
  · rintro k v _ t - rfl
    refine ⟨⟨hkey, hnode, hcontext.symm, rfl, rfl⟩, rfl, ?_, fun _ => rfl⟩
    rw [hcontext]
    rfl

/-- Both tags of a kind mean the same. With further handlers that keep their aliases and do not look
    at tags, data of two graphs in which some tags are written in the other way are read alike, with
    the same contents; such graphs have the same entry; and their evaluations come to the same
    stations with the same contexts, and to the same result or fault, but that faults and stops name
    the tags as they are written. -/
theorem tags_transparent (extra : List Handler) (haliases : ∀ h ∈ extra, h.KeepsAliases)
    (hignores : ∀ h ∈ extra, h.IgnoresTags) :
    (∀ j j' : Json, j.Retagged j' → Checked.Alike
      (fun g g' => g.Counterparts Node.SameButTag g' ∧ g.description = g'.description)
      (Definition.check j) (Definition.check j')) ∧
    ∀ g g' : Definition, g.Counterparts Node.SameButTag g' →
      Option.Rel (Station.Counterparts Node.SameButTag) g.inputNode? g'.inputNode? ∧
      ∀ {σ : Type} (e : Engine σ), e.registry = Registry.withExtra extra →
        ∀ (ask : Ask σ) (context : Json) (o : Options) (s : State σ),
          Outcome.Alike Fault.SameButTag (fun r r' _ => Report.Alike Stop.SameButTag r r')
            (e.evaluateGraph ask g context o s) (e.evaluateGraph ask g' context o s) ∧
          (∀ steps q, e.ComesTo ask g context o s steps q →
            ∃ q', e.ComesTo ask g' context o s steps q' ∧
              Standpoint.Counterparts Node.SameButTag q q') ∧
          ∀ steps q', e.ComesTo ask g' context o s steps q' →
            ∃ q, e.ComesTo ask g context o s steps q ∧
              Standpoint.Counterparts Node.SameButTag q q' := by
  refine ⟨fun j j' h => Definition.check_alike h, fun g g' h => ⟨?_, ?_⟩⟩
  · exact h.inputNode?_rel fun _ _ hn => hn.tag
  · intro σ e he ask context o s
    have hmatching : e.Matching ask g g' context o s Fault.SameButTag Stop.SameButTag
        (Standpoint.Counterparts Node.SameButTag) :=
      matching_of_sameButTag haliases hignores he h
    exact ⟨hmatching.evaluateGraph_alike, fun _ _ hq => hmatching.exists_comesTo hq,
      fun _ _ hq => hmatching.symm.exists_comesTo hq⟩

end Engine

/-! ## Samples -/

/-- The relay with full tags. -/
def Sample.fullRelay : Definition :=
  ⟨"relay", "", none, [("in", node "in" "inputNode"), ("table", node "table" "decisionTableNode"),
    ("out", node "out" "outputNode")], [edge "in" "table", edge "table" "out", edge "in" "out"]⟩

/-- The relay is read and evaluated alike with short tags and with full ones, also when a handler
    for tables is put in under the short tag. -/
theorem Engine.tags_transparent_relay :
    (∀ h ∈ [Sample.stamp], h.KeepsAliases) ∧ (∀ h ∈ [Sample.stamp], h.IgnoresTags) ∧
    Sample.relay.toJson.Retagged Sample.fullRelay.toJson ∧
    Checked.Alike (fun g g' => g.Counterparts Node.SameButTag g' ∧ g.description = g'.description)
      (Definition.check Sample.relay.toJson) (Definition.check Sample.fullRelay.toJson) ∧
    Outcome.Alike Fault.SameButTag (fun r r' _ => Report.Alike Stop.SameButTag r r')
      ((Engine.withHandlers Source.shelf [Sample.stamp]).evaluateGraph Sample.engine.ask
        Sample.relay (.int 1) .default Sample.start)
      ((Engine.withHandlers Source.shelf [Sample.stamp]).evaluateGraph Sample.engine.ask
        Sample.fullRelay (.int 1) .default Sample.start) := by
  have haliases : ∀ h ∈ [Sample.stamp], h.KeepsAliases := by
    simp [Sample.stamp, Handler.KeepsAliases]
  have hignores : ∀ h ∈ [Sample.stamp], h.IgnoresTags := by
    rintro h hmem n n' context hn
    obtain rfl := List.mem_singleton.1 hmem
    have hact : Sample.stamp.act n context = Sample.stamp.act n' context :=
      congrArg (fun id => Action.give (.str id)) hn.id
    exact hact ▸ .reply _
  have hnode : ∀ (id : String) (kind : NodeKind),
      (Sample.node id kind.shortTag).SameButTag (Sample.node id kind.tag) :=
    fun id kind => ⟨rfl, rfl, by simp [Sample.node], rfl, rfl⟩
  have hdatum : ∀ (id : String) (kind : NodeKind), Json.RetaggedNode
      (Sample.node id kind.shortTag).toJson (Sample.node id kind.tag).toJson :=
    fun id kind => .members (.cons ⟨rfl, .same⟩ (.cons ⟨rfl, .same⟩
      (.cons ⟨rfl, .there (.intro (hnode id kind).tag)⟩
        (.cons ⟨rfl, .same⟩ (.cons ⟨rfl, .same⟩ .nil)))))
  have hretagged : Sample.relay.toJson.Retagged Sample.fullRelay.toJson :=
    .members (.cons ⟨rfl, .same⟩ (.cons ⟨rfl, .same⟩ (.cons ⟨rfl, .same⟩
      (.cons ⟨rfl, .there (.members (.cons ⟨rfl, hdatum "in" .input⟩
        (.cons ⟨rfl, hdatum "table" .table⟩ (.cons ⟨rfl, hdatum "out" .output⟩ .nil))))⟩
        (.cons ⟨rfl, .same⟩ .nil)))))
  have hgraph : Sample.relay.Counterparts Node.SameButTag Sample.fullRelay :=
    ⟨rfl, rfl, rfl, .cons ⟨rfl, hnode "in" .input⟩ (.cons ⟨rfl, hnode "table" .table⟩
      (.cons ⟨rfl, hnode "out" .output⟩ .nil))⟩
  obtain ⟨hread, hrun⟩ := tags_transparent [Sample.stamp] haliases hignores
  exact ⟨haliases, hignores, hretagged, hread _ _ hretagged,
    ((hrun _ _ hgraph).2 _ rfl _ _ _ _).1⟩

end DecisionFlow
