import DecisionFlow.Proofs.Alignment
import DecisionFlow.Proofs.Counterparts

set_option autoImplicit false

/-! # Graphs with other tags for the same kinds

A kind of node has a full tag and a short one. Data in which some of the tags are written in the
other way are read alike: with the same issues, or as graphs that differ in the texts of tags only,
so that every content is decoded as before. -/

namespace DecisionFlow

variable {α β γ δ : Type}

/-! ## Checks in step -/

/-- Two checks find the same issues, or give values that go together. -/
inductive Checked.Alike (R : α → β → Prop) : Checked α → Checked β → Prop where
  | ok {a : α} {b : β} : R a b → Alike R (.ok a) (.ok b)
  | bad (issues : List Issue) : Alike R (.bad issues) (.bad issues)

namespace Checked.Alike

variable {R : α → β → Prop} {S : γ → δ → Prop} {c : Checked α} {d : Checked β}

theorem refl (c : Checked α) : Alike Eq c c := by
  cases c with
  | ok a => exact .ok rfl
  | bad issues => exact .bad issues

theorem mono {R' : α → β → Prop} (h : Alike R c d) (hR : ∀ a b, R a b → R' a b) :
    Alike R' c d := by
  cases h with
  | ok hab => exact .ok (hR _ _ hab)
  | bad issues => exact .bad issues

theorem under (h : Alike R c d) (place : Place) : Alike R (c.under place) (d.under place) := by
  cases h with
  | ok hab => exact .ok hab
  | bad issues => exact .bad _

theorem map {f : α → γ} {f' : β → δ} (h : Alike R c d) (hf : ∀ a b, R a b → S (f a) (f' b)) :
    Alike S (c.map f) (d.map f') := by
  cases h with
  | ok hab => exact .ok (hf _ _ hab)
  | bad issues => exact .bad issues

theorem apply {f : Checked (α → γ)} {f' : Checked (β → δ)}
    (hf : Alike (fun k k' => ∀ a b, R a b → S (k a) (k' b)) f f') (h : Alike R c d) :
    Alike S (f.apply c) (f'.apply d) := by
  cases hf with
  | ok hk =>
    cases h with
    | ok hab => exact .ok (hk _ _ hab)
    | bad issues => exact .bad issues
  | bad issues =>
    cases h with
    | ok _ => exact .bad issues
    | bad more => exact .bad (issues ++ more)

theorem andThen {next : α → Checked γ} {next' : β → Checked δ} (h : Alike R c d)
    (hnext : ∀ a b, R a b → Alike S (next a) (next' b)) :
    Alike S (c.andThen next) (d.andThen next') := by
  cases h with
  | ok hab => exact hnext _ _ hab
  | bad issues => exact .bad issues

end Checked.Alike

/-! ## Data that differ in places -/

namespace Json

/-- Data under a key that are the same, unless it is the given key: there they are related. -/
inductive At (key : String) (R : Json → Json → Prop) : String → Json → Json → Prop where
  | same {found : String} {j : Json} : At key R found j j
  | there {j j' : Json} : R j j' → At key R key j j'

/-- Data that are the same, or objects whose members are related one by one. -/
inductive Within (R : String → Json → Json → Prop) : Json → Json → Prop where
  | same {j : Json} : Within R j j
  | members {ms ms' : Fields Json} : Fields.Rel R ms ms' → Within R (.obj ms) (.obj ms')

/-- Two tags of one kind. -/
inductive SameTag : Json → Json → Prop where
  | intro {tag tag' : String} : canonicalTag tag = canonicalTag tag' →
    SameTag (.str tag) (.str tag')

/-- Data of a node, but for the tag. -/
def RetaggedNode : Json → Json → Prop :=
  Within (At "type" SameTag)

/-- Data of a graph, but for the tags of some of its nodes. -/
def Retagged : Json → Json → Prop :=
  Within (At "nodes" (Within fun _ => RetaggedNode))

variable {key k other : String} {R : Json → Json → Prop} {ms ms' : Fields Json}

/-- Under other keys, such objects have the same members. -/
theorem get?_eq_of_at (h : Fields.Rel (At key R) ms ms') (hk : k ≠ key) :
    Fields.get? ms k = Fields.get? ms' k := by
  have hget := Fields.get?_rel h k
  generalize Fields.get? ms k = found at hget ⊢
  generalize Fields.get? ms' k = found' at hget ⊢
  cases hget with
  | none => rfl
  | some hat =>
    cases hat with
    | same => rfl
    | there => exact absurd rfl hk

theorem memberOf_eq_of_at (h : Fields.Rel (At key R) ms ms') (hk : k ≠ key) (ho : other ≠ key) :
    Check.memberOf ms k other = Check.memberOf ms' k other := by
  rw [Check.memberOf, Check.memberOf, get?_eq_of_at h hk, get?_eq_of_at h ho]

/-- Distinct keys leave the data of a node related. -/
theorem RetaggedNode.distinct {j j' : Json} (h : RetaggedNode j j') :
    RetaggedNode j.distinct j'.distinct := by
  cases h with
  | same => exact .same
  | members hms =>
    rw [Json.distinct, Json.distinct]
    refine .members (Fields.ofEntries_rel ?_)
    induction hms with
    | nil => exact .nil
    | @cons a b ms ms' hab _ ih =>
      obtain ⟨k, j⟩ := a
      obtain ⟨k', j'⟩ := b
      obtain ⟨rfl, hat⟩ : k = k' ∧ At "type" SameTag k j j' := hab
      rw [distinctMembers, distinctMembers]
      refine .cons ⟨rfl, ?_⟩ ih
      cases hat with
      | same => exact .same
      | there htag =>
        cases htag with
        | intro hcanonical => exact .there (.intro hcanonical)

end Json

/-! ## Nodes -/

/-- Two nodes that are the same but for the texts of their tags. -/
structure Node.SameButTag (n n' : Node) : Prop where
  id : n.id = n'.id
  name : n.name = n'.name
  tag : canonicalTag n.tag = canonicalTag n'.tag
  content : n.content = n'.content
  position : n.position = n'.position

theorem Node.SameButTag.refl (n : Node) : n.SameButTag n :=
  ⟨rfl, rfl, rfl, rfl, rfl⟩

namespace Node

variable {ms ms' : Fields Json}

/-- The tag under "type" says in both cases how to read the content. -/
theorem taggedContent?_eq_of_at (h : Fields.Rel (Json.At "type" Json.SameTag) ms ms') :
    taggedContent? ms = taggedContent? ms' := by
  have htype := Fields.get?_rel h "type"
  rw [taggedContent?, taggedContent?, Json.get?_eq_of_at h (by decide : "content" ≠ "type")]
  generalize Fields.get? ms "type" = found at htype ⊢
  generalize Fields.get? ms' "type" = found' at htype ⊢
  cases htype with
  | none => rfl
  | some hat =>
    cases hat with
    | same => rfl
    | there htag =>
      cases htag with
      | intro hcanonical =>
        have hcheck := Content.checkFor?_congr hcanonical
        -- Only an object is read as the tag says.
        cases Fields.get? ms' "content" with
        | none => rfl
        | some content =>
          cases content with
          | obj fields => exact congrArg (Option.map fun check => check (.obj fields)) hcheck
          | _ => rfl

/-- The tags of both are read, or neither. -/
theorem required_type_alike (h : Fields.Rel (Json.At "type" Json.SameTag) ms ms') :
    Checked.Alike (fun tag tag' => canonicalTag tag = canonicalTag tag')
      (Check.required ms "type" "type" Check.text)
      (Check.required ms' "type" "type" Check.text) := by
  have htype := Fields.get?_rel h "type"
  unfold Check.required Check.memberOf
  generalize Fields.get? ms "type" = found at htype ⊢
  generalize Fields.get? ms' "type" = found' at htype ⊢
  cases htype with
  | none => exact .bad _
  | some hat =>
    cases hat with
    | same => exact (Checked.Alike.refl _).mono fun _ _ => congrArg canonicalTag
    | there htag =>
      cases htag with
      | intro hcanonical => exact .ok hcanonical

theorem checkWith_alike (h : Fields.Rel (Json.At "type" Json.SameTag) ms ms')
    (content : Checked (Option Content)) :
    Checked.Alike SameButTag (checkWith ms content) (checkWith ms' content) := by
  have hother : ∀ key : String, key ≠ "type" →
      Check.memberOf ms key key = Check.memberOf ms' key key :=
    fun key hkey => Json.memberOf_eq_of_at h hkey hkey
  have hid : Check.required ms "id" "id" Check.text = Check.required ms' "id" "id" Check.text := by
    rw [Check.required, Check.required, hother "id" (by decide)]
  have hname : Check.optional ms "name" "name" "" Check.text =
      Check.optional ms' "name" "name" "" Check.text := by
    rw [Check.optional, Check.optional, hother "name" (by decide)]
  have hposition : Check.optional ms "position" "position" none
        (Check.orNull (Position.check .data)) =
      Check.optional ms' "position" "position" none (Check.orNull (Position.check .data)) := by
    rw [Check.optional, Check.optional, hother "position" (by decide)]
  rw [checkWith, checkWith, hid, hname, hposition]
  refine .apply (.apply (.apply (.apply (.map (.refl _) ?_) (.refl _)) (required_type_alike h))
    (.refl _)) (.refl _)
  rintro id _ rfl name _ rfl tag tag' htag content _ rfl position _ rfl
  exact ⟨rfl, rfl, htag, rfl, rfl⟩

/-- Nodes are read alike whichever of its tags stands for their kind. -/
theorem check_alike {j j' : Json} (h : Json.RetaggedNode j j') :
    Checked.Alike SameButTag (check j) (check j') := by
  have hdistinct := h.distinct
  rw [check, check]
  generalize j.distinct = i at hdistinct ⊢
  generalize j'.distinct = i' at hdistinct ⊢
  cases hdistinct with
  | same => exact (Checked.Alike.refl _).mono fun n _ hn => hn ▸ .refl n
  | members hms =>
    have h := Fields.ofEntries_rel hms
    rw [checkMembers, Check.record, Check.record]
    generalize Fields.ofEntries _ = ms at h ⊢
    generalize Fields.ofEntries _ = ms' at h ⊢
    rw [taggedContent?_eq_of_at h]
    cases taggedContent? ms' with
    | none =>
      have hcontent : Check.optional ms "content" "content" none (Check.orNull Content.check) =
          Check.optional ms' "content" "content" none (Check.orNull Content.check) := by
        rw [Check.optional, Check.optional, Json.memberOf_eq_of_at h (by decide) (by decide)]
      dsimp only
      rw [hcontent]
      exact checkWith_alike h _
    | some content =>
      refine (Checked.Alike.refl content).andThen ?_
      rintro c _ rfl
      exact checkWith_alike h _

end Node

/-! ## Graphs -/

/-- Objects with related values are read alike when such values are. -/
theorem Check.fields_alike {R : Json → Json → Prop} {S : α → β → Prop} {check : Check α}
    {check' : Check β} (hrefl : ∀ j, R j j)
    (hcheck : ∀ j j', R j j' → Checked.Alike S (check j) (check' j')) {j j' : Json}
    (h : Json.Within (fun _ => R) j j') :
    Checked.Alike (Fields.Rel fun _ => S) (fields check j) (fields check' j') := by
  have hmembers : ∀ {ms ms' : Fields Json}, Fields.Rel (fun _ => R) ms ms' → Checked.Alike
      (Fields.Rel fun _ => S) (fields check (.obj ms)) (fields check' (.obj ms')) := by
    intro ms ms' hms
    refine Checked.Alike.map (R := Fields.Rel fun _ => S) ?_ fun _ _ => Fields.ofEntries_rel
    induction hms with
    | nil => exact .ok .nil
    | @cons a b ms ms' hab _ ih =>
      obtain ⟨k, j⟩ := a
      obtain ⟨k', j'⟩ := b
      obtain ⟨rfl, hj⟩ : k = k' ∧ R j j' := hab
      rw [membersOf, membersOf]
      refine .apply (.map ((hcheck j j' hj).under _) ?_) ih
      exact fun v v' hv vs vs' hvs => .cons ⟨rfl, hv⟩ hvs
  cases h with
  | members hms => exact hmembers hms
  | same =>
    cases j with
    | obj ms => exact hmembers (List.forall₂_same.2 fun a _ => ⟨rfl, hrefl a.2⟩)
    | _ => exact .bad _

/-- The nodes of both graphs are read, or those of neither. -/
theorem Definition.nodes_alike {ms ms' : Fields Json}
    (h : Fields.Rel (Json.At "nodes" (Json.Within fun _ => Json.RetaggedNode)) ms ms') :
    Checked.Alike (Fields.Rel fun _ => Node.SameButTag)
      (Check.optional ms "nodes" "nodes" [] (Check.fields Node.check))
      (Check.optional ms' "nodes" "nodes" [] (Check.fields Node.check)) := by
  have hfields : ∀ {j j' : Json}, Json.Within (fun _ => Json.RetaggedNode) j j' →
      Checked.Alike (Fields.Rel fun _ => Node.SameButTag) (Check.fields Node.check j)
        (Check.fields Node.check j') :=
    Check.fields_alike (R := Json.RetaggedNode) (fun _ => .same) fun _ _ => Node.check_alike
  have hnodes := Fields.get?_rel h "nodes"
  unfold Check.optional Check.memberOf
  generalize Fields.get? ms "nodes" = found at hnodes ⊢
  generalize Fields.get? ms' "nodes" = found' at hnodes ⊢
  cases hnodes with
  | none => exact .ok .nil
  | some hat =>
    cases hat with
    | same => exact (hfields .same).under _
    | there hwithin => exact (hfields hwithin).under _

/-- Graphs are read alike whichever of its tags stands for the kind of a node: with the same issues
    or as graphs that differ in nothing but the texts of the tags. -/
theorem Definition.check_alike {j j' : Json} (h : j.Retagged j') :
    Checked.Alike
      (fun g g' => g.Counterparts Node.SameButTag g' ∧ g.description = g'.description)
      (Definition.check j) (Definition.check j') := by
  cases h with
  | same =>
    refine (Checked.Alike.refl _).mono ?_
    rintro g _ rfl
    exact ⟨.refl Node.SameButTag.refl g, rfl⟩
  | members hms =>
    have h := Fields.ofEntries_rel hms
    rw [check, Check.record, Check.record]
    generalize Fields.ofEntries _ = ms at h ⊢
    generalize Fields.ofEntries _ = ms' at h ⊢
    have hother : ∀ {α : Type} (key : String) (default : α) (check : Check α), key ≠ "nodes" →
        Check.optional ms key key default check = Check.optional ms' key key default check := by
      intro α key default check hkey
      rw [Check.optional, Check.optional, Json.memberOf_eq_of_at h hkey hkey]
    rw [hother "id" _ _ (by decide), hother "name" _ _ (by decide),
      hother "description" _ _ (by decide), hother "edges" _ _ (by decide)]
    refine .apply (.apply (.apply (.apply (.map (.refl _) ?_) (.refl _)) (.refl _))
      (nodes_alike h)) (.refl _)
    rintro id _ rfl name _ rfl description _ rfl nodes nodes' hnodes edges _ rfl
    exact ⟨⟨rfl, rfl, rfl, hnodes⟩, rfl⟩

end DecisionFlow
