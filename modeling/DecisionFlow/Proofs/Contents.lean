import DecisionFlow.Graph.Definition

set_option autoImplicit false

/-! # What the nodes of a graph carry

In a graph that was read, the content of a node is of the kind that its tag asks for. A node that
carries something else could not have been read: the tag has the say over an object, and anything
else than an object is no content. -/

namespace DecisionFlow

/-! ## Parts of records -/

namespace Check

variable {α : Type} {members : Fields Json} {key other : String}

/-- A member that must be there and was read is under one of its keys. -/
theorem exists_of_required {check : Check α} {a : α}
    (h : required members key other check = .ok a) :
    ∃ found j, memberOf members key other = some (found, j) ∧ check j = .ok a := by
  unfold required at h
  split at h
  · next found j hm => exact ⟨found, j, hm, Checked.under_eq_ok_iff.1 h⟩
  · exact nomatch h

theorem memberOf_self {found : String} {j : Json}
    (h : memberOf members key key = some (found, j)) : Fields.get? members key = some j := by
  unfold memberOf at h
  cases hget : Fields.get? members key with
  | none => simp [hget] at h
  | some i =>
    rw [hget, Option.map_some, Option.some_or, Option.some.injEq, Prod.mk.injEq] at h
    rw [h.2]

theorem text_eq_ok_iff {j : Json} {s : String} : text j = .ok s ↔ j = .str s := by
  cases j <;> simp [text, Checked.problem]

/-- What holds of all that a check reads holds of the values of an object that it reads. -/
theorem forall_mem_of_fields {value : Check α} {p : α → Prop}
    (hp : ∀ j a, value j = .ok a → p a) {j : Json} {fs : Fields α} (h : fields value j = .ok fs) :
    ∀ entry ∈ fs, p entry.2 := by
  cases j with
  | obj members =>
    obtain ⟨entries, hentries, rfl⟩ := Checked.map_eq_ok_iff.1 h
    refine Fields.forall_mem_ofEntries ?_
    -- The entries are read one by one, whatever becomes of equal keys afterwards.
    clear h
    induction members generalizing entries with
    | nil =>
      obtain rfl := Checked.ok.inj hentries
      simp
    | cons member members ih =>
      obtain ⟨g, rest, hg, hrest, rfl⟩ := Checked.apply_eq_ok_iff.1 hentries
      obtain ⟨a, ha, rfl⟩ := Checked.map_eq_ok_iff.1 hg
      rw [List.forall_mem_cons]
      exact ⟨hp _ a (Checked.under_eq_ok_iff.1 ha), ih rest hrest⟩
  | _ => exact nomatch h

end Check

/-! ## Contents -/

/-- A content is of the kind that a tag asks for. -/
structure Content.Fits (tag : String) (c : Content) : Prop where
  expression : NodeKind.ofTag? tag = some .expression → ∃ a, c = .assignments a
  table : NodeKind.ofTag? tag = some .table → ∃ t, c = .table t
  switch : NodeKind.ofTag? tag = some .switch → ∃ s, c = .switch s

/-- Whatever a node carries is of the kind that its tag asks for. -/
def Node.Fits (n : Node) : Prop :=
  ∀ c, n.content = some c → c.Fits n.tag

/-- Every node of a graph carries what its tag asks for. -/
def Definition.Fits (g : Definition) : Prop :=
  ∀ station ∈ g.nodes, station.2.Fits

/-- A content that is read as its tag says fits the tag. -/
theorem Content.fits_of_checkFor? {tag : String} {check : Check Content} {j : Json} {c : Content}
    (hcheck : Content.checkFor? tag = some check) (h : check j = .ok c) : c.Fits tag := by
  unfold Content.checkFor? at hcheck
  split at hcheck
  · next hkind =>
    obtain rfl := Option.some.inj hcheck
    obtain ⟨a, -, rfl⟩ := Checked.map_eq_ok_iff.1 h
    exact ⟨fun _ => ⟨a, rfl⟩, by simp [hkind], by simp [hkind]⟩
  · next hkind =>
    obtain rfl := Option.some.inj hcheck
    obtain ⟨t, -, rfl⟩ := Checked.map_eq_ok_iff.1 h
    exact ⟨by simp [hkind], fun _ => ⟨t, rfl⟩, by simp [hkind]⟩
  · next hkind =>
    obtain rfl := Option.some.inj hcheck
    obtain ⟨s, -, rfl⟩ := Checked.map_eq_ok_iff.1 h
    exact ⟨by simp [hkind], by simp [hkind], fun _ => ⟨s, rfl⟩⟩
  · exact nomatch hcheck

/-- Every content fits a tag that does not say how contents are read. -/
theorem Content.fits_of_checkFor?_eq_none {tag : String} (h : Content.checkFor? tag = none)
    (c : Content) : c.Fits tag := by
  unfold Content.checkFor? at h
  split at h
  · exact nomatch h
  · exact nomatch h
  · exact nomatch h
  · next hexpression htable hswitch =>
    exact ⟨fun hk => absurd hk hexpression, fun hk => absurd hk htable,
      fun hk => absurd hk hswitch⟩

/-! ## Nodes -/

/-- A node that is read has its tag from the member that says its type, and its content as it was
    checked. -/
theorem Node.of_checkWith {members : Fields Json} {content : Checked (Option Content)} {n : Node}
    (h : Node.checkWith members content = .ok n) :
    Fields.get? members "type" = some (.str n.tag) ∧ content = .ok n.content := by
  -- The members are checked one after the other, so the check of the tag stands inside.
  simp only [Node.checkWith, Checked.apply_eq_ok_iff, Checked.map_eq_ok_iff] at h
  obtain ⟨_, position, ⟨_, c, ⟨_, tag, ⟨_, name, ⟨id, _, rfl⟩, _, rfl⟩, htag, rfl⟩, hc, rfl⟩, _,
    rfl⟩ := h
  obtain ⟨found, j, hm, hj⟩ := Check.exists_of_required htag
  obtain rfl := Check.text_eq_ok_iff.1 hj
  exact ⟨Check.memberOf_self hm, hc⟩

/-- How an object is read as the content of a node with a tag: as the tag says or, when it says
    nothing, as it stands. -/
def Content.readFor (tag : String) (fields : Fields Json) : Checked Content :=
  match Content.checkFor? tag with
  | some check => check (.obj fields)
  | none => .ok (.raw fields)

theorem Content.fits_of_readFor {tag : String} {fields : Fields Json} {c : Content}
    (h : Content.readFor tag fields = .ok c) : c.Fits tag := by
  unfold Content.readFor at h
  split at h
  · next check hcheck => exact Content.fits_of_checkFor? hcheck h
  · next hnone => exact Content.fits_of_checkFor?_eq_none hnone c

/-- Whatever becomes of its content, a node that is read has its tag from that member. -/
theorem Node.type_of_checkMembers {members : Fields Json} {n : Node}
    (hkeys : (Fields.keys members).Nodup) (h : Node.checkMembers (.obj members) = .ok n) :
    Fields.get? members "type" = some (.str n.tag) := by
  rw [Node.checkMembers, Check.record, Fields.ofEntries_of_nodup hkeys] at h
  cases htagged : Node.taggedContent? members with
  | none =>
    simp only [htagged] at h
    exact (Node.of_checkWith h).1
  | some content =>
    simp only [htagged] at h
    obtain ⟨c, _, hwith⟩ := Checked.andThen_eq_ok_iff.1 h
    exact (Node.of_checkWith hwith).1

/-- A content that is an object is read for the tag, before the other members. -/
theorem Node.checkMembers_of_obj {members fields : Fields Json} {tag : String}
    (hkeys : (Fields.keys members).Nodup)
    (htype : Fields.get? members "type" = some (.str tag))
    (hcontent : Fields.get? members "content" = some (.obj fields)) :
    Node.checkMembers (.obj members) =
      (Content.readFor tag fields).andThen fun c => Node.checkWith members (.ok (some c)) := by
  have htagged : Node.taggedContent? members =
      (Content.checkFor? tag).map fun check => check (.obj fields) := by
    rw [Node.taggedContent?, htype, hcontent]
  have hkept : Check.optional members "content" "content" none (Check.orNull Content.check) =
      .ok (some (.raw fields)) := by
    simp [Check.optional, Check.memberOf, hcontent, Check.orNull, Content.check]
  rw [Node.checkMembers, Check.record, Fields.ofEntries_of_nodup hkeys, htagged, Content.readFor]
  cases Content.checkFor? tag with
  | none => exact congrArg (Node.checkWith members) hkept
  | some check => rfl

/-- Without an object as its content, a node has none. -/
theorem Node.checkMembers_of_not_obj {members : Fields Json}
    (hkeys : (Fields.keys members).Nodup)
    (hcontent : ∀ fields, Fields.get? members "content" ≠ some (.obj fields)) :
    Node.checkMembers (.obj members) =
      Node.checkWith members
        (Check.optional members "content" "content" none (Check.orNull Content.check)) := by
  have htagged : Node.taggedContent? members = none := by
    unfold Node.taggedContent?
    split
    · next hget => exact absurd hget (hcontent _)
    · rfl
  rw [Node.checkMembers, Check.record, Fields.ofEntries_of_nodup hkeys, htagged]

/-- What becomes of a content that is no object. -/
theorem Content.eq_none_of_optional {members : Fields Json} {content : Option Content}
    (hcontent : ∀ fields, Fields.get? members "content" ≠ some (.obj fields))
    (h : Check.optional members "content" "content" none (Check.orNull Content.check) =
      .ok content) : content = none := by
  obtain hdefault | ⟨found, j, hm, hj⟩ := Check.exists_of_optional h
  · exact hdefault
  · have hget := Check.memberOf_self hm
    cases j with
    | null => exact (Checked.ok.inj hj).symm
    | obj fields => exact absurd hget (hcontent fields)
    | _ => exact nomatch hj

/-- Where the tag and the content of a node that was read come from: the content is an object that
    was read for the tag, and without an object there is none. -/
theorem Node.content_of_check {j : Json} {n : Node} (h : Node.check j = .ok n) :
    j.distinct.member? "type" = some (.str n.tag) ∧
    ((∃ fields c, j.distinct.member? "content" = some (.obj fields) ∧
        Content.readFor n.tag fields = .ok c ∧ n.content = some c) ∨
      (∀ fields, j.distinct.member? "content" ≠ some (.obj fields)) ∧ n.content = none) := by
  have hdistinct := Json.wellFormed_distinct j
  rw [Node.check] at h
  cases hj : j.distinct with
  | obj members =>
    rw [hj] at h hdistinct
    rw [Json.WellFormed] at hdistinct
    simp only [Json.member?]
    by_cases hobj : ∃ fields, Fields.get? members "content" = some (.obj fields)
    · obtain ⟨fields, hget⟩ := hobj
      have htype := Node.type_of_checkMembers hdistinct.1 h
      rw [Node.checkMembers_of_obj hdistinct.1 htype hget] at h
      obtain ⟨c, hread, hwith⟩ := Checked.andThen_eq_ok_iff.1 h
      obtain ⟨_, hcontent⟩ := Node.of_checkWith hwith
      exact ⟨htype, Or.inl ⟨fields, c, hget, hread, (Checked.ok.inj hcontent).symm⟩⟩
    · have hother : ∀ fields, Fields.get? members "content" ≠ some (.obj fields) :=
        fun fields hget => hobj ⟨fields, hget⟩
      rw [Node.checkMembers_of_not_obj hdistinct.1 hother] at h
      obtain ⟨htype, hcontent⟩ := Node.of_checkWith h
      exact ⟨htype, Or.inr ⟨hother, Content.eq_none_of_optional hother hcontent⟩⟩
  | _ =>
    rw [hj] at h
    cases h

/-- A node that was read carries what its tag asks for. -/
theorem Node.fits_of_check {j : Json} {n : Node} (h : Node.check j = .ok n) : n.Fits := by
  intro c hc
  obtain ⟨fields, c', _, hread, hcontent⟩ | ⟨_, hnone⟩ := (Node.content_of_check h).2
  · obtain rfl := Option.some.inj (hc.symm.trans hcontent)
    exact Content.fits_of_readFor hread
  · exact nomatch hc.symm.trans hnone

/-! ## Graphs -/

/-- In a graph that was read every node carries what its tag asks for. -/
theorem Definition.fits_of_check {j : Json} {g : Definition} (h : Definition.check j = .ok g) :
    g.Fits := by
  obtain hnone | ⟨nodes, hnodes⟩ := Definition.nodes_of_check h
  · intro station hs
    rw [hnone] at hs
    exact nomatch hs
  · exact Check.forall_mem_of_fields (fun _ _ => Node.fits_of_check) hnodes

end DecisionFlow
