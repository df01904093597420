import DecisionFlow.Graph.Options
import DecisionFlow.Proofs.Contents

set_option autoImplicit false

/-! # Reading what was written

A record is read from data in many spellings: members under either of their keys, scalars of other
kinds, members left out or beside the point. It is written in one spelling. What is read has a form
of its own (distinct keys, contents that the tags ask for), and a record of that form is read from
what is written of it as it was. So reading what was written of a record that was read gives the
record back, and writing it again gives the same datum. -/

namespace DecisionFlow

/-! ## Parts of written records -/

namespace Check

variable {α : Type} {members : Fields Json} {key other : String} {check : Check α}

/-- An object with distinct keys is read as it stands. -/
theorem record_of_nodup {read : Fields Json → Checked α} (h : (Fields.keys members).Nodup) :
    record read (.obj members) = read members := by
  rw [record, Fields.ofEntries_of_nodup h]

/-- A member is read from its first key when it is there. -/
theorem optional_of_get? (key : String) {j : Json} {default a : α}
    (hget : Fields.get? members key = some j) (hj : check j = .ok a) :
    optional members key other default check = .ok a := by
  simp [optional, memberOf, hget, hj]

theorem any_of_wellFormed {j : Json} (h : j.WellFormed) : any j = .ok j := by
  rw [any, Json.distinct_of_wellFormed h]

theorem wellFormed_of_any {j k : Json} (h : any j = .ok k) : k.WellFormed := by
  obtain rfl := Checked.ok.inj h
  exact Json.wellFormed_distinct j

theorem itemsFrom_map {item : Check α} {write : α → Json} {as : List α}
    (h : ∀ a ∈ as, item (write a) = .ok a) (i : Nat) :
    itemsFrom item i (as.map write) = .ok as := by
  induction as generalizing i with
  | nil => rfl
  | cons a as ih =>
    rw [List.forall_mem_cons] at h
    simp [itemsFrom, h.1, ih h.2]

/-- A list is read back when its items are. -/
theorem list_map {item : Check α} {write : α → Json} {as : List α}
    (h : ∀ a ∈ as, item (write a) = .ok a) : list item (.arr (as.map write)) = .ok as :=
  itemsFrom_map h 0

theorem membersOf_mapValues {value : Check α} {write : α → Json} {fs : Fields α}
    (h : ∀ entry ∈ fs, value (write entry.2) = .ok entry.2) :
    membersOf value (Fields.mapValues write fs) = .ok fs := by
  induction fs with
  | nil => rfl
  | cons entry fs ih =>
    rw [List.forall_mem_cons] at h
    rw [Fields.mapValues] at ih
    simp [Fields.mapValues, membersOf, h.1, ih h.2]

/-- An object with free keys is read back when its values are, and its keys are distinct. -/
theorem fields_mapValues {value : Check α} {write : α → Json} {fs : Fields α}
    (hkeys : (Fields.keys fs).Nodup) (h : ∀ entry ∈ fs, value (write entry.2) = .ok entry.2) :
    fields value (.obj (Fields.mapValues write fs)) = .ok fs := by
  rw [fields, membersOf_mapValues h, Checked.map_ok, Fields.ofEntries_of_nodup hkeys]

/-- What may be null is read back when what is there is, and is not written as null. -/
theorem orNull_ofOption {write : α → Json} {o : Option α}
    (h : ∀ a, o = some a → write a ≠ .null ∧ check (write a) = .ok a) :
    orNull check (Json.ofOption write o) = .ok o := by
  cases o with
  | none => rfl
  | some a =>
    obtain ⟨hnull, hread⟩ := h a rfl
    rw [Json.ofOption]
    unfold orNull
    split
    · next hw => exact absurd hw hnull
    · rw [hread, Checked.map_ok]

/-- What holds of all that a check reads holds of the items of a list that it reads. -/
theorem forall_mem_of_list {item : Check α} {p : α → Prop} (hp : ∀ j a, item j = .ok a → p a)
    {j : Json} {as : List α} (h : list item j = .ok as) : ∀ a ∈ as, p a := by
  have hitems : ∀ (items : List Json) (i : Nat) (as : List α),
      itemsFrom item i items = .ok as → ∀ a ∈ as, p a := by
    intro items
    induction items with
    | nil =>
      intro i as h
      obtain rfl := Checked.ok.inj h
      simp
    | cons j items ih =>
      intro i as h
      obtain ⟨g, rest, hg, hrest, rfl⟩ := Checked.apply_eq_ok_iff.1 h
      obtain ⟨a, ha, rfl⟩ := Checked.map_eq_ok_iff.1 hg
      rw [List.forall_mem_cons]
      exact ⟨hp _ a (Checked.under_eq_ok_iff.1 ha), ih (i + 1) rest hrest⟩
  cases j with
  | arr items => exact hitems items 0 as h
  | _ => exact nomatch h

/-- A part with a default is the default, or has what all that is read has. -/
theorem of_optional {p : α → Prop} {default a : α} (hdefault : p default)
    (hp : ∀ j a, check j = .ok a → p a) (h : optional members key other default check = .ok a) :
    p a := by
  obtain rfl | ⟨j, hj⟩ := eq_default_or_of_optional h
  · exact hdefault
  · exact hp j a hj

end Check

namespace Json

variable {α : Type} {write : α → Json}

theorem wellFormedItems_map {as : List α} (h : ∀ a ∈ as, (write a).WellFormed) :
    WellFormedItems (as.map write) := by
  rw [wellFormedItems_iff, List.forall_mem_map]
  exact h

theorem wellFormed_obj_mapValues {fs : Fields α} (hkeys : (Fields.keys fs).Nodup)
    (h : ∀ entry ∈ fs, (write entry.2).WellFormed) :
    (Json.obj (Fields.mapValues write fs)).WellFormed := by
  rw [WellFormed, Fields.keys_mapValues, wellFormedMembers_iff, Fields.mapValues,
    List.forall_mem_map]
  exact ⟨hkeys, h⟩

end Json

/-! ## Records without conditions -/

theorem Column.check_toJson (c : Column) : Column.check c.toJson = .ok c := rfl

theorem Branch.check_toJson (origin : Origin) (b : Branch) :
    Branch.check origin b.toJson = .ok b := rfl

theorem Position.check_toJson (origin : Origin) (p : Position) :
    Position.check origin p.toJson = .ok p := rfl

theorem Edge.check_toJson (e : Edge) : Edge.check e.toJson = .ok e := rfl

theorem Switch.check_toJson (origin : Origin) (s : Switch) :
    Switch.check origin s.toJson = .ok s := by
  have hbranches : Check.list (Branch.check origin) (.arr (s.branches.map Branch.toJson)) =
      .ok s.branches :=
    Check.list_map fun b _ => b.check_toJson origin
  rw [Switch.check, Switch.toJson, Check.record_of_nodup (by simp [Fields.keys]),
    Check.optional_of_get? "statements" rfl hbranches]
  rfl

/-! ## Expressions -/

/-- Every expression has a field of its own. -/
def Assignments.Readable (a : Assignments) : Prop :=
  (Fields.keys a.expressions).Nodup

theorem Assignments.readable_of_check {j : Json} {a : Assignments}
    (h : Assignments.check j = .ok a) : a.Readable := by
  cases j with
  | obj members =>
    obtain ⟨expressions, hexpressions, rfl⟩ := Checked.map_eq_ok_iff.1 h
    exact Check.of_optional (p := fun fs => (Fields.keys fs).Nodup) (by simp [Fields.keys])
      (fun _ _ => Check.nodup_keys_of_fields) hexpressions
  | _ => cases h

theorem Assignments.check_toJson {a : Assignments} (h : a.Readable) :
    Assignments.check a.toJson = .ok a := by
  have hexpressions : Check.fields Check.text (.obj (Fields.mapValues .str a.expressions)) =
      .ok a.expressions :=
    Check.fields_mapValues h fun _ _ => rfl
  rw [Assignments.check, Assignments.toJson, Check.record_of_nodup (by simp [Fields.keys]),
    Check.optional_of_get? "expressions" rfl hexpressions]
  rfl

/-! ## Decision tables -/

/-- In every cell, objects have distinct keys. -/
def Table.Readable (t : Table) : Prop :=
  ∀ row ∈ t.rules, ∀ cell ∈ row, cell.WellFormed

theorem Table.readable_of_check {j : Json} {t : Table} (h : Table.check j = .ok t) :
    t.Readable := by
  cases j with
  | obj members =>
    simp only [Table.check, Check.record, Checked.apply_eq_ok_iff, Checked.map_eq_ok_iff] at h
    obtain ⟨_, rules, ⟨_, outputs, ⟨_, inputs, ⟨policy, _, rfl⟩, _, rfl⟩, _, rfl⟩, hrules, rfl⟩ := h
    exact Check.of_optional (p := fun rules => ∀ row ∈ rules, ∀ cell ∈ row, Json.WellFormed cell)
      (by simp)
      (fun _ _ => Check.forall_mem_of_list fun _ _ =>
        Check.forall_mem_of_list fun _ _ => Check.wellFormed_of_any)
      hrules
  | _ => cases h

theorem Table.check_toJson {t : Table} (h : t.Readable) : Table.check t.toJson = .ok t := by
  have hcolumns : ∀ columns : List Column,
      Check.list Column.check (.arr (columns.map Column.toJson)) = .ok columns :=
    fun _ => Check.list_map fun c _ => c.check_toJson
  have hrow : ∀ row ∈ t.rules, Check.list Check.any (.arr row) = .ok row := by
    intro row hrow
    have hcells : Check.list Check.any (.arr (row.map id)) = .ok row :=
      Check.list_map fun cell hcell => Check.any_of_wellFormed (h row hrow cell hcell)
    rwa [List.map_id] at hcells
  have hrules : Check.list (Check.list Check.any) (.arr (t.rules.map .arr)) = .ok t.rules :=
    Check.list_map hrow
  rw [Table.check, Table.toJson, Check.record_of_nodup (by simp [Fields.keys]),
    Check.optional_of_get? "inputs" rfl (hcolumns t.inputs),
    Check.optional_of_get? "outputs" rfl (hcolumns t.outputs),
    Check.optional_of_get? "rules" rfl hrules]
  rfl

/-! ## Options and visits -/

theorem Options.positive_of_check {origin : Origin} {j : Json} {o : Options}
    (h : Options.check origin j = .ok o) : 0 < o.maxExecutionTimeMs := by
  cases j with
  | obj members =>
    simp only [Options.check, Check.record, Checked.apply_eq_ok_iff, Checked.map_eq_ok_iff] at h
    obtain ⟨_, budget, ⟨_, performance, ⟨trace, _, rfl⟩, _, rfl⟩, hbudget, rfl⟩ := h
    refine Check.of_optional (p := (0 < ·)) (by decide) (fun j n hn => ?_) hbudget
    obtain ⟨m, _, hm⟩ := Checked.andThen_eq_ok_iff.1 hn
    split at hm
    · next hpositive => exact Checked.ok.inj hm ▸ hpositive
    · cases hm
  | _ => cases h

theorem Options.check_toJson {o : Options} (h : 0 < o.maxExecutionTimeMs) (origin : Origin) :
    Options.check origin o.toJson = .ok o := by
  have hbudget : Check.positiveInt (.int o.maxExecutionTimeMs) = .ok o.maxExecutionTimeMs :=
    if_pos h
  rw [Options.check, Options.toJson, Check.record_of_nodup (by simp [Fields.keys]),
    Check.optional_of_get? "maxExecutionTimeMs" rfl hbudget]
  rfl

/-- In what a visit got and gave, objects have distinct keys. -/
def Visit.Readable (v : Visit) : Prop :=
  v.input.WellFormed ∧ v.output.WellFormed

theorem Visit.readable_of_check {origin : Origin} {j : Json} {v : Visit}
    (h : Visit.check origin j = .ok v) : v.Readable := by
  cases j with
  | obj members =>
    simp only [Visit.check, Check.record, Checked.apply_eq_ok_iff, Checked.map_eq_ok_iff] at h
    obtain ⟨_, time, ⟨_, output, ⟨_, input, ⟨_, tag, ⟨_, name, ⟨id, _, rfl⟩, _, rfl⟩, _, rfl⟩,
      hinput, rfl⟩, houtput, rfl⟩, _, rfl⟩ := h
    have hread : ∀ {key : String} {k : Json},
        Check.optional (Fields.ofEntries members) key key .null Check.any = .ok k → k.WellFormed :=
      fun h => Check.of_optional (p := Json.WellFormed) (by simp [Json.WellFormed])
        (fun _ _ => Check.wellFormed_of_any) h
    exact ⟨hread hinput, hread houtput⟩
  | _ => cases h

theorem Visit.check_toJson {v : Visit} (h : v.Readable) (origin : Origin) :
    Visit.check origin v.toJson = .ok v := by
  rw [Visit.check, Visit.toJson, Check.record_of_nodup (by simp [Fields.keys]),
    Check.optional_of_get? "input" rfl (Check.any_of_wellFormed h.1),
    Check.optional_of_get? "output" rfl (Check.any_of_wellFormed h.2)]
  rfl

/-! ## Contents -/

/-- A content of the form in which an object is read as the content of a node with the tag. -/
def Content.Readable (tag : String) : Content → Prop
  | .raw fields => Content.checkFor? tag = none ∧ (Json.obj fields).WellFormed
  | .assignments a => NodeKind.ofTag? tag = some .expression ∧ a.Readable
  | .table t => NodeKind.ofTag? tag = some .table ∧ t.Readable
  | .switch _ => NodeKind.ofTag? tag = some .switch

theorem Content.readable_of_checkFor? {tag : String} {check : Check Content} {j : Json}
    {c : Content} (hcheck : Content.checkFor? tag = some check) (h : check j = .ok c) :
    c.Readable tag := by
  unfold Content.checkFor? at hcheck
  split at hcheck
  · next hkind =>
    obtain rfl := Option.some.inj hcheck
    obtain ⟨a, ha, rfl⟩ := Checked.map_eq_ok_iff.1 h
    exact ⟨hkind, Assignments.readable_of_check ha⟩
  · next hkind =>
    obtain rfl := Option.some.inj hcheck
    obtain ⟨t, ht, rfl⟩ := Checked.map_eq_ok_iff.1 h
    exact ⟨hkind, Table.readable_of_check ht⟩
  · next hkind =>
    obtain rfl := Option.some.inj hcheck
    obtain ⟨s, -, rfl⟩ := Checked.map_eq_ok_iff.1 h
    exact hkind
  · exact nomatch hcheck

theorem Content.readable_of_readFor {tag : String} {fields : Fields Json} {c : Content}
    (hfields : (Json.obj fields).WellFormed) (h : Content.readFor tag fields = .ok c) :
    c.Readable tag := by
  unfold Content.readFor at h
  split at h
  · next check hcheck => exact Content.readable_of_checkFor? hcheck h
  · next hnone =>
    obtain rfl := Checked.ok.inj h
    exact ⟨hnone, hfields⟩

/-- A content is written as an object. What was written is read for its tag as it was. -/
theorem Content.readFor_toJson {tag : String} {c : Content} (h : c.Readable tag) :
    ∃ fields, c.toJson = .obj fields ∧ Content.readFor tag fields = .ok c := by
  cases c with
  | raw fields => exact ⟨fields, rfl, by rw [readFor, h.1]⟩
  | assignments a =>
    refine ⟨_, rfl, ?_⟩
    have hread := Assignments.check_toJson h.2
    rw [Assignments.toJson] at hread
    simp only [readFor, checkFor?, h.1, hread, Checked.map_ok]
  | table t =>
    refine ⟨_, rfl, ?_⟩
    have hread := Table.check_toJson h.2
    rw [Table.toJson] at hread
    simp only [readFor, checkFor?, h.1, hread, Checked.map_ok]
  | switch s =>
    refine ⟨_, rfl, ?_⟩
    have hkind : NodeKind.ofTag? tag = some .switch := h
    have hread := Switch.check_toJson .data s
    rw [Switch.toJson] at hread
    simp only [readFor, checkFor?, hkind, hread, Checked.map_ok]

/-- Where the tag says how contents are read, it says it of what was written. -/
theorem Content.read_toJson {tag : String} {check : Check Content} {c : Content}
    (hcheck : Content.checkFor? tag = some check) (h : c.Readable tag) :
    check c.toJson = .ok c := by
  obtain ⟨fields, hfields, hread⟩ := Content.readFor_toJson h
  simpa [Content.readFor, hcheck, hfields] using hread

/-- In what is written of a content, objects have distinct keys. -/
theorem Content.wellFormed_toJson {tag : String} {c : Content} (h : c.Readable tag) :
    c.toJson.WellFormed := by
  cases c with
  | raw fields => exact h.2
  | assignments a =>
    have hexpressions : (Json.obj (Fields.mapValues .str a.expressions)).WellFormed :=
      Json.wellFormed_obj_mapValues h.2 (by simp [Json.WellFormed])
    simp [toJson, Assignments.toJson, Json.WellFormed, Json.WellFormedMembers, Fields.keys]
      at hexpressions ⊢
    exact hexpressions
  | table t =>
    have hcolumns : ∀ columns : List Column,
        Json.WellFormedItems (columns.map Column.toJson) := fun columns =>
      Json.wellFormedItems_map fun c _ => by
        simp [Column.toJson, Json.WellFormed, Json.WellFormedMembers, Fields.keys]
    have hrules : Json.WellFormedItems (t.rules.map .arr) :=
      Json.wellFormedItems_map fun row hrow => by
        rw [Json.WellFormed, Json.wellFormedItems_iff]
        exact h.2 row hrow
    simp [toJson, Table.toJson, Json.WellFormed, Json.WellFormedMembers, Fields.keys, hcolumns,
      hrules]
  | switch s =>
    have hbranches : Json.WellFormedItems (s.branches.map Branch.toJson) :=
      Json.wellFormedItems_map fun b _ => by
        simp [Branch.toJson, Json.WellFormed, Json.WellFormedMembers, Fields.keys]
    simp [toJson, Switch.toJson, Json.WellFormed, Json.WellFormedMembers, Fields.keys, hbranches]

/-! ## Nodes -/

/-- A node whose content has the form in which it is read. -/
def Node.Readable (n : Node) : Prop :=
  ∀ c, n.content = some c → c.Readable n.tag

theorem Node.readable_of_check {j : Json} {n : Node} (h : Node.check j = .ok n) : n.Readable := by
  intro c hc
  obtain ⟨fields, c', hget, hread, hcontent⟩ | ⟨_, hnone⟩ := (Node.content_of_check h).2
  · obtain rfl := Option.some.inj (hc.symm.trans hcontent)
    exact Content.readable_of_readFor (Json.wellFormed_of_member? (Json.wellFormed_distinct j) hget)
      hread
  · exact nomatch hc.symm.trans hnone

theorem Node.wellFormed_toJson {n : Node} (h : n.Readable) : n.toJson.WellFormed := by
  have hcontent : (Json.ofOption Content.toJson n.content).WellFormed := by
    cases hc : n.content with
    | none => simp [Json.ofOption, Json.WellFormed]
    | some c => exact Content.wellFormed_toJson (h c hc)
  have hposition : (Json.ofOption Position.toJson n.position).WellFormed := by
    cases n.position <;>
      simp [Json.ofOption, Position.toJson, Json.WellFormed, Json.WellFormedMembers, Fields.keys]
  simp [toJson, Json.WellFormed, Json.WellFormedMembers, Fields.keys, hcontent, hposition]

/-- The members that are written of a node make up the node with its content. -/
theorem Node.checkWith_toJson {n : Node} {members : Fields Json} (h : n.toJson = .obj members) :
    Node.checkWith members (.ok n.content) = .ok n := by
  obtain rfl := Json.obj.inj h
  have hposition : Check.orNull (Position.check .data) (Json.ofOption Position.toJson n.position) =
      .ok n.position :=
    Check.orNull_ofOption fun p _ => ⟨by simp [Position.toJson], p.check_toJson .data⟩
  rw [Node.checkWith, Check.optional_of_get? "position" rfl hposition]
  rfl

theorem Node.check_toJson {n : Node} (h : n.Readable) : Node.check n.toJson = .ok n := by
  have hdistinct := Node.wellFormed_toJson h
  obtain ⟨members, hmembers⟩ : ∃ members, n.toJson = .obj members := ⟨_, rfl⟩
  have hwith := Node.checkWith_toJson hmembers
  have hmember : ∀ key j, n.toJson.member? key = some j → Fields.get? members key = some j := by
    rw [hmembers]
    exact fun _ _ hj => hj
  have hcontent := hmember "content" _ rfl
  rw [Node.check, Json.distinct_of_wellFormed hdistinct, hmembers]
  rw [hmembers, Json.WellFormed] at hdistinct
  cases hc : n.content with
  | none =>
    rw [hc] at hwith hcontent
    have hnone : Check.optional members "content" "content" none (Check.orNull Content.check) =
        .ok none :=
      Check.optional_of_get? "content" hcontent rfl
    rw [Node.checkMembers_of_not_obj hdistinct.1 (by simp [hcontent, Json.ofOption]), hnone, hwith]
  | some c =>
    obtain ⟨fields, hfields, hread⟩ := Content.readFor_toJson (h c hc)
    rw [hc, Json.ofOption, hfields] at hcontent
    rw [Node.checkMembers_of_obj hdistinct.1 (hmember "type" _ rfl) hcontent, hread, ← hwith, hc]
    rfl

/-! ## Graphs -/

/-- Every key is there once, and every node has the form in which it is read. -/
structure Definition.Readable (g : Definition) : Prop where
  /-- The keys of the nodes are distinct. -/
  keys : (Fields.keys g.nodes).Nodup
  /-- The nodes have the form in which they are read. -/
  nodes : ∀ station ∈ g.nodes, station.2.Readable

theorem Definition.readable_of_check {j : Json} {g : Definition} (h : Definition.check j = .ok g) :
    g.Readable := by
  obtain hnone | ⟨nodes, hnodes⟩ := Definition.nodes_of_check h
  · constructor <;> simp [hnone, Fields.keys]
  · exact ⟨Check.nodup_keys_of_fields hnodes,
      Check.forall_mem_of_fields (fun _ _ => Node.readable_of_check) hnodes⟩

theorem Definition.check_toJson {g : Definition} (h : g.Readable) :
    Definition.check g.toJson = .ok g := by
  have hdescription : Check.orNull Check.text (Json.ofOption .str g.description) =
      .ok g.description :=
    Check.orNull_ofOption fun _ _ => ⟨by simp, rfl⟩
  have hnodes : Check.fields Node.check (.obj (Fields.mapValues Node.toJson g.nodes)) =
      .ok g.nodes :=
    Check.fields_mapValues h.keys fun station hstation =>
      Node.check_toJson (h.nodes station hstation)
  have hedges : Check.list Edge.check (.arr (g.edges.map Edge.toJson)) = .ok g.edges :=
    Check.list_map fun e _ => e.check_toJson
  rw [Definition.check, Definition.toJson, Check.record_of_nodup (by simp [Fields.keys]),
    Check.optional_of_get? "description" rfl hdescription,
    Check.optional_of_get? "nodes" rfl hnodes,
    Check.optional_of_get? "edges" rfl hedges]
  rfl

/-! ## All records -/

/-- What one check reads, another one reads as it was from what is written of it. -/
def Check.Rereads {α : Type} (first again : Check α) (write : α → Json) : Prop :=
  ∀ j a, first j = .ok a → again (write a) = .ok a

theorem Content.Readable.congr {tag tag' : String} (htag : canonicalTag tag = canonicalTag tag')
    {c : Content} (h : c.Readable tag) : c.Readable tag' := by
  cases c <;> simp only [Readable, NodeKind.ofTag?_congr htag, Content.checkFor?_congr htag] at h ⊢
  all_goals exact h

/-- Every record that was read, from data or from a document, is read as it was from what is written
    of it, as data or as a document. For nodes this goes through the contents: what is written of a
    content is read as the same content by either tag of the kind of its node, and where the tag
    does not say how contents are read, an object is kept and written as it stands. -/
theorem records_reread :
    (∀ origin origin' : Origin,
      Check.Rereads Assignments.check Assignments.check Assignments.toJson ∧
      Check.Rereads Column.check Column.check Column.toJson ∧
      Check.Rereads Table.check Table.check Table.toJson ∧
      Check.Rereads (Branch.check origin) (Branch.check origin') Branch.toJson ∧
      Check.Rereads (Switch.check origin) (Switch.check origin') Switch.toJson ∧
      Check.Rereads (Position.check origin) (Position.check origin') Position.toJson ∧
      Check.Rereads Node.check Node.check Node.toJson ∧
      Check.Rereads Edge.check Edge.check Edge.toJson ∧
      Check.Rereads Definition.check Definition.check Definition.toJson ∧
      Check.Rereads (Options.check origin) (Options.check origin') Options.toJson ∧
      Check.Rereads (Visit.check origin) (Visit.check origin') Visit.toJson) ∧
    ∀ j n, Node.check j = .ok n →
      (∀ tag check c, canonicalTag tag = canonicalTag n.tag → Content.checkFor? tag = some check →
        n.content = some c → check c.toJson = .ok c) ∧
      (∀ fields, Content.checkFor? n.tag = none →
        j.distinct.member? "content" = some (.obj fields) →
        n.content = some (.raw fields) ∧ n.toJson.member? "content" = some (.obj fields)) := by
  constructor
  · intro origin origin'
    exact ⟨fun _ _ h => Assignments.check_toJson (Assignments.readable_of_check h),
      fun _ c _ => c.check_toJson,
      fun _ _ h => Table.check_toJson (Table.readable_of_check h),
      fun _ b _ => b.check_toJson origin',
      fun _ s _ => s.check_toJson origin',
      fun _ p _ => p.check_toJson origin',
      fun _ _ h => Node.check_toJson (Node.readable_of_check h),
      fun _ e _ => e.check_toJson,
      fun _ _ h => Definition.check_toJson (Definition.readable_of_check h),
      fun _ _ h => Options.check_toJson (Options.positive_of_check h) origin',
      fun _ _ h => Visit.check_toJson (Visit.readable_of_check h) origin'⟩
  · intro j n h
    constructor
    · intro tag check c htag hcheck hc
      exact Content.read_toJson hcheck ((Node.readable_of_check h c hc).congr htag.symm)
    · intro fields hnone hget
      have hcontent : n.content = some (.raw fields) := by
        obtain ⟨fields', c, hget', hread, hc⟩ | ⟨hother, _⟩ := (Node.content_of_check h).2
        · obtain rfl := Json.obj.inj (Option.some.inj (hget.symm.trans hget'))
          rw [Content.readFor, hnone] at hread
          rw [hc, Checked.ok.inj hread]
        · exact absurd hget (hother fields)
      refine ⟨hcontent, ?_⟩
      rw [Node.toJson, hcontent]
      rfl

/-- A switch under its short tag, with a flag in words under its other name and a member that means
    nothing. -/
example :
    Node.check (.obj [("type", .str "switch"), ("id", .str "s"), ("note", .int 1),
        ("content", .obj [("statements", .arr [.obj [("is_default", .str "Yes")]])])]) =
      .ok ⟨"s", "", "switch", some (.switch ⟨"first", [⟨"", "", true⟩]⟩), none⟩ := by
  rfl

end DecisionFlow
