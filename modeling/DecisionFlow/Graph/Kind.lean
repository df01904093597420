set_option autoImplicit false

/-! # Node kinds

The built-in kinds of nodes, each with two tags: the full one and a short one. Any other tag stands
for itself. -/

namespace DecisionFlow

/-- A built-in kind of node. -/
inductive NodeKind where
  | input | output | expression | table | switch
  deriving Repr, DecidableEq

namespace NodeKind

/-- Every kind. -/
def all : List NodeKind :=
  [.input, .output, .expression, .table, .switch]

/-- The full tag of a kind. -/
def tag : NodeKind → String
  | .input => "inputNode"
  | .output => "outputNode"
  | .expression => "expressionNode"
  | .table => "decisionTableNode"
  | .switch => "switchNode"

/-- The short tag of a kind. -/
def shortTag : NodeKind → String
  | .input => "input"
  | .output => "output"
  | .expression => "expression"
  | .table => "decisionTable"
  | .switch => "switch"

/-- The kind with the given full or short tag. -/
def ofTag? (tag : String) : Option NodeKind :=
  all.find? fun kind => kind.tag = tag ∨ kind.shortTag = tag

end NodeKind

/-- The full tag for a short one; any other tag as it is. -/
def canonicalTag (tag : String) : String :=
  match NodeKind.all.find? fun kind => kind.shortTag = tag with
  | some kind => kind.tag
  | none => tag

/-- The short tags with a given full tag. -/
def shortTagsOf (tag : String) : List String :=
  (NodeKind.all.filter fun kind => kind.tag = tag).map NodeKind.shortTag

@[simp] theorem canonicalTag_tag (kind : NodeKind) : canonicalTag kind.tag = kind.tag := by
  cases kind <;> decide +kernel

@[simp] theorem canonicalTag_shortTag (kind : NodeKind) :
    canonicalTag kind.shortTag = kind.tag := by
  cases kind <;> decide +kernel

theorem canonicalTag_canonicalTag (tag : String) :
    canonicalTag (canonicalTag tag) = canonicalTag tag := by
  cases h : NodeKind.all.find? fun kind => kind.shortTag = tag with
  | none => simp [canonicalTag, h]
  | some kind =>
    have hk : canonicalTag tag = kind.tag := by simp [canonicalTag, h]
    rw [hk, canonicalTag_tag]

/-- A full tag together with its short tags is all that has it as the full tag. -/
theorem mem_cons_shortTagsOf_iff {tag other : String} :
    tag ∈ canonicalTag other :: shortTagsOf (canonicalTag other) ↔
      canonicalTag tag = canonicalTag other := by
  constructor
  · intro h
    obtain rfl | h := List.mem_cons.1 h
    · exact canonicalTag_canonicalTag other
    · obtain ⟨kind, hkind, rfl⟩ := List.mem_map.1 h
      have htag : kind.tag = canonicalTag other := by simpa using (List.mem_filter.1 hkind).2
      rw [canonicalTag_shortTag, htag]
  · intro h
    rw [← h]
    cases hkind : NodeKind.all.find? fun kind => kind.shortTag = tag with
    | none => simp [canonicalTag, hkind]
    | some kind =>
      obtain rfl : kind.shortTag = tag := by simpa using List.find?_some hkind
      have hmem : kind ∈ NodeKind.all.filter fun k => k.tag = kind.tag := by
        simp [List.mem_of_find?_eq_some hkind]
      rw [canonicalTag_shortTag]
      exact List.mem_cons_of_mem _ (List.mem_map_of_mem hmem)

/-- Both tags of a kind are tags of that kind only. -/
theorem NodeKind.ofTag?_canonicalTag (tag : String) : ofTag? (canonicalTag tag) = ofTag? tag := by
  cases h : NodeKind.all.find? fun kind => kind.shortTag = tag with
  | none => simp [canonicalTag, h]
  | some kind =>
    obtain rfl : kind.shortTag = tag := by simpa using List.find?_some h
    rw [canonicalTag_shortTag]
    cases kind <;> decide +kernel

/-- Tags with one full tag are of one kind. -/
theorem NodeKind.ofTag?_congr {tag tag' : String} (h : canonicalTag tag = canonicalTag tag') :
    ofTag? tag = ofTag? tag' := by
  rw [← ofTag?_canonicalTag tag, h, ofTag?_canonicalTag]

end DecisionFlow
