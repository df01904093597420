import DecisionFlow.Engine.Evaluation
import DecisionFlow.Proofs.LastElements
import DecisionFlow.Source.Shelf

set_option autoImplicit false

/-! # Resolution of tags

Handlers are registered one after the other, each under its full tag and under its further ones, so
that a tag ends up with the last handler that claims it. A handler that keeps the further tags of
its kind takes both tags of it together. One that does not may take one of them only, and then the
two tags of a kind have different handlers. -/

namespace DecisionFlow

/-! ## Routes -/

namespace Fields

variable {α : Type} {keysOf : α → List String} {values : List α}

/-- Under a key stands the last value that has it. -/
theorem get?_route_eq_some_iff {key : String} {a : α} :
    get? (route keysOf values) key = some a ↔ IsLast (fun b => key ∈ keysOf b) values a := by
  induction values using List.reverseRecOn with
  | nil => simp [route, not_isLast_nil]
  | append_singleton values value ih =>
    rw [get?_route_concat, isLast_concat_iff, ← ih]
    by_cases hvalue : key ∈ keysOf value <;> simp [hvalue, eq_comm]

theorem mem_of_get?_route {key : String} {value : α}
    (h : get? (route keysOf values) key = some value) : value ∈ values :=
  (get?_route_eq_some_iff.1 h).mem

/-- Under two keys that every value has both or neither of stands the same. -/
theorem get?_route_congr {key key' : String}
    (h : ∀ value ∈ values, key ∈ keysOf value ↔ key' ∈ keysOf value) :
    get? (route keysOf values) key = get? (route keysOf values) key' := by
  ext a
  rw [get?_route_eq_some_iff, get?_route_eq_some_iff]
  exact isLast_congr h

/-- The keys are those that some value has. -/
theorem mem_keys_route_iff {key : String} :
    key ∈ keys (route keysOf values) ↔ ∃ value ∈ values, key ∈ keysOf value := by
  rw [mem_keys_iff_has, has]
  induction values using List.reverseRecOn with
  | nil => simp [route]
  | append_singleton values value ih =>
    rw [get?_route_concat]
    by_cases hvalue : key ∈ keysOf value <;> simp [hvalue, ih, or_and_right, exists_or]

theorem nodup_keys_putAll {fs : Fields α} (h : (keys fs).Nodup) (added : List String) (value : α) :
    (keys (putAll fs added value)).Nodup := by
  induction added generalizing fs with
  | nil => exact h
  | cons key added ih => exact ih (nodup_keys_put h key value)

theorem nodup_keys_route (keysOf : α → List String) (values : List α) :
    (keys (route keysOf values)).Nodup := by
  induction values using List.reverseRecOn with
  | nil => simp [route, keys]
  | append_singleton values value ih =>
    rw [route, List.foldl_append, List.foldl_cons, List.foldl_nil]
    exact nodup_keys_putAll ih (keysOf value) value

end Fields

/-! ## Claims of handlers -/

namespace Handler

/-- A handler claims a tag as the full tag of its own or as one of its further tags. -/
def Claims (h : Handler) (tag : String) : Prop :=
  canonicalTag h.tag = tag ∨ tag ∈ h.aliases

theorem mem_tags_iff {h : Handler} {tag : String} : tag ∈ h.tags ↔ h.Claims tag := by
  rw [tags, List.mem_cons, Claims, eq_comm]

/-- A handler keeps the further tags that handlers have unless they name others: the short tags of
    its own. -/
def KeepsAliases (h : Handler) : Prop :=
  h.aliases = defaultAliases h.tag

/-- Such a handler is registered for a tag when they have one full tag, whichever of its tags the
    handler itself names. -/
theorem KeepsAliases.mem_tags_iff {h : Handler} (hh : h.KeepsAliases) {tag : String} :
    tag ∈ h.tags ↔ canonicalTag tag = canonicalTag h.tag := by
  rw [tags, hh, defaultAliases]
  exact mem_cons_shortTagsOf_iff

theorem keepsAliases_of_mem_standard : ∀ h ∈ standard, h.KeepsAliases := by
  simp [standard, KeepsAliases, input, output, table, expression, switch, ofKind]

theorem keepsAliases_of_mem_append {extra : List Handler} (hextra : ∀ h ∈ extra, h.KeepsAliases) :
    ∀ h ∈ standard ++ extra, h.KeepsAliases :=
  List.forall_mem_append.2 ⟨keepsAliases_of_mem_standard, hextra⟩

/-- Every kind has its standard handler. -/
theorem exists_mem_standard (kind : NodeKind) : ∃ h ∈ standard, h.tag = kind.tag := by
  cases kind <;> simp [standard, input, output, table, expression, switch, ofKind]

end Handler

/-! ## Registries -/

namespace Registry

variable {extra : List Handler} {tag tag' : String} {h : Handler}

/-- One more handler takes the tags that it claims and leaves the others as they are. -/
theorem handler?_concat (extra : List Handler) (h : Handler) (tag : String) :
    (withExtra (extra ++ [h])).handler? tag =
      if tag ∈ h.tags then some h else (withExtra extra).handler? tag := by
  rw [withExtra, ← List.append_assoc]
  exact Fields.get?_route_concat ..

theorem handler?_eq_some_iff :
    (withExtra extra).handler? tag = some h ↔
      IsLast (fun k => k.Claims tag) (Handler.standard ++ extra) h := by
  simp only [← Handler.mem_tags_iff]
  exact Fields.get?_route_eq_some_iff

theorem mem_keys_iff :
    tag ∈ Fields.keys (withExtra extra) ↔ ∃ k ∈ Handler.standard ++ extra, k.Claims tag := by
  simp only [← Handler.mem_tags_iff]
  exact Fields.mem_keys_route_iff

/-- The handlers of two tags with one full tag are the same. -/
theorem handler?_congr (hextra : ∀ h ∈ extra, h.KeepsAliases)
    (htag : canonicalTag tag = canonicalTag tag') :
    (withExtra extra).handler? tag = (withExtra extra).handler? tag' := by
  refine Fields.get?_route_congr fun h hmem => ?_
  have hh : h.KeepsAliases := Handler.keepsAliases_of_mem_append hextra h hmem
  rw [hh.mem_tags_iff, hh.mem_tags_iff, htag]

/-- Without further tags a handler takes the full tag of a kind and leaves the short one, so that
    the two tags of the kind part. -/
theorem handler?_concat_without_aliases (extra : List Handler) (kind : NodeKind) (terminal : Bool)
    (act : Node → Value → Action) :
    (withExtra (extra ++ [⟨kind.tag, [], terminal, act⟩])).handler? kind.tag =
        some ⟨kind.tag, [], terminal, act⟩ ∧
      (withExtra (extra ++ [⟨kind.tag, [], terminal, act⟩])).handler? kind.shortTag =
        (withExtra extra).handler? kind.shortTag := by
  constructor
  · simp [handler?_concat, Handler.tags]
  · have hne : kind.shortTag ≠ kind.tag := by cases kind <;> decide
    simp [handler?_concat, Handler.tags, hne]

end Registry

/-! ## Engines -/

namespace Engine

/-- An engine gives a tag the last handler that claims it, of the standard handlers and the further
    ones after them, and knows the tags that some handler claims and no others, each once. Both tags
    of every kind have a handler. When the further handlers keep their aliases, a tag has the
    handler of its full tag, and this is the last one with that full tag. -/
theorem resolution {σ : Type} (source : Source σ) (extra : List Handler) :
    let r := (withHandlers source extra).registry
    (∀ tag h, r.handler? tag = some h ↔
      IsLast (fun k => k.Claims tag) (Handler.standard ++ extra) h) ∧
    (∀ tag, tag ∈ Fields.keys r ↔ ∃ k ∈ Handler.standard ++ extra, k.Claims tag) ∧
    (Fields.keys r).Nodup ∧
    (∀ kind : NodeKind, kind.tag ∈ Fields.keys r ∧ kind.shortTag ∈ Fields.keys r) ∧
    ((∀ h ∈ extra, h.KeepsAliases) → ∀ tag,
      r.handler? tag = r.handler? (canonicalTag tag) ∧
      ∀ h, r.handler? tag = some h ↔
        IsLast (fun k => canonicalTag k.tag = canonicalTag tag) (Handler.standard ++ extra) h) := by
  intro r
  have hclaimed (kind : NodeKind) {tag : String} (htag : canonicalTag tag = kind.tag) :
      tag ∈ Fields.keys r := by
    obtain ⟨h, hmem, hkind⟩ := Handler.exists_mem_standard kind
    refine Registry.mem_keys_iff.2 ⟨h, List.mem_append_left _ hmem, ?_⟩
    rw [← Handler.mem_tags_iff, (Handler.keepsAliases_of_mem_standard h hmem).mem_tags_iff, htag,
      hkind, canonicalTag_tag]
  refine ⟨fun tag h => Registry.handler?_eq_some_iff, fun tag => Registry.mem_keys_iff,
    Fields.nodup_keys_route _ _, fun kind => ⟨hclaimed kind (canonicalTag_tag kind),
      hclaimed kind (canonicalTag_shortTag kind)⟩, fun hextra tag => ⟨?_, fun h => ?_⟩⟩
  · exact Registry.handler?_congr hextra (canonicalTag_canonicalTag tag).symm
  · have hclaims : ∀ k ∈ Handler.standard ++ extra,
        k.Claims tag ↔ canonicalTag k.tag = canonicalTag tag := by
      intro k hk
      rw [← Handler.mem_tags_iff, (Handler.keepsAliases_of_mem_append hextra k hk).mem_tags_iff,
        eq_comm]
    rw [← isLast_congr hclaims]
    exact Registry.handler?_eq_some_iff

end Engine

/-! ## Samples -/

/-- A handler for decision tables, named by their short tag, that gives the identifier of the
    node. -/
def Sample.stamp : Handler :=
  ⟨"decisionTable", Handler.defaultAliases "decisionTable", false, fun n _ => .give (.str n.id)⟩

/-- A handler that is named by the short tag of its kind takes the full tag with it, and leaves the
    other kinds to the standard handlers. -/
theorem Engine.resolution_stamp :
    (∀ h ∈ [Sample.stamp], h.KeepsAliases) ∧
    let r := (Engine.withHandlers Source.shelf [Sample.stamp]).registry
    r.handler? "decisionTable" = some Sample.stamp ∧
    r.handler? "decisionTableNode" = some Sample.stamp ∧
    r.handler? "switch" = some Handler.switch := by
  have haliases : ∀ h ∈ [Sample.stamp], h.KeepsAliases := by
    intro h hmem
    rw [List.mem_singleton.1 hmem]
    rfl
  have hlast := (Engine.resolution Source.shelf [Sample.stamp]).2.2.2.2 haliases
  refine ⟨haliases, ?_, ?_, ?_⟩
  · refine ((hlast "decisionTable").2 Sample.stamp).2 ⟨Handler.standard, [], rfl, rfl, ?_⟩
    simp
  · refine ((hlast "decisionTableNode").2 Sample.stamp).2 ⟨Handler.standard, [], rfl, ?_, ?_⟩
    · decide +kernel
    · simp
  · refine ((hlast "switch").2 Handler.switch).2
      ⟨[.input, .output, .table, .expression], [Sample.stamp], rfl, ?_, ?_⟩
    · decide +kernel
    · intro h hmem
      rw [List.mem_singleton.1 hmem]
      decide +kernel

end DecisionFlow
