import DecisionFlow.Handler.Basic
import DecisionFlow.Proofs.Alignment
import DecisionFlow.Proofs.Normalization
import DecisionFlow.Value.Path

set_option autoImplicit false

/-! # What normalizing does

A datum that has a value has one of its own shape: lists with as many items, objects with the same
keys in the same order, the same texts and truth values, and a double for every number. Normalizing
it once more changes nothing, and it does not matter whether a path is followed before or after. -/

namespace DecisionFlow

variable {j : Json} {v : Value} {items : List Json} {values : List Value} {members : Fields Json}
  {fields : Fields Value}

namespace Json

/-! ## Shapes -/

/-- A value has the shape of a datum, and a double for each of its numbers. -/
inductive Shapes : Json → Value → Prop where
  | null : Shapes .null .null
  | bool (b : Bool) : Shapes (.bool b) (.bool b)
  | int (n : Int) : Shapes (.int n) (.num (Number.ofInt n))
  | num (x : Float) : Shapes (.num x) (.num x)
  | str (s : String) : Shapes (.str s) (.str s)
  /-- The items of a list have values in their order. -/
  | arr {items : List Json} {values : List Value} : List.Forall₂ Shapes items values →
    Shapes (.arr items) (.list values)
  /-- The keys of an object stay in their order, and so do the values under them. -/
  | obj {members : Fields Json} {fields : Fields Value} :
    Fields.keys fields = Fields.keys members →
    List.Forall₂ Shapes (members.map Prod.snd) (fields.map Prod.snd) →
    Shapes (.obj members) (.obj fields)

/-! ## Paths -/

/-- The part of a datum that the keys lead to. -/
def at? : Json → Path → Option Json
  | j, [] => some j
  | j, key :: keys =>
    match j.member? key with
    | some part => at? part keys
    | none => none

/-- The part of a datum at a dotted path; null when the path leads nowhere. -/
def atPath (j : Json) (text : String) : Json :=
  (j.at? (Path.ofText text)).getD .null

end Json

namespace Value

/-! ## Lists and objects -/

theorem ofItems?_eq_some_iff :
    ofItems? items = some values ↔ List.Forall₂ (fun j v => ofJson? j = some v) items values := by
  induction items generalizing values with
  | nil => simp [ofItems?, eq_comm]
  | cons j items ih =>
    rw [ofItems?, List.forall₂_cons_left_iff]
    cases hj : ofJson? j with
    | none => simp
    | some v => simp [← ih, eq_comm (a := values)]

theorem ofMembers?_eq_some_iff : ofMembers? members = some fields ↔
    Fields.Rel (fun _ j v => ofJson? j = some v) members fields := by
  induction members generalizing fields with
  | nil => simp [ofMembers?, eq_comm]
  | cons member members ih =>
    obtain ⟨key, j⟩ := member
    rw [ofMembers?, Fields.Rel, List.forall₂_cons_left_iff]
    cases hj : ofJson? j with
    | none => simp
    | some v => simp [← ih, eq_comm (a := fields)]

/-! ## Normalizing -/

/-- A value has the shape of the datum that it is normalized from. -/
theorem shapes_of_ofJson? (h : ofJson? j = some v) : j.Shapes v := by
  induction j using Json.induction_parts generalizing v with
  | null =>
    rw [ofJson?, Option.some.injEq] at h
    exact h ▸ .null
  | bool b =>
    rw [ofJson?, Option.some.injEq] at h
    exact h ▸ .bool b
  | int n =>
    rw [ofJson?, Option.map_eq_some_iff] at h
    obtain ⟨x, hx, rfl⟩ := h
    exact Number.ofInt?_eq_some hx ▸ .int n
  | num x =>
    rw [ofJson?, Option.some.injEq] at h
    exact h ▸ .num x
  | str s =>
    rw [ofJson?, Option.some.injEq] at h
    exact h ▸ .str s
  | arr items ih =>
    rw [ofJson?, Option.map_eq_some_iff] at h
    obtain ⟨values, hvalues, rfl⟩ := h
    have hitems := (List.forall₂_and_left items values).2 ⟨ih, ofItems?_eq_some_iff.1 hvalues⟩
    exact .arr (hitems.imp fun item w hitem => hitem.1 hitem.2)
  | obj members ih =>
    rw [ofJson?, Option.map_eq_some_iff] at h
    obtain ⟨fields, hfields, rfl⟩ := h
    rw [ofMembers?_eq_some_iff] at hfields
    have hmembers := (List.forall₂_and_left members fields).2 ⟨ih, hfields⟩
    refine .obj (Fields.keys_rel hfields).symm ?_
    rw [List.forall₂_map_left_iff, List.forall₂_map_right_iff]
    exact hmembers.imp fun member field hmember => hmember.1 hmember.2.2

/-! ## Paths -/

/-- A member of a datum is normalized to the member of its value under the same key. -/
theorem property?_rel (h : ofJson? j = some v) (key : String) :
    Option.Rel (fun part w => ofJson? part = some w) (j.member? key) (v.property? key) := by
  cases j with
  | obj members =>
    rw [ofJson?, Option.map_eq_some_iff] at h
    obtain ⟨fields, hfields, rfl⟩ := h
    exact Fields.get?_rel (ofMembers?_eq_some_iff.1 hfields) key
  | arr items =>
    rw [ofJson?, Option.map_eq_some_iff] at h
    obtain ⟨values, -, rfl⟩ := h
    exact .none
  | int n =>
    rw [ofJson?, Option.map_eq_some_iff] at h
    obtain ⟨x, -, rfl⟩ := h
    exact .none
  | _ =>
    rw [ofJson?, Option.some.injEq] at h
    exact h ▸ .none

/-- What the keys lead to in a datum is normalized to what they lead to in its value. -/
theorem at?_rel (h : ofJson? j = some v) (p : Path) :
    Option.Rel (fun part w => ofJson? part = some w) (j.at? p) (v.at? p) := by
  induction p generalizing j v with
  | nil => exact .some h
  | cons key p ih =>
    have hmember := property?_rel h key
    rw [Json.at?, Value.at?]
    generalize j.member? key = part at hmember ⊢
    generalize v.property? key = w at hmember ⊢
    cases hmember with
    | none => exact .none
    | some hpart => exact ih hpart

theorem ofJson?_atPath (h : ofJson? j = some v) (text : String) :
    ofJson? (j.atPath text) = some (v.atPath text) := by
  have hpath := at?_rel h (Path.ofText text)
  rw [Json.atPath, Value.atPath]
  generalize j.at? (Path.ofText text) = part at hpath ⊢
  generalize v.at? (Path.ofText text) = w at hpath ⊢
  cases hpath with
  | none => rfl
  | some hpart => exact hpart

end Value

namespace Reply

theorem valueOfDatum_eq_ok_iff : valueOfDatum j = .ok v ↔ Value.ofJson? j = some v := by
  rw [valueOfDatum]
  cases Value.ofJson? j <;> simp

theorem valueOfDatum_eq_error_iff {f : Fault} :
    valueOfDatum j = .error f ↔ Value.ofJson? j = none ∧ f = .number .tooLarge := by
  rw [valueOfDatum]
  cases Value.ofJson? j <;> simp [eq_comm]

/-- The law of normalizing. It fails exactly when an integer anywhere in the datum, also where no
    path leads, is of a magnitude that rounds to an infinity, and says that a number is too large.
    Otherwise the value has the shape of the datum and its keys in their order, and a double for
    each number; the value is normalized to itself; and every dotted path leads in the value to what
    the part of the datum that it leads to is normalized to. -/
theorem normalization_law (j : Json) :
    (∀ f, valueOfDatum j = .error f ↔
      (∃ n, j.HasInt n ∧ Number.overflowBound ≤ n.natAbs) ∧ f = .number .tooLarge) ∧
    ∀ v, valueOfDatum j = .ok v →
      j.Shapes v ∧ valueOfDatum v.toJson = .ok v ∧
      ∀ text, valueOfDatum (j.atPath text) = .ok (v.atPath text) := by
  refine ⟨fun f => ?_, fun v h => ?_⟩
  · rw [valueOfDatum_eq_error_iff, Value.ofJson?_eq_none_iff]
  · rw [valueOfDatum_eq_ok_iff] at h
    refine ⟨Value.shapes_of_ofJson? h, valueOfDatum_toJson v, fun text => ?_⟩
    exact valueOfDatum_eq_ok_iff.2 (Value.ofJson?_atPath h text)

end Reply

end DecisionFlow
