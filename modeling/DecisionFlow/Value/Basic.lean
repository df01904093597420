import DecisionFlow.Json.Basic
import DecisionFlow.Number.Double

set_option autoImplicit false

/-! # Values

What expressions compute with and handlers pass on: JSON data in which every number is a double. A
datum normalizes to a value unless it holds an integer beyond the range of doubles.

Data and values may nest to any depth. A stack that is too small for a deep one is not modelled,
neither here nor in whatever else goes through nested values; the limit on nesting that is modelled
is the one on evaluations that wait for each other, `Fault.tooDeep`. -/

namespace DecisionFlow

/-- A value. -/
inductive Value where
  /-- The absence of a value. -/
  | null
  /-- A truth value. -/
  | bool (b : Bool)
  /-- A number. -/
  | num (x : Float)
  /-- A text. -/
  | str (s : String)
  /-- A list. -/
  | list (items : List Value)
  /-- An object. -/
  | obj (members : List (String × Value))
  deriving Inhabited

namespace Value

/-- Whether there is no value. -/
def isNull : Value → Bool
  | .null => true
  | _ => false

/-! ## Data and values -/

mutual

/-- The value of a datum: integers become doubles. None when an integer anywhere in the datum is
    beyond their range. -/
def ofJson? : Json → Option Value
  | .null => some .null
  | .bool b => some (.bool b)
  | .int n => (Number.ofInt? n).map .num
  | .num x => some (.num x)
  | .str s => some (.str s)
  | .arr items => (ofItems? items).map .list
  | .obj members => (ofMembers? members).map .obj

/-- The values of the items of a list. -/
def ofItems? : List Json → Option (List Value)
  | [] => some []
  | item :: items =>
    match ofJson? item with
    | none => none
    | some v => (ofItems? items).map (v :: ·)

/-- The values of the members of an object, under the same keys in the same order. -/
def ofMembers? : List (String × Json) → Option (List (String × Value))
  | [] => some []
  | (key, member) :: members =>
    match ofJson? member with
    | none => none
    | some v => (ofMembers? members).map ((key, v) :: ·)

end

mutual

/-- The datum of a value. -/
def toJson : Value → Json
  | .null => .null
  | .bool b => .bool b
  | .num x => .num x
  | .str s => .str s
  | .list items => .arr (itemsToJson items)
  | .obj members => .obj (membersToJson members)

/-- The data of the items of a list. -/
def itemsToJson : List Value → List Json
  | [] => []
  | item :: items => toJson item :: itemsToJson items

/-- The data of the members of an object. -/
def membersToJson : List (String × Value) → List (String × Json)
  | [] => []
  | (key, member) :: members => (key, toJson member) :: membersToJson members

end

mutual

/-- Normalizing the datum of a value gives the value back. -/
theorem ofJson?_toJson : ∀ v : Value, ofJson? v.toJson = some v
  | .null | .bool _ | .num _ | .str _ => by simp [toJson, ofJson?]
  | .list items => by simp [toJson, ofJson?, ofItems?_itemsToJson items]
  | .obj members => by simp [toJson, ofJson?, ofMembers?_membersToJson members]

theorem ofItems?_itemsToJson : ∀ items : List Value, ofItems? (itemsToJson items) = some items
  | [] => by simp [itemsToJson, ofItems?]
  | item :: items => by
    simp [itemsToJson, ofItems?, ofJson?_toJson item, ofItems?_itemsToJson items]

theorem ofMembers?_membersToJson :
    ∀ members : List (String × Value), ofMembers? (membersToJson members) = some members
  | [] => by simp [membersToJson, ofMembers?]
  | (key, member) :: members => by
    simp [membersToJson, ofMembers?, ofJson?_toJson member, ofMembers?_membersToJson members]

end

/-! ## Distinct keys -/

mutual

/-- Every object in the value has distinct keys. -/
def WellFormed : Value → Prop
  | .list items => WellFormedItems items
  | .obj members => (Fields.keys members).Nodup ∧ WellFormedMembers members
  | _ => True

/-- Every item is well formed. -/
def WellFormedItems : List Value → Prop
  | [] => True
  | item :: items => WellFormed item ∧ WellFormedItems items

/-- Every member's value is well formed. -/
def WellFormedMembers : List (String × Value) → Prop
  | [] => True
  | (_, value) :: members => WellFormed value ∧ WellFormedMembers members

end

theorem wellFormedMembers_iff {members : List (String × Value)} :
    WellFormedMembers members ↔ ∀ member ∈ members, WellFormed member.2 := by
  induction members with
  | nil => simp [WellFormedMembers]
  | cons member members ih => simp [WellFormedMembers, ih]

theorem wellFormed_obj_iff {members : Fields Value} :
    WellFormed (.obj members) ↔
      (Fields.keys members).Nodup ∧ ∀ member ∈ members, WellFormed member.2 := by
  rw [WellFormed, wellFormedMembers_iff]

end Value

end DecisionFlow
