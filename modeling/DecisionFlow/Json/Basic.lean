import DecisionFlow.Fields

set_option autoImplicit false

/-! # JSON data

Data as it stands in a document: integers of any size are kept apart from doubles, and the members
of an object keep the order in which their keys were first written. -/

namespace DecisionFlow

/-- A JSON datum. -/
inductive Json where
  /-- The null datum. -/
  | null
  /-- A truth value. -/
  | bool (b : Bool)
  /-- A number written without point and exponent. -/
  | int (n : Int)
  /-- Any other number. -/
  | num (x : Float)
  /-- A text. -/
  | str (s : String)
  /-- A list. -/
  | arr (items : List Json)
  /-- An object. -/
  | obj (members : List (String × Json))
  deriving Inhabited

namespace Json

/-- The member of an object under a key. -/
def member? : Json → String → Option Json
  | .obj members, key => Fields.get? members key
  | _, _ => none

/-! ## Integers -/

mutual

/-- The integers in a datum, in the order in which they stand there. -/
def ints : Json → List Int
  | .int n => [n]
  | .arr items => intsOfItems items
  | .obj members => intsOfMembers members
  | _ => []

/-- The integers in items. -/
def intsOfItems : List Json → List Int
  | [] => []
  | item :: items => ints item ++ intsOfItems items

/-- The integers in the values of members. -/
def intsOfMembers : List (String × Json) → List Int
  | [] => []
  | (_, value) :: members => ints value ++ intsOfMembers members

end

/-! ## Distinct keys -/

mutual

/-- The datum in which every object has distinct keys: of two members with one key the later value
    stays, in the place of the earlier. -/
def distinct : Json → Json
  | .arr items => .arr (distinctItems items)
  | .obj members => .obj (Fields.ofEntries (distinctMembers members))
  | j => j

/-- Items whose objects have distinct keys. -/
def distinctItems : List Json → List Json
  | [] => []
  | item :: items => distinct item :: distinctItems items

/-- Members in whose values objects have distinct keys. -/
def distinctMembers : List (String × Json) → List (String × Json)
  | [] => []
  | (key, value) :: members => (key, distinct value) :: distinctMembers members

end

mutual

/-- Every object in the datum has distinct keys. -/
def WellFormed : Json → Prop
  | .arr items => WellFormedItems items
  | .obj members => (Fields.keys members).Nodup ∧ WellFormedMembers members
  | _ => True

/-- Every item is well formed. -/
def WellFormedItems : List Json → Prop
  | [] => True
  | item :: items => WellFormed item ∧ WellFormedItems items

/-- Every member's value is well formed. -/
def WellFormedMembers : List (String × Json) → Prop
  | [] => True
  | (_, value) :: members => WellFormed value ∧ WellFormedMembers members

end

theorem wellFormedItems_iff {items : List Json} :
    WellFormedItems items ↔ ∀ item ∈ items, WellFormed item := by
  induction items with
  | nil => simp [WellFormedItems]
  | cons item items ih => simp [WellFormedItems, ih]

theorem wellFormedMembers_iff {members : List (String × Json)} :
    WellFormedMembers members ↔ ∀ member ∈ members, WellFormed member.2 := by
  induction members with
  | nil => simp [WellFormedMembers]
  | cons member members ih => simp [WellFormedMembers, ih]

/-- A member of a well-formed datum is well formed. -/
theorem wellFormed_of_member? {j k : Json} {key : String} (h : j.WellFormed)
    (hk : j.member? key = some k) : k.WellFormed := by
  cases j with
  | obj members =>
    rw [WellFormed] at h
    exact wellFormedMembers_iff.1 h.2 (key, k) (Fields.mem_of_get? hk)
  | _ => simp [member?] at hk

mutual

/-- A datum with distinct keys stays as it is. -/
theorem distinct_of_wellFormed : ∀ {j : Json}, WellFormed j → distinct j = j
  | .null, _ | .bool _, _ | .int _, _ | .num _, _ | .str _, _ => by simp [distinct]
  | .arr items, h => by
    rw [distinct, distinctItems_of_wellFormed (by simpa [WellFormed] using h)]
  | .obj members, h => by
    rw [WellFormed] at h
    rw [distinct, distinctMembers_of_wellFormed h.2, Fields.ofEntries_of_nodup h.1]

theorem distinctItems_of_wellFormed : ∀ {items : List Json},
    WellFormedItems items → distinctItems items = items
  | [], _ => by simp [distinctItems]
  | item :: items, h => by
    rw [WellFormedItems] at h
    rw [distinctItems, distinct_of_wellFormed h.1, distinctItems_of_wellFormed h.2]

theorem distinctMembers_of_wellFormed : ∀ {members : List (String × Json)},
    WellFormedMembers members → distinctMembers members = members
  | [], _ => by simp [distinctMembers]
  | (key, value) :: members, h => by
    rw [WellFormedMembers] at h
    rw [distinctMembers, distinct_of_wellFormed h.1, distinctMembers_of_wellFormed h.2]

end

mutual

theorem wellFormed_distinct : ∀ j : Json, WellFormed (distinct j)
  | .null | .bool _ | .int _ | .num _ | .str _ => by simp [distinct, WellFormed]
  | .arr items => by
    rw [distinct, WellFormed]
    exact wellFormedItems_distinctItems items
  | .obj members => by
    rw [distinct, WellFormed]
    refine ⟨Fields.nodup_keys_ofEntries _, wellFormedMembers_iff.mpr ?_⟩
    exact Fields.forall_mem_ofEntries
      (wellFormedMembers_iff.mp (wellFormedMembers_distinctMembers members))

theorem wellFormedItems_distinctItems : ∀ items : List Json,
    WellFormedItems (distinctItems items)
  | [] => by simp [distinctItems, WellFormedItems]
  | item :: items => by
    rw [distinctItems, WellFormedItems]
    exact ⟨wellFormed_distinct item, wellFormedItems_distinctItems items⟩

theorem wellFormedMembers_distinctMembers : ∀ members : List (String × Json),
    WellFormedMembers (distinctMembers members)
  | [] => by simp [distinctMembers, WellFormedMembers]
  | (key, value) :: members => by
    rw [distinctMembers, WellFormedMembers]
    exact ⟨wellFormed_distinct value, wellFormedMembers_distinctMembers members⟩

end

@[simp] theorem distinct_distinct (j : Json) : j.distinct.distinct = j.distinct :=
  distinct_of_wellFormed (wellFormed_distinct j)

end Json

end DecisionFlow
