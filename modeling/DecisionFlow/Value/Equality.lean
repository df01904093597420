import DecisionFlow.Value.Basic

set_option autoImplicit false

/-! # Structural equality

Two values are equal when they have the same shape and equal leaves. Numbers compare as doubles do:
the zeros are equal and no number that is not a number equals anything. A truth value never equals
a number, and the order of the keys of an object does not matter. Values may nest to any depth: the
comparison always comes to its end. -/

namespace DecisionFlow.Value

/-- Whether two objects have the same keys. -/
def sameKeys (left right : Fields Value) : Bool :=
  (Fields.keys left).all (Fields.has right) && (Fields.keys right).all (Fields.has left)

mutual

/-- Whether two values are equal. -/
def equal : Value → Value → Bool
  | .null, .null => true
  | .bool a, .bool b => a == b
  | .num x, .num y => x == y
  | .str s, .str t => s == t
  | .list left, .list right => equalItems left right
  | .obj left, .obj right => sameKeys left right && equalMembers left right
  | _, _ => false

/-- Whether two lists have equal items at the same places. -/
def equalItems : List Value → List Value → Bool
  | [], [] => true
  | v :: left, w :: right => equal v w && equalItems left right
  | _, _ => false

/-- Whether every member on the left equals the member on the right under its key. -/
def equalMembers : List (String × Value) → Fields Value → Bool
  | [], _ => true
  | (key, v) :: left, right =>
    match Fields.get? right key with
    | some w => equal v w && equalMembers left right
    | none => false

end

end DecisionFlow.Value
