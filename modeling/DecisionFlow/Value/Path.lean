import DecisionFlow.Text.Segment
import DecisionFlow.Value.Basic

set_option autoImplicit false

/-! # Dotted paths

A path is the list of the keys between the points of a text. Reading follows the keys through
nested objects; writing makes the objects that are missing on the way, and fails when something
other than an object stands there. A failed write leaves nothing behind. -/

namespace DecisionFlow

/-- The keys that lead from a value to a part of it. -/
abbrev Path := List String

/-- The keys between the points of a text. A text without points is one key, and a key may be
    empty. -/
def Path.ofText (text : String) : Path :=
  (Text.segments '.' text.toList).map String.ofList

theorem Path.ofText_ne_nil (text : String) : Path.ofText text ≠ [] := by
  simp [Path.ofText, Text.segments_ne_nil]

/-- Different texts are different paths. -/
theorem Path.ofText_inj {text other : String} :
    Path.ofText text = Path.ofText other ↔ text = other := by
  refine ⟨fun h => ?_, fun h => h ▸ rfl⟩
  have hsegments : Text.segments '.' text.toList = Text.segments '.' other.toList :=
    (List.map_inj_right fun _ _ => String.ofList_inj.1).1 h
  have hchars := congrArg (List.intercalate ['.']) hsegments
  rw [Text.intercalate_segments, Text.intercalate_segments] at hchars
  exact String.toList_inj.1 hchars

namespace Value

/-! ## Reading -/

/-- The member of an object under a key. -/
def property? : Value → String → Option Value
  | .obj members, key => Fields.get? members key
  | _, _ => none

/-- The part of a value that the keys lead to. -/
def at? : Value → Path → Option Value
  | v, [] => some v
  | v, key :: keys =>
    match v.property? key with
    | some part => at? part keys
    | none => none

/-- The part of a value at a dotted path; null when the path leads nowhere. -/
def atPath (v : Value) (text : String) : Value :=
  (v.at? (Path.ofText text)).getD .null

/-! ## Writing -/

/-- Writes a value where the keys lead. Fails with the key under which something other than an
    object is in the way. -/
def write (members : Fields Value) : Path → Value → Except String (Fields Value)
  | [], _ => .ok members
  | [key], v => .ok (Fields.put members key v)
  | key :: next :: keys, v =>
    match Fields.get? members key with
    | none => (write [] (next :: keys) v).map fun inner => Fields.put members key (.obj inner)
    | some (.obj inner) =>
      (write inner (next :: keys) v).map fun inner => Fields.put members key (.obj inner)
    | some _ => .error key

/-- Something other than an object stands on the way of a write. -/
structure Conflict where
  /-- The path that was to be written. -/
  path : String
  /-- The key where the way is blocked. -/
  key : String
  deriving Repr, DecidableEq

/-- Writes a value at a dotted path. -/
def writePath (members : Fields Value) (path : String) (v : Value) :
    Except Conflict (Fields Value) :=
  (write members (Path.ofText path) v).mapError fun key => ⟨path, key⟩

/-- The wording of a conflict. -/
def Conflict.message (c : Conflict) : String :=
  s!"Cannot set field '{c.path}': '{c.key}' already holds a non-object value"

@[simp] theorem write_singleton (members : Fields Value) (key : String) (v : Value) :
    write members [key] v = .ok (Fields.put members key v) := by
  simp [write]

end Value

end DecisionFlow
