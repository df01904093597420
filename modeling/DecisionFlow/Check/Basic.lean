import DecisionFlow.Json.Basic

set_option autoImplicit false

/-! # Checked data

Reading a datum as a record reports every problem of the datum, each with the place where it is. A
check of several parts gives the problems of all of them in the order of the parts. -/

namespace DecisionFlow

/-! ## Issues -/

/-- A step on the way to a part of a datum. -/
inductive Place where
  /-- The member of an object under a key, or a reading that was tried. -/
  | field (key : String)
  /-- The item of a list. -/
  | index (i : Nat)
  deriving Repr, DecidableEq

/-- What is wrong at a place. -/
inductive Problem where
  | missing
  | notString
  | notBool
  | unreadableBool
  | notInt
  | unreadableInt
  | oversizedInt
  | fractionalInt
  | notFinite
  | notFloat
  | unreadableFloat
  | notList
  | notObject
  | notRecord
  | notPositive
  | notJson
  deriving Repr, DecidableEq

/-- The code of a problem in a report. -/
def Problem.code : Problem → String
  | .missing => "missing"
  | .notString => "string_type"
  | .notBool => "bool_type"
  | .unreadableBool => "bool_parsing"
  | .notInt => "int_type"
  | .unreadableInt => "int_parsing"
  | .oversizedInt => "int_parsing_size"
  | .fractionalInt => "int_from_float"
  | .notFinite => "finite_number"
  | .notFloat => "float_type"
  | .unreadableFloat => "float_parsing"
  | .notList => "list_type"
  | .notObject => "dict_type"
  | .notRecord => "model_type"
  | .notPositive => "greater_than"
  | .notJson => "json_invalid"

/-- A problem and its place, from the whole datum inwards. -/
structure Issue where
  /-- The steps that lead to the part in question. -/
  place : List Place
  /-- What is wrong with it. -/
  problem : Problem
  deriving Repr, DecidableEq

/-! ## Origins -/

/-- Where a datum comes from. -/
inductive Origin where
  /-- It is at hand as it is. -/
  | data
  /-- It has just been read from the text of a document. -/
  | document
  deriving Repr, DecidableEq

/-- How many digits an integer in a document may have and still be taken for a value of another
    type. -/
def Origin.digitLimit : Nat :=
  18

/-- Whether an integer is taken for nothing but an integer: it stands in a document and has more
    digits than `digitLimit`. -/
def Origin.isLong (o : Origin) (n : Int) : Bool :=
  o = .document && Nat.pow 10 digitLimit ≤ n.natAbs

@[simp] theorem Origin.isLong_data (n : Int) : Origin.data.isLong n = false := rfl

/-! ## Results -/

/-- The result of a check: a value, or the issues found, of which there is at least one. -/
inductive Checked (α : Type) where
  /-- Nothing is wrong. -/
  | ok (value : α)
  /-- Something is wrong. -/
  | bad (issues : List Issue)
  deriving Repr

namespace Checked

variable {α β : Type}

/-- A single problem with the whole datum. -/
def problem (p : Problem) : Checked α :=
  .bad [⟨[], p⟩]

/-- Puts the issues of a part under the place of the part. -/
def under (place : Place) : Checked α → Checked α
  | .ok value => .ok value
  | .bad issues => .bad (issues.map fun issue => ⟨place :: issue.place, issue.problem⟩)

/-- Changes the value. -/
def map (f : α → β) : Checked α → Checked β
  | .ok value => .ok (f value)
  | .bad issues => .bad issues

/-- Applies a checked function to a checked argument, with the issues of both. -/
def apply : Checked (α → β) → Checked α → Checked β
  | .ok f, .ok value => .ok (f value)
  | .ok _, .bad issues => .bad issues
  | .bad issues, .ok _ => .bad issues
  | .bad issues, .bad more => .bad (issues ++ more)

/-- Goes on with a second check of the value. -/
def andThen (c : Checked α) (next : α → Checked β) : Checked β :=
  match c with
  | .ok value => next value
  | .bad issues => .bad issues

@[simp] theorem map_ok (f : α → β) (value : α) : map f (.ok value) = .ok (f value) := rfl

@[simp] theorem apply_ok (f : α → β) (value : α) : apply (.ok f) (.ok value) = .ok (f value) := rfl

@[simp] theorem under_ok (place : Place) (value : α) : under place (.ok value) = .ok value := rfl

theorem map_eq_ok_iff {f : α → β} {c : Checked α} {b : β} :
    c.map f = .ok b ↔ ∃ a, c = .ok a ∧ f a = b := by
  cases c <;> simp [map]

theorem apply_eq_ok_iff {f : Checked (α → β)} {c : Checked α} {b : β} :
    f.apply c = .ok b ↔ ∃ g a, f = .ok g ∧ c = .ok a ∧ g a = b := by
  cases f <;> cases c <;> simp [apply]

theorem andThen_eq_ok_iff {c : Checked α} {next : α → Checked β} {b : β} :
    c.andThen next = .ok b ↔ ∃ a, c = .ok a ∧ next a = .ok b := by
  cases c <;> simp [andThen]

theorem under_eq_ok_iff {place : Place} {c : Checked α} {a : α} :
    c.under place = .ok a ↔ c = .ok a := by
  cases c <;> simp [under]

end Checked

/-- A way of reading data as values of a type. -/
abbrev Check (α : Type) := Json → Checked α

namespace Check

variable {α : Type}

/-! ## Containers -/

/-- Checks the items of a list from the place `i` on. -/
def itemsFrom (item : Check α) : Nat → List Json → Checked (List α)
  | _, [] => .ok []
  | i, j :: js =>
    (((item j).under (.index i)).map List.cons).apply (itemsFrom item (i + 1) js)

/-- Reads a list. -/
def list (item : Check α) : Check (List α)
  | .arr items => itemsFrom item 0 items
  | _ => .problem .notList

/-- Checks the members of an object. -/
def membersOf (value : Check α) : List (String × Json) → Checked (Fields α)
  | [] => .ok []
  | (key, j) :: members =>
    (((value j).under (.field key)).map fun v vs => (key, v) :: vs).apply (membersOf value members)

/-- Reads an object whose keys are free. All members are checked; of two with one key the later
    one stays. -/
def fields (value : Check α) : Check (Fields α)
  | .obj members => (membersOf value members).map Fields.ofEntries
  | _ => .problem .notObject

/-- Reads an object whose keys are given, with a check of its members. -/
def record (read : Fields Json → Checked α) : Check α
  | .obj members => read (Fields.ofEntries members)
  | _ => .problem .notRecord

/-- Reads any datum. -/
def any : Check Json := fun j =>
  .ok j.distinct

/-- Reads a text. -/
def text : Check String
  | .str s => .ok s
  | _ => .problem .notString

/-- Reads null, or what `check` reads. -/
def orNull (check : Check α) : Check (Option α)
  | .null => .ok none
  | j => (check j).map some

/-! ## Members -/

/-- The member under a key or, when it is missing, under a second key, with the key that it is
    under. -/
def memberOf (members : Fields Json) (key other : String) : Option (String × Json) :=
  ((Fields.get? members key).map fun j => (key, j)).or
    ((Fields.get? members other).map fun j => (other, j))

/-- Reads a member that must be there. Issues name the key that it is under; when it is missing,
    the first one. -/
def required (members : Fields Json) (key other : String) (check : Check α) : Checked α :=
  match memberOf members key other with
  | some (found, j) => (check j).under (.field found)
  | none => (Checked.problem .missing).under (.field key)

/-- Reads a member that has a default. Issues name the key that it is under. -/
def optional (members : Fields Json) (key other : String) (default : α) (check : Check α) :
    Checked α :=
  match memberOf members key other with
  | some (found, j) => (check j).under (.field found)
  | none => .ok default

/-- A member with a default is the default or has been read under one of its keys. -/
theorem exists_of_optional {members : Fields Json} {key other : String} {default a : α}
    {check : Check α} (h : optional members key other default check = .ok a) :
    a = default ∨ ∃ found j, memberOf members key other = some (found, j) ∧ check j = .ok a := by
  unfold optional at h
  split at h
  · next found j hm => exact Or.inr ⟨found, j, hm, Checked.under_eq_ok_iff.1 h⟩
  · exact Or.inl (Checked.ok.inj h).symm

theorem eq_default_or_of_optional {members : Fields Json} {key other : String} {default a : α}
    {check : Check α} (h : optional members key other default check = .ok a) :
    a = default ∨ ∃ j, check j = .ok a :=
  (exists_of_optional h).imp_right fun ⟨_, j, _, hj⟩ => ⟨j, hj⟩

/-- An object with free keys has every key once. -/
theorem nodup_keys_of_fields {value : Check α} {j : Json} {fs : Fields α}
    (h : fields value j = .ok fs) : (Fields.keys fs).Nodup := by
  cases j with
  | obj members =>
    obtain ⟨entries, _, rfl⟩ := Checked.map_eq_ok_iff.1 h
    exact Fields.nodup_keys_ofEntries entries
  | _ => simp [fields, Checked.problem] at h

end Check

end DecisionFlow
