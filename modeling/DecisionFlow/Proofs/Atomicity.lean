import DecisionFlow.Proofs.Writing

set_option autoImplicit false

/-! # Blocked writes leave nothing behind

A write may be done in place, one object after the other: an object that is missing on the way is
made when its key is come to, before it is known whether the rest of the way is free. All the same a
write that is blocked leaves everything as it was. Once an object had to be made, all that is below
it is new as well, so that nothing can block the way any more; and a way that is blocked was free of
missing objects up to there. -/

namespace DecisionFlow.Value

variable {members inner : Fields Value} {p keys : Path} {key next blocked : String} {v : Value}

/-! ## Writing in place -/

/-- The members with something under a key: an object is made where nothing stands. -/
def provide (members : Fields Value) (key : String) : Fields Value :=
  if Fields.has members key then members else Fields.put members key (.obj [])

/-- A write done in place, from object to object: what is left in the end, and the key where the way
    was blocked, if it was. What was made on the way stays, whatever becomes of the write. -/
def writeInPlace (members : Fields Value) : Path → Value → Fields Value × Option String
  | [], _ => (members, none)
  | [key], v => (Fields.put members key v, none)
  | key :: next :: keys, v =>
    match Fields.get? (provide members key) key with
    | some (.obj inner) =>
      let (left, blocked) := writeInPlace inner (next :: keys) v
      (Fields.put (provide members key) key (.obj left), blocked)
    | _ => (provide members key, some key)

/-- What one key of the way does: the write ends there, or goes on in the object below the key. -/
theorem writeInPlace_cons_cons :
    writeInPlace members (key :: next :: keys) v =
      match objectUnder? members key with
      | none => (members, some key)
      | some inner =>
        (Fields.put members key (.obj (writeInPlace inner (next :: keys) v).1),
          (writeInPlace inner (next :: keys) v).2) := by
  rw [writeInPlace, objectUnder?]
  cases hpart : Fields.get? members key with
  | none =>
    have hmade : provide members key = Fields.put members key (.obj []) := by
      simp [provide, Fields.has, hpart]
    simp only [hmade, Fields.get?_put_self, Fields.put_put]
  | some part =>
    have hthere : provide members key = members := by
      simp [provide, Fields.has, hpart]
    rw [hthere, hpart]
    cases part <;> rfl

/-- Nothing blocks a way in an object that was just made. -/
theorem write_nil_ne_error : write [] p v ≠ .error blocked := by
  intro h
  obtain ⟨front, rest, leaf, -, -, hat, hleaf⟩ := write_eq_error_iff.1 h
  rw [isObject_of_at?_nil hat] at hleaf
  exact nomatch hleaf

/-- A way that is blocked below a key goes through an object that was there. -/
theorem get?_of_write_error (hunder : objectUnder? members key = some inner)
    (h : write inner p v = .error blocked) : Fields.get? members key = some (.obj inner) := by
  unfold objectUnder? at hunder
  split at hunder
  · obtain rfl := Option.some.inj hunder
    exact absurd h write_nil_ne_error
  · next found hfound =>
    obtain rfl := Option.some.inj hunder
    exact hfound
  · exact nomatch hunder

/-- In place, a write leaves what it should or, when it is blocked, what was there before. -/
theorem writeInPlace_eq (members : Fields Value) (p : Path) (v : Value) :
    writeInPlace members p v =
      match write members p v with
      | .ok left => (left, none)
      | .error blocked => (members, some blocked) := by
  induction p generalizing members with
  | nil => rfl
  | cons key rest ih =>
    cases rest with
    | nil => rw [write_singleton, writeInPlace]
    | cons next keys =>
      rw [writeInPlace_cons_cons, write_cons_cons]
      cases hunder : objectUnder? members key with
      | none => rfl
      | some inner =>
        dsimp only
        rw [ih inner]
        cases hwrite : write inner (next :: keys) v with
        | ok left => rfl
        | error blocked =>
          have hsame : Fields.put members key (.obj inner) = members :=
            Fields.put_of_get? (get?_of_write_error hunder hwrite)
          dsimp only
          rw [hsame]
          rfl

/-! ## Several writes into one object -/

/-- Writes values at their paths, up to the first write that is blocked. -/
def writeAll (members : Fields Value) : List (String × Value) → Except Conflict (Fields Value)
  | [] => .ok members
  | (path, v) :: writes =>
    match writePath members path v with
    | .error conflict => .error conflict
    | .ok members => writeAll members writes

/-- Tries writes in place one after the other: what is left in the end. A write that is blocked does
    not keep the later ones from being tried. -/
def tryAll (members : Fields Value) : List (String × Value) → Fields Value
  | [] => members
  | (path, v) :: writes => tryAll (writeInPlace members (Path.ofText path) v).1 writes

/-- Those of the writes that are not blocked when their turn comes. -/
def landed (members : Fields Value) : List (String × Value) → List (String × Value)
  | [] => []
  | (path, v) :: writes =>
    match writeInPlace members (Path.ofText path) v with
    | (left, none) => (path, v) :: landed left writes
    | (left, some _) => landed left writes

theorem landed_sublist (members : Fields Value) (writes : List (String × Value)) :
    (landed members writes).Sublist writes := by
  induction writes generalizing members with
  | nil => exact .slnil
  | cons entry writes ih =>
    obtain ⟨path, v⟩ := entry
    rw [landed]
    split
    · exact (ih _).cons_cons _
    · exact (ih _).cons _

/-- The writes that landed all succeed on their own, and leave the same as all writes together. -/
theorem writeAll_landed (members : Fields Value) (writes : List (String × Value)) :
    writeAll members (landed members writes) = .ok (tryAll members writes) := by
  induction writes generalizing members with
  | nil => rfl
  | cons entry writes ih =>
    obtain ⟨path, v⟩ := entry
    rw [landed, tryAll, writeInPlace_eq]
    cases hwrite : write members (Path.ofText path) v with
    | ok left =>
      have hpath : writePath members path v = .ok left := mapError_eq_ok_iff.2 hwrite
      dsimp only
      rw [writeAll, hpath]
      exact ih left
    | error blocked => exact ih members

/-- Writes are atomic. A write fails exactly when its way is blocked: when the keys before its last
    one lead to something other than an object. Done in place it then leaves the object as it was,
    and otherwise it leaves what was to be written. So after any writes that were tried one after
    the other, the object is the one that those of them that landed make on their own. -/
theorem write_atomic (members : Fields Value) (path : String) (v : Value)
    (writes : List (String × Value)) :
    (∀ c, writePath members path v = .error c ↔
      c.path = path ∧ BlockedAt members (Path.ofText path) c.key) ∧
    (writeInPlace members (Path.ofText path) v =
      match writePath members path v with
      | .ok left => (left, none)
      | .error c => (members, some c.key)) ∧
    (landed members writes).Sublist writes ∧
    writeAll members (landed members writes) = .ok (tryAll members writes) := by
  refine ⟨?_, ?_, landed_sublist members writes, writeAll_landed members writes⟩
  · rintro ⟨shown, key⟩
    rw [writePath, mapError_eq_error_iff]
    constructor
    · rintro ⟨blocked, hwrite, hconflict⟩
      obtain ⟨rfl, rfl⟩ := Conflict.mk.inj hconflict
      exact ⟨rfl, write_eq_error_iff.1 hwrite⟩
    · rintro ⟨rfl, hblocked⟩
      exact ⟨key, write_eq_error_iff.2 hblocked, rfl⟩
  · rw [writeInPlace_eq, writePath]
    cases write members (Path.ofText path) v with
    | ok left => rfl
    | error blocked => rfl

end DecisionFlow.Value
