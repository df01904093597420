import DecisionFlow.Node.Assignments
import DecisionFlow.Node.Table
import DecisionFlow.Proofs.Results

set_option autoImplicit false

/-! # What stands in the way of a write

A write puts its value at the end of its path, and on the way there it makes objects only. So
whatever is no object in an object that was written lies at or below the path of a write. A write is
blocked exactly when something other than an object stands on its way; when writes only made up the
object, the path of an earlier one is then the beginning of its own. -/

namespace DecisionFlow

namespace Value

/-- Whether a value is an object. -/
def isObject : Value → Bool
  | .obj _ => true
  | _ => false

variable {members members' inner : Fields Value} {p q keys : Path} {key next : String}
  {v w : Value}

theorem at?_obj_cons :
    at? (.obj members) (key :: q) = (Fields.get? members key).bind (at? · q) := by
  rw [at?, property?]
  cases Fields.get? members key <;> rfl

/-- There is nothing in an empty object. -/
theorem isObject_of_at?_nil (h : at? (.obj []) q = some w) : w.isObject = true := by
  cases q with
  | nil =>
    obtain rfl := Option.some.inj h
    rfl
  | cons key q => exact nomatch h

theorem at?_put {k : String} : at? (.obj (Fields.put members key v)) (k :: q) =
    if k = key then at? v q else at? (.obj members) (k :: q) := by
  rw [at?_obj_cons, at?_obj_cons, Fields.get?_put]
  split
  · rfl
  · rfl

/-- After a write into a part, whatever is no object was there before, or lies at or below the path
    of the write, if this is so in the part. -/
theorem at?_of_put {inner : Fields Value} {keys : Path}
    (hw : at? (.obj (Fields.put members key (.obj inner))) q = some w) (hleaf : w.isObject = false)
    (hinner : ∀ {q}, at? (.obj inner) q = some w →
      keys <+: q ∨ at? (.obj members) (key :: q) = some w) :
    key :: keys <+: q ∨ at? (.obj members) q = some w := by
  cases q with
  | nil =>
    obtain rfl := Option.some.inj hw
    exact nomatch hleaf
  | cons k q =>
    rw [at?_put] at hw
    split at hw
    · rename_i hk
      subst hk
      obtain hbelow | hbefore := hinner hw
      · exact Or.inl (List.cons_prefix_cons.2 ⟨rfl, hbelow⟩)
      · exact Or.inr hbefore
    · exact Or.inr hw

/-! ## Below a key -/

/-- The object below a key in which a write goes on: the one that stands there, or an empty one
    where nothing does. -/
def objectUnder? (members : Fields Value) (key : String) : Option (Fields Value) :=
  match Fields.get? members key with
  | none => some []
  | some (.obj inner) => some inner
  | some _ => none

theorem objectUnder?_put : objectUnder? (Fields.put members key (.obj inner)) key = some inner := by
  rw [objectUnder?, Fields.get?_put_self]

theorem objectUnder?_eq_none_iff :
    objectUnder? members key = none ↔
      ∃ leaf, Fields.get? members key = some leaf ∧ leaf.isObject = false := by
  rw [objectUnder?]
  cases Fields.get? members key with
  | none => simp
  | some part => cases part <;> simp [isObject]

/-- What lies below a key lies in the object there: nothing is below a missing key, in an empty
    object, or in anything else than an object. -/
theorem at?_cons_of_ne_nil (hq : q ≠ []) :
    at? (.obj members) (key :: q) = (objectUnder? members key).bind fun inner =>
      at? (.obj inner) q := by
  obtain ⟨k, q, rfl⟩ := List.exists_cons_of_ne_nil hq
  rw [at?_obj_cons, objectUnder?]
  cases Fields.get? members key with
  | none => rfl
  | some part => cases part <;> rfl

theorem write_cons_cons :
    write members (key :: next :: keys) v =
      match objectUnder? members key with
      | none => .error key
      | some inner =>
        (write inner (next :: keys) v).map fun inner => Fields.put members key (.obj inner) := by
  rw [write, objectUnder?]
  cases Fields.get? members key with
  | none => rfl
  | some part => cases part <;> rfl

theorem write_cons_cons_eq_ok_iff :
    write members (key :: next :: keys) v = .ok members' ↔
      ∃ inner inner', objectUnder? members key = some inner ∧
        write inner (next :: keys) v = .ok inner' ∧
        members' = Fields.put members key (.obj inner') := by
  rw [write_cons_cons]
  cases objectUnder? members key with
  | none => simp
  | some inner => simp [map_eq_ok_iff]

theorem write_cons_cons_eq_error_iff {blocked : String} :
    write members (key :: next :: keys) v = .error blocked ↔
      objectUnder? members key = none ∧ key = blocked ∨
      ∃ inner, objectUnder? members key = some inner ∧
        write inner (next :: keys) v = .error blocked := by
  rw [write_cons_cons]
  cases objectUnder? members key with
  | none => simp
  | some inner => simp [map_eq_error_iff]

/-! ## Along a path -/

/-- After a write, whatever is no object was there before, or lies at or below the path of the
    write. -/
theorem at?_of_write (h : write members p v = .ok members') (hw : at? (.obj members') q = some w)
    (hleaf : w.isObject = false) : p <+: q ∨ at? (.obj members) q = some w := by
  -- The induction goes down with the write, and the path that is read goes with it.
  induction p generalizing members members' q with
  | nil =>
    obtain rfl := Except.ok.inj h
    exact Or.inr hw
  | cons key rest ih =>
    cases rest with
    | nil =>
      obtain rfl := Except.ok.inj ((write_singleton ..).symm.trans h)
      cases q with
      | nil =>
        obtain rfl := Option.some.inj hw
        exact absurd hleaf (by simp [isObject])
      | cons k q =>
        rw [at?_put] at hw
        split at hw
        · next hk => exact Or.inl (List.cons_prefix_cons.2 ⟨hk.symm, List.nil_prefix⟩)
        · exact Or.inr hw
    | cons next keys =>
      obtain ⟨inner, inner', hunder, hinner, rfl⟩ := write_cons_cons_eq_ok_iff.1 h
      refine at?_of_put hw hleaf fun {q} hat => ?_
      obtain hbelow | hbefore := ih hinner hat
      · exact Or.inl hbelow
      · have hq : q ≠ [] := by
          rintro rfl
          obtain rfl := Option.some.inj hbefore
          exact nomatch hleaf
        rw [at?_cons_of_ne_nil hq, hunder]
        exact Or.inr hbefore

/-- The way along a path is blocked at a key: something other than an object stands there, and
    more keys are to follow. -/
def BlockedAt (members : Fields Value) (p : Path) (key : String) : Prop :=
  ∃ front rest leaf, p = front ++ key :: rest ∧ rest ≠ [] ∧
    at? (.obj members) (front ++ [key]) = some leaf ∧ leaf.isObject = false

/-- A way is blocked at its first key, or below it. -/
theorem blockedAt_cons_cons_iff {blocked : String} :
    BlockedAt members (key :: next :: keys) blocked ↔
      objectUnder? members key = none ∧ key = blocked ∨
      ∃ inner, objectUnder? members key = some inner ∧ BlockedAt inner (next :: keys) blocked := by
  constructor
  · rintro ⟨front, rest, leaf, hpath, hrest, hat, hleaf⟩
    cases front with
    | nil =>
      obtain ⟨rfl, rfl⟩ := List.cons_eq_cons.1 hpath
      rw [List.nil_append, at?_obj_cons, Option.bind_eq_some_iff] at hat
      obtain ⟨part, hpart, hsame⟩ := hat
      obtain rfl := Option.some.inj hsame
      exact Or.inl ⟨objectUnder?_eq_none_iff.2 ⟨part, hpart, hleaf⟩, rfl⟩
    | cons k front =>
      obtain ⟨rfl, hbelow⟩ := List.cons_eq_cons.1 hpath
      rw [List.cons_append, at?_cons_of_ne_nil (by simp), Option.bind_eq_some_iff] at hat
      obtain ⟨inner, hunder, hat⟩ := hat
      exact Or.inr ⟨inner, hunder, front, rest, leaf, hbelow, hrest, hat, hleaf⟩
  · rintro (⟨hnone, rfl⟩ | ⟨inner, hunder, front, rest, leaf, hpath, hrest, hat, hleaf⟩)
    · obtain ⟨leaf, hpart, hleaf⟩ := objectUnder?_eq_none_iff.1 hnone
      refine ⟨[], next :: keys, leaf, rfl, by simp, ?_, hleaf⟩
      rw [List.nil_append, at?_obj_cons, hpart]
      rfl
    · refine ⟨key :: front, rest, leaf, by rw [hpath]; rfl, hrest, ?_, hleaf⟩
      rw [List.cons_append, at?_cons_of_ne_nil (by simp), hunder]
      exact hat

theorem not_blockedAt_singleton {blocked : String} : ¬BlockedAt members [key] blocked := by
  rintro ⟨front, rest, leaf, hpath, hrest, -, -⟩
  have hlength := congrArg List.length hpath
  have hpos := List.length_pos_iff.2 hrest
  simp only [List.length_append, List.length_cons, List.length_nil] at hlength
  omega

/-- A write fails exactly when its way is blocked, with the key where it is. -/
theorem write_eq_error_iff {blocked : String} :
    write members p v = .error blocked ↔ BlockedAt members p blocked := by
  induction p generalizing members with
  | nil =>
    refine iff_of_false (by simp [write]) ?_
    rintro ⟨front, rest, leaf, hpath, -⟩
    simp at hpath
  | cons key rest ih =>
    cases rest with
    | nil => exact iff_of_false (by simp) not_blockedAt_singleton
    | cons next keys => simp only [write_cons_cons_eq_error_iff, blockedAt_cons_cons_iff, ih]

end Value

/-! ## Several writes -/

/-- The path of one field is a proper beginning of the path of another. -/
structure Path.Blocks (field other : String) : Prop where
  begins : Path.ofText field <+: Path.ofText other
  ne : Path.ofText field ≠ Path.ofText other

/-- Among some fields one stands before another that it blocks. -/
def Path.HasBlock (fields : List String) : Prop :=
  ∃ field other, [field, other].Sublist fields ∧ Path.Blocks field other

namespace Value

variable {members members' : Fields Value} {fields : List String} {field : String} {v : Value}

/-- Whatever is no object in an object lies at or below one of the fields. -/
def LeavesBelow (members : Fields Value) (fields : List String) : Prop :=
  ∀ q w, at? (.obj members) q = some w → w.isObject = false →
    ∃ field ∈ fields, Path.ofText field <+: q

theorem leavesBelow_nil : LeavesBelow [] [] := by
  intro q w hw hleaf
  exact absurd (isObject_of_at?_nil hw) (by simp [hleaf])

/-- A write into an object adds its field. -/
theorem LeavesBelow.after (hbelow : LeavesBelow members fields)
    (h : writePath members field v = .ok members') : LeavesBelow members' (fields ++ [field]) := by
  intro q w hw hleaf
  have hwrite := mapError_eq_ok_iff.1 h
  obtain hfield | hbefore := at?_of_write hwrite hw hleaf
  · exact ⟨field, by simp, hfield⟩
  · obtain ⟨other, hother, hq⟩ := hbelow q w hbefore hleaf
    exact ⟨other, List.mem_append_left _ hother, hq⟩

/-- A write that is blocked is blocked by a field that was written before. -/
theorem LeavesBelow.exists_blocks (hbelow : LeavesBelow members fields) {c : Conflict}
    (h : writePath members field v = .error c) : ∃ other ∈ fields, Path.Blocks other field := by
  obtain ⟨key, hwrite, -⟩ := mapError_eq_error_iff.1 h
  obtain ⟨front, rest, w, hpath, hrest, hw, hleaf⟩ := write_eq_error_iff.1 hwrite
  obtain ⟨other, hother, hbegins⟩ := hbelow _ w hw hleaf
  have hproper : Path.ofText field = (front ++ [key]) ++ rest := by simp [hpath]
  refine ⟨other, hother, hproper ▸ hbegins.trans (List.prefix_append ..), fun heq => ?_⟩
  -- What stands in the way stands before the end of the path, so a whole path would be too long.
  have hlength := hbegins.length_le
  rw [heq, hproper, List.length_append] at hlength
  have hpos := List.length_pos_iff.2 hrest
  omega

/-- A blocked write after others makes a block among all fields. -/
theorem LeavesBelow.hasBlock (hbelow : LeavesBelow members fields) {c : Conflict}
    (h : writePath members field v = .error c) (later : List String) :
    Path.HasBlock (fields ++ field :: later) := by
  obtain ⟨other, hother, hblocks⟩ := hbelow.exists_blocks h
  have hfront : [other].Sublist fields := List.singleton_sublist.2 hother
  have hback : [field].Sublist (field :: later) := List.singleton_sublist.2 (List.mem_cons_self ..)
  exact ⟨other, field, hfront.append hback, hblocks⟩

end Value

/-! ## Expressions and rows -/

/-- Expressions that cannot all be assigned have one without a value, or fields one of which blocks
    another. -/
theorem Assignments.assignAll_error {context : Value} {members : Fields Value}
    {fields : List String} {rest : List (String × String)} {fault : AssignmentFault}
    (hbelow : Value.LeavesBelow members fields)
    (h : assignAll context members rest = .error fault) :
    (∃ field expression f, (field, expression) ∈ rest ∧
      Expression.evaluate expression context = .error f) ∨
    Path.HasBlock (fields ++ rest.map Prod.fst) := by
  induction rest generalizing members fields with
  | nil => exact nomatch h
  | cons entry rest ih =>
    obtain ⟨field, expression⟩ := entry
    cases hvalue : Expression.evaluate expression context with
    | error f => exact Or.inl ⟨field, expression, f, List.mem_cons_self .., hvalue⟩
    | ok v =>
      cases hwrite : Value.writePath members field v with
      | error c => exact Or.inr (hbelow.hasBlock hwrite _)
      | ok members' =>
        have hassign : assign context members field expression = .ok members' := by
          rw [assign, hvalue]
          exact mapError_eq_ok_iff.2 hwrite
        rw [assignAll, hassign] at h
        obtain ⟨f, e, fault, hm, he⟩ | hblock := ih (hbelow.after hwrite) h
        · exact Or.inl ⟨f, e, fault, List.mem_cons_of_mem _ hm, he⟩
        · exact Or.inr (by simpa using hblock)

/-- Results that cannot all be written have one without a value, or columns one of which blocks
    another. The fault is the business of the node. -/
theorem Row.write_error {members : Fields Value} {fields : List String}
    {cells : List (Column × Json)} {fault : Fault} (hbelow : Value.LeavesBelow members fields)
    (h : write members cells = .error fault) : fault.passesNode = false ∧
      ((∃ column cell, (column, cell) ∈ cells ∧ Value.ofJson? cell = none) ∨
        Path.HasBlock (fields ++ cells.map fun entry => entry.1.field)) := by
  induction cells generalizing members fields with
  | nil => exact nomatch h
  | cons entry cells ih =>
    obtain ⟨column, cell⟩ := entry
    rw [write] at h
    cases hvalue : Value.ofJson? cell with
    | none =>
      rw [hvalue] at h
      obtain rfl := Except.error.inj h
      exact ⟨rfl, Or.inl ⟨column, cell, List.mem_cons_self .., hvalue⟩⟩
    | some v =>
      rw [hvalue] at h
      cases hwrite : Value.writePath members column.field v with
      | error c =>
        simp only [hwrite] at h
        obtain rfl := Except.error.inj h
        exact ⟨rfl, Or.inr (hbelow.hasBlock hwrite _)⟩
      | ok members' =>
        simp only [hwrite] at h
        obtain ⟨hpasses, ⟨c, e, hm, he⟩ | hblock⟩ := ih (hbelow.after hwrite) h
        · exact ⟨hpasses, Or.inl ⟨c, e, List.mem_cons_of_mem _ hm, he⟩⟩
        · exact ⟨hpasses, Or.inr (by simpa using hblock)⟩

end DecisionFlow
