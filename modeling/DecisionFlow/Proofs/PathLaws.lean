import DecisionFlow.Proofs.Writing

set_option autoImplicit false

/-! # Reading after writing

What the paths of an object lead to after a write. The path of the write leads to what was written,
and at its beginnings there are objects now. A path apart from it, one that parts from it at some
key, leads where it led before. A second write at the same path undoes the first. -/

namespace DecisionFlow

/-- Two paths part at some key: neither is the beginning of the other. -/
structure Path.Apart (p q : Path) : Prop where
  not_prefix : ¬p <+: q
  not_prefix' : ¬q <+: p

theorem Path.Apart.symm {p q : Path} (h : Apart p q) : Apart q p :=
  ⟨h.not_prefix', h.not_prefix⟩

theorem Path.Apart.tail {key : String} {p q : Path} (h : Apart (key :: p) (key :: q)) :
    Apart p q := by
  refine ⟨fun hpq => h.not_prefix ?_, fun hqp => h.not_prefix' ?_⟩
  · exact List.cons_prefix_cons.2 ⟨rfl, hpq⟩
  · exact List.cons_prefix_cons.2 ⟨rfl, hqp⟩

/-- A path that begins another one, and is not the whole of it, leaves keys to go. -/
theorem Path.Blocks.exists_rest {field other : String} (h : Blocks field other) :
    ∃ key rest, Path.ofText other = Path.ofText field ++ key :: rest := by
  obtain ⟨rest, hrest⟩ := h.begins
  cases rest with
  | nil => exact absurd (by simpa using hrest) h.ne
  | cons key rest => exact ⟨key, rest, hrest.symm⟩

namespace Value

variable {members members' : Fields Value} {p q : Path} {key : String} {v w : Value}

/-! ## Reading -/

theorem at?_append : at? v (p ++ q) = (at? v p).bind (at? · q) := by
  induction p generalizing v with
  | nil => rfl
  | cons key p ih =>
    rw [List.cons_append, at?, at?]
    cases v.property? key with
    | none => rfl
    | some part => exact ih

/-- What has a part is an object. -/
theorem exists_obj_of_at?_cons (h : at? v (key :: q) = some w) : ∃ members, v = .obj members := by
  cases v with
  | obj members => exact ⟨members, rfl⟩
  | _ => exact nomatch h

/-! ## Laws of writing -/

theorem at?_write_self (hp : p ≠ []) (h : write members p v = .ok members') :
    at? (.obj members') p = some v := by
  induction p generalizing members members' with
  | nil => exact absurd rfl hp
  | cons key rest ih =>
    cases rest with
    | nil =>
      obtain rfl := Except.ok.inj ((write_singleton ..).symm.trans h)
      rw [at?_put, if_pos rfl]
      rfl
    | cons next keys =>
      obtain ⟨inner, inner', -, hinner, rfl⟩ := write_cons_cons_eq_ok_iff.1 h
      rw [at?_put, if_pos rfl]
      exact ih (by simp) hinner

theorem at?_write_of_apart (happart : Path.Apart p q) (h : write members p v = .ok members') :
    at? (.obj members') q = at? (.obj members) q := by
  induction p generalizing members members' q with
  | nil => exact absurd List.nil_prefix happart.not_prefix
  | cons key rest ih =>
    cases q with
    | nil => exact absurd List.nil_prefix happart.not_prefix'
    | cons k q =>
      cases rest with
      | nil =>
        obtain rfl := Except.ok.inj ((write_singleton ..).symm.trans h)
        have hk : k ≠ key := by
          rintro rfl
          exact happart.not_prefix (List.cons_prefix_cons.2 ⟨rfl, List.nil_prefix⟩)
        rw [at?_put, if_neg hk]
      | cons next keys =>
        obtain ⟨inner, inner', hunder, hinner, rfl⟩ := write_cons_cons_eq_ok_iff.1 h
        rw [at?_put]
        split
        · next hk =>
          -- The paths part below the key, where the write went on.
          subst hk
          have hq : q ≠ [] := by
            rintro rfl
            exact happart.not_prefix' (List.cons_prefix_cons.2 ⟨rfl, List.nil_prefix⟩)
          rw [at?_cons_of_ne_nil hq, hunder]
          exact ih happart.tail hinner
        · rfl

theorem write_write (h : write members p v = .ok members') (w : Value) :
    ∃ members'', write members' p w = .ok members'' ∧ write members p w = .ok members'' := by
  induction p generalizing members members' with
  | nil =>
    obtain rfl := Except.ok.inj h
    exact ⟨members, rfl, rfl⟩
  | cons key rest ih =>
    cases rest with
    | nil =>
      obtain rfl := Except.ok.inj ((write_singleton ..).symm.trans h)
      exact ⟨Fields.put members key w, by rw [write_singleton, Fields.put_put], write_singleton ..⟩
    | cons next keys =>
      obtain ⟨inner, inner', hunder, hinner, rfl⟩ := write_cons_cons_eq_ok_iff.1 h
      obtain ⟨inner'', hagain, honce⟩ := ih hinner
      refine ⟨Fields.put members key (.obj inner''), ?_, ?_⟩
      · rw [write_cons_cons_eq_ok_iff]
        exact ⟨inner', inner'', objectUnder?_put, hagain, (Fields.put_put ..).symm⟩
      · rw [write_cons_cons_eq_ok_iff]
        exact ⟨inner, inner'', hunder, honce, rfl⟩

/-- The laws of writing at dotted paths. After a write its path leads to the value, and every
    proper beginning of the path leads to an object; a path apart from it leads where it led before;
    and another write at the path comes to the same as if it had been the first. -/
theorem writePath_laws {path : String} (h : writePath members path v = .ok members') :
    atPath (.obj members') path = v ∧
    (∀ other, Path.Apart (Path.ofText path) (Path.ofText other) →
      atPath (.obj members') other = atPath (.obj members) other) ∧
    (∀ other, Path.Blocks other path → ∃ inner, atPath (.obj members') other = .obj inner) ∧
    ∀ w, ∃ members'', writePath members' path w = .ok members'' ∧
      writePath members path w = .ok members'' := by
  have hwrite : write members (Path.ofText path) v = .ok members' := mapError_eq_ok_iff.1 h
  have hself := at?_write_self (Path.ofText_ne_nil path) hwrite
  refine ⟨?_, ?_, ?_, ?_⟩
  · rw [atPath, hself, Option.getD_some]
  · intro other happart
    rw [atPath, at?_write_of_apart happart hwrite, atPath]
  · intro other hblocks
    obtain ⟨key, rest, hrest⟩ := hblocks.exists_rest
    rw [hrest, at?_append, Option.bind_eq_some_iff] at hself
    -- The walk goes on from where the beginning of the path leads, and it goes on in objects only.
    obtain ⟨part, hpart, hgoes⟩ := hself
    obtain ⟨inner, rfl⟩ := exists_obj_of_at?_cons hgoes
    exact ⟨inner, by rw [atPath, hpart, Option.getD_some]⟩
  · intro w
    obtain ⟨members'', hagain, honce⟩ := write_write hwrite w
    exact ⟨members'', mapError_eq_ok_iff.2 hagain, mapError_eq_ok_iff.2 honce⟩

/-- A new field beside one that is there: the old one keeps its value, and the way to the new one
    is made. -/
theorem writePath_laws_beside :
    writePath [("person", .obj [("name", .str "Ann")])] "person.home.city" (.str "Rome") =
        .ok [("person", .obj [("name", .str "Ann"), ("home", .obj [("city", .str "Rome")])])] ∧
      Path.Apart (Path.ofText "person.home.city") (Path.ofText "person.name") ∧
      atPath (.obj
          [("person", .obj [("name", .str "Ann"), ("home", .obj [("city", .str "Rome")])])])
        "person.name" = atPath (.obj [("person", .obj [("name", .str "Ann")])]) "person.name" := by
  have hwrite : writePath [("person", .obj [("name", .str "Ann")])] "person.home.city"
      (.str "Rome") =
        .ok [("person", .obj [("name", .str "Ann"), ("home", .obj [("city", .str "Rome")])])] := by
    rfl
  have happart : Path.Apart (Path.ofText "person.home.city") (Path.ofText "person.name") :=
    ⟨by decide +kernel, by decide +kernel⟩
  exact ⟨hwrite, happart, (writePath_laws hwrite).2.1 _ happart⟩

end Value

end DecisionFlow
