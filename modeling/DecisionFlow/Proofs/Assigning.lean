import DecisionFlow.Handler.Standard
import DecisionFlow.Proofs.KeyOrder
import DecisionFlow.Proofs.PathLaws
import DecisionFlow.Proofs.WellFormed

set_option autoImplicit false

/-! # Fields that do not block each other

When no field of an expression node is a proper beginning of another, no assignment is lost and
none is in the way of another. Such a node fails only for want of a value. In its result every field
leads to the value of its expression, and nothing is there that does not belong to a field; this
alone determines the result but for the order of keys, so that the expressions may be declared in
any order. -/

namespace DecisionFlow

variable {context : Value} {members members' : Fields Value}
  {done rest : List (String × String)} {field expression : String} {a a' : Assignments}

/-! ## Apart -/

/-- The paths of some fields are apart from each other. -/
def Path.AllApart (fields : List String) : Prop :=
  fields.Pairwise fun field other => Apart (ofText field) (ofText other)

/-- Different fields are apart when neither is a proper beginning of the other. -/
theorem Path.apart_of_not_blocks {field other : String} (hne : field ≠ other)
    (hblocks : ¬Blocks field other) (hblocks' : ¬Blocks other field) :
    Apart (ofText field) (ofText other) := by
  have hpaths : ofText field ≠ ofText other := fun h => hne (ofText_inj.1 h)
  exact ⟨fun h => hblocks ⟨h, hpaths⟩, fun h => hblocks' ⟨h, hpaths.symm⟩⟩

instance (field other : String) : Decidable (Path.Blocks field other) :=
  decidable_of_iff (Path.ofText field <+: Path.ofText other ∧
    Path.ofText field ≠ Path.ofText other) ⟨fun h => ⟨h.1, h.2⟩, fun h => ⟨h.begins, h.ne⟩⟩

/-- No field of some is a proper beginning of another. -/
def Path.Unblocked (fields : List String) : Prop :=
  ∀ field ∈ fields, ∀ other ∈ fields, ¬Blocks field other

instance (fields : List String) : Decidable (Path.Unblocked fields) :=
  inferInstanceAs (Decidable (∀ field ∈ fields, ∀ other ∈ fields, ¬Path.Blocks field other))

theorem Path.Unblocked.allApart {fields : List String} (h : Unblocked fields)
    (hdistinct : fields.Nodup) : AllApart fields := by
  refine hdistinct.imp_of_mem fun {field other} hfield hother hne => ?_
  exact apart_of_not_blocks hne (h field hfield other hother) (h other hother field hfield)

theorem Path.Unblocked.not_hasBlock {fields : List String} (h : Unblocked fields) :
    ¬HasBlock fields := by
  rintro ⟨field, other, hsub, hblocks⟩
  have hfield : field ∈ fields := hsub.subset (by simp)
  have hother : other ∈ fields := hsub.subset (by simp)
  exact h field hfield other hother hblocks

/-! ## What assignments collect -/

namespace Assignments

theorem assign_eq_ok_iff : assign context members field expression = .ok members' ↔
    ∃ v, Expression.evaluate expression context = .ok v ∧
      Value.write members (Path.ofText field) v = .ok members' := by
  rw [assign]
  cases Expression.evaluate expression context with
  | error f => simp
  | ok v => simp [Value.writePath, mapError_eq_ok_iff]

theorem assignAll_cons_eq_ok_iff :
    assignAll context members ((field, expression) :: rest) = .ok members' ↔
      ∃ next, assign context members field expression = .ok next ∧
        assignAll context next rest = .ok members' := by
  rw [assignAll]
  cases assign context members field expression with
  | error f => simp
  | ok next => simp

/-- What is in an object after assignments: each field leads to the value of its expression, and
    whatever is there lies at the beginning of a field or below one. -/
structure Collects (context : Value) (members : Fields Value) (done : List (String × String)) :
    Prop where
  kept : ∀ entry ∈ done, ∃ v, Expression.evaluate entry.2 context = .ok v ∧
    Value.at? (.obj members) (Path.ofText entry.1) = some v
  covered : ∀ q w, Value.at? (.obj members) q = some w → q ≠ [] →
    ∃ entry ∈ done, ¬Path.Apart (Path.ofText entry.1) q

theorem collects_nil : Collects context [] [] := by
  refine ⟨by simp, fun q w hw hq => ?_⟩
  obtain ⟨key, q, rfl⟩ := List.exists_cons_of_ne_nil hq
  exact nomatch hw

/-- An assignment at a field apart from the others adds its value and keeps theirs. -/
theorem Collects.after (h : Collects context members done)
    (hapart : ∀ entry ∈ done, Path.Apart (Path.ofText entry.1) (Path.ofText field))
    (hassign : assign context members field expression = .ok members') :
    Collects context members' (done ++ [(field, expression)]) := by
  obtain ⟨v, hvalue, hwrite⟩ := assign_eq_ok_iff.1 hassign
  refine ⟨fun entry hentry => ?_, fun q w hw hq => ?_⟩
  · obtain hold | hnew := List.mem_append.1 hentry
    · obtain ⟨u, hu, hat⟩ := h.kept entry hold
      refine ⟨u, hu, ?_⟩
      rw [Value.at?_write_of_apart (hapart entry hold).symm hwrite]
      exact hat
    · obtain rfl := List.mem_singleton.1 hnew
      exact ⟨v, hvalue, Value.at?_write_self (Path.ofText_ne_nil field) hwrite⟩
  · by_cases hq' : Path.Apart (Path.ofText field) q
    · rw [Value.at?_write_of_apart hq' hwrite] at hw
      obtain ⟨entry, hentry, hnot⟩ := h.covered q w hw hq
      exact ⟨entry, List.mem_append_left _ hentry, hnot⟩
    · exact ⟨(field, expression), by simp, hq'⟩

theorem Collects.afterAll (h : Collects context members done)
    (hapart : Path.AllApart ((done ++ rest).map Prod.fst))
    (hassign : assignAll context members rest = .ok members') :
    Collects context members' (done ++ rest) := by
  induction rest generalizing members done with
  | nil =>
    obtain rfl := Except.ok.inj hassign
    rw [List.append_nil]
    exact h
  | cons entry rest ih =>
    obtain ⟨field, expression⟩ := entry
    obtain ⟨next, hnext, hrest⟩ := assignAll_cons_eq_ok_iff.1 hassign
    have hnew : ∀ entry ∈ done, Path.Apart (Path.ofText entry.1) (Path.ofText field) := by
      intro entry hentry
      rw [Path.AllApart, List.map_append, List.pairwise_append] at hapart
      exact hapart.2.2 entry.1 (List.mem_map_of_mem hentry) field (by simp)
    have hafter := h.after hnew hnext
    rw [List.append_cons] at hapart ⊢
    exact ih hafter hapart hrest

/-- The entries may be listed in any order. -/
theorem Collects.perm (h : Collects context members done) (hperm : rest.Perm done) :
    Collects context members rest := by
  refine ⟨fun entry hentry => h.kept entry (hperm.mem_iff.1 hentry), fun q w hw hq => ?_⟩
  obtain ⟨entry, hentry, hnot⟩ := h.covered q w hw hq
  exact ⟨entry, hperm.mem_iff.2 hentry, hnot⟩

theorem Collects.at?_of_apart (h : Collects context members done) {q : Path} (hq : q ≠ [])
    (hapart : ∀ entry ∈ done, Path.Apart (Path.ofText entry.1) q) :
    Value.at? (.obj members) q = none := by
  cases hw : Value.at? (.obj members) q with
  | none => rfl
  | some w =>
    obtain ⟨entry, hentry, hnot⟩ := h.covered q w hw hq
    exact absurd (hapart entry hentry) hnot

/-- At the proper beginning of a field there is an object. -/
theorem Collects.exists_obj (h : Collects context members done) {entry : String × String}
    (hentry : entry ∈ done) {q keys : Path} {key : String}
    (hpath : Path.ofText entry.1 = q ++ key :: keys) :
    ∃ inner, Value.at? (.obj members) q = some (.obj inner) := by
  obtain ⟨v, -, hat⟩ := h.kept entry hentry
  rw [hpath, Value.at?_append, Option.bind_eq_some_iff] at hat
  obtain ⟨part, hpart, hbelow⟩ := hat
  obtain ⟨inner, rfl⟩ := Value.exists_obj_of_at?_cons hbelow
  exact ⟨inner, hpart⟩

/-- What assignments collect is determined but for the order of keys. -/
theorem Collects.sameButOrder (h : Collects context members done)
    (h' : Collects context members' done) : Value.SameButOrder (.obj members) (.obj members') := by
  refine Value.sameButOrder_of_at? fun q => ?_
  by_cases hq : q = []
  · subst hq
    exact .some (Or.inr ⟨members, members', rfl, rfl⟩)
  · by_cases hsome : ∃ entry ∈ done, ¬Path.Apart (Path.ofText entry.1) q
    · obtain ⟨entry, hentry, hnot⟩ := hsome
      by_cases hbelow : Path.ofText entry.1 <+: q
      · -- At a field and below it stands the value of its expression.
        obtain ⟨keys, rfl⟩ := hbelow
        obtain ⟨v, hv, hat⟩ := h.kept entry hentry
        obtain ⟨v', hv', hat'⟩ := h'.kept entry hentry
        obtain rfl := Except.ok.inj (hv.symm.trans hv')
        rw [Value.at?_append, Value.at?_append, hat, hat']
        cases (some v).bind (Value.at? · keys) with
        | none => exact .none
        | some w => exact .some (Or.inl rfl)
      · have hbegins : q <+: Path.ofText entry.1 := by
          by_contra hno
          exact hnot ⟨hbelow, hno⟩
        obtain ⟨keys, hkeys⟩ := hbegins
        cases keys with
        | nil => exact absurd (by simp [← hkeys]) hbelow
        | cons key keys =>
          obtain ⟨inner, hat⟩ := h.exists_obj hentry hkeys.symm
          obtain ⟨inner', hat'⟩ := h'.exists_obj hentry hkeys.symm
          rw [hat, hat']
          exact .some (Or.inr ⟨inner, inner', rfl, rfl⟩)
    · have hapart : ∀ entry ∈ done, Path.Apart (Path.ofText entry.1) q := by
        intro entry hentry
        by_contra hnot
        exact hsome ⟨entry, hentry, hnot⟩
      rw [h.at?_of_apart hq hapart, h'.at?_of_apart hq hapart]
      exact .none

/-- Every key of what was collected is the first key of a field. -/
theorem Collects.exists_field (h : Collects context members done) {key : String}
    (hkey : key ∈ Fields.keys members) :
    ∃ field ∈ done.map Prod.fst, (Path.ofText field).head? = some key := by
  rw [Fields.mem_keys_iff_has, Fields.has, Option.isSome_iff_exists] at hkey
  obtain ⟨v, hv⟩ := hkey
  have hat : Value.at? (.obj members) [key] = some v := by
    rw [Value.at?_obj_cons, hv]
    rfl
  obtain ⟨entry, hentry, hnot⟩ := h.covered [key] v hat (by simp)
  refine ⟨entry.1, List.mem_map_of_mem hentry, ?_⟩
  obtain ⟨first, keys, hpath⟩ := List.exists_cons_of_ne_nil (Path.ofText_ne_nil entry.1)
  rw [hpath] at hnot ⊢
  -- Different first keys would keep the field apart.
  by_contra hne
  have hfirst : first ≠ key := fun he => hne (congrArg some he)
  exact hnot ⟨fun hp => hfirst (List.cons_prefix_cons.1 hp).1,
    fun hp => hfirst (List.cons_prefix_cons.1 hp).1.symm⟩

/-! ## Evaluating -/

theorem evaluate_eq_ok_iff {v : Value} : a.evaluate context = .ok v ↔
    ∃ members, assignAll context [] a.expressions = .ok members ∧ v = .obj members :=
  map_eq_ok_iff

/-- Fields that do not block each other collect their values. -/
theorem collects_of_evaluate (hdistinct : (Fields.keys a.expressions).Nodup)
    (hfree : Path.Unblocked (Fields.keys a.expressions))
    (h : a.evaluate context = .ok (.obj members)) : Collects context members a.expressions := by
  obtain ⟨found, hassign, hsame⟩ := evaluate_eq_ok_iff.1 h
  obtain rfl := Value.obj.inj hsame
  exact collects_nil.afterAll (hfree.allApart hdistinct) hassign

/-- Such expressions fail for want of a value only. -/
theorem evaluate_eq_error_iff (hdistinct : (Fields.keys a.expressions).Nodup)
    (hfree : Path.Unblocked (Fields.keys a.expressions)) :
    (∃ f, a.evaluate context = .error f) ↔
      ∃ entry ∈ a.expressions, ∃ f, Expression.evaluate entry.2 context = .error f := by
  constructor
  · rintro ⟨f, hf⟩
    obtain ⟨field, expression, fault, hmem, hfault⟩ | hblock :=
      assignAll_error Value.leavesBelow_nil (map_eq_error_iff.1 hf)
    · exact ⟨(field, expression), hmem, fault, hfault⟩
    · exact absurd hblock hfree.not_hasBlock
  · rintro ⟨entry, hentry, f, hf⟩
    cases hvalue : a.evaluate context with
    | error fault => exact ⟨fault, rfl⟩
    | ok v =>
      obtain ⟨members, -, rfl⟩ := evaluate_eq_ok_iff.1 hvalue
      obtain ⟨u, hu, -⟩ := (collects_of_evaluate hdistinct hfree hvalue).kept entry hentry
      exact nomatch hf.symm.trans hu

/-- In another order, the expressions give the same object but for the order of keys. -/
theorem evaluate_of_perm (hdistinct : (Fields.keys a.expressions).Nodup)
    (hfree : Path.Unblocked (Fields.keys a.expressions))
    (hperm : a'.expressions.Perm a.expressions) (h : a.evaluate context = .ok (.obj members)) :
    ∃ members', a'.evaluate context = .ok (.obj members') ∧
      Value.SameButOrder (.obj members) (.obj members') := by
  have hkeys : (Fields.keys a'.expressions).Perm (Fields.keys a.expressions) := hperm.map Prod.fst
  have hdistinct' : (Fields.keys a'.expressions).Nodup := hkeys.nodup_iff.2 hdistinct
  have hfree' : Path.Unblocked (Fields.keys a'.expressions) := fun field hfield other hother =>
    hfree field (hkeys.mem_iff.1 hfield) other (hkeys.mem_iff.1 hother)
  have hcollects := collects_of_evaluate hdistinct hfree h
  cases hvalue : a'.evaluate context with
  | error f =>
    obtain ⟨entry, hentry, fault, hfault⟩ := (evaluate_eq_error_iff hdistinct' hfree').1 ⟨f, hvalue⟩
    obtain ⟨v, hv, -⟩ := hcollects.kept entry (hperm.mem_iff.1 hentry)
    exact nomatch hfault.symm.trans hv
  | ok v =>
    obtain ⟨members', -, rfl⟩ := evaluate_eq_ok_iff.1 hvalue
    have hcollects' := collects_of_evaluate hdistinct' hfree' hvalue
    exact ⟨members', rfl, hcollects.sameButOrder (hcollects'.perm hperm.symm)⟩

theorem wellFormed_of_assignAll (hcontext : context.WellFormed)
    (h : Value.WellFormed (.obj members))
    (hassign : assignAll context members rest = .ok members') :
    Value.WellFormed (.obj members') := by
  induction rest generalizing members with
  | nil =>
    obtain rfl := Except.ok.inj hassign
    exact h
  | cons entry rest ih =>
    obtain ⟨field, expression⟩ := entry
    obtain ⟨next, hnext, hrest⟩ := assignAll_cons_eq_ok_iff.1 hassign
    obtain ⟨v, hvalue, hwrite⟩ := assign_eq_ok_iff.1 hnext
    exact ih (h.write (Expression.wellFormed_of_evaluate hcontext hvalue) hwrite) hrest

end Assignments

/-! ## Nodes -/

/-- A node carries expressions, decoded or as an object. -/
def Node.Assigns (n : Node) (a : Assignments) : Prop :=
  ∃ c, n.content = some c ∧ Assignments.ofContent c = .ok a

theorem Node.Assigns.act_eq {n : Node} (h : n.Assigns a) (context : Value) :
    Handler.expression.act n context =
      match a.evaluate context with
      | .ok v => .give v
      | .error f => .fail (.nodeFailed n.id n.tag f.message) := by
  obtain ⟨c, hc, hread⟩ := h
  have hact : Handler.expression.act n context = .ofResult
      ((a.evaluate context).mapError fun f => .nodeFailed n.id n.tag f.message) := by
    simp only [Handler.expression, Handler.ofKind, Node.compute, hc, hread]
    rfl
  rw [hact]
  cases a.evaluate context with
  | ok v => rfl
  | error f => rfl

theorem Node.Assigns.act_eq_give_iff {n : Node} (h : n.Assigns a) {v : Value} :
    Handler.expression.act n context = .give v ↔ a.evaluate context = .ok v := by
  rw [h.act_eq]
  cases a.evaluate context with
  | ok w => simp [Action.give]
  | error f => simp [Action.give]

theorem Node.Assigns.exists_fail_iff {n : Node} (h : n.Assigns a) :
    (∃ f, Handler.expression.act n context = .fail f) ↔ ∃ f, a.evaluate context = .error f := by
  rw [h.act_eq]
  cases a.evaluate context with
  | ok v => simp [Action.give]
  | error f => simp

theorem Expression.evaluateText_eq_ok_iff {text : String} {v : Value} :
    evaluateText text context = .ok v ↔ evaluate text context = .ok v :=
  mapError_eq_ok_iff

theorem Expression.exists_evaluateText_eq_error_iff {text : String} :
    (∃ f, evaluateText text context = .error f) ↔ ∃ f, evaluate text context = .error f := by
  constructor
  · rintro ⟨f, hf⟩
    obtain ⟨fault, hfault, -⟩ := mapError_eq_error_iff.1 hf
    exact ⟨fault, hfault⟩
  · rintro ⟨fault, hfault⟩
    exact ⟨_, mapError_eq_error_iff.2 ⟨fault, hfault, rfl⟩⟩

/-- Expression nodes keep every field, in any order of declaration. When no field of a node is a
    proper beginning of another, the node fails exactly when one of its expressions has no value in
    the context. Otherwise it gives an object in which every field leads to the value of its
    expression and every key is the first key of a field; and a node with the same expressions in
    another order gives the same object but for the order of keys, which equals it whenever it
    equals itself. -/
theorem Handler.expression_keeps_fields {n : Node} (hn : n.Assigns a)
    (hdistinct : (Fields.keys a.expressions).Nodup)
    (hfree : Path.Unblocked (Fields.keys a.expressions)) (context : Value) :
    ((∃ f, Handler.expression.act n context = .fail f) ↔
      ∃ entry ∈ a.expressions, ∃ f, Expression.evaluateText entry.2 context = .error f) ∧
    ((¬∃ entry ∈ a.expressions, ∃ f, Expression.evaluateText entry.2 context = .error f) →
      ∃ members, Handler.expression.act n context = .give (.obj members) ∧
        (∀ entry ∈ a.expressions, Expression.evaluateText entry.2 context =
          .ok ((Value.obj members).atPath entry.1)) ∧
        (∀ key ∈ Fields.keys members, ∃ field ∈ Fields.keys a.expressions,
          (Path.ofText field).head? = some key) ∧
        ∀ n' a', n'.Assigns a' → a'.expressions.Perm a.expressions →
          ∃ members', Handler.expression.act n' context = .give (.obj members') ∧
            Value.SameButOrder (.obj members) (.obj members') ∧
            (context.WellFormed → (Value.obj members).equal (.obj members') =
              (Value.obj members).equal (.obj members))) := by
  have hfails : (∃ f, Handler.expression.act n context = .fail f) ↔
      ∃ entry ∈ a.expressions, ∃ f, Expression.evaluateText entry.2 context = .error f := by
    simp only [hn.exists_fail_iff, Assignments.evaluate_eq_error_iff hdistinct hfree,
      Expression.exists_evaluateText_eq_error_iff]
  refine ⟨hfails, fun hvalues => ?_⟩
  rw [← hfails, hn.exists_fail_iff] at hvalues
  cases hvalue : a.evaluate context with
  | error f => exact absurd ⟨f, hvalue⟩ hvalues
  | ok v =>
    obtain ⟨members, hassign, rfl⟩ := Assignments.evaluate_eq_ok_iff.1 hvalue
    have hcollects := Assignments.collects_of_evaluate hdistinct hfree hvalue
    refine ⟨members, hn.act_eq_give_iff.2 hvalue, fun entry hentry => ?_,
      fun key hkey => hcollects.exists_field hkey, fun n' a' hn' hperm => ?_⟩
    · obtain ⟨v, hv, hat⟩ := hcollects.kept entry hentry
      rw [Value.atPath, hat]
      exact Expression.evaluateText_eq_ok_iff.2 hv
    · obtain ⟨members', hvalue', hsame⟩ :=
        Assignments.evaluate_of_perm hdistinct hfree hperm hvalue
      refine ⟨members', hn'.act_eq_give_iff.2 hvalue', hsame, fun hcontext => ?_⟩
      exact hsame.equal_eq (Assignments.wellFormed_of_assignAll hcontext
        Value.wellFormed_obj_nil hassign)

/-! ## A sample -/

/-- The fields of an invoice, two of them in one object. -/
def Sample.invoiceFields : Fields String :=
  [("total.net", "price"), ("note", "\"due\""), ("total.tax", "tax")]

/-- A node that writes an invoice. -/
def Sample.invoice : Node :=
  ⟨"invoice", "", "expression", some (.assignments ⟨invoiceFields⟩), none⟩

/-- No field of the invoice is lost. -/
theorem Handler.expression_keeps_fields_invoice :
    Sample.invoice.Assigns ⟨Sample.invoiceFields⟩ ∧ (Fields.keys Sample.invoiceFields).Nodup ∧
      Path.Unblocked (Fields.keys Sample.invoiceFields) ∧
      ∃ members,
        Handler.expression.act Sample.invoice (.obj [("price", .str "9"), ("tax", .str "2")]) =
          .give (.obj members) ∧
        (Value.obj members).atPath "total.net" = .str "9" ∧
        (Value.obj members).atPath "total.tax" = .str "2" := by
  have hassigns : Sample.invoice.Assigns ⟨Sample.invoiceFields⟩ := ⟨_, rfl, rfl⟩
  have hdistinct : (Fields.keys Sample.invoiceFields).Nodup := by decide +kernel
  have hfree : Path.Unblocked (Fields.keys Sample.invoiceFields) := by decide +kernel
  refine ⟨hassigns, hdistinct, hfree, ?_⟩
  let order : Value := .obj [("price", .str "9"), ("tax", .str "2")]
  have hnet : Expression.evaluateText "price" order = .ok (.str "9") := by rfl
  have hnote : Expression.evaluateText "\"due\"" order = .ok (.str "due") := by rfl
  have htax : Expression.evaluateText "tax" order = .ok (.str "2") := by rfl
  have hvalues : ¬∃ entry ∈ Sample.invoiceFields, ∃ f,
      Expression.evaluateText entry.2 order = .error f := by
    simp [Sample.invoiceFields, hnet, hnote, htax]
  obtain ⟨members, hgives, hkept, -⟩ :=
    (expression_keeps_fields hassigns hdistinct hfree order).2 hvalues
  refine ⟨members, hgives, ?_, ?_⟩
  · have hentry := hkept ("total.net", "price") (by simp [Sample.invoiceFields])
    exact (Except.ok.inj (hnet.symm.trans hentry)).symm
  · have hentry := hkept ("total.tax", "tax") (by simp [Sample.invoiceFields])
    exact (Except.ok.inj (htax.symm.trans hentry)).symm

end DecisionFlow
