import Mathlib.Data.List.Forall2
import DecisionFlow.Node.Table
import DecisionFlow.Proofs.Results

set_option autoImplicit false

/-! # Hit policies compared

One table under its three kinds of policies. Collecting looks at all rows, so that it knows the
first hit too, and it fails at the first row that fails. Stopping at the first hit gives the same
hit, and the same fault where it fails at all, but it does not come to the rows after the hit. -/

namespace DecisionFlow

namespace Table

variable {t : Table} {context v : Value} {row : List Json} {rows : List (List Json)}
  {values : List Value} {f : Fault}

/-! ## Rows -/

/-- A row matches: all its conditions hold. -/
def Matches (t : Table) (context : Value) (row : List Json) : Prop :=
  Row.holds context (t.conditions row) = .ok true

/-- A row does not match: it is not in question that one of its conditions does not hold. -/
def PassedOver (t : Table) (context : Value) (row : List Json) : Prop :=
  Row.holds context (t.conditions row) = .ok false

/-- A row gives a value: it matches, and its results make up the value. -/
def Gives (t : Table) (context : Value) (row : List Json) (v : Value) : Prop :=
  t.Matches context row ∧ ∃ members, Row.write [] (t.results row) = .ok members ∧ v = .obj members

instance (t : Table) (context : Value) : DecidablePred (t.Matches context) := fun row =>
  inferInstanceAs (Decidable (Row.holds context (t.conditions row) = .ok true))

theorem hit?_eq_some_iff : t.hit? context row = .ok (some v) ↔ t.Gives context row v := by
  rw [hit?, Gives, Matches]
  cases hholds : Row.holds context (t.conditions row) with
  | error f => simp
  | ok holds =>
    cases holds with
    | false => simp
    | true => simp [map_eq_ok_iff]

theorem hit?_eq_none_iff : t.hit? context row = .ok none ↔ t.PassedOver context row := by
  rw [hit?, PassedOver]
  cases hholds : Row.holds context (t.conditions row) with
  | error f => simp
  | ok holds =>
    cases holds with
    | false => simp
    | true => simp [map_eq_ok_iff]

theorem PassedOver.not_matches (h : t.PassedOver context row) : ¬t.Matches context row := by
  intro hmatches
  exact nomatch h.symm.trans hmatches

/-! ## All hits -/

theorem hits_cons_eq_ok_iff : t.hits context (row :: rows) = .ok values ↔
    ∃ hit rest, t.hit? context row = .ok hit ∧ t.hits context rows = .ok rest ∧
      values = hit.toList ++ rest := by
  rw [hits]
  cases t.hit? context row with
  | error f => simp
  | ok hit => simp [map_eq_ok_iff]

/-- What is collected are the values of the matching rows, in the order of the rows. -/
theorem forall₂_gives_of_hits (h : t.hits context rows = .ok values) :
    List.Forall₂ (t.Gives context) (rows.filter (t.Matches context ·)) values := by
  induction rows generalizing values with
  | nil =>
    obtain rfl := Except.ok.inj h
    exact .nil
  | cons row rows ih =>
    obtain ⟨hit, rest, hhit, hrest, rfl⟩ := hits_cons_eq_ok_iff.1 h
    cases hit with
    | none =>
      have hnot := (hit?_eq_none_iff.1 hhit).not_matches
      rw [List.filter_cons_of_neg (by simpa using hnot)]
      exact ih hrest
    | some v =>
      have hgives := hit?_eq_some_iff.1 hhit
      rw [List.filter_cons_of_pos (by simpa using hgives.1)]
      exact .cons hgives (ih hrest)

/-- Collecting fails at the first row that fails. -/
theorem exists_failing_of_hits (h : t.hits context rows = .error f) :
    ∃ before failing after, rows = before ++ failing :: after ∧
      (∀ row ∈ before, ∃ hit, t.hit? context row = .ok hit) ∧
      t.hit? context failing = .error f := by
  induction rows with
  | nil => exact nomatch h
  | cons row rows ih =>
    rw [hits] at h
    cases hhit : t.hit? context row with
    | error g =>
      rw [hhit] at h
      obtain rfl := Except.error.inj h
      exact ⟨[], row, rows, rfl, by simp, hhit⟩
    | ok hit =>
      rw [hhit] at h
      obtain ⟨before, failing, after, rfl, hbefore, hfailing⟩ := ih (map_eq_error_iff.1 h)
      exact ⟨row :: before, failing, after, rfl,
        List.forall_mem_cons.2 ⟨⟨hit, hhit⟩, hbefore⟩, hfailing⟩

/-! ## The first hit -/

/-- The first hit is the first of all hits. -/
theorem firstHit?_of_hits (h : t.hits context rows = .ok values) :
    t.firstHit? context rows = .ok values.head? := by
  induction rows generalizing values with
  | nil =>
    obtain rfl := Except.ok.inj h
    rfl
  | cons row rows ih =>
    obtain ⟨hit, rest, hhit, hrest, rfl⟩ := hits_cons_eq_ok_iff.1 h
    rw [firstHit?, hhit]
    cases hit with
    | none => exact ih hrest
    | some v => rfl

/-- A row that fails before there is a hit fails the collecting too. -/
theorem hits_of_firstHit?_error (h : t.firstHit? context rows = .error f) :
    t.hits context rows = .error f := by
  induction rows with
  | nil => exact nomatch h
  | cons row rows ih =>
    rw [firstHit?] at h
    rw [hits]
    cases hhit : t.hit? context row with
    | error g =>
      rw [hhit] at h
      obtain rfl := Except.error.inj h
      rfl
    | ok hit =>
      rw [hhit] at h
      cases hit with
      | none => exact map_eq_error_iff.2 (ih h)
      | some v => exact nomatch h

theorem firstHit?_append {more : List (List Json)}
    (h : ∀ row ∈ rows, t.PassedOver context row) :
    t.firstHit? context (rows ++ more) = t.firstHit? context more := by
  induction rows with
  | nil => rfl
  | cons row rows ih =>
    obtain ⟨hrow, hrows⟩ := List.forall_mem_cons.1 h
    rw [List.cons_append, firstHit?, hit?_eq_none_iff.2 hrow]
    exact ih hrows

/-- Among rows that do not fail, all are passed over, or one is the first that gives a value. -/
theorem passedOver_or_exists_gives (h : ∀ row ∈ rows, ∃ hit, t.hit? context row = .ok hit) :
    (∀ row ∈ rows, t.PassedOver context row) ∨
    ∃ before row after v, rows = before ++ row :: after ∧
      (∀ r ∈ before, t.PassedOver context r) ∧ t.Gives context row v := by
  induction rows with
  | nil => exact Or.inl (by simp)
  | cons row rows ih =>
    obtain ⟨⟨hit, hhit⟩, hrows⟩ := List.forall_mem_cons.1 h
    cases hit with
    | some v => exact Or.inr ⟨[], row, rows, v, rfl, by simp, hit?_eq_some_iff.1 hhit⟩
    | none =>
      have hover := hit?_eq_none_iff.1 hhit
      obtain hall | ⟨before, found, after, v, rfl, hbefore, hgives⟩ := ih hrows
      · exact Or.inl (List.forall_mem_cons.2 ⟨hover, hall⟩)
      · exact Or.inr ⟨row :: before, found, after, v, rfl,
          List.forall_mem_cons.2 ⟨hover, hbefore⟩, hgives⟩

/-- Where the collecting fails and the search for the first hit does not, the hit is that of a row
    before the first row that fails. -/
theorem exists_hit_before_failing {hit : Option Value} (hhits : t.hits context rows = .error f)
    (hfirst : t.firstHit? context rows = .ok hit) :
    ∃ before row between failing after v, hit = some v ∧
      rows = before ++ row :: (between ++ failing :: after) ∧
      (∀ r ∈ before, t.PassedOver context r) ∧ t.Gives context row v ∧
      (∀ r ∈ between, ∃ hit, t.hit? context r = .ok hit) ∧ t.hit? context failing = .error f := by
  obtain ⟨front, failing, after, rfl, hfront, hfailing⟩ := exists_failing_of_hits hhits
  obtain hall | ⟨before, row, between, v, rfl, hbefore, hgives⟩ := passedOver_or_exists_gives hfront
  · rw [firstHit?_append hall, firstHit?, hfailing] at hfirst
    exact nomatch hfirst
  · rw [List.append_assoc, firstHit?_append hbefore, List.cons_append, firstHit?,
      hit?_eq_some_iff.2 hgives] at hfirst
    refine ⟨before, row, between, failing, after, v, (Except.ok.inj hfirst).symm, ?_, hbefore,
      hgives, fun r hr => hfront r (by simp [hr]), hfailing⟩
    rw [List.append_assoc, List.cons_append]

/-! ## Rows that give the same -/

section

variable {other : Table} {f : List Json → List Json}

/-- All hits of a table are known from what each of its rows gives. -/
theorem hits_map (h : ∀ row, other.hit? context (f row) = t.hit? context row) :
    other.hits context (rows.map f) = t.hits context rows := by
  induction rows with
  | nil => rfl
  | cons row rows ih => rw [List.map_cons, hits, hits, h, ih]

/-- So is the first hit. -/
theorem firstHit?_map (h : ∀ row, other.hit? context (f row) = t.hit? context row) :
    other.firstHit? context (rows.map f) = t.firstHit? context rows := by
  induction rows with
  | nil => rfl
  | cons row rows ih => rw [List.map_cons, firstHit?, firstHit?, h, ih]

end

/-! ## Policies -/

/-- The table under another policy. -/
def withPolicy (t : Table) (name : String) : Table :=
  { t with hitPolicy := name }

theorem hits_withPolicy (name : String) :
    (t.withPolicy name).hits context rows = t.hits context rows := by
  have hmap : (t.withPolicy name).hits context (rows.map id) = t.hits context rows :=
    hits_map fun _ => rfl
  rwa [List.map_id] at hmap

theorem firstHit?_withPolicy (name : String) :
    (t.withPolicy name).firstHit? context rows = t.firstHit? context rows := by
  have hmap : (t.withPolicy name).firstHit? context (rows.map id) = t.firstHit? context rows :=
    firstHit?_map fun _ => rfl
  rwa [List.map_id] at hmap

/-- What a table gives under a policy, from what its rows give. -/
theorem evaluate_withPolicy (name : String) :
    (t.withPolicy name).evaluate context =
      match HitPolicy.ofName name with
      | .first => (t.firstHit? context t.rules).map fun hit => hit.getD .null
      | .collect => (t.hits context t.rules).map .list
      | .other => (t.hits context t.rules).map fun values => values.head?.getD .null := by
  rw [evaluate, hits_withPolicy, firstHit?_withPolicy]
  rfl

/-- Policies agree. When collecting gives a list, it holds the values of the matching rows in the
    order of the rows, and any other policy gives the first of them, or null when there is none. A
    policy that looks at all rows fails exactly when collecting does, and with the same fault; so
    does the policy that stops at the first hit, unless it has a hit before the first row that
    fails. -/
theorem policies_agree (t : Table) (context : Value) {first collect other : String}
    (hfirst : HitPolicy.ofName first = .first) (hcollect : HitPolicy.ofName collect = .collect)
    (hother : HitPolicy.ofName other = .other) :
    (∀ v, (t.withPolicy collect).evaluate context = .ok v →
      ∃ values, v = .list values ∧
        List.Forall₂ (t.Gives context) (t.rules.filter (t.Matches context ·)) values ∧
        (t.withPolicy first).evaluate context = .ok (values.head?.getD .null) ∧
        (t.withPolicy other).evaluate context = .ok (values.head?.getD .null)) ∧
    (∀ f, (t.withPolicy other).evaluate context = .error f ↔
      (t.withPolicy collect).evaluate context = .error f) ∧
    (∀ f, (t.withPolicy first).evaluate context = .error f →
      (t.withPolicy collect).evaluate context = .error f) ∧
    ∀ f v, (t.withPolicy collect).evaluate context = .error f →
      (t.withPolicy first).evaluate context = .ok v →
      ∃ before row between failing after,
        t.rules = before ++ row :: (between ++ failing :: after) ∧
        (∀ r ∈ before, t.PassedOver context r) ∧ t.Gives context row v ∧
        (∀ r ∈ between, ∃ hit, t.hit? context r = .ok hit) ∧
        t.hit? context failing = .error f := by
  simp only [evaluate_withPolicy, hfirst, hcollect, hother, map_eq_error_iff, map_eq_ok_iff]
  refine ⟨?_, fun _ => trivial, fun f => hits_of_firstHit?_error, ?_⟩
  · rintro v ⟨values, hvalues, rfl⟩
    exact ⟨values, rfl, forall₂_gives_of_hits hvalues,
      ⟨values.head?, firstHit?_of_hits hvalues, rfl⟩, ⟨values, hvalues, rfl⟩⟩
  · rintro f v hhits ⟨hit, hhit, rfl⟩
    obtain ⟨before, row, between, failing, after, w, rfl, hrules, hbefore, hgives, hbetween,
      hfailing⟩ := exists_hit_before_failing hhits hhit
    exact ⟨before, row, between, failing, after, hrules, hbefore, hgives, hbetween, hfailing⟩

end Table

/-! ## A sample -/

/-- A table with two rows for all contexts. The results of the first make up an object; in the
    second row, the result for the first column is in the way of that for the other. -/
def Sample.discounts : Table :=
  ⟨"first", [⟨"", "", "", "age"⟩], [⟨"", "", "", "rate"⟩, ⟨"", "", "", "rate.unit"⟩],
    [[.null, .str "low"], [.str " ", .str "high", .str "percent"]]⟩

/-- Collecting fails at the second row, which the search for the first hit does not come to. -/
theorem Table.policies_agree_discounts :
    HitPolicy.ofName "First" = .first ∧ HitPolicy.ofName "collect" = .collect ∧
      HitPolicy.ofName "any" = .other ∧
      (Sample.discounts.withPolicy "collect").evaluate .null =
        .error (.conflict ⟨"rate.unit", "rate"⟩) ∧
      (Sample.discounts.withPolicy "any").evaluate .null =
        .error (.conflict ⟨"rate.unit", "rate"⟩) ∧
      (Sample.discounts.withPolicy "First").evaluate .null = .ok (.obj [("rate", .str "low")]) ∧
      ∃ row ∈ Sample.discounts.rules,
        Sample.discounts.Gives .null row (.obj [("rate", .str "low")]) := by
  have hfirst : HitPolicy.ofName "First" = .first := by decide +kernel
  have hcollect : HitPolicy.ofName "collect" = .collect := by decide +kernel
  have hother : HitPolicy.ofName "any" = .other := by decide +kernel
  obtain ⟨-, hsame, -, hbefore⟩ :=
    policies_agree Sample.discounts .null hfirst hcollect hother
  have hfails : (Sample.discounts.withPolicy "collect").evaluate .null =
      .error (.conflict ⟨"rate.unit", "rate"⟩) := by rfl
  have hgives : (Sample.discounts.withPolicy "First").evaluate .null =
      .ok (.obj [("rate", .str "low")]) := by rfl
  obtain ⟨before, row, between, failing, after, hrules, -, hrow, -⟩ := hbefore _ _ hfails hgives
  exact ⟨hfirst, hcollect, hother, hfails, (hsame _).2 hfails, hgives, row, by simp [hrules], hrow⟩

end DecisionFlow
