set_option autoImplicit false

/-! # Ordered fields

Objects, registries and stores are lists of keys with values in the order in which the keys were
first written. Lookup sees the first entry of a key; writing replaces the entry in place or adds
one at the end, so that a list with distinct keys keeps them distinct. -/

namespace DecisionFlow

/-- Keys with values, in the order of their first writing. -/
abbrev Fields (α : Type) := List (String × α)

namespace Fields

variable {α β : Type}

/-! ## Operations -/

/-- The value under a key. -/
def get? : Fields α → String → Option α
  | [], _ => none
  | (k, v) :: fs, key => if k = key then some v else get? fs key

/-- Whether a key is present. -/
def has (fs : Fields α) (key : String) : Bool :=
  (get? fs key).isSome

/-- Writes a value under a key: in place when the key is present, at the end otherwise. -/
def put : Fields α → String → α → Fields α
  | [], key, value => [(key, value)]
  | (k, v) :: fs, key, value =>
    if k = key then (k, value) :: fs else (k, v) :: put fs key value

/-- Drops every entry of a key. -/
def erase (fs : Fields α) (key : String) : Fields α :=
  fs.filter fun entry => entry.1 ≠ key

/-- The keys in order. -/
def keys (fs : Fields α) : List String :=
  fs.map Prod.fst

/-- Writes entries one after the other: of two with one key the later value stays, in the place of
    the earlier. -/
def ofEntries (entries : List (String × α)) : Fields α :=
  entries.foldl (fun fs entry => put fs entry.1 entry.2) []

/-- Changes every value. -/
def mapValues (f : α → β) (fs : Fields α) : Fields β :=
  fs.map fun entry => (entry.1, f entry.2)

/-! ## Lookup after writing -/

@[simp] theorem get?_nil (key : String) : get? ([] : Fields α) key = none := rfl

theorem get?_put_self (fs : Fields α) (key : String) (value : α) :
    get? (put fs key value) key = some value := by
  induction fs with
  | nil => simp [put, get?]
  | cons entry fs ih =>
    by_cases h : entry.1 = key
    · simp [put, get?, h]
    · simp [put, get?, h, ih]

theorem get?_put_of_ne {key other : String} (h : other ≠ key) (fs : Fields α) (value : α) :
    get? (put fs key value) other = get? fs other := by
  induction fs with
  | nil => simp [put, get?, Ne.symm h]
  | cons entry fs ih =>
    by_cases hk : entry.1 = key
    · have : ¬entry.1 = other := fun he => h (he ▸ hk)
      simp [put, get?, hk, Ne.symm h]
    · by_cases ho : entry.1 = other
      · simp [put, get?, ho, h]
      · simp [put, get?, hk, ho, ih]

theorem get?_put (fs : Fields α) (key other : String) (value : α) :
    get? (put fs key value) other = if other = key then some value else get? fs other := by
  by_cases h : other = key
  · subst h
    simp [get?_put_self]
  · simp [h, get?_put_of_ne h]

theorem get?_erase (fs : Fields α) (key other : String) :
    get? (erase fs key) other = if other = key then none else get? fs other := by
  induction fs with
  | nil => simp [erase]
  | cons entry fs ih =>
    unfold erase at ih ⊢
    by_cases hk : entry.1 = key
    · by_cases ho : other = key
      · simp [hk, ho] at ih ⊢
        exact ih
      · simp [hk, ho] at ih ⊢
        simp [get?, hk, Ne.symm ho, ih]
    · by_cases ho : other = key
      · subst ho
        simp [hk, get?] at ih ⊢
        exact ih
      · by_cases he : entry.1 = other <;> simp [hk, ho, he, get?] at ih ⊢
        exact ih

theorem put_put (fs : Fields α) (key : String) (first second : α) :
    put (put fs key first) key second = put fs key second := by
  induction fs with
  | nil => simp [put]
  | cons entry fs ih =>
    by_cases h : entry.1 = key
    · simp [put, h]
    · simp [put, h, ih]

/-- Writing what stands under a key already changes nothing. -/
theorem put_of_get? {fs : Fields α} {key : String} {value : α} (h : get? fs key = some value) :
    put fs key value = fs := by
  induction fs with
  | nil => simp at h
  | cons entry fs ih =>
    obtain ⟨k, v⟩ := entry
    rw [get?] at h
    split at h
    · next hk =>
      obtain rfl := Option.some.inj h
      simp [put, hk]
    · next hk => simp [put, hk, ih h]

/-! ## Keys -/

theorem mem_keys_iff_has (fs : Fields α) (key : String) : key ∈ keys fs ↔ has fs key = true := by
  induction fs with
  | nil => simp [keys, has]
  | cons entry fs ih =>
    by_cases h : entry.1 = key
    · simp [keys, has, get?, h]
    · simp only [has, keys] at ih
      simp [keys, has, get?, h, Ne.symm h, ← ih]

@[simp] theorem keys_mapValues (f : α → β) (fs : Fields α) : keys (mapValues f fs) = keys fs := by
  simp [keys, mapValues]

theorem mem_of_get? {fs : Fields α} {key : String} {a : α}
    (h : get? fs key = some a) : (key, a) ∈ fs := by
  induction fs with
  | nil => simp at h
  | cons entry fs ih =>
    obtain ⟨k, v⟩ := entry
    rw [get?] at h
    split at h
    · next hk =>
      obtain rfl := Option.some.inj h
      exact hk ▸ List.mem_cons_self ..
    · exact List.mem_cons_of_mem _ (ih h)

/-- Where keys are distinct, every entry is the one that is found under its key. -/
theorem get?_of_mem {fs : Fields α} (hkeys : (keys fs).Nodup) {key : String} {a : α}
    (h : (key, a) ∈ fs) : get? fs key = some a := by
  induction fs with
  | nil => simp at h
  | cons entry fs ih =>
    rw [keys, List.map_cons, List.nodup_cons] at hkeys
    obtain rfl | h := List.mem_cons.1 h
    · simp [get?]
    · have hne : entry.1 ≠ key := by
        rintro rfl
        exact hkeys.1 (List.mem_map.2 ⟨_, h, rfl⟩)
      rw [get?, if_neg hne]
      exact ih hkeys.2 h

/-- Writing keeps the keys, and adds a new one at the end. -/
theorem keys_put (fs : Fields α) (key : String) (value : α) :
    keys (put fs key value) = if key ∈ keys fs then keys fs else keys fs ++ [key] := by
  induction fs with
  | nil => simp [put, keys]
  | cons entry fs ih =>
    unfold keys at ih ⊢
    by_cases h : entry.1 = key
    · simp [put, h]
    · by_cases hm : key ∈ fs.map Prod.fst
      · rw [if_pos hm] at ih
        simp [put, h, hm, ih]
      · simp [put, h, Ne.symm h, hm, ih]

/-- Dropping a key leaves the others in their order. -/
theorem keys_erase (fs : Fields α) (key : String) :
    keys (erase fs key) = (keys fs).filter fun other => other ≠ key := by
  rw [keys, keys, erase, List.filter_map]
  rfl

theorem nodup_keys_put {fs : Fields α} (h : (keys fs).Nodup) (key : String) (value : α) :
    (keys (put fs key value)).Nodup := by
  rw [keys_put]
  split
  · exact h
  · rename_i hk
    rw [List.nodup_append]
    refine ⟨h, by simp, fun a ha b hb => ?_⟩
    simp only [List.mem_singleton] at hb
    exact fun he => hk (hb ▸ he ▸ ha)

/-! ## Lists of entries -/

/-- A new key goes to the end. -/
theorem put_of_not_mem {fs : Fields α} {key : String} (h : key ∉ keys fs) (value : α) :
    put fs key value = fs ++ [(key, value)] := by
  induction fs with
  | nil => rfl
  | cons entry fs ih =>
    simp only [keys, List.map_cons, List.mem_cons, not_or] at h
    simp [put, Ne.symm h.1, ih h.2]

theorem foldl_put_of_nodup {fs entries : Fields α} (h : (keys (fs ++ entries)).Nodup) :
    entries.foldl (fun fs entry => put fs entry.1 entry.2) fs = fs ++ entries := by
  induction entries generalizing fs with
  | nil => simp
  | cons entry entries ih =>
    have hnew : entry.1 ∉ keys fs := by
      intro hm
      simp only [keys, List.map_append, List.map_cons, List.nodup_append] at h
      exact h.2.2 entry.1 hm entry.1 (by simp) rfl
    rw [List.foldl_cons, put_of_not_mem hnew, ih (by simpa using h)]
    simp

/-- Entries with distinct keys are fields already. -/
theorem ofEntries_of_nodup {entries : Fields α} (h : (keys entries).Nodup) :
    ofEntries entries = entries := by
  have := @foldl_put_of_nodup α [] entries h
  simpa [ofEntries] using this

theorem nodup_keys_foldl_put {fs : Fields α} (h : (keys fs).Nodup) (entries : Fields α) :
    (keys (entries.foldl (fun fs entry => put fs entry.1 entry.2) fs)).Nodup := by
  induction entries generalizing fs with
  | nil => exact h
  | cons entry entries ih => exact ih (nodup_keys_put h entry.1 entry.2)

theorem nodup_keys_ofEntries (entries : Fields α) : (keys (ofEntries entries)).Nodup :=
  nodup_keys_foldl_put (by simp [keys]) entries

theorem forall_mem_put {p : α → Prop} {fs : Fields α} (h : ∀ entry ∈ fs, p entry.2) {value : α}
    (hv : p value) (key : String) : ∀ entry ∈ put fs key value, p entry.2 := by
  induction fs with
  | nil => simpa [put] using hv
  | cons entry fs ih =>
    simp only [List.mem_cons, forall_eq_or_imp] at h
    by_cases hk : entry.1 = key
    · simpa [put, hk] using ⟨hv, fun a b hab => h.2 (a, b) hab⟩
    · simpa [put, hk] using ⟨h.1, fun a b hab => ih h.2 (a, b) hab⟩

theorem forall_mem_foldl_put {p : α → Prop} {fs entries : Fields α}
    (h : ∀ entry ∈ fs, p entry.2) (he : ∀ entry ∈ entries, p entry.2) :
    ∀ entry ∈ entries.foldl (fun fs entry => put fs entry.1 entry.2) fs, p entry.2 := by
  induction entries generalizing fs with
  | nil => exact h
  | cons entry entries ih =>
    exact ih (forall_mem_put h (he entry (by simp)) entry.1) fun e hm => he e (by simp [hm])

/-- What holds of every value that was written holds of every value that is there. -/
theorem forall_mem_ofEntries {p : α → Prop} {entries : Fields α}
    (he : ∀ entry ∈ entries, p entry.2) : ∀ entry ∈ ofEntries entries, p entry.2 :=
  forall_mem_foldl_put (by simp) he

end Fields

end DecisionFlow
