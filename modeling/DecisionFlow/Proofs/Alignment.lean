import Mathlib.Data.List.Forall2
import DecisionFlow.Fields

set_option autoImplicit false

/-! # Lists in step

Two lists whose elements go together one by one: what is found in the one goes together with what
is found in the other. For fields this holds key by key, and writing under one key keeps it. -/

namespace DecisionFlow

variable {α β : Type}

/-- In lists whose elements go together, the first elements that are looked for do. -/
theorem find?_rel {R : α → β → Prop} {p : α → Bool} {q : β → Bool}
    (hpq : ∀ a b, R a b → p a = q b) {as : List α} {bs : List β} (h : List.Forall₂ R as bs) :
    Option.Rel R (as.find? p) (bs.find? q) := by
  induction h with
  | nil => exact .none
  | @cons a b as bs hab _ ih =>
    rw [List.find?_cons, List.find?_cons, hpq a b hab]
    cases q b with
    | true => exact .some hab
    | false => exact ih

namespace Fields

/-- Fields with the same keys, whose values go together as their key says. -/
abbrev Rel (R : String → α → β → Prop) : Fields α → Fields β → Prop :=
  List.Forall₂ fun a b => a.1 = b.1 ∧ R a.1 a.2 b.2

variable {R : String → α → β → Prop} {fs : Fields α} {fs' : Fields β}

theorem keys_rel (h : Rel R fs fs') : keys fs = keys fs' := by
  induction h with
  | nil => rfl
  | cons hab _ ih => exact congrArg₂ List.cons hab.1 ih

/-- Under each key there are values that go together, or none. -/
theorem get?_rel (h : Rel R fs fs') (key : String) :
    Option.Rel (R key) (get? fs key) (get? fs' key) := by
  induction h with
  | nil => exact .none
  | @cons a b fs fs' hab _ ih =>
    obtain ⟨hkeys, hvalues⟩ := hab
    rw [get?, get?, ← hkeys]
    by_cases hkey : a.1 = key
    · rw [if_pos hkey, if_pos hkey]
      exact .some (hkey ▸ hvalues)
    · rw [if_neg hkey, if_neg hkey]
      exact ih

theorem put_rel (h : Rel R fs fs') {key : String} {a : α} {b : β} (hab : R key a b) :
    Rel R (put fs key a) (put fs' key b) := by
  induction h with
  | nil => exact .cons ⟨rfl, hab⟩ .nil
  | @cons c d fs fs' hcd hrest ih =>
    rw [put, put, ← hcd.1]
    by_cases hkey : c.1 = key
    · rw [if_pos hkey, if_pos hkey]
      exact .cons ⟨rfl, hkey ▸ hab⟩ hrest
    · rw [if_neg hkey, if_neg hkey]
      exact .cons ⟨rfl, hcd.2⟩ ih

theorem foldl_put_rel {entries : Fields α} {entries' : Fields β} (he : Rel R entries entries')
    (h : Rel R fs fs') :
    Rel R (entries.foldl (fun fs entry => put fs entry.1 entry.2) fs)
      (entries'.foldl (fun fs entry => put fs entry.1 entry.2) fs') := by
  induction he generalizing fs fs' with
  | nil => exact h
  | @cons a b entries entries' hab _ ih =>
    rw [List.foldl_cons, List.foldl_cons]
    refine ih ?_
    rw [← hab.1]
    exact put_rel h hab.2

/-- Entries that go together one by one make up fields that do. -/
theorem ofEntries_rel {entries : Fields α} {entries' : Fields β} (h : Rel R entries entries') :
    Rel R (ofEntries entries) (ofEntries entries') :=
  foldl_put_rel h .nil

end Fields

end DecisionFlow
