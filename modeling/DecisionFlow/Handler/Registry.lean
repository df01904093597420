import DecisionFlow.Handler.Standard

set_option autoImplicit false

/-! # Registries

A registry gives every known tag its handler. Handlers are registered one after the other, each
under all its tags, and a later one replaces an earlier one under the tags that they share. -/

namespace DecisionFlow

/-! ## Registering -/

namespace Fields

variable {α : Type}

/-- Writes one value under several keys. -/
def putAll (fs : Fields α) (keys : List String) (value : α) : Fields α :=
  keys.foldl (fun fs key => put fs key value) fs

/-- Writes values one after the other, each under its keys. -/
def route (keysOf : α → List String) (values : List α) : Fields α :=
  values.foldl (fun fs value => putAll fs (keysOf value) value) []

theorem get?_putAll (fs : Fields α) (keys : List String) (value : α) (key : String) :
    get? (putAll fs keys value) key = if key ∈ keys then some value else get? fs key := by
  induction keys generalizing fs with
  | nil => simp [putAll]
  | cons k keys ih =>
    have hstep : putAll fs (k :: keys) value = putAll (put fs k value) keys value := rfl
    rw [hstep, ih, get?_put]
    by_cases hm : key ∈ keys
    · simp [hm]
    · by_cases hk : key = k <;> simp [hm, hk]

/-- The last value stands under its keys, and under other keys stands what stood there before. -/
theorem get?_route_concat (keysOf : α → List String) (values : List α) (value : α) (key : String) :
    get? (route keysOf (values ++ [value])) key =
      if key ∈ keysOf value then some value else get? (route keysOf values) key := by
  rw [← get?_putAll, route, route, List.foldl_append, List.foldl_cons, List.foldl_nil]

end Fields

/-! ## Registries -/

/-- The handlers of tags. -/
abbrev Registry := Fields Handler

/-- The registry of the standard handlers and of further ones after them. -/
def Registry.withExtra (extra : List Handler) : Registry :=
  Fields.route Handler.tags (Handler.standard ++ extra)

/-- The handler of a tag. -/
def Registry.handler? (r : Registry) (tag : String) : Option Handler :=
  Fields.get? r tag

end DecisionFlow
