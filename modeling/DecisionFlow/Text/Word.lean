import DecisionFlow.Text.Blank

set_option autoImplicit false

/-! # Words and quotations

Texts that spell a truth value, and texts in double quotes. -/

namespace DecisionFlow.Text

/-- The truth value that a text without its surrounding blanks spells, in letters of any case. No
    other letter than an ASCII one lowers to a letter of the two words. -/
def readBool? (cs : List Char) : Option Bool :=
  let word := (trim cs).map Char.toLower
  if word = "true".toList then some true
  else if word = "false".toList then some false
  else none

/-- The inside of a text in double quotes. -/
def unquote? : List Char → Option (List Char)
  | '"' :: c :: cs => if (c :: cs).getLast? = some '"' then some (c :: cs).dropLast else none
  | _ => none

theorem eq_of_unquote? {cs inner : List Char} (h : unquote? cs = some inner) :
    cs = '"' :: inner ++ ['"'] := by
  unfold unquote? at h
  split at h
  · rename_i c rest
    split at h
    · rename_i hlast
      simp only [Option.some.injEq] at h
      subst h
      obtain ⟨front, hfront⟩ := List.getLast?_eq_some_iff.mp hlast
      simp [hfront]
    · simp at h
  · simp at h

end DecisionFlow.Text
