set_option autoImplicit false

/-! # Blank characters and trimming

Two classes of white space, and the removal of leading and trailing characters of a class. Texts
are taken as lists of characters, so that every function below is a recursion on the data. -/

namespace DecisionFlow.Text

/-! ## Classes -/

/-- The characters of the Unicode property `White_Space`. -/
def isSpace (c : Char) : Bool :=
  let n := c.toNat
  (0x09 ≤ n && n ≤ 0x0D) || n == 0x20 || n == 0x85 || n == 0xA0 || n == 0x1680
    || (0x2000 ≤ n && n ≤ 0x200A) || n == 0x2028 || n == 0x2029 || n == 0x202F
    || n == 0x205F || n == 0x3000

/-- Blank characters: white space and the four information separators U+001C to U+001F, which
    have a separating direction class although they are control characters. -/
def isBlank (c : Char) : Bool :=
  (0x1C ≤ c.toNat && c.toNat ≤ 0x1F) || isSpace c

theorem isBlank_of_isSpace {c : Char} (h : isSpace c = true) : isBlank c = true := by
  simp [isBlank, h]

/-! ## Trimming -/

/-- Drops the leading and the trailing characters of the class `p`. -/
def trimBy (p : Char → Bool) (cs : List Char) : List Char :=
  ((cs.dropWhile p).reverse.dropWhile p).reverse

/-- Drops leading and trailing blanks. -/
def trim (cs : List Char) : List Char :=
  trimBy isBlank cs

@[simp] theorem trimBy_nil (p : Char → Bool) : trimBy p [] = [] := rfl

@[simp] theorem trim_nil : trim [] = [] := rfl

/-- A text that starts and ends outside the class is left as it is. -/
theorem trimBy_eq_self {p : Char → Bool} {cs : List Char} (hhead : ∀ c ∈ cs.head?, p c = false)
    (hlast : ∀ c ∈ cs.getLast?, p c = false) : trimBy p cs = cs := by
  have hfront : cs.dropWhile p = cs := by
    cases cs with
    | nil => rfl
    | cons c cs => simp [hhead c (by simp)]
  have hback : cs.reverse.dropWhile p = cs.reverse := by
    cases hrev : cs.reverse with
    | nil => rfl
    | cons c t =>
      have hc : c ∈ cs.getLast? := by simp [List.getLast?_eq_head?_reverse, hrev]
      simp [hlast c hc]
  simp [trimBy, hfront, hback]

end DecisionFlow.Text
