import DecisionFlow.Text.Blank
import DecisionFlow.Text.CellWidth

set_option autoImplicit false

/-! # Lines of a limited width

A line that takes more cells than there are is broken between words. A word is never broken: when it
is too wide for any line, its end gives way to an ellipsis. -/

namespace DecisionFlow.Text

/-! ## Breaking -/

/-- The parts of a line, each a word with the blanks after it; blanks in front of the first word are
    a part of their own. -/
def wordParts : List Char → List (List Char)
  | [] => []
  | c :: cs =>
    match wordParts cs with
    | [] => [[c]]
    | part :: parts =>
      if isBlank c ∧ part.head?.any (fun d => !isBlank d) then [c] :: part :: parts
      else (c :: part) :: parts

/-- The parts of a line with nothing in front of the first word's part: it takes the blanks in front
    of it. -/
def chunks (cs : List Char) : List (List Char) :=
  match wordParts cs with
  | front :: part :: parts =>
    if front.head?.any isBlank then (front ++ part) :: parts else front :: part :: parts
  | parts => parts

/-- Drops the blanks at the end. -/
def trimEnd (cs : List Char) : List Char :=
  (cs.reverse.dropWhile isBlank).reverse

/-- Puts chunks on lines of a width, behind a line that takes `cells` cells. A chunk goes to the
    next line when it does not fit without the blanks at its end; the first chunk stays where it
    is. -/
def fillLines (width cells : Nat) (line : List Char) : List (List Char) → List (List Char)
  | [] => [line]
  | chunk :: rest =>
    if cells + cellCount (trimEnd chunk) ≤ width then
      fillLines width (cells + cellCount chunk) (line ++ chunk) rest
    else if line = [] then fillLines width (cellCount chunk) chunk rest
    else line :: fillLines width (cellCount chunk) chunk rest

/-- The lines into which a line is broken for a width. -/
def breakLine (width : Nat) (cs : List Char) : List (List Char) :=
  fillLines width 0 [] (chunks cs)

theorem flatten_wordParts (cs : List Char) : (wordParts cs).flatten = cs := by
  induction cs with
  | nil => rfl
  | cons c cs ih =>
    unfold wordParts
    split
    · rename_i h
      simpa [h] using ih
    · rename_i part parts h
      rw [h] at ih
      split <;> simpa using ih

theorem flatten_chunks (cs : List Char) : (chunks cs).flatten = cs := by
  have h := flatten_wordParts cs
  unfold chunks
  split
  · rename_i front part parts hp
    rw [hp] at h
    split <;> simpa using h
  · exact h

theorem flatten_fillLines (width cells : Nat) (line : List Char) (parts : List (List Char)) :
    (fillLines width cells line parts).flatten = line ++ parts.flatten := by
  induction parts generalizing cells line with
  | nil => simp [fillLines]
  | cons chunk rest ih =>
    unfold fillLines
    split
    · simp [ih]
    · split
      · rename_i h
        simp [ih, h]
      · simp [ih]

/-- Breaking a line loses nothing. -/
theorem flatten_breakLine (width : Nat) (cs : List Char) :
    (breakLine width cs).flatten = cs := by
  simp [breakLine, flatten_fillLines, flatten_chunks]

/-! ## Cutting -/

/-- Drops blanks at the end of a line that has more characters than `size`, but no more than
    that. -/
def dropExcess (size : Nat) (cs : List Char) : List Char :=
  cs.take (max (trimEnd cs).length (min size cs.length))

/-- Searches for the front of a text that takes `cells` cells, between two lengths. A character that
    would take one cell too many gives way to a blank. `fuel` bounds the steps. -/
def searchFront (cells : Nat) (cs : List Char) : Nat → Nat → Nat → List Char
  | 0, low, _ => cs.take low
  | fuel + 1, low, high =>
    let middle := (low + high) / 2
    let front := cs.take (middle + 1)
    let count := cellCount front
    if count = cells + 1 ∧ front.getLast?.any (fun c => cellWidth c = 2) then
      front.dropLast ++ [' ']
    else if count = cells then front
    else if cells < count then searchFront cells cs fuel low middle
    else searchFront cells cs fuel middle high

/-- The front of a text that takes `cells` cells, which are fewer than the text takes. -/
def cutToCells (cells : Nat) (cs : List Char) : List Char :=
  searchFront cells cs (cs.length + 1) 0 cs.length

/-- A line that takes no more than `width` cells. -/
def fitLine (width : Nat) (cs : List Char) : List Char :=
  if cellCount cs ≤ width then cs else cutToCells (width - 1) cs ++ ['…']

example : (breakLine 4 "ab cde f".toList).map (fitLine 4 <| dropExcess 4 ·)
    = ["ab ".toList, "cde ".toList, "f".toList] := by
  decide +kernel

example : fitLine 3 "abcd".toList = "ab…".toList ∧ fitLine 4 "a中中".toList = "a中…".toList := by
  decide +kernel

end DecisionFlow.Text
