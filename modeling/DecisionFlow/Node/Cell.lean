import DecisionFlow.Json.Printer
import DecisionFlow.Number.Literal
import DecisionFlow.Text.Blank

set_option autoImplicit false

/-! # Cells

A cell of a decision table is any datum. As a condition it is read as text: a text stands for
itself, null for nothing, a number for its digits, and a list or an object for its document. -/

namespace DecisionFlow.Cell

/-- The text of a cell. A cell has none when it is an integer beyond the range of doubles, or when
    an integer in it has too many digits to be written. -/
def text : Json → Except Number.Fault String
  | .null => .ok ""
  | .bool b => .ok (if b then "true" else "false")
  | .int n =>
    match Number.ofInt? n with
    | some x => .ok (Number.plainText x)
    | none => .error .tooLarge
  | .num x => .ok (Number.plainText x)
  | .str s => .ok s
  | j => if j.ints.all Number.isWritable then .ok j.toText else .error .unwritable

/-- Whether a text is blank. -/
def isBlankText (s : String) : Bool :=
  (Text.trim s.toList).isEmpty

/-- Whether a cell is blank: null, or a text without any other character than blanks. -/
def isBlank (cell : Json) : Except Number.Fault Bool :=
  (text cell).map isBlankText

@[simp] theorem text_null : text .null = .ok "" := rfl

@[simp] theorem text_str (s : String) : text (.str s) = .ok s := rfl

end DecisionFlow.Cell
