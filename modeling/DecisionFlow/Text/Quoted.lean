import DecisionFlow.Text.Visible

set_option autoImplicit false

/-! # Texts in messages

A message shows a text as a quoted literal: in single quotes, or in double quotes when it has a
single quote and no double one. The quote, the backslash and characters without a visible form are
spelled as escapes. -/

namespace DecisionFlow.Text

/-- `n` in lower case hexadecimal, padded with zeros to `width` digits. -/
def hex (width n : Nat) : List Char :=
  let ds := Nat.toDigits 16 n
  List.replicate (width - ds.length) '0' ++ ds

/-- The escape of a character by its code point, in the shortest of three widths. -/
def codeEscape (c : Char) : List Char :=
  let n := c.toNat
  if n < 0x100 then ['\\', 'x'] ++ hex 2 n
  else if n < 0x10000 then ['\\', 'u'] ++ hex 4 n
  else ['\\', 'U'] ++ hex 8 n

/-- A character inside a literal with the given quote. -/
def quoteChar (quote c : Char) : List Char :=
  if c = quote ∨ c = '\\' then ['\\', c]
  else if c = '\t' then ['\\', 't']
  else if c = '\n' then ['\\', 'n']
  else if c = '\r' then ['\\', 'r']
  else if isVisible c then [c]
  else codeEscape c

/-- A text as a quoted literal. -/
def quoted (cs : List Char) : List Char :=
  let quote := if '\'' ∈ cs ∧ '"' ∉ cs then '"' else '\''
  quote :: cs.flatMap (quoteChar quote) ++ [quote]

example : quoted ['a', '\''] = "\"a'\"".toList ∧ quoted ['\n'] = "'\\n'".toList := by
  decide +kernel

end DecisionFlow.Text
