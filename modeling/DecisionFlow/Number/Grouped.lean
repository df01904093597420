import DecisionFlow.Number.Literal

set_option autoImplicit false

/-! # Integers with grouped digits

An integer in a setting or on the command line has an optional sign and digits of any script, with
single underscores between them if wanted, and white space around it. -/

namespace DecisionFlow.Number.Grouped

open Text

/-- Why a text is no such integer. -/
inductive GroupFault where
  /-- It is something else. -/
  | malformed
  /-- It has more digits than `digitLimit`; the count. -/
  | tooManyDigits (count : Nat)
  deriving Repr, DecidableEq

/-- The leading digits and the text after them, after a digit or not. Every underscore must stand
    between two digits; none otherwise. -/
def spanGroups (afterDigit : Bool) : List Char → Option (List Nat × List Char)
  | [] => some ([], [])
  | c :: cs =>
    if c = '_' then
      if afterDigit ∧ cs.head?.any isDigit then spanGroups false cs else none
    else
      match digitValue? c with
      | none => some ([], c :: cs)
      | some d => (spanGroups true cs).map fun (ds, rest) => (d :: ds, rest)

/-- Reads an integer. Too many digits are noticed before anything after them. -/
def read (s : String) : Except GroupFault Int :=
  match spanGroups false (sign (trimBy isSpace s.toList)).2 with
  | none => .error .malformed
  | some ([], _) => .error .malformed
  | some (ds, rest) =>
    if digitLimit < ds.length then .error (.tooManyDigits ds.length)
    else if rest ≠ [] then .error .malformed
    else
      let size : Int := natOfDigits ds
      .ok (if (sign (trimBy isSpace s.toList)).1 then -size else size)

example : [" -1_000 ", "+7", "٣"].map (fun s => (read s).toOption)
    = [some (-1000), some 7, some 3] := by
  decide +kernel

example : ["1__0", "_1", "1_", "- 1", ""].all fun s => (read s).toOption.isNone := by
  decide +kernel

end DecisionFlow.Number.Grouped
