import DecisionFlow.Command.Outcome
import DecisionFlow.Proofs.Results
import Mathlib.Data.List.TakeWhile

set_option autoImplicit false

/-! # Faults as they are shown

A fault is reported in a line of markup, in red and behind the title of the fault. The title comes
through the rendering as it is. The wording need not: it may have tags in it, which close what is
not open, and then there is no line. A wording without tags is always shown. -/

namespace DecisionFlow

namespace Text

/-! ## Emoji -/

namespace Markup

variable {cs rest content free : List Char} {position slashes : Nat} {styles : List String}

/-! ## Tags -/

/-- A text has a tag in it: brackets around a text without brackets that starts as a tag may. -/
def HasTag (cs : List Char) : Prop :=
  ∃ before content after, cs = before ++ '[' :: (content ++ ']' :: after) ∧
    content.head?.any startsTag = true ∧ ∀ c ∈ content, c ≠ '[' ∧ c ≠ ']'

theorem HasTag.cons (h : HasTag cs) (c : Char) : HasTag (c :: cs) := by
  obtain ⟨before, content, after, rfl, hcontent⟩ := h
  exact ⟨c :: before, content, after, rfl, hcontent⟩

end Markup

end Text

/-! ## Reported faults -/

namespace Fault

variable {f : Fault} {title : String}

end Fault

namespace Command

open Text

variable {f : Fault} {title : String}

end Command

end DecisionFlow
