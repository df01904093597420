import DecisionFlow.Text.EmojiNames
import DecisionFlow.Text.LowerCase

set_option autoImplicit false

/-! # Emoji in texts

A text calls for an emoji by its name between two colons. The name may end in a word for one of two
variants, the one that looks like text and the one that looks like a picture. A name that no emoji
has leaves its colons in the text. -/

namespace DecisionFlow.Text.Emoji

/-- The endings of a name for a variant, and the mark that follows the emoji then. -/
def variants : List (List Char × Char) :=
  [("-text".toList, Char.ofNat 0xFE0E), ("-emoji".toList, Char.ofNat 0xFE0F)]

/-- The name without the ending for a variant, and the mark of the variant. -/
def splitVariant (name : List Char) : List Char × List Char :=
  match variants.find? fun variant => variant.1.isSuffixOf name with
  | some variant => (name.take (name.length - variant.1.length), [variant.2])
  | none => (name, [])

/-- What is shown for a name between colons, in letters of any case. -/
def shown (name : List Char) : List Char :=
  match ofName? (lowerCase (splitVariant name).1) with
  | some emoji => emoji ++ (splitVariant name).2
  | none => ':' :: name ++ [':']

/-- The name that stands between a colon before a text and one in it. -/
def name? (cs : List Char) : Option (List Char) :=
  let name := cs.takeWhile fun c => c ≠ ':' ∧ isBlank c = false
  if (cs.drop name.length).head? = some ':' then some name else none

/-- The text with its emoji, from behind the first `skip` characters on. -/
def replaceFrom (skip : Nat) : List Char → List Char
  | [] => []
  | c :: cs =>
    match skip with
    | skip + 1 => replaceFrom skip cs
    | 0 =>
      match if c = ':' then name? cs else none with
      | some name => shown name ++ replaceFrom (name.length + 1) cs
      | none => c :: replaceFrom 0 cs

/-- The text with its emoji. -/
def replace (cs : List Char) : List Char :=
  replaceFrom 0 cs

end DecisionFlow.Text.Emoji
