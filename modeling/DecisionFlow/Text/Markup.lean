import DecisionFlow.Text.Emoji
import DecisionFlow.Text.Style

set_option autoImplicit false

/-! # Markup

Texts for a terminal may hold tags in square brackets. A tag opens a style, a tag with a slash
closes the last one of its name, and a slash alone closes the last one. A backslash before a tag
makes it plain text. Rendering drops the tags, puts emoji in the place of their names, and fails
when a tag closes what is not open.

A tag may have parameters behind an equals sign, which are not looked at: a style is known by its
name alone. So a tag that begins with an at sign, whose parameters are a call to attach to the text,
is a style like any other here, and parameters that spell no call or no style are not noticed. -/

namespace DecisionFlow.Text.Markup

/-! ## Pieces -/

/-- A piece of a marked up text. -/
inductive Piece where
  /-- Plain text. -/
  | plain (cs : List Char)
  /-- A tag with what stands between its brackets, and where its opening bracket is. -/
  | tag (content : List Char) (position : Nat)
  deriving Repr, DecidableEq

/-- Whether a tag may start with a character. -/
def startsTag (c : Char) : Bool :=
  ('a' ≤ c && c ≤ 'z') || c == '#' || c == '/' || c == '@'

/-- The content of the tag whose opening bracket stands before a text. -/
def tagContent? (cs : List Char) : Option (List Char) :=
  let content := cs.takeWhile fun c => c ≠ '[' ∧ c ≠ ']'
  if content.head?.any startsTag ∧ (cs.drop content.length).head? = some ']' then some content
  else none

/-- The piece of a tag behind some backslashes: every second one stands for itself, and one that is
    left over makes the tag plain text. -/
def tagPieces (content : List Char) (position slashes : Nat) : List Piece :=
  [.plain (List.replicate (slashes / 2) '\\'),
    if slashes % 2 = 1 then .plain ('[' :: content ++ [']']) else .tag content position]

/-- Cuts a text into pieces. Before the text stand the characters of `free` in reverse, which belong
    to no tag, and `slashes` backslashes; its first `skip` characters belong to a piece already
    found. A bracket that starts no tag takes the backslash before it away. -/
def pieces (position slashes skip : Nat) (free : List Char) : List Char → List Piece
  | [] => [.plain (free.reverse ++ List.replicate slashes '\\')]
  | c :: cs =>
    match skip with
    | skip + 1 => pieces (position + 1) 0 skip [] cs
    | 0 =>
      if c = '\\' then pieces (position + 1) (slashes + 1) 0 free cs
      else if c = '[' then
        match tagContent? cs with
        | some content =>
          .plain free.reverse :: tagPieces content position slashes
            ++ pieces (position + 1) 0 (content.length + 1) [] cs
        | none =>
          pieces (position + 1) 0 0 ('[' :: (List.replicate (slashes - 1) '\\' ++ free)) cs
      else pieces (position + 1) 0 0 (c :: (List.replicate slashes '\\' ++ free)) cs

/-! ## Rendering -/

/-- Why a text has no rendering. -/
inductive MarkupFault where
  /-- A tag closes a style that is not open. -/
  | unmatched (content : List Char) (position : Nat)
  /-- A tag closes the last style when none is open. -/
  | nothingOpen (position : Nat)
  /-- A color in a tag has a part that is no number. -/
  | badColor (fault : Color.PartFault)
  deriving Repr, DecidableEq

/-- The wording of a fault. -/
def MarkupFault.message : MarkupFault → String
  | .unmatched content position =>
    s!"closing tag '[{String.ofList content}]' at position {position} doesn't match any open tag"
  | .nothingOpen position => s!"closing tag '[/]' at position {position} has nothing to close"
  | .badColor .empty => "invalid literal for int() with base 10: ''"
  | .badColor (.tooManyDigits count) => (Number.Fault.tooManyDigits count).message

/-- The name under which a text is known as a style. -/
def styleName (cs : List Char) : Except MarkupFault String :=
  match Style.name cs with
  | .ok name => .ok name
  | .error f => .error (.badColor f)

/-- What is left of pieces without their tags. `styles` are open, the last one first. -/
def renderPieces (styles : List String) : List Piece → Except MarkupFault (List Char)
  | [] => .ok []
  | .plain cs :: rest => (renderPieces styles rest).map (Emoji.replace cs ++ ·)
  | .tag content position :: rest =>
    match content.takeWhile (· ≠ '=') with
    | '/' :: name =>
      if trim name = [] then
        match styles with
        | [] => .error (.nothingOpen position)
        | _ :: styles => renderPieces styles rest
      else
        match styleName (trim name) with
        | .error f => .error f
        | .ok name =>
          if name ∈ styles then renderPieces (styles.erase name) rest
          else .error (.unmatched content position)
    | name =>
      match styleName name with
      | .error f => .error f
      | .ok name => renderPieces (name :: styles) rest

/-- The text without its tags and with its emoji. -/
def render (s : String) : Except MarkupFault (List Char) :=
  renderPieces [] (pieces 0 0 0 [] s.toList)

example : (render "[b]x[/b] y[1]").toOption = some "x y[1]".toList := by decide +kernel

example : (render "\\[b]x").toOption = some "[b]x".toList := by decide +kernel

example : (render "x[/y]").toOption = none := by decide +kernel

example : (render "[red b]x[/bold red]").toOption = some "x".toList := by decide +kernel

end DecisionFlow.Text.Markup
