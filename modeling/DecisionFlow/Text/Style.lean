import DecisionFlow.Text.Blank
import DecisionFlow.Text.Color
import DecisionFlow.Text.LowerCase

set_option autoImplicit false

/-! # Styles

How a text looks on a terminal: attributes that are on or off, two colors, and a link. A style is
spelled in words, in any order and with more than one word for most attributes; written out it has
one spelling, by which two styles are compared. -/

namespace DecisionFlow.Text

/-- An attribute of a text on a terminal. -/
inductive Attribute where
  | bold | dim | italic | underline | blink | blink2 | reverse | conceal | strike | underline2
  | frame | encircle | overline
  deriving Repr, DecidableEq

namespace Attribute

/-- Every attribute, in the order in which a style is written. -/
def all : List Attribute :=
  [.bold, .dim, .italic, .underline, .blink, .blink2, .reverse, .conceal, .strike, .underline2,
    .frame, .encircle, .overline]

/-- The word for an attribute. -/
def word : Attribute → String
  | .bold => "bold"
  | .dim => "dim"
  | .italic => "italic"
  | .underline => "underline"
  | .blink => "blink"
  | .blink2 => "blink2"
  | .reverse => "reverse"
  | .conceal => "conceal"
  | .strike => "strike"
  | .underline2 => "underline2"
  | .frame => "frame"
  | .encircle => "encircle"
  | .overline => "overline"

/-- The short word for an attribute, if there is one. -/
def shortWord? : Attribute → Option String
  | .bold => some "b"
  | .dim => some "d"
  | .italic => some "i"
  | .underline => some "u"
  | .reverse => some "r"
  | .conceal => some "c"
  | .strike => some "s"
  | .underline2 => some "uu"
  | .overline => some "o"
  | _ => none

/-- The attribute of a word. -/
def ofWord? (s : String) : Option Attribute :=
  all.find? fun a => a.word = s ∨ a.shortWord? = some s

@[simp] theorem ofWord?_word (a : Attribute) : ofWord? a.word = some a := by
  cases a <;> decide +kernel

end Attribute

/-- The style of a text. -/
structure Style where
  /-- The attributes that are turned on or off, the last one first. -/
  attributes : List (Attribute × Bool)
  /-- The color of the characters. -/
  color : Option String
  /-- The color behind them. -/
  background : Option String
  /-- The address that the text leads to. -/
  link : Option String
  deriving Repr, DecidableEq

namespace Style

/-- The style that changes nothing. -/
def plain : Style :=
  ⟨[], none, none, none⟩

/-- Whether an attribute is on or off, when it is one of the two. -/
def attribute? (s : Style) (a : Attribute) : Option Bool :=
  (s.attributes.find? fun entry => entry.1 = a).map Prod.snd

/-- Turns an attribute on or off. -/
def turn (s : Style) (a : Attribute) (on : Bool) : Style :=
  { s with attributes := (a, on) :: s.attributes }

/-! ## Reading -/

/-- A color in small letters, or the fault of a text that spells none. -/
def readColor (word : List Char) : Except Color.Fault String :=
  let small := lowerCase word
  match Color.fault? small with
  | none => .ok (String.ofList small)
  | some f => .error f

/-- Reads the words of a style on top of a style. -/
def readWords (s : Style) : List (List Char) → Except Color.Fault Style
  | [] => .ok s
  | word :: rest =>
    match String.ofList (lowerCase word), rest with
    | "on", color :: rest => do readWords { s with background := some (← readColor color) } rest
    | "not", name :: rest =>
      match Attribute.ofWord? (String.ofList name) with
      | some a => readWords (s.turn a false) rest
      | none => .error .unknown
    | "link", address :: rest => readWords { s with link := some (String.ofList address) } rest
    | "on", [] => .error .unknown
    | "not", [] => .error .unknown
    | "link", [] => .error .unknown
    | name, rest =>
      match Attribute.ofWord? name with
      | some a => readWords (s.turn a true) rest
      | none => do readWords { s with color := some (← readColor word) } rest

/-- Reads a style. The word `none` alone, and no word at all, stand for the plain style. -/
def read (cs : List Char) : Except Color.Fault Style :=
  if trim cs = "none".toList then .ok plain else readWords plain (words isBlank cs)

/-! ## Writing -/

/-- The words for an attribute of a style. -/
def attributeWords (s : Style) (a : Attribute) : List String :=
  match s.attribute? a with
  | some true => [a.word]
  | some false => ["not", a.word]
  | none => []

/-- The words of a style. -/
def toWords (s : Style) : List String :=
  Attribute.all.flatMap s.attributeWords ++ s.color.toList
    ++ (s.background.map fun color => ["on", color]).getD []
    ++ (s.link.map fun address => ["link", address]).getD []

/-- The spelling of a style. -/
def text (s : Style) : String :=
  if s.toWords = [] then "none" else String.intercalate " " s.toWords

/-- The name under which a text is known as a style: the spelling of the style that it stands for,
    or the text itself in small letters. A color with a part that is no number leaves it without a
    name. -/
def name (cs : List Char) : Except Color.PartFault String :=
  match read cs with
  | .ok s => .ok s.text
  | .error .unknown => .ok (String.ofList (lowerCase (trim cs)))
  | .error (.part f) => .error f

example : (name "red  b".toList).toOption = (name "bold red".toList).toOption
    ∧ (name "not i U".toList).toOption = some "not italic underline"
    ∧ (name " Foo ".toList).toOption = some "foo" := by
  decide +kernel

end Style

end DecisionFlow.Text
