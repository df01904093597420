import DecisionFlow.Number.Literal
import DecisionFlow.Text.Segment

set_option autoImplicit false

/-! # Colors

The spellings of a color in small letters: the word `default`, one of the names that terminals know,
a number sign with six hexadecimal digits, `color(n)` with a number below 256, and `rgb(r,g,b)` with
three of them. -/

namespace DecisionFlow.Text.Color

/-- The names of colors. -/
def names : List String :=
  ["black", "red", "green", "yellow", "blue", "magenta", "cyan", "white", "bright_black",
   "bright_red", "bright_green", "bright_yellow", "bright_blue", "bright_magenta", "bright_cyan",
   "bright_white", "grey0", "gray0", "navy_blue", "dark_blue", "blue3", "blue1", "dark_green",
   "deep_sky_blue4", "dodger_blue3", "dodger_blue2", "green4", "spring_green4", "turquoise4",
   "deep_sky_blue3", "dodger_blue1", "green3", "spring_green3", "dark_cyan", "light_sea_green",
   "deep_sky_blue2", "deep_sky_blue1", "spring_green2", "cyan3", "dark_turquoise", "turquoise2",
   "green1", "spring_green1", "medium_spring_green", "cyan2", "cyan1", "dark_red", "deep_pink4",
   "purple4", "purple3", "blue_violet", "orange4", "grey37", "gray37", "medium_purple4",
   "slate_blue3", "royal_blue1", "chartreuse4", "dark_sea_green4", "pale_turquoise4",
   "steel_blue", "steel_blue3", "cornflower_blue", "chartreuse3", "cadet_blue", "sky_blue3",
   "steel_blue1", "pale_green3", "sea_green3", "aquamarine3", "medium_turquoise", "chartreuse2",
   "sea_green2", "sea_green1", "aquamarine1", "dark_slate_gray2", "dark_magenta", "dark_violet",
   "purple", "light_pink4", "plum4", "medium_purple3", "slate_blue1", "yellow4", "wheat4",
   "grey53", "gray53", "light_slate_grey", "light_slate_gray", "medium_purple",
   "light_slate_blue", "dark_olive_green3", "dark_sea_green", "light_sky_blue3", "sky_blue2",
   "dark_sea_green3", "dark_slate_gray3", "sky_blue1", "chartreuse1", "light_green",
   "pale_green1", "dark_slate_gray1", "red3", "medium_violet_red", "magenta3", "dark_orange3",
   "indian_red", "hot_pink3", "medium_orchid3", "medium_orchid", "medium_purple2",
   "dark_goldenrod", "light_salmon3", "rosy_brown", "grey63", "gray63", "medium_purple1",
   "gold3", "dark_khaki", "navajo_white3", "grey69", "gray69", "light_steel_blue3",
   "light_steel_blue", "yellow3", "dark_sea_green2", "light_cyan3", "light_sky_blue1",
   "green_yellow", "dark_olive_green2", "dark_sea_green1", "pale_turquoise1", "deep_pink3",
   "magenta2", "hot_pink2", "orchid", "medium_orchid1", "orange3", "light_pink3", "pink3",
   "plum3", "violet", "light_goldenrod3", "tan", "misty_rose3", "thistle3", "plum2", "khaki3",
   "light_goldenrod2", "light_yellow3", "grey84", "gray84", "light_steel_blue1", "yellow2",
   "dark_olive_green1", "honeydew2", "light_cyan1", "red1", "deep_pink2", "deep_pink1",
   "magenta1", "orange_red1", "indian_red1", "hot_pink", "dark_orange", "salmon1", "light_coral",
   "pale_violet_red1", "orchid2", "orchid1", "orange1", "sandy_brown", "light_salmon1",
   "light_pink1", "pink1", "plum1", "gold1", "navajo_white1", "misty_rose1", "thistle1",
   "yellow1", "light_goldenrod1", "khaki1", "wheat1", "cornsilk1", "grey100", "gray100", "grey3",
   "gray3", "grey7", "gray7", "grey11", "gray11", "grey15", "gray15", "grey19", "gray19",
   "grey23", "gray23", "grey27", "gray27", "grey30", "gray30", "grey35", "gray35", "grey39",
   "gray39", "grey42", "gray42", "grey46", "gray46", "grey50", "gray50", "grey54", "gray54",
   "grey58", "gray58", "grey62", "gray62", "grey66", "gray66", "grey70", "gray70", "grey74",
   "gray74", "grey78", "gray78", "grey82", "gray82", "grey85", "gray85", "grey89", "gray89",
   "grey93", "gray93"]

/-- Why a part of a color is no number. -/
inductive PartFault where
  /-- It is empty. -/
  | empty
  /-- It has more digits than a whole literal may have; the count. -/
  | tooManyDigits (count : Nat)
  deriving Repr, DecidableEq

/-- Why a text spells no color. -/
inductive Fault where
  /-- It has none of the forms, or a number in it is too large. -/
  | unknown
  /-- One of its three parts is no number. -/
  | part (fault : PartFault)
  deriving Repr, DecidableEq

/-- One more than the largest number in a color. -/
def bound : Nat :=
  256

/-- What stands in brackets after a word, when that is all of a text. -/
def inBrackets? (word cs : List Char) : Option (List Char) :=
  if word.isPrefixOf cs then
    match cs.drop word.length with
    | '(' :: rest => if rest.getLast? = some ')' then some rest.dropLast else none
    | _ => none
  else none

/-- Whether a text is a number sign with six hexadecimal digits. -/
def isHexadecimal : List Char → Bool
  | '#' :: digits =>
    digits.length == 6 && digits.all fun c => c.isDigit || ('a' ≤ c && c ≤ 'f')
  | _ => false

/-- Whether a text is the number of a color, in at most three ASCII digits. -/
def isNumber (cs : List Char) : Bool :=
  cs ≠ [] && cs.length ≤ 3 && cs.all Char.isDigit && natOfDigits (spanDigits cs).1 < bound

/-- The number in a part of a color, which holds only digits of any script. -/
def readPart (cs : List Char) : Except PartFault Nat :=
  if cs = [] then .error .empty
  else if Number.digitLimit < cs.length then .error (.tooManyDigits cs.length)
  else .ok (natOfDigits (spanDigits cs).1)

/-- The fault of the three parts of a color, if they have one. -/
def partsFault? (cs : List Char) : Option Fault :=
  if cs = [] ∨ cs.any fun c => !isDigit c && c != ',' then some .unknown
  else
    let parts := segments ',' cs
    if parts.length ≠ 3 then some .unknown
    else
      match parts.mapM readPart with
      | .error f => some (.part f)
      | .ok numbers => if numbers.all (· < bound) then none else some .unknown

/-- The fault of a text in small letters that spells no color. -/
def fault? (cs : List Char) : Option Fault :=
  if cs = "default".toList ∨ String.ofList cs ∈ names ∨ isHexadecimal cs then none
  else
    match inBrackets? "color".toList cs, inBrackets? "rgb".toList cs with
    | some number, _ => if isNumber number then none else some .unknown
    | none, some parts => partsFault? parts
    | none, none => some .unknown

example : fault? "#00ff00".toList = none ∧ fault? "color(256)".toList = some .unknown
    ∧ fault? "rgb(1,,2)".toList = some (.part .empty) := by
  decide +kernel

end DecisionFlow.Text.Color
