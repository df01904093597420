import DecisionFlow.Json.Basic
import DecisionFlow.Number.Layout
import DecisionFlow.Text.Quoted

set_option autoImplicit false

/-! # Data as text

Two ways of writing a datum on one line. `Json.print` writes a JSON document in ASCII, with a
blank after every comma and colon. `Json.display` writes a datum the way messages show it. -/

namespace DecisionFlow.Json

open Text

/-! ## Documents -/

/-- The escape of a 16-bit unit. -/
def unitEscape (n : Nat) : List Char :=
  ['\\', 'u'] ++ hex 4 n

/-- A character inside a JSON string: visible ASCII as it is, anything else as an escape, with two
    units for a code point above U+FFFF. -/
def printChar (c : Char) : List Char :=
  let n := c.toNat
  if c = '"' ∨ c = '\\' then ['\\', c]
  else if c = '\n' then ['\\', 'n']
  else if c = '\r' then ['\\', 'r']
  else if c = '\t' then ['\\', 't']
  else if n = 0x08 then ['\\', 'b']
  else if n = 0x0C then ['\\', 'f']
  else if 0x20 ≤ n ∧ n ≤ 0x7E then [c]
  else if n < 0x10000 then unitEscape n
  else unitEscape (0xD800 + (n - 0x10000) / 0x400) ++ unitEscape (0xDC00 + (n - 0x10000) % 0x400)

/-- A text as a JSON string. -/
def printString (s : String) : List Char :=
  '"' :: s.toList.flatMap printChar ++ ['"']

/-- A double as a JSON number, or as one of the words for what is no number in JSON. -/
def printNumber (x : Float) : List Char :=
  match Number.parts x with
  | .nan => "NaN".toList
  | .infinite negative => if negative then "-Infinity".toList else "Infinity".toList
  | .finite .. => (Number.text x).toList

mutual

/-- A datum as a document. -/
def print : Json → List Char
  | .null => "null".toList
  | .bool b => if b then "true".toList else "false".toList
  | .int n => (Number.intText n).toList
  | .num x => printNumber x
  | .str s => printString s
  | .arr items => '[' :: printItems items ++ [']']
  | .obj members => '\x7b' :: printMembers members ++ ['\x7d']

/-- Items with commas between them. -/
def printItems : List Json → List Char
  | [] => []
  | [item] => print item
  | item :: items => print item ++ [',', ' '] ++ printItems items

/-- Members with commas between them. -/
def printMembers : List (String × Json) → List Char
  | [] => []
  | [(key, value)] => printString key ++ [':', ' '] ++ print value
  | (key, value) :: members =>
    printString key ++ [':', ' '] ++ print value ++ [',', ' '] ++ printMembers members

end

/-- The document of a datum. -/
def toText (j : Json) : String :=
  String.ofList (print j)

/-! ## Messages -/

mutual

/-- A datum inside a message. -/
def display : Json → List Char
  | .null => "None".toList
  | .bool b => if b then "True".toList else "False".toList
  | .int n => (Number.intText n).toList
  | .num x => (Number.text x).toList
  | .str s => quoted s.toList
  | .arr items => '[' :: displayItems items ++ [']']
  | .obj members => '\x7b' :: displayMembers members ++ ['\x7d']

/-- Items with commas between them. -/
def displayItems : List Json → List Char
  | [] => []
  | [item] => display item
  | item :: items => display item ++ [',', ' '] ++ displayItems items

/-- Members with commas between them. -/
def displayMembers : List (String × Json) → List Char
  | [] => []
  | [(key, value)] => quoted key.toList ++ [':', ' '] ++ display value
  | (key, value) :: members =>
    quoted key.toList ++ [':', ' '] ++ display value ++ [',', ' '] ++ displayMembers members

end

/-- The word for the kind of a datum in a message. -/
def kindName : Json → String
  | .null => "NoneType"
  | .bool _ => "bool"
  | .int _ => "int"
  | .num _ => "float"
  | .str _ => "str"
  | .arr _ => "list"
  | .obj _ => "dict"

example : toText (.obj [("é", .arr [.int 1, .num 1.0, .null])])
    = "\x7b\"\\u00e9\": [1, 1.0, null]\x7d" := by
  decide +kernel

end DecisionFlow.Json
