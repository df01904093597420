import DecisionFlow.Json.Printer

set_option autoImplicit false

/-! # Indented documents

A document with a line for every item and every member, and two blanks for every level. -/

namespace DecisionFlow.Json

/-- Starts a new line at a level. -/
def newLine (level : Nat) : List Char :=
  '\n' :: List.replicate (2 * level) ' '

mutual

/-- A datum at a level. -/
def printAt (level : Nat) : Json → List Char
  | .arr (item :: items) =>
    '[' :: printItemsAt (level + 1) (item :: items) ++ newLine level ++ [']']
  | .obj (member :: members) =>
    '\x7b' :: printMembersAt (level + 1) (member :: members) ++ newLine level ++ ['\x7d']
  | j => print j

/-- Items with commas between them, each on its own line. -/
def printItemsAt (level : Nat) : List Json → List Char
  | [] => []
  | [item] => newLine level ++ printAt level item
  | item :: items => newLine level ++ printAt level item ++ ',' :: printItemsAt level items

/-- Members with commas between them, each on its own line. -/
def printMembersAt (level : Nat) : List (String × Json) → List Char
  | [] => []
  | [(key, value)] => newLine level ++ printString key ++ [':', ' '] ++ printAt level value
  | (key, value) :: members =>
    newLine level ++ printString key ++ [':', ' '] ++ printAt level value
      ++ ',' :: printMembersAt level members

end

/-- The indented document of a datum. -/
def toIndentedText (j : Json) : String :=
  String.ofList (printAt 0 j)

end DecisionFlow.Json
