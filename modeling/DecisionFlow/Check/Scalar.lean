import DecisionFlow.Check.Basic
import DecisionFlow.Number.Literal

set_option autoImplicit false

/-! # Scalars in several spellings

Truth values, integers and numbers are read from data of other kinds too where nothing is lost:
truth values from the integers zero and one and from a few words, integers from doubles without a
fraction and from texts, numbers from integers, truth values and texts. Texts are read in ASCII. -/

namespace DecisionFlow.Check

open Text Number

/-- Whether an integer has 64 bits. -/
def isSmall (n : Int) : Bool :=
  -(Nat.pow 2 63 : Int) ≤ n && n < Nat.pow 2 63

/-- Whether an integer lies between the two ends of the integers of 64 bits, of which the lower one
    has 64 bits itself. Doubles without a fraction count as integers there. -/
def isBetweenEnds (n : Int) : Bool :=
  -(Nat.pow 2 63 : Int) < n && n < Nat.pow 2 63

/-! ## Truth values -/

/-- The truth value that a word stands for, in letters of any case. -/
def wordFlag? (s : String) : Option Bool :=
  let word := String.ofList (s.toList.map Char.toLower)
  if ["1", "t", "true", "y", "yes", "on"].contains word then some true
  else if ["0", "f", "false", "n", "no", "off"].contains word then some false
  else none

/-- The truth value of zero or one. -/
def intFlag (n : Int) : Checked Bool :=
  if n = 0 then .ok false else if n = 1 then .ok true else .problem .unreadableBool

/-- Reads a truth value. -/
def flag (origin : Origin) : Check Bool
  | .bool b => .ok b
  | .str s =>
    match wordFlag? s with
    | some b => .ok b
    | none => .problem .unreadableBool
  | .int n => if isSmall n && !origin.isLong n then intFlag n else .problem .notBool
  | .num x =>
    match toInt? x with
    | some n => if isBetweenEnds n then intFlag n else .problem .notBool
    | none => .problem .notBool
  | _ => .problem .notBool

/-! ## Integers -/

/-- Drops the zeros in front of a number, and the underscores among them. What stays starts with
    another digit or a minus sign, or with the character before a point; the last character stays
    when nothing else would. None unless a digit comes first. -/
def dropLeadingZeros (cs : List Char) : Option (List Char) :=
  match cs with
  | '0' :: rest => go '0' rest
  | c :: _ => if '1' ≤ c ∧ c ≤ '9' then some cs else none
  | [] => none
where
  /-- Goes on after the character `last`. -/
  go (last : Char) : List Char → Option (List Char)
    | [] => some [last]
    | c :: rest =>
      if c = '0' ∨ c = '_' then go c rest
      else if c = '-' ∨ ('1' ≤ c ∧ c ≤ '9') then some (c :: rest)
      else if c = '.' then some (last :: c :: rest)
      else none

/-- Drops a fraction of zeros, of which there is at least one. -/
def dropZeroFraction (cs : List Char) : List Char :=
  match cs.dropWhile (· ≠ '.') with
  | '.' :: fraction =>
    if fraction ≠ [] ∧ fraction.all (· = '0') then cs.takeWhile (· ≠ '.') else cs
  | _ => cs

/-- Whether two underscores stand next to each other. -/
def hasDoubleUnderscore : List Char → Bool
  | '_' :: '_' :: _ => true
  | _ :: cs => hasDoubleUnderscore cs
  | [] => false

/-- Drops underscores that stand alone inside a text. -/
def dropUnderscores (cs : List Char) : Option (List Char) :=
  if '_' ∉ cs ∨ cs.head? = some '_' ∨ cs.getLast? = some '_' ∨ hasDoubleUnderscore cs then none
  else some (cs.filter (· ≠ '_'))

/-- Reads the digits of an integer as they stand, without a zero in front; at most `digitLimit`
    characters. None when the text is something else. -/
def plainInt? (cs : List Char) : Option (Checked Int) :=
  let (negative, unsigned) :=
    match cs with
    | '-' :: rest => (true, rest)
    | rest => (false, rest)
  let run := unsigned.takeWhile Char.isDigit
  let rest := unsigned.dropWhile Char.isDigit
  if run = [] ∨ (run.head? = some '0' ∧ run ≠ ['0']) then none
  else if digitLimit < run.length + (if negative then 1 else 0) then some (.problem .oversizedInt)
  else if rest ≠ [] then none
  else
    let size : Int := natOfDigits (run.map fun c => c.toNat - 48)
    some (.ok (if negative then -size else size))

/-- The digits of an integer that may have zeros in front, underscores between digits and a fraction
    of zeros. -/
def cleanDigits? (cs : List Char) : Option (List Char) :=
  (dropLeadingZeros cs).map fun digits =>
    let digits := dropZeroFraction digits
    (dropUnderscores digits).getD digits

/-- The sign and the digits of an integer in a text that may have white space around it and a plus
    sign in front. -/
def cleanInt? (cs : List Char) : Option (List Char) :=
  match trimBy isSpace cs with
  | '+' :: rest => cleanDigits? rest
  | '-' :: rest => (cleanDigits? rest).map ('-' :: ·)
  | rest => cleanDigits? rest

/-- Reads an integer in a text: as it stands or, when it is no plain integer, without what may
    surround one. Then no reason is told any more why it cannot be read. -/
def intText (s : String) : Checked Int :=
  match plainInt? s.toList with
  | some result => result
  | none =>
    match (cleanInt? s.toList).bind plainInt? with
    | some (.ok n) => .ok n
    | _ => .problem .unreadableInt

/-- Reads an integer. -/
def int : Check Int
  | .int n => .ok n
  | .bool b => .ok (if b then 1 else 0)
  | .num x =>
    match parts x with
    | .finite .. =>
      match toInt? x with
      | some n => if isBetweenEnds n then .ok n else .problem .oversizedInt
      | none => .problem .fractionalInt
    | _ => .problem .notFinite
  | .str s => intText s
  | _ => .problem .notInt

/-- Reads an integer above zero. -/
def positiveInt : Check Int := fun j =>
  (int j).andThen fun n => if 0 < n then .ok n else .problem .notPositive

/-! ## Numbers -/

/-- The numbers that have a word, in letters of any case and with a sign. -/
def wordNumber? (cs : List Char) : Option Float :=
  let (negative, unsigned) := sign cs
  let word := String.ofList (unsigned.map Char.toLower)
  if word = "inf" ∨ word = "infinity" then some (if negative then -1.0 / 0.0 else 1.0 / 0.0)
  else if word = "nan" then some (0.0 / 0.0)
  else none

/-- The number that a text spells in ASCII. -/
def asciiNumber? (cs : List Char) : Option Float :=
  if cs.all fun c => c.toNat < 128 then
    (wordNumber? cs).or ((Literal.read? cs).map Literal.toFloat)
  else none

/-- Reads a number in a text: with white space around it, or with underscores between digits. -/
def numberText (s : String) : Checked Float :=
  match asciiNumber? (trimBy isSpace s.toList) with
  | some x => .ok x
  | none =>
    match (dropUnderscores s.toList).bind asciiNumber? with
    | some x => .ok x
    | none => .problem .unreadableFloat

/-- Reads a number. -/
def number (origin : Origin) : Check Float
  | .num x => .ok x
  | .int n =>
    match if origin.isLong n then none else ofInt? n with
    | some x => .ok x
    | none => .problem .notFloat
  | .bool b => .ok (if b then 1.0 else 0.0)
  | .str s => numberText s
  | _ => .problem .notFloat

end DecisionFlow.Check
