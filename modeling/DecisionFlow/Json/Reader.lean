import DecisionFlow.Json.Basic
import DecisionFlow.Number.Literal

set_option autoImplicit false

/-! # Reading documents

A reader of JSON documents by recursive descent. It takes the grammar as it stands, with three
words besides it for what is no number in JSON. Members stay as they stand; `Json.ofText?` leaves
one member for every key. A text is made of characters, and half of a surrogate pair is none: the
escape of one without the other is malformed. -/

namespace DecisionFlow.Json

open Text Number

/-- How much may stand in a document. -/
structure Limits where
  /-- How many containers may nest. -/
  depth : Nat
  /-- How many characters the whole part of a number may have, its minus sign included. -/
  whole : Option Nat
  deriving Repr, DecidableEq

/-- Whether the whole part of a number goes beyond a limit. -/
def isBeyond (limit : Option Nat) (negative : Bool) (whole : List Nat) : Bool :=
  limit.any fun n => n < whole.length + (if negative then 1 else 0)

/-- Why a text is no document. -/
inductive ReadFault where
  /-- The text does not follow the grammar, or goes beyond a limit. -/
  | malformed
  /-- An integer with more digits than `digitLimit`; the count. -/
  | tooManyDigits (count : Nat)
  deriving Repr, DecidableEq

/-! ## Tokens -/

/-- White space between tokens. -/
def isLayout (c : Char) : Bool :=
  c == ' ' || c == '\t' || c == '\n' || c == '\r'

/-- Drops white space. -/
def skipLayout (cs : List Char) : List Char :=
  cs.dropWhile isLayout

/-- The values of the leading ASCII digits, and the text after them. -/
def spanAsciiDigits : List Char → List Nat × List Char
  | [] => ([], [])
  | c :: cs =>
    if c.isDigit then ((c.toNat - 48) :: (spanAsciiDigits cs).1, (spanAsciiDigits cs).2)
    else ([], c :: cs)

/-- The digits after a point; none without one. -/
def fractionPart : List Char → Option (List Nat × List Char)
  | '.' :: cs =>
    match spanAsciiDigits cs with
    | ([], _) => none
    | (ds, rest) => some (ds, rest)
  | _ => none

/-- The exponent after its mark; none without one. -/
def exponentPart : List Char → Option (Int × List Char)
  | c :: cs =>
    if c = 'e' ∨ c = 'E' then
      match spanAsciiDigits (sign cs).2 with
      | ([], _) => none
      | (ds, rest) =>
        let size : Int := natOfDigits ds
        some (if (sign cs).1 then -size else size, rest)
    else none
  | [] => none

/-- Reads a number without its sign. A leading zero stands alone. -/
def readUnsigned (limit : Option Nat) (negative : Bool) (cs : List Char) :
    Except ReadFault (Json × List Char) :=
  match spanAsciiDigits cs with
  | ([], _) => .error .malformed
  | (0 :: _ :: _, _) => .error .malformed
  | (whole, rest) =>
    if isBeyond limit negative whole then .error .malformed
    else
      let fraction := fractionPart rest
      let rest := (fraction.map Prod.snd).getD rest
      let exponent := exponentPart rest
      let rest := (exponent.map Prod.snd).getD rest
      if fraction.isNone && exponent.isNone then
        if digitLimit < whole.length then .error (.tooManyDigits whole.length)
        else
          let size : Int := natOfDigits whole
          .ok (.int (if negative then -size else size), rest)
      else
        let literal : Literal :=
          ⟨negative, whole, (fraction.map Prod.fst).getD [], (exponent.map Prod.fst).getD 0⟩
        .ok (.num literal.toFloat, rest)

/-- The value of a hexadecimal digit. -/
def hexValue? (c : Char) : Option Nat :=
  let n := c.toNat
  if 48 ≤ n ∧ n ≤ 57 then some (n - 48)
  else if 65 ≤ n ∧ n ≤ 70 then some (n - 55)
  else if 97 ≤ n ∧ n ≤ 102 then some (n - 87)
  else none

/-- The 16-bit unit that four hexadecimal digits spell. -/
def unit? (a b c d : Char) : Option Nat :=
  match hexValue? a, hexValue? b, hexValue? c, hexValue? d with
  | some a, some b, some c, some d => some (((a * 16 + b) * 16 + c) * 16 + d)
  | _, _, _, _ => none

/-- The character that a letter stands for after a backslash. -/
def shortEscape? (c : Char) : Option Char :=
  if c = '"' ∨ c = '\\' ∨ c = '/' then some c
  else if c = 'b' then some (Char.ofNat 0x08)
  else if c = 'f' then some (Char.ofNat 0x0C)
  else if c = 'n' then some '\n'
  else if c = 'r' then some '\r'
  else if c = 't' then some '\t'
  else none

/-- Reads a string after its opening quote. Controls must be escaped, and escaped surrogates come
    in pairs, as no string can hold a single one. -/
def readString : List Char → Except ReadFault (List Char × List Char)
  | [] => .error .malformed
  | '"' :: rest => .ok ([], rest)
  | '\\' :: 'u' :: a :: b :: c :: d :: rest =>
    match unit? a b c d with
    | none => .error .malformed
    | some high =>
      if 0xDC00 ≤ high ∧ high ≤ 0xDFFF then .error .malformed
      else if 0xD800 ≤ high ∧ high ≤ 0xDBFF then
        match rest with
        | '\\' :: 'u' :: e :: f :: g :: h :: rest =>
          match unit? e f g h with
          | none => .error .malformed
          | some low =>
            if 0xDC00 ≤ low ∧ low ≤ 0xDFFF then
              let point := 0x10000 + (high - 0xD800) * 0x400 + (low - 0xDC00)
              (readString rest).map fun (s, rest) => (Char.ofNat point :: s, rest)
            else .error .malformed
        | _ => .error .malformed
      else (readString rest).map fun (s, rest) => (Char.ofNat high :: s, rest)
  | '\\' :: c :: rest =>
    match shortEscape? c with
    | none => .error .malformed
    | some x => (readString rest).map fun (s, rest) => (x :: s, rest)
  | c :: rest =>
    if c = '\\' ∨ c.toNat < 0x20 then .error .malformed
    else (readString rest).map fun (s, rest) => (c :: s, rest)

/-- Reads the rest of a word that stands for a datum. -/
def readWord (word : String) (datum : Json) (cs : List Char) :
    Except ReadFault (Json × List Char) :=
  if word.toList.isPrefixOf cs then .ok (datum, cs.drop word.toList.length) else .error .malformed

/-! ## Data -/

mutual

/-- Reads a datum; `depth` more containers may nest, `limit` bounds the whole parts of numbers, and
    `fuel` bounds the work. -/
def readValue (limit : Option Nat) : Nat → Nat → List Char → Except ReadFault (Json × List Char)
  | 0, _, _ => .error .malformed
  | fuel + 1, depth, cs =>
    match skipLayout cs with
    | '"' :: rest => (readString rest).map fun (s, rest) => (.str (String.ofList s), rest)
    | '[' :: rest =>
      match skipLayout rest with
      | ']' :: rest => .ok (.arr [], rest)
      | rest =>
        if depth = 0 then .error .malformed
        else (readItems limit fuel (depth - 1) rest).map fun (items, rest) => (.arr items, rest)
    | '\x7b' :: rest =>
      match skipLayout rest with
      | '\x7d' :: rest => .ok (.obj [], rest)
      | rest =>
        if depth = 0 then .error .malformed
        else
          (readMembers limit fuel (depth - 1) rest).map fun (members, rest) =>
            (.obj members, rest)
    | 'n' :: rest => readWord "ull" .null rest
    | 't' :: rest => readWord "rue" (.bool true) rest
    | 'f' :: rest => readWord "alse" (.bool false) rest
    | 'N' :: rest => readWord "aN" (.num (0.0 / 0.0)) rest
    | 'I' :: rest => readWord "nfinity" (.num (1.0 / 0.0)) rest
    | '-' :: 'I' :: rest => readWord "nfinity" (.num (-1.0 / 0.0)) rest
    | '-' :: rest => readUnsigned limit true rest
    | rest => readUnsigned limit false rest

/-- Reads the items of a list up to its closing bracket. -/
def readItems (limit : Option Nat) :
    Nat → Nat → List Char → Except ReadFault (List Json × List Char)
  | 0, _, _ => .error .malformed
  | fuel + 1, depth, cs =>
    match readValue limit fuel depth cs with
    | .error f => .error f
    | .ok (item, rest) =>
      match skipLayout rest with
      | ',' :: rest =>
        (readItems limit fuel depth rest).map fun (items, rest) => (item :: items, rest)
      | ']' :: rest => .ok ([item], rest)
      | _ => .error .malformed

/-- Reads the members of an object up to its closing brace. -/
def readMembers (limit : Option Nat) :
    Nat → Nat → List Char → Except ReadFault (List (String × Json) × List Char)
  | 0, _, _ => .error .malformed
  | fuel + 1, depth, cs =>
    match skipLayout cs with
    | '"' :: rest =>
      match readString rest with
      | .error f => .error f
      | .ok (key, rest) =>
        match skipLayout rest with
        | ':' :: rest =>
          match readValue limit fuel depth rest with
          | .error f => .error f
          | .ok (value, rest) =>
            match skipLayout rest with
            | ',' :: rest =>
              (readMembers limit fuel depth rest).map fun (members, rest) =>
                ((String.ofList key, value) :: members, rest)
            | '\x7d' :: rest => .ok ([(String.ofList key, value)], rest)
            | _ => .error .malformed
        | _ => .error .malformed
    | _ => .error .malformed

end

/-- Reads a document within limits, with all its members. -/
def read (limits : Limits) (text : String) : Except ReadFault Json :=
  let cs := text.toList
  match readValue limits.whole (2 * cs.length + 2) limits.depth cs with
  | .error f => .error f
  | .ok (j, rest) => if skipLayout rest = [] then .ok j else .error .malformed

/-- Reads a document of any depth, with one member for every key. -/
def ofText? (text : String) : Except ReadFault Json :=
  (read ⟨text.length, none⟩ text).map distinct

end DecisionFlow.Json
