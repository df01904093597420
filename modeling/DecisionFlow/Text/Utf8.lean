set_option autoImplicit false

/-! # UTF-8

Reading bytes as text. The first byte sequence that is not well formed ends the reading, and the
fault says which bytes it covers and what is wrong with them. -/

namespace DecisionFlow.Text

/-- Why bytes are no text. Positions count bytes from zero. -/
inductive Utf8Fault where
  /-- No character starts with the byte at `position`. -/
  | badStart (byte : UInt8) (position : Nat)
  /-- The character that starts at `position` goes on for `length` bytes in all, and then the
      wrong way. -/
  | badContinuation (byte : UInt8) (position length : Nat)
  /-- The bytes end inside the character that starts at `position`, after `length` bytes. -/
  | truncated (byte : UInt8) (position length : Nat)
  deriving Repr, DecidableEq

/-! ## Characters -/

/-- How many bytes a character has that starts with `byte`. -/
def sequenceLength? (byte : UInt8) : Option Nat :=
  if byte < 0x80 then some 1
  else if byte < 0xC2 then none
  else if byte < 0xE0 then some 2
  else if byte < 0xF0 then some 3
  else if byte < 0xF5 then some 4
  else none

/-- Whether `next` may be the second byte after `byte`: it is a continuation byte, and the two do
    not start an overlong form, a surrogate or a code point beyond the last one. -/
def allowsSecond (byte next : UInt8) : Bool :=
  let low : UInt8 := if byte = 0xE0 then 0xA0 else if byte = 0xF0 then 0x90 else 0x80
  let high : UInt8 := if byte = 0xED then 0x9F else if byte = 0xF4 then 0x8F else 0xBF
  low ≤ next && next ≤ high

/-- Whether a byte continues a character. -/
def isContinuation (byte : UInt8) : Bool :=
  0x80 ≤ byte && byte ≤ 0xBF

/-- How many of the bytes after the first go on rightly, at most `expected`. -/
def goodContinuations (byte : UInt8) (expected : Nat) (rest : List UInt8) : Nat :=
  match expected, rest with
  | 0, _ => 0
  | _, [] => 0
  | expected + 1, next :: rest =>
    if allowsSecond byte next then 1 + ((rest.take expected).takeWhile isContinuation).length else 0

/-- The code point of a first byte with its continuation bytes. -/
def codePoint (length : Nat) (byte : UInt8) (continuation : List UInt8) : Nat :=
  let first := if length = 1 then byte.toNat else byte.toNat % Nat.pow 2 (7 - length)
  continuation.foldl (fun n b => n * 64 + b.toNat % 64) first

/-! ## Texts -/

/-- Reads bytes from `position` on; `fuel` is at least their number. -/
def decodeFrom : Nat → Nat → List UInt8 → Except Utf8Fault (List Char)
  | 0, _, _ => .ok []
  | _, _, [] => .ok []
  | fuel + 1, position, byte :: rest =>
    match sequenceLength? byte with
    | none => .error (.badStart byte position)
    | some length =>
      let good := goodContinuations byte (length - 1) rest
      if good < length - 1 then
        if good = rest.length then .error (.truncated byte position (good + 1))
        else .error (.badContinuation byte position (good + 1))
      else
        (decodeFrom fuel (position + length) (rest.drop (length - 1))).map
          (Char.ofNat (codePoint length byte (rest.take (length - 1))) :: ·)

/-- Reads bytes as text. -/
def decodeUtf8 (bytes : List UInt8) : Except Utf8Fault (List Char) :=
  decodeFrom bytes.length 0 bytes

/-! ## Wording -/

/-- The two hexadecimal digits of a byte. -/
def hexByte (byte : UInt8) : String :=
  let ds := Nat.toDigits 16 byte.toNat
  String.ofList (List.replicate (2 - ds.length) '0' ++ ds)

/-- Names the bytes that a fault covers: one byte with its value, several by their positions. -/
def Utf8Fault.place (byte : UInt8) (position length : Nat) : String :=
  if length = 1 then s!"byte 0x{hexByte byte} in position {position}"
  else s!"bytes in position {position}-{position + length - 1}"

/-- The wording of a fault. -/
def Utf8Fault.message : Utf8Fault → String
  | .badStart byte position =>
    s!"'utf-8' codec can't decode {place byte position 1}: invalid start byte"
  | .badContinuation byte position length =>
    s!"'utf-8' codec can't decode {place byte position length}: invalid continuation byte"
  | .truncated byte position length =>
    s!"'utf-8' codec can't decode {place byte position length}: unexpected end of data"

end DecisionFlow.Text
