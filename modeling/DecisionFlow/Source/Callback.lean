import DecisionFlow.Source.Basic

set_option autoImplicit false

/-! # Callbacks

A callback gives graphs as they are, as data or as documents. Its own report that it has none is
passed on, and any other failure of the callback becomes a fault of the source. -/

namespace DecisionFlow

/-- What a callback answers. -/
inductive CallbackAnswer where
  /-- A datum; null says that there is nothing. -/
  | datum (j : Json)
  /-- A document. -/
  | text (s : String)
  /-- The bytes of a document. -/
  | bytes (bs : List UInt8)
  /-- A graph as it is. -/
  | definition (g : Definition)
  /-- Something that is no datum. -/
  | foreign
  /-- A failure. -/
  | failed (f : Fault)

/-- The graph in an answer. -/
def CallbackAnswer.graph (key : String) : CallbackAnswer → Except Fault Definition
  | .datum .null => .error (.source (.absent key))
  | .datum j => Source.graphOfDatum key j
  | .text s => Source.graphOfText key s
  | .bytes bs => Source.graphOfBytes key bs
  | .definition g => .ok g
  | .foreign => Source.accept key (.problem .notRecord)
  | .failed f =>
    .error (if f.isSourceFault then f else .source (.callbackFailed key f.message))

/-- A callback as a source; the state counts the calls. -/
def Source.callback (answer : String → CallbackAnswer) : Source Nat where
  name := "ClosureLoader"
  load key calls := ((answer key).graph key, calls + 1)

end DecisionFlow
