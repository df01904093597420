import DecisionFlow.Fault
import DecisionFlow.Graph.Definition

set_option autoImplicit false

/-! # Sources

A source gives graphs for keys. It has a state of its own, which a load may change. -/

namespace DecisionFlow

/-- A source of graphs with a state. -/
structure Source (σ : Type) where
  /-- The name of the source in messages. -/
  name : String
  /-- Loads the graph under a key. -/
  load : String → σ → Except Fault Definition × σ

namespace Source

/-- The graph that was found under a key, or the fault when it is none. -/
def accept (key : String) : Checked Definition → Except Fault Definition
  | .ok g => .ok g
  | .bad issues => .error (.source (.unreadable key issues.length))

/-- The graph that a document stands for. -/
def graphOfText (key text : String) : Except Fault Definition :=
  accept key (Check.document Definition.check text)

/-- The graph that the bytes of a document stand for. Bytes that are no text are no document. -/
def graphOfBytes (key : String) (bytes : List UInt8) : Except Fault Definition :=
  match Text.decodeUtf8 bytes with
  | .ok cs => graphOfText key (String.ofList cs)
  | .error _ => accept key (.problem .notJson)

/-- The graph that a datum stands for; a text is read as a document. -/
def graphOfDatum (key : String) : Json → Except Fault Definition
  | .str text => graphOfText key text
  | j => accept key (Definition.check j)

/-- The source that has no graphs. -/
def empty : Source Unit where
  name := "NoopLoader"
  load key state := (.error (.source (.refused "NoopLoader" key)), state)

end Source

end DecisionFlow
