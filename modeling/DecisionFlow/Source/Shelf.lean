import DecisionFlow.Source.Basic

set_option autoImplicit false

/-! # Shelves

A shelf holds graphs in memory, in the order in which their keys were first put on it. A graph is
read before it is put there, so that a failure changes nothing. -/

namespace DecisionFlow

/-- Graphs under their keys. -/
abbrev Shelf := Fields Definition

namespace Shelf

/-- Puts a graph on a shelf, or fails as its reading did. -/
def add (s : Shelf) (key : String) (graph : Except Fault Definition) : Except Fault Shelf :=
  graph.map fun g => Fields.put s key g

/-- Takes a graph off the shelf; true when there was one. -/
def remove (s : Shelf) (key : String) : Bool × Shelf :=
  (Fields.has s key, Fields.erase s key)

/-- The graph under a key. -/
def load (s : Shelf) (key : String) : Except Fault Definition :=
  match Fields.get? s key with
  | some g => .ok g
  | none => .error (.source (.absent key))

end Shelf

/-- A shelf as a source; loading leaves it as it is. -/
def Source.shelf : Source Shelf where
  name := "MemoryLoader"
  load key s := (s.load key, s)

end DecisionFlow
