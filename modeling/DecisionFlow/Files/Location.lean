import DecisionFlow.Text.Segment

set_option autoImplicit false

/-! # Locations of files

A location is the list of names that lead from the top of a file tree to a file or a folder. The
text of a path leads from one location to another. It can also be shown: then double separators and
single points vanish, while double points stay. There are no links, so that both are questions of
the text alone. -/

namespace DecisionFlow.Files

/-- The names on the way from the top of a tree. -/
abbrev Location := List String

/-! ## Steps of a path -/

/-- The names between the separators of a path, without the empty ones and single points. -/
def steps (path : String) : List String :=
  ((Text.segments '/' path.toList).map String.ofList).filter fun name => name ≠ "" ∧ name ≠ "."

/-- Goes one step: up for a double point, down otherwise. -/
def Location.step (l : Location) (name : String) : Location :=
  if name = ".." then l.dropLast else l ++ [name]

/-- Whether a path starts at the top. -/
def isAbsolute (path : String) : Bool :=
  path.toList.head? = some '/'

/-- Whether no file can have a path, because a null character is in it. -/
def isImpossible (path : String) : Bool :=
  '\x00' ∈ path.toList

/-- Where a path leads from a location. -/
def Location.follow (l : Location) (path : String) : Location :=
  (steps path).foldl Location.step (if isAbsolute path then [] else l)

/-- The path that leads from the top to a location. -/
def Location.text (l : Location) : String :=
  "/" ++ String.intercalate "/" l

/-- Whether a location is `folder` itself or lies inside it. -/
def Location.isInside (l folder : Location) : Bool :=
  folder.isPrefixOf l

theorem Location.isInside_iff {l folder : Location} :
    l.isInside folder = true ↔ folder <+: l :=
  List.isPrefixOf_iff_prefix

/-! ## Showing paths -/

/-- A path as it is shown. -/
structure Shown where
  /-- The separators in front. -/
  top : String
  /-- The names. -/
  names : List String
  deriving Repr, DecidableEq

namespace Shown

/-- The separators in front of a path: two stay two, and any other number counts as one. -/
def topOf (path : List Char) : String :=
  match path with
  | '/' :: '/' :: '/' :: _ => "/"
  | '/' :: '/' :: _ => "//"
  | '/' :: _ => "/"
  | _ => ""

/-- A path to be shown. -/
def ofPath (path : String) : Shown :=
  ⟨topOf path.toList, steps path⟩

/-- A path that goes on from another; one that starts at the top does not. -/
def join (base next : Shown) : Shown :=
  if next.top = "" then ⟨base.top, base.names ++ next.names⟩ else next

/-- The text of a path. -/
def text (s : Shown) : String :=
  if s.top = "" ∧ s.names = [] then "." else s.top ++ String.intercalate "/" s.names

example : text ((ofPath "a//b/./c/").join (ofPath "../d")) = "a/b/c/../d" := by decide +kernel

example : text ((ofPath "a").join (ofPath "//d")) = "//d" ∧ text (ofPath "") = "." := by
  decide +kernel

end Shown

end DecisionFlow.Files
