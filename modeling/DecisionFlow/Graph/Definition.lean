import DecisionFlow.Graph.Content
import DecisionFlow.Json.Reader

set_option autoImplicit false

/-! # Graph definitions

A decision graph: nodes under their keys, and edges between them. An edge starts at the node whose
identifier it names, and leads to the node whose key it names. -/

namespace DecisionFlow

/-! ## Nodes and edges -/

/-- Where an editor shows a node. -/
structure Position where
  /-- The horizontal coordinate. -/
  x : Float
  /-- The vertical coordinate. -/
  y : Float

/-- A node. -/
structure Node where
  /-- The node's identifier. -/
  id : String
  /-- The node's name on display. -/
  name : String
  /-- The tag that says what the node does. -/
  tag : String
  /-- What the node carries, if anything. -/
  content : Option Content
  /-- Where an editor shows the node. -/
  position : Option Position

/-- An edge. -/
structure Edge where
  /-- The edge's identifier. -/
  id : String
  /-- The identifier of the node it starts at. -/
  source : String
  /-- The key of the node it leads to. -/
  target : String
  /-- The edge's type on display. -/
  type : String
  deriving Repr, DecidableEq

/-- A decision graph. -/
structure Definition where
  /-- The graph's identifier. -/
  id : String
  /-- The graph's name on display. -/
  name : String
  /-- What the graph is for. -/
  description : Option String
  /-- The nodes under their keys. -/
  nodes : Fields Node
  /-- The edges in the order of their declaration. -/
  edges : List Edge

/-! ## Reading -/

/-- Reads a position. -/
def Position.check (origin : Origin) : Check Position :=
  Check.record fun members =>
    ((Check.optional members "x" "x" 0.0 (Check.number origin)).map Position.mk).apply
      (Check.optional members "y" "y" 0.0 (Check.number origin))

/-- The issues of a content that is neither an object nor null: it is tried as an object and then
    as each kind of content. -/
def Content.refuse : Checked Content :=
  .bad [⟨[.field "dict[str,any]"], .notObject⟩, ⟨[.field "ExpressionContent"], .notRecord⟩,
    ⟨[.field "DecisionTableContent"], .notRecord⟩, ⟨[.field "SwitchContent"], .notRecord⟩]

/-- Reads a content whose form the node's tag does not say: an object is kept as it stands. -/
def Content.check : Check Content
  | .obj members => .ok (.raw members)
  | _ => Content.refuse

/-- The content of a node that its tag says how to read, when it is there and an object. -/
def Node.taggedContent? (members : Fields Json) : Option (Checked Content) :=
  match Fields.get? members "type", Fields.get? members "content" with
  | some (.str tag), some (.obj content) =>
    (Content.checkFor? tag).map fun check => check (.obj content)
  | _, _ => none

/-- Reads a node whose content has been checked. -/
def Node.checkWith (members : Fields Json) (content : Checked (Option Content)) : Checked Node :=
  (((((Check.required members "id" "id" Check.text).map Node.mk).apply
    (Check.optional members "name" "name" "" Check.text)).apply
    (Check.required members "type" "type" Check.text)).apply
    content).apply
    (Check.optional members "position" "position" none (Check.orNull (Position.check .data)))

/-- Reads the members of a node. A content that the tag says how to read comes first: its issues
    are the only ones, and they stand directly under the node. -/
def Node.checkMembers : Check Node :=
  Check.record fun members =>
    match Node.taggedContent? members with
    | some content => content.andThen fun c => Node.checkWith members (.ok (some c))
    | none =>
      Node.checkWith members
        (Check.optional members "content" "content" none (Check.orNull Content.check))

/-- Reads a node. Its parts count as data at hand wherever the node comes from. -/
def Node.check : Check Node := fun j =>
  Node.checkMembers j.distinct

/-- Reads an edge. -/
def Edge.check : Check Edge :=
  Check.record fun members =>
    ((((Check.optional members "id" "id" "" Check.text).map Edge.mk).apply
      (Check.required members "sourceId" "source_id" Check.text)).apply
      (Check.required members "targetId" "target_id" Check.text)).apply
      (Check.optional members "type" "type" "edge" Check.text)

/-- Reads a graph. -/
def Definition.check : Check Definition :=
  Check.record fun members =>
    (((((Check.optional members "id" "id" "" Check.text).map Definition.mk).apply
      (Check.optional members "name" "name" "" Check.text)).apply
      (Check.optional members "description" "description" none (Check.orNull Check.text))).apply
      (Check.optional members "nodes" "nodes" [] (Check.fields Node.check))).apply
      (Check.optional members "edges" "edges" [] (Check.list Edge.check))

/-- The nodes of a graph that was read have been read, unless there are none. -/
theorem Definition.nodes_of_check {j : Json} {g : Definition} (h : Definition.check j = .ok g) :
    g.nodes = [] ∨ ∃ nodes, Check.fields Node.check nodes = .ok g.nodes := by
  cases j with
  | obj members =>
    -- The fields are checked one after the other, so the check of the nodes stands inside.
    simp only [Definition.check, Check.record, Checked.apply_eq_ok_iff, Checked.map_eq_ok_iff] at h
    obtain ⟨_, edges, ⟨_, nodes, ⟨_, _, ⟨_, _, ⟨_, _, rfl⟩, _, rfl⟩, _, rfl⟩, hn, rfl⟩, _, rfl⟩ := h
    exact Check.eq_default_or_of_optional hn
  | _ => simp [Definition.check, Check.record, Checked.problem] at h

/-- How many containers may nest in the text of a record. -/
def Check.depthLimit : Nat :=
  200

/-- How much may stand in the text of a record. -/
def Check.limits : Json.Limits :=
  ⟨depthLimit, some Number.digitLimit⟩

/-- Reads a record from the text of a document. -/
def Check.document {α : Type} (check : Check α) (text : String) : Checked α :=
  match Json.read Check.limits text with
  | .ok j => check j
  | .error _ => .problem .notJson

/-! ## Writing -/

/-- The datum of a position. -/
def Position.toJson (p : Position) : Json :=
  .obj [("x", .num p.x), ("y", .num p.y)]

/-- The datum of an optional part. -/
def Json.ofOption {α : Type} (toJson : α → Json) : Option α → Json
  | some a => toJson a
  | none => .null

/-- The datum of a node. -/
def Node.toJson (n : Node) : Json :=
  .obj [("id", .str n.id), ("name", .str n.name), ("type", .str n.tag),
    ("content", Json.ofOption Content.toJson n.content),
    ("position", Json.ofOption Position.toJson n.position)]

/-- The datum of an edge. -/
def Edge.toJson (e : Edge) : Json :=
  .obj [("id", .str e.id), ("sourceId", .str e.source), ("targetId", .str e.target),
    ("type", .str e.type)]

/-- The datum of a graph. -/
def Definition.toJson (g : Definition) : Json :=
  .obj [("id", .str g.id), ("name", .str g.name), ("description", Json.ofOption .str g.description),
    ("nodes", .obj (Fields.mapValues Node.toJson g.nodes)),
    ("edges", .arr (g.edges.map Edge.toJson))]

/-! ## Queries -/

/-- A node and the key it stands under. -/
abbrev Station := String × Node

/-- The first node of kind input. -/
def Definition.inputNode? (g : Definition) : Option Station :=
  g.nodes.find? fun station => canonicalTag station.2.tag = NodeKind.input.tag

/-- The edges that start at the node with the given identifier, in the order of declaration. -/
def Definition.edgesFrom (g : Definition) (id : String) : List Edge :=
  g.edges.filter fun e => e.source = id

/-- The node that the first edge from a node leads to, if there is one. -/
def Definition.next? (g : Definition) (n : Node) : Option Station :=
  match g.edgesFrom n.id with
  | [] => none
  | e :: _ => (Fields.get? g.nodes e.target).map fun next => (e.target, next)

/-- What a graph is called in messages: its identifier or, without one, its name. -/
def Definition.label (g : Definition) : String :=
  if g.id = "" then g.name else g.id

end DecisionFlow
