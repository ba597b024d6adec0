import ChatFlow.Flow.Node
import ChatFlow.Json.Reading
import ChatFlow.Json.Record
import ChatFlow.Json.Writing

/-!
# Flow definitions

A definition is what an author writes: the nodes of a flow and the edges between them.  This
module reads a definition from JSON and writes it back; whether the definition makes a graph is
decided in `ChatFlow.Flow.Graph`.
-/

namespace ChatFlow
namespace Flow

/-- A connection from one node to another, which may carry the handle of a branch. -/
structure Edge where
  /-- The id of the node that the edge leaves. -/
  source : String
  /-- The id of the node that the edge reaches. -/
  target : String
  /-- The handle of the branch that the edge serves. -/
  handle : Option String := none
deriving DecidableEq, Inhabited, Repr

/-- A scripted conversation. -/
structure Definition where
  /-- The id of the flow. -/
  id : String
  /-- The name of the flow, for people. -/
  name : String := ""
  /-- The nodes, in the author's order. -/
  nodes : List Node
  /-- The edges, in the author's order. -/
  edges : List Edge := []
deriving Inhabited, Repr

namespace Node

/-- Reads a node. -/
def ofTree? (depth : Nat) (tree : Json.Tree) : Option Node := do
  if depth = 0 then none
  match ← tree.record? [["id"], ["type"], ["data"]] with
  | [some id, some kind, data] =>
    return {
      id := ← id.string?
      kind := NodeKind.ofText (← kind.string?)
      data := ← match data with
        | some data => data.fields? (depth - 1)
        | none => some [] }
  | _ => none

/-- The fields of a node, as they are written. -/
def fields (node : Node) : List (String × Json.Value) :=
  [("id", .string node.id), ("type", .string node.kind.text), ("data", .object node.data)]

end Node

namespace Edge

/-- Reads an edge. -/
def ofTree? (depth : Nat) (tree : Json.Tree) : Option Edge := do
  if depth = 0 then none
  match ← tree.record? [["source"], ["target"], ["sourceHandle", "source_handle"]] with
  | [some source, some target, handle] =>
    return {
      source := ← source.string?
      target := ← target.string?
      handle := ← match handle with
        | some handle => handle.optionalString?
        | none => some none }
  | _ => none

/-- The fields of an edge, as they are written. -/
def fields (edge : Edge) : List (String × Json.Value) :=
  [("source", .string edge.source), ("target", .string edge.target)] ++
    match edge.handle with
    | some handle => [("sourceHandle", .string handle)]
    | none => []

end Edge

namespace Definition

/-- Reads the items of an array that `depth` further levels may enclose. -/
def items? (depth : Nat) (read : Nat → Json.Tree → Option α) (tree : Json.Tree) :
    Option (List α) := do
  if depth = 0 then none
  (← tree.items?).mapM (read (depth - 1))

/-- Reads a definition. -/
def ofTree? (tree : Json.Tree) : Option Definition := do
  let inner := Json.depthLimit - 1
  match ← tree.record? [["id"], ["name"], ["nodes"], ["edges"]] with
  | [some id, name, some nodes, edges] =>
    return {
      id := ← id.string?
      name := ← match name with
        | some name => name.string?
        | none => some ""
      nodes := ← items? inner Node.ofTree? nodes
      edges := ← match edges with
        | some edges => items? inner Edge.ofTree? edges
        | none => some [] }
  | _ => none

/-- Reads a definition from a JSON text. -/
def ofText? (text : String) : Option Definition :=
  (Json.tree? text).bind ofTree?

/-- The JSON form of a definition, where `object` makes an object of its fields. -/
def form (object : List (String × Json.Value) → Json.Value) (definition : Definition) :
    Json.Value :=
  object [
    ("id", .string definition.id),
    ("name", .string definition.name),
    ("nodes", .array (definition.nodes.map fun node => object node.fields)),
    ("edges", .array (definition.edges.map fun edge => object edge.fields))]

/-- The JSON value of a definition. -/
def toValue (definition : Definition) : Json.Value :=
  definition.form .record

/-- The JSON text of a definition, with the fields in the order of their declaration. -/
def toText (definition : Definition) : String :=
  Json.compact (definition.form .object)

end Definition

end Flow
end ChatFlow
