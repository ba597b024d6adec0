import ChatFlow.Flow.Definition

/-!
# Building definitions

Definitions put together step by step, node after node and edge after edge.
-/

namespace ChatFlow
namespace Flow
namespace Definition

/-- A definition without nodes and edges, named by its id. -/
def blank (id : String) : Definition :=
  { id, name := id, nodes := [] }

/-- Adds a node. -/
def addNode (definition : Definition) (node : Node) : Definition :=
  { definition with nodes := definition.nodes ++ [node] }

/-- Adds an edge. -/
def addEdge (definition : Definition) (edge : Edge) : Definition :=
  { definition with edges := definition.edges ++ [edge] }

/-- Adds a node with one field of data. -/
def addNodeWith
    (definition : Definition) (id : String) (kind : NodeKind) (key : String)
    (value : Json.Value) : Definition :=
  definition.addNode { id, kind, data := [(key, value)] }

/-- Adds a message node. -/
def addMessage (definition : Definition) (id text : String) : Definition :=
  definition.addNodeWith id .message "text" (.string text)

/-- Adds a delay node that waits some seconds. -/
def addDelay (definition : Definition) (id : String) (seconds : Nat) : Definition :=
  definition.addNodeWith id .delay "delay" (.natural seconds)

/-- Adds edges from each id to the next. -/
def chain (definition : Definition) (ids : List String) : Definition :=
  (ids.zip ids.tail).foldl
    (fun definition (source, target) => definition.addEdge { source, target }) definition

end Definition
end Flow
end ChatFlow
