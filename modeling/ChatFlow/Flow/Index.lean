import ChatFlow.Flow.Definition

/-!
# Indexes of definitions

While a flow is walked, nodes are looked up by their ids and edges by the node that they leave.
Two passes make the indexes for this.  The pass over the nodes notes the start nodes on its way
and stops at an id that is there already; the pass over the edges stops at an end that is no node.
-/

namespace ChatFlow
namespace Flow

/-- What keeps a definition from being a graph. -/
inductive Defect where
  /-- Two nodes have this id. -/
  | duplicateNode (id : String)
  /-- There is no start node, or there are several; their ids. -/
  | startCount (ids : List String)
  /-- An end of an edge is no node. -/
  | unknownEnd (edge : Edge) (missing : String)
deriving DecidableEq, Repr

namespace Defect

/-- The text of a defect. -/
def message : Defect → String
  | .duplicateNode id => "duplicate node id '" ++ id ++ "'"
  | .startCount [] => "no start node"
  | .startCount ids =>
    toString ids.length ++ " start nodes: " ++ String.intercalate ", " ids
  | .unknownEnd edge missing =>
    "edge " ++ edge.source ++ " -> " ++ edge.target ++ " references unknown node '" ++
      missing ++ "'"

end Defect

/-! ## Departures -/

/-- Edges by the nodes that they leave, those of one node in the author's order. -/
abbrev Departures := Keyed (List Edge)

namespace Departures

/-- The edges that leave a node. -/
def leaving (departures : Departures) (id : String) : List Edge :=
  (Keyed.get? id departures).getD []

/-- Files an edge behind the others that leave the same node. -/
def file (departures : Departures) (edge : Edge) : Departures :=
  Keyed.insert edge.source (departures.leaving edge.source ++ [edge]) departures

/-- The departures that a list of edges makes up. -/
def ofEdges (edges : List Edge) : Departures :=
  edges.foldl file []

/-- An edge that is filed leaves its source and no other node. -/
theorem leaving_file (departures : Departures) (edge : Edge) (id : String) :
    (departures.file edge).leaving id =
      departures.leaving id ++ if edge.source = id then [edge] else [] := by
  rw [leaving, file, Keyed.get?_insert]
  by_cases same : id = edge.source
  · subst same
    simp
  · simp [same, Ne.symm same, leaving]

/-- Edges that are filed one after the other stay in order. -/
theorem leaving_foldl_file (edges : List Edge) (departures : Departures) (id : String) :
    leaving (edges.foldl file departures) id =
      departures.leaving id ++ edges.filter fun edge => edge.source == id := by
  induction edges generalizing departures with
  | nil => exact (List.append_nil _).symm
  | cons edge edges inductionHypothesis =>
    rw [List.foldl_cons, inductionHypothesis, leaving_file, List.append_assoc]
    by_cases same : edge.source = id
    · simp [same]
    · simp [same]

/-- The edges that leave a node are those with this source, in the author's order. -/
theorem leaving_ofEdges (edges : List Edge) (id : String) :
    (ofEdges edges).leaving id = edges.filter fun edge => edge.source == id :=
  leaving_foldl_file edges [] id

end Departures

/-! ## The two passes -/

/-- What the pass over the nodes has found so far. -/
structure Roll where
  /-- The nodes by their ids. -/
  nodes : Keyed Node := []
  /-- The ids of the start nodes, in order. -/
  starts : List String := []

/-- Enters a node, whose id must be new. -/
def Roll.enter (roll : Roll) (node : Node) : Except Defect Roll :=
  if (Keyed.get? node.id roll.nodes).isSome then .error (.duplicateNode node.id)
  else .ok {
    nodes := Keyed.insert node.id node roll.nodes
    starts := if node.kind == .start then roll.starts ++ [node.id] else roll.starts }

/-- Files an edge, whose ends must be nodes. -/
def Roll.file (roll : Roll) (departures : Departures) (edge : Edge) : Except Defect Departures :=
  match [edge.source, edge.target].find? fun id => (Keyed.get? id roll.nodes).isNone with
  | some missing => .error (.unknownEnd edge missing)
  | none => .ok (departures.file edge)

/-- The indexes of a definition. -/
structure Index where
  /-- The nodes by their ids. -/
  nodes : Keyed Node
  /-- The edges by the nodes that they leave. -/
  departures : Departures
  /-- The id of the start node. -/
  start : String

/-- Makes the indexes when all nodes are entered: there must be one start node. -/
def Roll.index (roll : Roll) (edges : List Edge) : Except Defect Index :=
  match roll.starts with
  | [start] =>
    (edges.foldlM roll.file []).map fun departures =>
      { nodes := roll.nodes, departures, start }
  | ids => .error (.startCount ids)

/-- Makes the indexes of a definition, or finds what keeps it from being a graph. -/
def Index.ofDefinition (definition : Definition) : Except Defect Index := do
  let roll ← definition.nodes.foldlM Roll.enter {}
  roll.index definition.edges

end Flow
end ChatFlow
