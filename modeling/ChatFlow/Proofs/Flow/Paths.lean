import ChatFlow.Condition
import ChatFlow.Engine.Turn
import ChatFlow.Flow.Library
import Mathlib.Data.List.Nodup
import Mathlib.Logic.Relation

/-!
# Edges and paths of a flow

Wherever a node sends an execution, an edge of the graph leads there, and the ends of every edge
are nodes.  `Leads` and `LeadsOn` are the paths that edges make up; a flow is `Unwound` when no
delay lies on a cycle.
-/

namespace ChatFlow
namespace Flow

/-- The chosen edge of a condition node is one of the edges it was given. -/
theorem target?_mem
    {node : Node}
    {edges : List Edge}
    {input target : String}
    (chosen : Condition.target? node edges input = some target) :
    ∃ edge ∈ edges, edge.target = target := by
  have edge?_mem {index : Nat} {branch : Condition.Branch} {edge : Edge}
      (found : Condition.edge? edges index branch = some edge) : edge ∈ edges := by
    simp only [Condition.edge?, Option.or_eq_some_iff] at found
    rcases found with numbered | ⟨_, placed | ⟨_, named⟩⟩
    · exact List.mem_of_find?_eq_some numbered
    · exact List.mem_of_getElem? placed
    · exact List.mem_of_find?_eq_some named
  unfold Condition.target? at chosen
  split at chosen
  · cases chosen
  · obtain ⟨edge, found, rfl⟩ := Option.map_eq_some_iff.mp chosen
    refine ⟨edge, ?_, rfl⟩
    simp only [Option.or_eq_some_iff] at found
    rcases found with (selected | ⟨_, default⟩) | ⟨_, last⟩
    · simp only [Condition.selectedEdge?, Option.bind_eq_bind, Option.bind_eq_some_iff] at selected
      obtain ⟨_, _, _, _, found⟩ := selected
      exact edge?_mem found
    · obtain ⟨⟨branch, index⟩, _, found⟩ := List.exists_of_findSome?_eq_some default
      dsimp only at found
      split at found
      · exact edge?_mem found
      · cases found
    · exact List.mem_of_getLast? last

namespace Graph

variable {graph : Graph}

/-! ## Indexes -/

/-- The node with an id is found among the nodes of the definition. -/
theorem node?_eq_find? (graph : Graph) (id : String) :
    graph.node? id = graph.definition.nodes.find? fun node => node.id == id := by
  rw [node?, graph.nodes_eq, Definition.get?_roster (Definition.nodup_ids graph.sound)]

/-- The edges that leave a node are those of the definition with this source. -/
theorem outgoing_eq_filter (graph : Graph) (id : String) :
    graph.outgoing id = graph.definition.edges.filter fun edge => edge.source == id := by
  rw [outgoing, graph.departures_eq, Departures.leaving_ofEdges]

/-! ## Nodes -/

/-- A node that is found by an id has that id. -/
theorem id_of_node?
    {id : String}
    {node : Node}
    (found : graph.node? id = some node) :
    node.id = id := by
  rw [node?_eq_find?] at found
  simpa using List.find?_some found

/-- A node that is found is one of the definition. -/
theorem mem_of_node?
    {id : String}
    {node : Node}
    (found : graph.node? id = some node) :
    node ∈ graph.definition.nodes := by
  rw [node?_eq_find?] at found
  exact List.mem_of_find?_eq_some found

/-- What `require` returns is the node. -/
theorem require_eq_ok
    {id : String}
    {node : Node}
    (found : graph.node? id = some node) :
    graph.require id = .ok node := by
  simp [require, found]

/-- An id that the definition has is found. -/
theorem exists_node?_of_hasNode
    {id : String}
    (present : graph.definition.hasNode id = true) :
    ∃ node, graph.node? id = some node := by
  rw [← Option.isSome_iff_exists, node?_eq_find?]
  simpa [Definition.hasNode] using present

/-- No edge of a graph has an end that is no node. -/
theorem unknownEnd?_eq_none
    {edge : Edge}
    (member : edge ∈ graph.definition.edges) :
    graph.definition.unknownEnd? edge = none :=
  List.findSome?_eq_none_iff.mp (Definition.of_defect?_eq_none graph.sound).2.2 edge member

/-- The target of every edge is a node. -/
theorem exists_target
    {source target : String}
    (edge : graph.hasEdge source target = true) :
    ∃ node, graph.node? target = some node := by
  simp only [hasEdge, outgoing_eq_filter, List.any_eq_true, List.mem_filter, beq_iff_eq] at edge
  obtain ⟨edge, ⟨member, -⟩, rfl⟩ := edge
  have known := unknownEnd?_eq_none member
  apply exists_node?_of_hasNode
  unfold Definition.unknownEnd? at known
  split at known
  · cases known
  · split at known
    · cases known
    · rename_i present
      simpa using present

/-- The ids of the nodes of a graph are distinct. -/
theorem nodup_ids (graph : Graph) : (graph.definition.nodes.map Node.id).Nodup :=
  Definition.nodup_ids graph.sound

/-- Every node of a graph is found by its id. -/
theorem node?_of_mem
    {node : Node}
    (member : node ∈ graph.definition.nodes) :
    graph.node? node.id = some node := by
  rw [node?_eq_find?]
  exact Definition.find?_id graph.nodup_ids member

/-- The start node is found, and its kind is that of start nodes. -/
theorem node?_start (graph : Graph) :
    graph.node? graph.start.id = some graph.start ∧ graph.start.kind = .start := by
  refine ⟨node?_of_mem (List.mem_of_find?_eq_some graph.start_found), ?_⟩
  simpa using List.find?_some graph.start_found

/-! ## Edges -/

/-- The first target of a node is the target of one of its edges. -/
theorem hasEdge_of_nextTarget?
    {source target : String}
    (next : graph.nextTarget? source = some target) :
    graph.hasEdge source target = true := by
  obtain ⟨edge, first, rfl⟩ := Option.map_eq_some_iff.mp next
  rw [hasEdge, List.any_eq_true]
  exact ⟨edge, List.mem_of_head? first, by simp⟩

/-- The next node is the one that the first target names. -/
theorem of_nextNode?
    {source : String}
    {next : Node}
    (found : graph.nextNode? source = some next) :
    graph.nextTarget? source = some next.id ∧ graph.node? next.id = some next := by
  obtain ⟨target, first, named⟩ := Option.bind_eq_some_iff.mp found
  rw [id_of_node? named]
  exact ⟨first, named⟩

/-- Where a first target is, a next node is. -/
theorem nextTarget?_eq_none
    {source : String}
    (missing : graph.nextNode? source = none) :
    graph.nextTarget? source = none := by
  cases first : graph.nextTarget? source with
  | none => rfl
  | some target =>
      obtain ⟨node, found⟩ := exists_target (hasEdge_of_nextTarget? first)
      simp [nextNode?, first, found] at missing

/-- The branch that a condition node chooses is one of its edges. -/
theorem hasEdge_of_target?
    {source input target : String}
    {node : Node}
    (chosen : Condition.target? node (graph.outgoing source) input = some target) :
    graph.hasEdge source target = true := by
  obtain ⟨edge, member, rfl⟩ := target?_mem chosen
  rw [hasEdge, List.any_eq_true]
  exact ⟨edge, member, by simp⟩

/-! ## Delays and paths -/

/-- A node is a delay. -/
def IsDelay (graph : Graph) (id : String) : Prop :=
  ∃ node, graph.node? id = some node ∧ node.kind = .delay

/-- Any number of edges lead from one node to another. -/
abbrev Leads (graph : Graph) : String → String → Prop :=
  Relation.ReflTransGen fun source target => graph.hasEdge source target = true

/-- At least one edge leads from one node to another. -/
abbrev LeadsOn (graph : Graph) : String → String → Prop :=
  Relation.TransGen fun source target => graph.hasEdge source target = true

/-- No delay lies on a cycle. -/
def Unwound (graph : Graph) : Prop :=
  ∀ id, graph.IsDelay id → ¬ graph.LeadsOn id id

/-- A node that is found is a delay exactly when its kind says so. -/
theorem isDelay_iff
    {id : String}
    {node : Node}
    (found : graph.node? id = some node) :
    graph.IsDelay id ↔ node.kind = .delay := by
  simp [IsDelay, found]

/-- The start node is no delay. -/
theorem not_isDelay_start (graph : Graph) : ¬ graph.IsDelay graph.start.id := by
  obtain ⟨found, kind⟩ := graph.node?_start
  rw [isDelay_iff found, kind]
  simp

/-- In an unwound flow no delay has an edge back to where the way to it began. -/
theorem Unwound.not_hasEdge
    (unwound : graph.Unwound)
    {source delay : String}
    (isDelay : graph.IsDelay delay)
    (leads : graph.Leads source delay) :
    ¬ graph.hasEdge delay source = true := by
  intro edge
  exact unwound delay isDelay (.head' edge leads)

end Graph

namespace Library

/-- Every flow is filed under its own id. -/
def Filed (library : Library) : Prop :=
  ∀ id graph, library.get id = .ok graph → graph.id = id

/-- The library of some flows and bindings. -/
def ofFlows (flows : List Graph) (bindings : List Binding) : Library :=
  { (flows.foldl insert empty) with bindings }

/-- A library that is made of flows files them under their ids. -/
theorem filed_ofFlows (flows : List Graph) (bindings : List Binding) :
    (ofFlows flows bindings).Filed := by
  have inserted (library : Library) (filed : library.Filed) :
      (flows.foldl insert library).Filed := by
    induction flows generalizing library with
    | nil => exact filed
    | cons graph rest inductionHypothesis =>
        apply inductionHypothesis
        intro id found present
        by_cases same : id = graph.id
        · subst same
          rw [get_insert_self] at present
          cases present
          rfl
        · rw [get_insert_of_ne _ _ _ same] at present
          exact filed id found present
  intro id graph found
  exact inserted empty (by intro id graph found; simp [get, empty, Keyed.get?] at found)
    id graph found

/-- What a library resolves a message to is one of its flows. -/
theorem get_of_resolve
    {library : Library}
    (filed : library.Filed)
    {device input : String}
    {graph : Graph}
    (resolved : library.resolve device input = .ok (some graph)) :
    library.get graph.id = .ok graph := by
  unfold resolve at resolved
  split at resolved
  · rename_i binding _
    cases found : library.get binding.flow with
    | error error => simp [found, Except.map] at resolved
    | ok other =>
        simp only [found, Except.map, Except.ok.injEq, Option.some.injEq] at resolved
        subst resolved
        rw [filed _ _ found, found]
  · cases resolved

end Library
end Flow
end ChatFlow
