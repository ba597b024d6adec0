import ChatFlow.Error
import ChatFlow.Flow.Index

/-!
# Flow graphs

A graph is a definition without defects, with its indexes: node ids are distinct, exactly one node
is a start node, and every edge joins two nodes of the definition.  `Definition.defect?` finds the
first defect, which is where the passes over the definition stop, and a `Graph` carries the proof
that there is none.
-/

namespace ChatFlow
namespace Flow

namespace Definition

/-- The first id that repeats an earlier one. -/
def duplicate? (seen : List String) : List Node → Option String
  | [] => none
  | node :: rest =>
    if seen.contains node.id then some node.id else duplicate? (node.id :: seen) rest

/-- The ids of the start nodes. -/
def startIds (definition : Definition) : List String :=
  (definition.nodes.filter fun node => node.kind == .start).map Node.id

/-- Whether a node has this id. -/
def hasNode (definition : Definition) (id : String) : Bool :=
  definition.nodes.any fun node => node.id == id

/-- The end of an edge that is no node, the source first. -/
def unknownEnd? (definition : Definition) (edge : Edge) : Option Defect :=
  if !definition.hasNode edge.source then some (.unknownEnd edge edge.source)
  else if !definition.hasNode edge.target then some (.unknownEnd edge edge.target)
  else none

/-- The first defect: repeated ids are looked for first, then the start node, then the edges. -/
def defect? (definition : Definition) : Option Defect :=
  match duplicate? [] definition.nodes with
  | some id => some (.duplicateNode id)
  | none =>
    match definition.startIds with
    | [_] => definition.edges.findSome? definition.unknownEnd?
    | ids => some (.startCount ids)

end Definition

namespace Definition

variable {definition : Definition}

/-- The nodes by their ids. -/
def roster (definition : Definition) : Keyed Node :=
  Keyed.ofList (definition.nodes.map fun node => (node.id, node))

/-- An id is found exactly when a node has it. -/
theorem isSome_get?_roster (definition : Definition) (id : String) :
    (Keyed.get? id definition.roster).isSome = definition.hasNode id := by
  rw [Bool.eq_iff_iff, Option.isSome_iff_ne_none, roster, ne_eq, Keyed.get?_ofList_eq_none_iff]
  simp [hasNode]

/-- Ids of which none repeats are distinct, and none of them was seen before. -/
theorem nodup_of_duplicate?_eq_none
    {seen : List String}
    {nodes : List Node}
    (distinct : duplicate? seen nodes = none) :
    (nodes.map Node.id).Nodup ∧ ∀ node ∈ nodes, node.id ∉ seen := by
  induction nodes generalizing seen with
  | nil => simp
  | cons node rest inductionHypothesis =>
    unfold duplicate? at distinct
    split at distinct
    · cases distinct
    · rename_i fresh
      obtain ⟨nodup, apart⟩ := inductionHypothesis distinct
      simp only [List.contains_eq_mem, decide_eq_true_eq] at fresh
      simp only [List.mem_cons, not_or] at apart
      refine ⟨?_, ?_⟩
      · simp only [List.map_cons, List.nodup_cons, List.mem_map, not_exists, not_and]
        exact ⟨fun other member => (apart other member).1, nodup⟩
      · intro other member
        rcases List.mem_cons.mp member with rfl | inRest
        · exact fresh
        · exact (apart other inRest).2

/-- Of nodes with distinct ids, each is the first with its id. -/
theorem find?_id
    {nodes : List Node}
    {node : Node}
    (distinct : (nodes.map Node.id).Nodup)
    (member : node ∈ nodes) :
    nodes.find? (fun other => other.id == node.id) = some node := by
  obtain ⟨before, after, rfl⟩ := List.append_of_mem member
  rw [List.map_append, List.map_cons, List.nodup_append] at distinct
  rw [List.find?_eq_some_iff_append]
  refine ⟨by simp, before, after, rfl, ?_⟩
  intro other listed
  simpa using distinct.2.2 other.id (List.mem_map_of_mem listed) node.id List.mem_cons_self

/-- Of nodes with distinct ids, the one with an id is found. -/
theorem get?_roster
    (distinct : (definition.nodes.map Node.id).Nodup)
    (id : String) :
    Keyed.get? id definition.roster = definition.nodes.find? fun node => node.id == id := by
  rw [roster]
  cases found : definition.nodes.find? fun node => node.id == id with
  | none =>
    rw [Keyed.get?_ofList_eq_none_iff]
    intro pair member
    obtain ⟨node, listed, rfl⟩ := List.mem_map.mp member
    simpa using List.find?_eq_none.mp found node listed
  | some node =>
    obtain ⟨named, before, after, parts, -⟩ := List.find?_eq_some_iff_append.mp found
    rw [beq_iff_eq] at named
    subst named
    rw [parts, List.map_append, List.map_cons, List.nodup_append, List.nodup_cons] at distinct
    rw [Keyed.get?_ofList_eq_some_iff]
    refine ⟨before.map fun node => (node.id, node), after.map fun node => (node.id, node), ?_, ?_⟩
    · rw [parts, List.map_append, List.map_cons]
    · intro pair member same
      obtain ⟨other, listed, rfl⟩ := List.mem_map.mp member
      exact distinct.2.1.1 (List.mem_map.mpr ⟨other, listed, same⟩)

/-- Without a defect no id repeats, one node is a start node, and the ends of all edges are
nodes. -/
theorem of_defect?_eq_none (sound : definition.defect? = none) :
    duplicate? [] definition.nodes = none ∧ (∃ start, definition.startIds = [start]) ∧
      definition.edges.findSome? definition.unknownEnd? = none := by
  unfold defect? at sound
  split at sound
  · cases sound
  · rename_i distinct
    split at sound
    · rename_i start single
      exact ⟨distinct, ⟨start, single⟩, sound⟩
    · cases sound

/-- Without a defect the ids of the nodes are distinct. -/
theorem nodup_ids (sound : definition.defect? = none) : (definition.nodes.map Node.id).Nodup :=
  (nodup_of_duplicate?_eq_none (of_defect?_eq_none sound).1).1

/-- The start node is the first node of its kind. -/
theorem find?_start
    {id : String}
    (single : definition.startIds = [id]) :
    ∃ start, definition.nodes.find? (fun node => node.kind == .start) = some start ∧
      start.id = id := by
  have first := congrArg List.head? single
  rw [startIds, List.head?_map, List.head?_filter, List.head?_cons,
    Option.map_eq_some_iff] at first
  exact first

end Definition

/-! ## Where the passes stop -/

/-- The pass over the nodes stops at the first id that repeats an earlier one. -/
theorem Roll.foldlM_enter
    {roll : Roll}
    {seen : List String}
    (nodes : List Node)
    (same : ∀ id, seen.contains id = (Keyed.get? id roll.nodes).isSome) :
    nodes.foldlM enter roll =
      match Definition.duplicate? seen nodes with
      | some id => .error (.duplicateNode id)
      | none => .ok {
          nodes := nodes.foldl (fun found node => Keyed.insert node.id node found) roll.nodes
          starts := roll.starts ++ (nodes.filter fun node => node.kind == .start).map Node.id } := by
  induction nodes generalizing roll seen with
  | nil => simp [Definition.duplicate?, pure, Except.pure]
  | cons node rest inductionHypothesis =>
    rw [List.foldlM_cons, enter, Definition.duplicate?, same]
    split
    · rfl
    · have sameAfter (id : String) :
          (node.id :: seen).contains id =
            (Keyed.get? id (Keyed.insert node.id node roll.nodes)).isSome := by
        rw [Keyed.get?_insert, List.contains_cons, same]
        by_cases equal : id = node.id
        · simp [equal]
        · simp [equal]
      change rest.foldlM enter _ = _
      rw [inductionHypothesis sameAfter]
      cases Definition.duplicate? (node.id :: seen) rest with
      | some id => rfl
      | none =>
        by_cases start : node.kind == .start
        · simp [start]
        · simp [start]

/-- The pass over the edges stops at the first end that is no node. -/
theorem Roll.foldlM_file
    {definition : Definition}
    {roll : Roll}
    (same : ∀ id, (Keyed.get? id roll.nodes).isSome = definition.hasNode id)
    (edges : List Edge)
    (departures : Departures) :
    edges.foldlM roll.file departures =
      match edges.findSome? definition.unknownEnd? with
      | some defect => .error defect
      | none => .ok (edges.foldl Departures.file departures) := by
  have one (departures : Departures) (edge : Edge) :
      roll.file departures edge =
        match definition.unknownEnd? edge with
        | some defect => .error defect
        | none => .ok (departures.file edge) := by
    have missing (id : String) :
        (Keyed.get? id roll.nodes).isNone = !definition.hasNode id := by
      rw [← same, Option.not_isSome]
    simp only [file, missing, List.find?_cons, List.find?_nil, Definition.unknownEnd?]
    cases definition.hasNode edge.source <;> cases definition.hasNode edge.target <;> rfl
  induction edges generalizing departures with
  | nil => rfl
  | cons edge edges inductionHypothesis =>
    rw [List.foldlM_cons, List.findSome?_cons, one]
    cases definition.unknownEnd? edge with
    | some defect => rfl
    | none => exact inductionHypothesis (departures.file edge)

/-- Both passes together stop at the first defect. -/
theorem Index.ofDefinition_eq (definition : Definition) :
    ofDefinition definition =
      match definition.defect? with
      | some defect => .error defect
      | none => .ok {
          nodes := definition.roster
          departures := .ofEdges definition.edges
          start := definition.startIds.headD "" } := by
  have entered := @Roll.foldlM_enter {} [] definition.nodes fun _ => rfl
  have named : definition.nodes.foldl (fun found node => Keyed.insert node.id node found) [] =
      definition.roster := by
    rw [Definition.roster, Keyed.ofList, List.foldl_map]
  rw [ofDefinition, entered, Definition.defect?, named]
  cases Definition.duplicate? [] definition.nodes with
  | some id => rfl
  | none =>
    change Roll.index ⟨definition.roster, definition.startIds⟩ definition.edges = _
    have filed (starts : List String) :=
      @Roll.foldlM_file definition ⟨definition.roster, starts⟩ definition.isSome_get?_roster
        definition.edges []
    rw [Roll.index]
    rcases definition.startIds with _ | ⟨start, _ | ⟨second, rest⟩⟩
    · rfl
    · simp only [filed]
      cases definition.edges.findSome? definition.unknownEnd? with
      | some defect => rfl
      | none => rfl
    · rfl

/-- What the indexes of a definition without defects are. -/
structure Index.Fits (index : Index) (definition : Definition) : Prop where
  /-- The definition has no defect. -/
  sound : definition.defect? = none
  /-- All nodes are in the index. -/
  nodes_eq : index.nodes = definition.roster
  /-- All edges are in the index. -/
  departures_eq : index.departures = .ofEdges definition.edges
  /-- Under the id of the start node stands the first node of its kind. -/
  start_eq : Keyed.get? index.start index.nodes =
    definition.nodes.find? fun node => node.kind == .start
  /-- There is a start node. -/
  starts : Keyed.get? index.start index.nodes ≠ none

/-- Indexes are made only of definitions without defects. -/
theorem Index.fits_of_ofDefinition
    {definition : Definition}
    {index : Index}
    (indexed : ofDefinition definition = .ok index) :
    index.Fits definition := by
  rw [ofDefinition_eq] at indexed
  cases sound : definition.defect? with
  | some defect =>
    rw [sound] at indexed
    cases indexed
  | none =>
    rw [sound] at indexed
    cases indexed
    obtain ⟨-, ⟨id, single⟩, -⟩ := Definition.of_defect?_eq_none sound
    obtain ⟨start, first, same⟩ := Definition.find?_start single
    have found : Keyed.get? (definition.startIds.headD "") definition.roster = some start := by
      rw [Definition.get?_roster (Definition.nodup_ids sound), single, List.headD_cons, ← same]
      exact Definition.find?_id (Definition.nodup_ids sound) (List.mem_of_find?_eq_some first)
    exact {
      sound
      nodes_eq := rfl
      departures_eq := rfl
      start_eq := found.trans first.symm
      starts := found ▸ Option.some_ne_none start }

/-- A definition without defects, with its indexes. -/
structure Graph where
  /-- The definition. -/
  definition : Definition
  /-- The start node. -/
  start : Node
  /-- The definition has no defect. -/
  sound : definition.defect? = none
  /-- The start node is the first node of its kind. -/
  start_found : definition.nodes.find? (fun node => node.kind == .start) = some start
  /-- The nodes by their ids. -/
  nodes : Keyed Node := definition.roster
  /-- The edges by the nodes that they leave. -/
  departures : Departures := .ofEdges definition.edges
  /-- All nodes are in the index. -/
  nodes_eq : nodes = definition.roster := by rfl
  /-- All edges are in the index. -/
  departures_eq : departures = .ofEdges definition.edges := by rfl

namespace Graph

/-- The graph of a definition, or its first defect. -/
def ofDefinition (definition : Definition) : Except Defect Graph :=
  match indexed : Index.ofDefinition definition with
  | .error defect => .error defect
  | .ok index =>
    match found : Keyed.get? index.start index.nodes with
    | some start => .ok {
        definition
        start
        sound := (Index.fits_of_ofDefinition indexed).sound
        start_found := (Index.fits_of_ofDefinition indexed).start_eq ▸ found
        nodes := index.nodes
        departures := index.departures
        nodes_eq := (Index.fits_of_ofDefinition indexed).nodes_eq
        departures_eq := (Index.fits_of_ofDefinition indexed).departures_eq }
    | none => absurd found (Index.fits_of_ofDefinition indexed).starts

/-- The graph of a definition, a defect as an error that names the flow. -/
def validate (definition : Definition) : Except Error Graph :=
  (ofDefinition definition).mapError fun defect =>
    .invalidFlow definition.id defect.message

/-- Reads a graph from a JSON text. -/
def ofText (text : String) : Except Error Graph :=
  match Definition.ofText? text with
  | some definition => validate definition
  | none => .error (.json "not a flow")

/-- The id of the flow. -/
def id (graph : Graph) : String :=
  graph.definition.id

/-- The name of the flow. -/
def name (graph : Graph) : String :=
  graph.definition.name

/-- The number of nodes. -/
def size (graph : Graph) : Nat :=
  graph.definition.nodes.length

/-- The node with an id. -/
def node? (graph : Graph) (id : String) : Option Node :=
  Keyed.get? id graph.nodes

/-- The node with an id, which is an error when there is none. -/
def require (graph : Graph) (id : String) : Except Error Node :=
  match graph.node? id with
  | some node => .ok node
  | none => .error (.nodeNotFound graph.id id)

/-- The edges that leave a node, in the author's order. -/
def outgoing (graph : Graph) (id : String) : List Edge :=
  graph.departures.leaving id

/-- The target of the first edge that leaves a node. -/
def nextTarget? (graph : Graph) (id : String) : Option String :=
  (graph.outgoing id).head?.map Edge.target

/-- The node that the first edge of a node leads to. -/
def nextNode? (graph : Graph) (id : String) : Option Node :=
  (graph.nextTarget? id).bind graph.node?

/-- Whether an edge leads from one node to another. -/
def hasEdge (graph : Graph) (source target : String) : Bool :=
  (graph.outgoing source).any fun edge => edge.target == target

/-- The texts of the unknown kinds, sorted and each once. -/
def unknownKinds (graph : Graph) : List String :=
  let texts := graph.definition.nodes.filterMap fun node =>
    match node.kind with
    | .unknown text => some text
    | _ => none
  (texts.mergeSort fun left right => decide (left ≤ right)).eraseReps

end Graph

end Flow
end ChatFlow
