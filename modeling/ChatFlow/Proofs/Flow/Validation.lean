import ChatFlow.Proofs.Flow.Paths

/-!
# Validation of definitions

A definition makes a graph exactly when its ids are distinct, one of its nodes is a start node, and
all its edges join nodes.  Otherwise the first defect is told: a repeated id before the number of
start nodes, and that before an edge with an end that is no node.  The graph finds every node and
every edge of the definition, and nothing else.
-/

namespace ChatFlow
namespace Flow
namespace Definition

/-- The ids of the nodes, in the author's order. -/
def ids (definition : Definition) : List String :=
  definition.nodes.map Node.id

/-- Both ends of an edge are nodes. -/
def Joins (definition : Definition) (edge : Edge) : Prop :=
  edge.source ∈ definition.ids ∧ edge.target ∈ definition.ids

/-- What makes a definition a graph. -/
structure IsGraph (definition : Definition) : Prop where
  /-- No two nodes share an id. -/
  distinct : definition.ids.Nodup
  /-- Exactly one node is a start node. -/
  single : ∃ start, definition.nodes.filter (fun node => node.kind == .start) = [start]
  /-- The ends of every edge are nodes. -/
  joined : ∀ edge ∈ definition.edges, definition.Joins edge

/-- The id is the first one that an earlier node has. -/
def Repeats (definition : Definition) (id : String) : Prop :=
  ∃ earlier node later, definition.nodes = earlier ++ node :: later ∧ node.id = id ∧
    (earlier.map Node.id).Nodup ∧ id ∈ earlier.map Node.id

/-- The end is the first one of an edge that is no node: its source, or else its target. -/
def Misses (definition : Definition) (edge : Edge) (missing : String) : Prop :=
  missing ∉ definition.ids ∧
    (missing = edge.source ∨ edge.source ∈ definition.ids ∧ missing = edge.target)

/-- The edge is the first one with an end that is no node. -/
def Dangles (definition : Definition) (edge : Edge) (missing : String) : Prop :=
  ∃ earlier later, definition.edges = earlier ++ edge :: later ∧
    (∀ other ∈ earlier, definition.Joins other) ∧ definition.Misses edge missing

/-- The first defect of a definition. -/
inductive HasDefect (definition : Definition) : Defect → Prop
  /-- An id repeats. -/
  | duplicateNode {id : String} (repeats : definition.Repeats id) :
      HasDefect definition (.duplicateNode id)
  /-- No id repeats, and there is not exactly one start node. -/
  | startCount (distinct : definition.ids.Nodup) (several : definition.startIds.length ≠ 1) :
      HasDefect definition (.startCount definition.startIds)
  /-- No id repeats, there is one start node, and an edge leads from or to nowhere. -/
  | unknownEnd {edge : Edge} {missing : String} (distinct : definition.ids.Nodup)
      (single : definition.startIds.length = 1) (dangles : definition.Dangles edge missing) :
      HasDefect definition (.unknownEnd edge missing)

variable {definition : Definition} {edge : Edge} {defect : Defect} {id : String}

/-! ## Repeated ids -/

/-- No id repeats exactly when all are distinct, and none of them was seen before. -/
theorem duplicate?_eq_none_iff {seen : List String} {nodes : List Node} :
    duplicate? seen nodes = none ↔
      (nodes.map Node.id).Nodup ∧ ∀ node ∈ nodes, node.id ∉ seen := by
  refine ⟨nodup_of_duplicate?_eq_none, ?_⟩
  induction nodes generalizing seen with
  | nil => exact fun _ => rfl
  | cons node rest inductionHypothesis =>
      rintro ⟨distinct, apart⟩
      rw [List.map_cons, List.nodup_cons] at distinct
      have fresh : node.id ∉ seen := apart node List.mem_cons_self
      rw [duplicate?, if_neg (by simpa using fresh)]
      apply inductionHypothesis
      refine ⟨distinct.2, ?_⟩
      intro other member
      rw [List.mem_cons, not_or]
      refine ⟨?_, apart other (List.mem_cons_of_mem node member)⟩
      intro same
      exact distinct.1 (same ▸ List.mem_map_of_mem member)

/-- After nodes whose ids are new, an id that was seen by then is told. -/
theorem duplicate?_append
    {seen : List String}
    {earlier later : List Node}
    {node : Node}
    (fresh : duplicate? seen earlier = none)
    (known : node.id ∈ seen ∨ node.id ∈ earlier.map Node.id) :
    duplicate? seen (earlier ++ node :: later) = some node.id := by
  induction earlier generalizing seen with
  | nil =>
      have contained : seen.contains node.id = true := by simpa using known
      rw [List.nil_append, duplicate?, if_pos contained]
  | cons first earlier inductionHypothesis =>
      rw [duplicate?] at fresh
      split at fresh
      · cases fresh
      · rename_i new
        rw [List.cons_append, duplicate?, if_neg new]
        apply inductionHypothesis fresh
        rw [List.map_cons, List.mem_cons] at known
        rw [List.mem_cons]
        tauto

/-- An id that is told was seen before, and all ids in front of it are new. -/
theorem exists_of_duplicate?_eq_some
    {seen : List String}
    {nodes : List Node}
    (told : duplicate? seen nodes = some id) :
    ∃ earlier node later, nodes = earlier ++ node :: later ∧ node.id = id ∧
      duplicate? seen earlier = none ∧ (id ∈ seen ∨ id ∈ earlier.map Node.id) := by
  induction nodes generalizing seen with
  | nil => cases told
  | cons node rest inductionHypothesis =>
      rw [duplicate?] at told
      split at told
      · rename_i known
        cases told
        exact ⟨[], node, rest, rfl, rfl, rfl, .inl (by simpa using known)⟩
      · rename_i new
        obtain ⟨earlier, repeated, later, rfl, rfl, fresh, known⟩ := inductionHypothesis told
        refine ⟨node :: earlier, repeated, later, rfl, rfl, ?_, ?_⟩
        · rw [duplicate?, if_neg new, fresh]
        · rw [List.mem_cons] at known
          rw [List.map_cons, List.mem_cons]
          tauto

/-- The pass over the nodes tells the first id that repeats. -/
theorem duplicate?_eq_some_iff :
    duplicate? [] definition.nodes = some id ↔ definition.Repeats id := by
  have new {nodes : List Node} :
      duplicate? [] nodes = none ↔ (nodes.map Node.id).Nodup := by
    simp [duplicate?_eq_none_iff]
  constructor
  · intro told
    obtain ⟨earlier, node, later, parts, named, fresh, known⟩ :=
      exists_of_duplicate?_eq_some told
    exact ⟨earlier, node, later, parts, named, new.mp fresh, by simpa using known⟩
  · rintro ⟨earlier, node, later, parts, rfl, distinct, known⟩
    rw [parts]
    exact duplicate?_append (new.mpr distinct) (.inr known)

/-! ## Edges to nowhere -/

theorem hasNode_iff : definition.hasNode id = true ↔ id ∈ definition.ids := by
  simp [hasNode, ids]

/-- What is told of an edge is the first of its ends that is no node. -/
theorem unknownEnd?_eq_some_iff :
    definition.unknownEnd? edge = some defect ↔
      ∃ missing, defect = .unknownEnd edge missing ∧ definition.Misses edge missing := by
  have known (id : String) : (!definition.hasNode id) = true ↔ id ∉ definition.ids := by
    rw [← hasNode_iff, Bool.not_eq_true', Bool.not_eq_true]
  unfold unknownEnd? Misses
  simp only [known]
  split
  · rename_i noSource
    constructor
    · intro told
      exact ⟨edge.source, (Option.some.inj told).symm, noSource, .inl rfl⟩
    · rintro ⟨missing, rfl, _, rfl | ⟨source, _⟩⟩
      · rfl
      · exact absurd source noSource
  · rename_i source
    split
    · rename_i noTarget
      constructor
      · intro told
        have found : edge.source ∈ definition.ids := by simpa using source
        exact ⟨edge.target, (Option.some.inj told).symm, noTarget, .inr ⟨found, rfl⟩⟩
      · rintro ⟨missing, rfl, noNode, rfl | ⟨_, rfl⟩⟩
        · exact absurd noNode source
        · rfl
    · rename_i target
      refine ⟨nofun, ?_⟩
      rintro ⟨missing, rfl, noNode, rfl | ⟨_, rfl⟩⟩
      · exact absurd noNode source
      · exact absurd noNode target

/-- Nothing is told of an edge that joins two nodes. -/
theorem unknownEnd?_eq_none_iff : definition.unknownEnd? edge = none ↔ definition.Joins edge := by
  rw [unknownEnd?, Joins, ← hasNode_iff, ← hasNode_iff]
  cases definition.hasNode edge.source <;> cases definition.hasNode edge.target <;> simp

/-- The pass over the edges tells the first edge with an end that is no node. -/
theorem findSome?_unknownEnd?_eq_some_iff :
    definition.edges.findSome? definition.unknownEnd? = some defect ↔
      ∃ edge missing, defect = .unknownEnd edge missing ∧ definition.Dangles edge missing := by
  rw [List.findSome?_eq_some_iff]
  simp only [unknownEnd?_eq_some_iff, unknownEnd?_eq_none_iff]
  constructor
  · rintro ⟨earlier, edge, later, parts, ⟨missing, rfl, misses⟩, joined⟩
    exact ⟨edge, missing, rfl, earlier, later, parts, joined, misses⟩
  · rintro ⟨edge, missing, rfl, earlier, later, parts, joined, misses⟩
    exact ⟨earlier, edge, later, parts, ⟨missing, rfl, misses⟩, joined⟩

/-! ## The first defect -/

theorem nodup_ids_iff : duplicate? [] definition.nodes = none ↔ definition.ids.Nodup := by
  simp [duplicate?_eq_none_iff, ids]

/-- There is one start node when there is one id of a start node. -/
theorem length_startIds_eq_one_iff :
    definition.startIds.length = 1 ↔
      ∃ start, definition.nodes.filter (fun node => node.kind == .start) = [start] := by
  rw [startIds, List.length_map, List.length_eq_one_iff]

/-- The defect that is found is the first one. -/
theorem defect?_eq_some_iff : definition.defect? = some defect ↔ definition.HasDefect defect := by
  rw [defect?]
  constructor
  · intro found
    split at found
    · rename_i id told
      cases found
      exact .duplicateNode (duplicate?_eq_some_iff.mp told)
    · rename_i fresh
      have distinct := nodup_ids_iff.mp fresh
      split at found
      · rename_i start single
        obtain ⟨edge, missing, rfl, dangles⟩ := findSome?_unknownEnd?_eq_some_iff.mp found
        exact .unknownEnd distinct (congrArg List.length single) dangles
      · rename_i several
        cases found
        refine .startCount distinct fun single => ?_
        obtain ⟨start, only⟩ := List.length_eq_one_iff.mp single
        exact several start only
  · intro has
    cases has with
    | duplicateNode repeats => rw [duplicate?_eq_some_iff.mpr repeats]
    | startCount distinct several =>
        rw [nodup_ids_iff.mpr distinct]
        dsimp only
        split
        · rename_i start single
          rw [single] at several
          exact absurd rfl several
        · rfl
    | unknownEnd distinct single dangles =>
        rw [nodup_ids_iff.mpr distinct]
        obtain ⟨start, only⟩ := List.length_eq_one_iff.mp single
        rw [only]
        exact findSome?_unknownEnd?_eq_some_iff.mpr ⟨_, _, rfl, dangles⟩

/-- What makes a graph has no defect, and what has none makes a graph. -/
theorem defect?_eq_none_iff : definition.defect? = none ↔ definition.IsGraph := by
  constructor
  · intro sound
    obtain ⟨fresh, ⟨start, only⟩, joined⟩ := of_defect?_eq_none sound
    refine ⟨nodup_ids_iff.mp fresh, ?_, ?_⟩
    · exact length_startIds_eq_one_iff.mp (congrArg List.length only)
    · intro edge member
      exact unknownEnd?_eq_none_iff.mp (List.findSome?_eq_none_iff.mp joined edge member)
  · rintro ⟨distinct, single, joined⟩
    rw [Option.eq_none_iff_forall_ne_some]
    intro defect found
    cases defect?_eq_some_iff.mp found with
    | duplicateNode repeats =>
        have told := duplicate?_eq_some_iff.mpr repeats
        rw [nodup_ids_iff.mpr distinct] at told
        cases told
    | startCount _ several => exact several (length_startIds_eq_one_iff.mpr single)
    | unknownEnd _ _ dangles =>
        obtain ⟨earlier, later, parts, _, noNode, isEnd⟩ := dangles
        have member : _ ∈ definition.edges :=
          parts ▸ List.mem_append_right earlier List.mem_cons_self
        obtain ⟨source, target⟩ := joined _ member
        rcases isEnd with rfl | ⟨_, rfl⟩
        · exact noNode source
        · exact noNode target

end Definition

namespace Graph

/-- A graph finds the nodes and edges of a definition, and nothing else. -/
structure Indexes (graph : Graph) (definition : Definition) : Prop where
  /-- The graph is that of the definition. -/
  definition_eq : graph.definition = definition
  /-- The start node is the one node of its kind. -/
  start : definition.nodes.filter (fun node => node.kind == .start) = [graph.start]
  /-- Some node is found under exactly the ids of the definition. -/
  found : ∀ id, (∃ node, graph.node? id = some node) ↔ id ∈ definition.ids
  /-- What is found under an id is the node with this id. -/
  node : ∀ id node, graph.node? id = some node ↔ node ∈ definition.nodes ∧ node.id = id
  /-- The edges that leave a node are those with this source, in the author's order. -/
  outgoing : ∀ id, graph.outgoing id = definition.edges.filter fun edge => edge.source == id
  /-- The first of them leads to the next node. -/
  target : ∀ id, graph.nextTarget? id =
    (definition.edges.find? fun edge => edge.source == id).map Edge.target
  /-- There is a next node where there is a next target, and it is the target. -/
  next : ∀ id target, graph.nextTarget? id = some target ↔
    ∃ node, graph.nextNode? id = some node ∧ node.id = target

variable {graph : Graph} {definition : Definition} {defect : Defect}

/-- Every graph finds the nodes and edges of its definition. -/
theorem indexes (graph : Graph) : graph.Indexes graph.definition := by
  obtain ⟨_, single, _⟩ := Definition.defect?_eq_none_iff.mp graph.sound
  have node (id : String) (node : Node) :
      graph.node? id = some node ↔ node ∈ graph.definition.nodes ∧ node.id = id := by
    constructor
    · intro found
      exact ⟨mem_of_node? found, id_of_node? found⟩
    · rintro ⟨member, rfl⟩
      exact node?_of_mem member
  refine ⟨rfl, ?_, ?_, node, graph.outgoing_eq_filter, ?_, ?_⟩
  · obtain ⟨start, only⟩ := single
    have first := congrArg List.head? only
    rw [List.head?_filter, graph.start_found, List.head?_cons] at first
    rw [only, Option.some.inj first]
  · intro id
    simp only [node, Definition.ids, List.mem_map]
  · intro id
    rw [nextTarget?, outgoing_eq_filter, List.head?_filter]
  · intro id target
    constructor
    · intro next
      obtain ⟨node, found⟩ := exists_target (hasEdge_of_nextTarget? next)
      refine ⟨node, ?_, id_of_node? found⟩
      rw [nextNode?, next, Option.bind_some, found]
    · rintro ⟨node, next, rfl⟩
      exact (of_nextNode? next).1

/-- Either the first defect is told, or there is none and the definition makes a graph. -/
theorem ofDefinition_cases (definition : Definition) :
    (∃ defect, definition.defect? = some defect ∧ ofDefinition definition = .error defect) ∨
      definition.defect? = none ∧
        ∃ graph, ofDefinition definition = .ok graph ∧ graph.definition = definition := by
  have passes := Index.ofDefinition_eq definition
  unfold ofDefinition
  split
  · rename_i defect stopped
    cases sound : definition.defect? with
    | some first =>
        rw [sound, stopped] at passes
        cases passes
        exact .inl ⟨defect, rfl, rfl⟩
    | none =>
        rw [sound, stopped] at passes
        cases passes
  · rename_i index indexed
    refine .inr ⟨(Index.fits_of_ofDefinition indexed).sound, ?_⟩
    split
    · exact ⟨_, rfl, rfl⟩
    · rename_i missing
      exact absurd missing (Index.fits_of_ofDefinition indexed).starts

/-- The first defect is told, and nothing but a defect is. -/
theorem ofDefinition_eq_error_iff :
    ofDefinition definition = .error defect ↔ definition.HasDefect defect := by
  rw [← Definition.defect?_eq_some_iff]
  rcases ofDefinition_cases definition with ⟨first, found, told⟩ | ⟨sound, graph, made, -⟩
  · simp [found, told]
  · simp [sound, made]

/-- What makes a graph is made one. -/
theorem exists_ofDefinition_eq_ok_iff :
    (∃ graph, ofDefinition definition = .ok graph) ↔ definition.IsGraph := by
  rw [← Definition.defect?_eq_none_iff]
  rcases ofDefinition_cases definition with ⟨first, found, told⟩ | ⟨sound, graph, made, -⟩
  · simp [found, told]
  · simp [sound, made]

/-- A graph that is made of a definition is the graph of that definition. -/
theorem definition_of_ofDefinition (made : ofDefinition definition = .ok graph) :
    graph.definition = definition := by
  rcases ofDefinition_cases definition with ⟨first, found, told⟩ | ⟨sound, other, madeToo, same⟩
  · rw [told] at made
    cases made
  · rw [madeToo] at made
    cases made
    exact same

/-- A definition is validated exactly: it makes a graph if and only if it has no defect, and
otherwise its first defect is told, under the id of the flow.  The graph finds the nodes and edges
of the definition. -/
theorem validated_exactly (definition : Definition) :
    ((∃ graph, validate definition = .ok graph) ↔ definition.IsGraph) ∧
      (∀ defect, ofDefinition definition = .error defect ↔ definition.HasDefect defect) ∧
      (∀ error, validate definition = .error error ↔
        ∃ defect, definition.HasDefect defect ∧
          error = .invalidFlow definition.id defect.message) ∧
      ∀ graph, validate definition = .ok graph → graph.Indexes definition := by
  have accepted {graph : Graph} :
      validate definition = .ok graph ↔ ofDefinition definition = .ok graph := by
    rw [validate]
    cases ofDefinition definition <;> simp [Except.mapError]
  refine ⟨?_, fun _ => ofDefinition_eq_error_iff, ?_, ?_⟩
  · simp only [accepted, exists_ofDefinition_eq_ok_iff]
  · intro error
    simp only [← ofDefinition_eq_error_iff, validate]
    cases ofDefinition definition with
    | ok graph => simp [Except.mapError]
    | error defect => simp [Except.mapError, eq_comm]
  · intro graph made
    rw [accepted] at made
    rw [← definition_of_ofDefinition made]
    exact graph.indexes

end Graph
end Flow
end ChatFlow
