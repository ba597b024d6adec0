import ChatFlow.Flow.Graph
import ChatFlow.Json.Record
import ChatFlow.Proofs.Json.Values

/-!
# Definitions that are written

A definition that was read, however it was spelt, is read back from the text that it is written as:
kinds come back from their own spellings, unknown ones as they were given, and so do data, edges
and handles.  The fields of a record are parts of the text in which it was found, whether it was
written as an object or as an array, so that they have no other numbers than the text; a field that
is free-form data is read as a value is.
-/

namespace ChatFlow

/-! ## Records that were read -/

namespace Json

variable {holds : Number → Prop} {depth : Nat} {tree : Tree}

/-- The fields of an object are those of its value. -/
theorem fields?_eq_some_iff {fields : Fields} :
    tree.fields? depth = some fields ↔ tree.valueWithin? depth = some (.object fields) := by
  cases tree with
  | object written =>
      rw [Tree.fields?, Tree.valueWithin?]
      split <;> simp
  | null | bool value => simp [Tree.fields?, Tree.valueWithin?]
  | number value | string value => cases value <;> simp [Tree.fields?, Tree.valueWithin?]
  | array items =>
      rw [Tree.valueWithin?]
      split <;> simp [Tree.fields?]

theorem allNumbers_of_fillSlot?
    {name : String}
    {slots filled : List (List String × Option Tree)}
    (numbers : tree.AllNumbers holds)
    (former : ∀ slot ∈ slots, ∀ tree, slot.2 = some tree → tree.AllNumbers holds)
    (fills : fillSlot? name tree slots = some filled) :
    ∀ slot ∈ filled, ∀ tree, slot.2 = some tree → tree.AllNumbers holds := by
  induction slots generalizing filled with
  | nil =>
      cases fills
      exact nofun
  | cons slot slots inductionHypothesis =>
      obtain ⟨names, found⟩ := slot
      obtain ⟨first, others⟩ := List.forall_mem_cons.mp former
      rw [fillSlot?.eq_def] at fills
      dsimp only at fills
      split at fills
      · split at fills
        · cases fills
          refine List.forall_mem_cons.mpr ⟨?_, others⟩
          rintro _ ⟨⟩
          exact numbers
        · cases fills
      · obtain ⟨rest, restFills, rfl⟩ := Option.map_eq_some_iff.mp fills
        exact List.forall_mem_cons.mpr ⟨first, inductionHypothesis others restFills⟩

theorem allNumbers_of_fillSlots?
    {fields : List (Option String × Tree)}
    {slots filled : List (List String × Option Tree)}
    (each : ∀ field ∈ fields, field.2.AllNumbers holds)
    (former : ∀ slot ∈ slots, ∀ tree, slot.2 = some tree → tree.AllNumbers holds)
    (fills : fillSlots? slots fields = some filled) :
    ∀ slot ∈ filled, ∀ tree, slot.2 = some tree → tree.AllNumbers holds := by
  induction fields generalizing slots with
  | nil =>
      cases fills
      exact former
  | cons field fields inductionHypothesis =>
      obtain ⟨name, tree⟩ := field
      obtain ⟨first, others⟩ := List.forall_mem_cons.mp each
      cases name with
      | none => cases fills
      | some name =>
          obtain ⟨middle, fillsFirst, fillsOthers⟩ := Option.bind_eq_some_iff.mp fills
          exact inductionHypothesis others (allNumbers_of_fillSlot? first former fillsFirst)
            fillsOthers

/-- The fields of a record have the numbers of the record. -/
theorem allNumbers_of_record?
    {names : List (List String)}
    {slots : List (Option Tree)}
    (numbers : tree.AllNumbers holds)
    (read : tree.record? names = some slots) :
    ∀ field, some field ∈ slots → field.AllNumbers holds := by
  intro field member
  cases numbers with
  | array each =>
      rw [Tree.record?] at read
      split at read
      · cases read
      · cases read
        rcases List.mem_append.mp member with given | missing
        · obtain ⟨item, listed, same⟩ := List.mem_map.mp given
          cases same
          exact each _ listed
        · cases (List.mem_replicate.mp missing).2
  | object each =>
      obtain ⟨filled, fills, rfl⟩ := Option.map_eq_some_iff.mp read
      obtain ⟨slot, listed, holdsField⟩ := List.mem_map.mp member
      have empty : ∀ slot ∈ names.map fun name => (name, (none : Option Tree)),
          ∀ tree, slot.2 = some tree → tree.AllNumbers holds := by
        intro slot given tree filledIn
        obtain ⟨name, -, rfl⟩ := List.mem_map.mp given
        cases filledIn
      exact allNumbers_of_fillSlots? each empty fills slot listed field holdsField
  | null | bool | number | string => cases read

end Json

namespace Flow

open Json (Value Tree)

/-! ## Kinds -/

/-- A kind that is not known is spelt as it was given. -/
theorem NodeKind.eq_of_ofText_eq_unknown
    {text spelling : String}
    (unknown : ofText text = .unknown spelling) :
    spelling = text := by
  unfold ofText at unknown
  split at unknown <;> cases unknown
  rfl

/-- A kind is read back from its own spelling. -/
theorem NodeKind.ofText_text (text : String) : ofText (ofText text).text = ofText text := by
  cases kind : ofText text with
  | unknown spelling =>
      obtain rfl := eq_of_ofText_eq_unknown kind
      exact kind
  | _ => decide +kernel

/-! ## What was read -/

variable {depth : Nat} {tree : Tree} {node : Node} {edge : Edge} {definition : Definition}
  {text : String}

/-- The data and the kind of a node are such as are read. -/
structure Node.Settled (depth : Nat) (node : Node) : Prop where
  /-- The kind is that of its own spelling. -/
  kind : NodeKind.ofText node.kind.text = node.kind
  /-- The integers of the data lie in the range. -/
  numbers : (Value.object node.data).AllNumbers Json.Number.InRange
  /-- The data are in order, and no deeper than allowed. -/
  fits : (Value.object node.data).Fits depth

/-- A node that was read has such data and such a kind. -/
theorem Node.settled_of_ofTree?
    (numbers : tree.AllNumbers Json.Number.InRange)
    (read : ofTree? (depth + 2) tree = some node) :
    node.Settled (depth + 1) := by
  unfold ofTree? at read
  rw [if_neg (Nat.succ_ne_zero _)] at read
  obtain ⟨slots, found, rest⟩ := Option.bind_eq_some_iff.mp read
  have each := Json.allNumbers_of_record? numbers found
  dsimp only at rest
  split at rest
  · rename_i id type data
    simp only [Option.bind_eq_bind, Option.bind_eq_some_iff] at rest
    obtain ⟨name, -, spelling, -, rest⟩ := rest
    have spelt := NodeKind.ofText_text spelling
    generalize NodeKind.ofText spelling = kind at rest spelt
    cases data with
    | none =>
        obtain rfl := Option.some.inj rest
        exact ⟨spelt, .object nofun, rfl⟩
    | some data =>
        simp only [Option.bind_eq_some_iff] at rest
        obtain ⟨fields, dataRead, same⟩ := rest
        obtain rfl := Option.some.inj same
        have given : data.AllNumbers Json.Number.InRange := each data (by simp)
        obtain ⟨inRange, fits⟩ := given.ofValued (Json.fields?_eq_some_iff.mp dataRead)
        exact ⟨spelt, inRange, fits⟩
  · cases rest

/-- The items of an array are read one by one. -/
theorem exists_of_mem_mapM
    {α β : Type}
    {read : α → Option β}
    {items : List α}
    {results : List β}
    {result : β}
    (each : items.mapM read = some results)
    (member : result ∈ results) :
    ∃ item ∈ items, read item = some result := by
  induction items generalizing results with
  | nil =>
      cases each
      cases member
  | cons item items inductionHypothesis =>
      simp only [List.mapM_cons, Option.bind_eq_bind, Option.bind_eq_some_iff] at each
      obtain ⟨first, here, others, further, same⟩ := each
      cases same
      rcases List.mem_cons.mp member with rfl | later
      · exact ⟨item, List.mem_cons_self, here⟩
      · obtain ⟨other, listed, there⟩ := inductionHypothesis further later
        exact ⟨other, List.mem_cons_of_mem _ listed, there⟩

theorem mapM_map_eq_some
    {α β : Type}
    {read : α → Option β}
    {write : β → α}
    {results : List β}
    (back : ∀ result ∈ results, read (write result) = some result) :
    (results.map write).mapM read = some results := by
  induction results with
  | nil => rfl
  | cons result results inductionHypothesis =>
      obtain ⟨here, further⟩ := List.forall_mem_cons.mp back
      rw [List.map_cons, List.mapM_cons, here, inductionHypothesis further]
      rfl

/-- The nodes of a definition that was read are such as are read. -/
theorem Definition.settled_of_ofTree?
    (numbers : tree.AllNumbers Json.Number.InRange)
    (read : ofTree? tree = some definition) :
    ∀ node ∈ definition.nodes, node.Settled 124 := by
  unfold ofTree? at read
  obtain ⟨slots, found, rest⟩ := Option.bind_eq_some_iff.mp read
  have each := Json.allNumbers_of_record? numbers found
  dsimp only at rest
  split at rest
  · rename_i id name nodes edges
    have given : nodes.AllNumbers Json.Number.InRange := each nodes (by simp)
    have nodesRead : items? 126 Node.ofTree? nodes = some definition.nodes := by
      simp only [Option.bind_eq_bind, Option.bind_eq_some_iff] at rest
      obtain ⟨_, -, rest⟩ := rest
      split at rest
      all_goals
        simp only [Option.bind_eq_some_iff] at rest
        obtain ⟨_, -, _, nodesRead, rest⟩ := rest
        split at rest
        all_goals
          simp only [Option.bind_eq_some_iff] at rest
          obtain ⟨_, -, same⟩ := rest
          obtain rfl := Option.some.inj same
          exact nodesRead
    obtain ⟨items, written, mapped⟩ := Option.bind_eq_some_iff.mp nodesRead
    intro node member
    obtain ⟨item, listed, nodeRead⟩ := exists_of_mem_mapM mapped member
    cases given with
    | array inside =>
        cases written
        exact Node.settled_of_ofTree? (inside item listed) nodeRead
    | null | bool | number | string | object => cases written
  · cases rest

/-! ## What is written -/

variable {object : List (String × Value) → Value}

/-- The fields of an object are left in their order, or put into that of their keys. -/
def Arranges (object : List (String × Value) → Value) : Prop :=
  object = .object ∨ object = .record

theorem Node.record?_fields (arranges : Arranges object) :
    (object node.fields).tree.record? [["id"], ["type"], ["data"]] =
      some [some (.string (some node.id)), some (.string (some node.kind.text)),
        some (Value.object node.data).tree] := by
  have ordered : Value.record node.fields =
      .object [("data", .object node.data), ("id", .string node.id),
        ("type", .string node.kind.text)] := by
    simp +decide only [Value.record, Node.fields, Keyed.ofList, List.foldl_cons, List.foldl_nil,
      Keyed.insert, if_true, if_false]
  rcases arranges with rfl | rfl
  · rfl
  · rw [ordered]
    rfl

theorem Edge.record?_fields (arranges : Arranges object) :
    (object edge.fields).tree.record?
        [["source"], ["target"], ["sourceHandle", "source_handle"]] =
      some [some (.string (some edge.source)), some (.string (some edge.target)),
        edge.handle.map fun handle => .string (some handle)] := by
  obtain ⟨source, target, handle⟩ := edge
  have ordered : Value.record (Edge.fields ⟨source, target, handle⟩) =
      .object (("source", .string source) ::
        (handle.toList.map fun handle => ("sourceHandle", .string handle)) ++
          [("target", .string target)]) := by
    cases handle <;>
      simp +decide only [Value.record, Edge.fields, Keyed.ofList, List.cons_append,
        List.nil_append, List.foldl_cons, List.foldl_nil, Keyed.insert, if_true, if_false,
        Option.toList_none, Option.toList_some, List.map_nil, List.map_cons]
  rcases arranges with rfl | rfl
  · cases handle <;> rfl
  · rw [ordered]
    cases handle <;> rfl

theorem Definition.record?_form (arranges : Arranges object) :
    (definition.form object).tree.record? [["id"], ["name"], ["nodes"], ["edges"]] =
      some [some (.string (some definition.id)), some (.string (some definition.name)),
        some (Value.array (definition.nodes.map fun node => object node.fields)).tree,
        some (Value.array (definition.edges.map fun edge => object edge.fields)).tree] := by
  have ordered : definition.form .record =
      .object [
        ("edges", .array (definition.edges.map fun edge => .record edge.fields)),
        ("id", .string definition.id), ("name", .string definition.name),
        ("nodes", .array (definition.nodes.map fun node => .record node.fields))] := by
    simp +decide only [Value.record, Definition.form, Keyed.ofList, List.foldl_cons,
      List.foldl_nil, Keyed.insert, if_true, if_false]
  rcases arranges with rfl | rfl
  · rfl
  · rw [ordered]
    rfl

/-- A node is read back from its fields. -/
theorem Node.ofTree?_fields
    (arranges : Arranges object)
    (settled : node.Settled (depth + 1)) :
    ofTree? (depth + 2) (object node.fields).tree = some node := by
  have dataRead : (Value.object node.data).tree.fields? (depth + 1) = some node.data :=
    Json.fields?_eq_some_iff.mpr settled.fits
  simp [ofTree?, Node.record?_fields arranges, Tree.string?, dataRead, settled.kind]

/-- An edge is read back from its fields. -/
theorem Edge.ofTree?_fields (arranges : Arranges object) :
    ofTree? (depth + 1) (object edge.fields).tree = some edge := by
  obtain ⟨source, target, handle⟩ := edge
  cases handle <;>
    simp [ofTree?, Edge.record?_fields arranges, Tree.string?, Tree.optionalString?]

/-- A definition is read back from its form. -/
theorem Definition.ofTree?_form
    (arranges : Arranges object)
    (settled : ∀ node ∈ definition.nodes, node.Settled 124) :
    ofTree? (definition.form object).tree = some definition := by
  have nodesRead : items? 126 Node.ofTree?
      (Value.array (definition.nodes.map fun node => object node.fields)).tree =
        some definition.nodes := by
    rw [Value.tree, Json.itemTrees_eq_map, List.map_map]
    exact mapM_map_eq_some fun node member => Node.ofTree?_fields arranges (settled node member)
  have edgesRead : items? 126 Edge.ofTree?
      (Value.array (definition.edges.map fun edge => object edge.fields)).tree =
        some definition.edges := by
    rw [Value.tree, Json.itemTrees_eq_map, List.map_map]
    exact mapM_map_eq_some fun edge _ => Edge.ofTree?_fields arranges
  simp [ofTree?, Definition.record?_form arranges, Tree.string?, Json.depthLimit, nodesRead,
    edgesRead]

theorem legible_arranged
    {fields : List (String × Value)}
    (arranges : Arranges object)
    (each : ∀ field ∈ fields, field.2.Legible) :
    (object fields).Legible := by
  rcases arranges with rfl | rfl
  · exact .object each
  · exact .object fun field member => each field (Keyed.mem_of_mem_ofList member)

/-- The form of a definition is read back if the data of its nodes are. -/
theorem Definition.legible_form
    (arranges : Arranges object)
    (legible : ∀ node ∈ definition.nodes, (Value.object node.data).Legible) :
    (definition.form object).Legible := by
  have nodeLegible (node : Node) (member : node ∈ definition.nodes) :
      (object node.fields).Legible := by
    refine legible_arranged arranges fun field listed => ?_
    simp only [Node.fields, List.mem_cons, List.not_mem_nil, or_false] at listed
    rcases listed with rfl | rfl | rfl
    · exact .string _
    · exact .string _
    · exact legible node member
  have edgeLegible (edge : Edge) : (object edge.fields).Legible := by
    refine legible_arranged arranges fun field listed => ?_
    obtain ⟨source, target, handle⟩ := edge
    cases handle <;>
      simp only [Edge.fields, List.cons_append, List.nil_append, List.mem_cons, List.not_mem_nil,
        or_false] at listed
    · rcases listed with rfl | rfl <;> exact .string _
    · rcases listed with rfl | rfl | rfl <;> exact .string _
  refine legible_arranged arranges fun field listed => ?_
  simp only [List.mem_cons, List.not_mem_nil, or_false] at listed
  rcases listed with rfl | rfl | rfl | rfl
  · exact .string _
  · exact .string _
  · refine .array fun item member => ?_
    obtain ⟨node, given, rfl⟩ := List.mem_map.mp member
    exact nodeLegible node given
  · refine .array fun item member => ?_
    obtain ⟨edge, -, rfl⟩ := List.mem_map.mp member
    exact edgeLegible edge

/-- A definition that was read is read back from the text of its form. -/
theorem Definition.ofText?_form
    (read : ofText? text = some definition)
    (faithful : ∀ node ∈ definition.nodes,
      (Value.object node.data).AllNumbers Json.Number.Faithful)
    (arranges : Arranges object) :
    ofText? (Json.compact (definition.form object)) = some definition := by
  obtain ⟨tree, treeRead, read⟩ := Option.bind_eq_some_iff.mp read
  have settled := settled_of_ofTree? (Json.allNumbers_of_tree? treeRead) read
  have legible : (definition.form object).Legible :=
    legible_form arranges fun node member =>
      (settled node member).numbers.legible (faithful node member)
  rw [ofText?, Json.tree?, Json.compact, String.toList_ofList, legible.treeOfChars?_encode]
  exact ofTree?_form arranges settled

/-- A definition that was read from a text, in whichever spelling, is read back from the text and
from the value that it is written as, if the numbers of its data that are no integers are.  The
graph, or the error, is the same. -/
theorem Definition.survives_writing
    (text : String)
    (definition : Definition)
    (read : ofText? text = some definition)
    (faithful : ∀ node ∈ definition.nodes,
      (Value.object node.data).AllNumbers Json.Number.Faithful) :
    ofText? definition.toText = some definition ∧
      ofText? (Json.compact definition.toValue) = some definition ∧
      Graph.ofText definition.toText = Graph.ofText text := by
  have fromText : ofText? definition.toText = some definition :=
    ofText?_form read faithful (.inl rfl)
  refine ⟨fromText, ofText?_form read faithful (.inr rfl), ?_⟩
  rw [Graph.ofText, Graph.ofText, fromText, read]

/-! ## A definition in many spellings -/

/-- A definition with a field that is not known, nodes as an object and as an array, kinds in an odd
spelling and unknown, and a handle under its other name. -/
def mixedText : String :=
  "\x7b\"id\":\"f\",\"x\":1,\"nodes\":[\x7b\"id\":\"s\",\"type\":\" START \"\x7d," ++
    "[\"w\",\"Web-Hook\",\x7b\"wait\":0.5,\"tries\":-3\x7d]]," ++
    "\"edges\":[\x7b\"source\":\"s\",\"target\":\"w\",\"source_handle\":\"yes\"\x7d]\x7d"

/-- One half. -/
def half : Json.Number :=
  .real ⟨4602678819172646912⟩

theorem faithful_half : half.Faithful := by
  have told : (Json.value? (Json.compact (.number half))).bind Value.number? = some half := by
    decide +kernel
  obtain ⟨value, read, same⟩ := Option.bind_eq_some_iff.mp told
  intro x _
  rw [read, Json.Value.eq_number_of_number? same]

theorem told_mixedText :
    (Definition.ofText? mixedText).map (fun definition =>
        (definition.nodes.map Node.kind,
          definition.nodes.flatMap fun node => node.data.map fun field => field.2.number?,
          definition.edges)) =
      some ([.start, .unknown "Web-Hook"], [some (.integer (-3)), some half],
        [⟨"s", "w", some "yes"⟩]) := by
  decide +kernel

/-- It is written in another way, and read back. -/
theorem Definition.survives_writing_mixedText :
    ∃ definition, ofText? mixedText = some definition ∧
      definition.nodes.map Node.kind = [.start, .unknown "Web-Hook"] ∧
      definition.edges = [⟨"s", "w", some "yes"⟩] ∧
      ofText? definition.toText = some definition := by
  obtain ⟨definition, read, told⟩ := Option.map_eq_some_iff.mp told_mixedText
  simp only [Prod.mk.injEq] at told
  obtain ⟨kinds, numbers, edges⟩ := told
  have faithful (node : Node) (member : node ∈ definition.nodes) :
      (Value.object node.data).AllNumbers Json.Number.Faithful := by
    refine .object fun field listed => ?_
    have among : field.2.number? ∈ [some (.integer (-3)), some half] :=
      numbers ▸ List.mem_flatMap.mpr ⟨node, member, List.mem_map_of_mem listed⟩
    simp only [List.mem_cons, List.not_mem_nil, or_false] at among
    rcases among with integer | real
    · rw [Json.Value.eq_number_of_number? integer]
      exact .number (Json.faithful_integer _)
    · rw [Json.Value.eq_number_of_number? real]
      exact .number faithful_half
  obtain ⟨back, -, -⟩ := survives_writing mixedText definition read faithful
  exact ⟨definition, read, kinds, edges, back⟩

end Flow
end ChatFlow
