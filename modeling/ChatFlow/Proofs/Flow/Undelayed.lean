import ChatFlow.Proofs.Turn.Route

/-!
# Flows without delays

A flow loses its delays when each of them becomes a node that does nothing.  Nodes keep their ids
and edges stay as they are, so that it is a flow still, and every other node is left as before.
-/

namespace ChatFlow
namespace Flow

/-- A kind, or the one that does nothing in the place of a delay. -/
def NodeKind.undelayed : NodeKind → NodeKind
  | .delay => .manual
  | kind => kind

/-- A node that does nothing in the place of a delay. -/
def Node.undelayed (node : Node) : Node :=
  { node with kind := node.kind.undelayed }

/-- A definition with nodes that do nothing in the place of delays. -/
def Definition.undelayed (definition : Definition) : Definition :=
  { definition with nodes := definition.nodes.map Node.undelayed }

variable {node : Node} {definition : Definition}

theorem NodeKind.undelayed_beq_start (kind : NodeKind) :
    (kind.undelayed == .start) = (kind == .start) := by
  cases kind <;> rfl

@[simp] theorem NodeKind.undelayed_ne_delay (kind : NodeKind) : kind.undelayed ≠ .delay := by
  cases kind <;> simp [undelayed]

@[simp] theorem NodeKind.awaitsReply_undelayed (kind : NodeKind) :
    kind.undelayed.awaitsReply = kind.awaitsReply := by
  cases kind <;> rfl

@[simp] theorem NodeKind.isAi_undelayed (kind : NodeKind) : kind.undelayed.isAi = kind.isAi := by
  cases kind <;> rfl

@[simp] theorem Node.id_undelayed (node : Node) : node.undelayed.id = node.id :=
  rfl

/-- All nodes but delays are left as they are. -/
theorem Node.undelayed_eq (notDelay : node.kind ≠ .delay) : node.undelayed = node := by
  obtain ⟨id, kind, data⟩ := node
  cases kind with
  | delay => exact (notDelay rfl).elim
  | _ => rfl

namespace Definition

theorem duplicate?_undelayed (seen : List String) (nodes : List Node) :
    duplicate? seen (nodes.map Node.undelayed) = duplicate? seen nodes := by
  induction nodes generalizing seen with
  | nil => rfl
  | cons node rest inductionHypothesis =>
      simp only [List.map_cons, duplicate?, Node.id_undelayed, inductionHypothesis]

theorem find?_start_undelayed (nodes : List Node) :
    ((nodes.map Node.undelayed).find? fun node => node.kind == .start) =
      (nodes.find? fun node => node.kind == .start).map Node.undelayed := by
  have same : ((fun node : Node => node.kind == .start) ∘ Node.undelayed) =
      fun node => node.kind == .start :=
    funext fun node => node.kind.undelayed_beq_start
  rw [List.find?_map, same]

theorem startIds_undelayed : definition.undelayed.startIds = definition.startIds := by
  have same : ((fun node : Node => node.kind == .start) ∘ Node.undelayed) =
      fun node => node.kind == .start :=
    funext fun node => node.kind.undelayed_beq_start
  simp [startIds, undelayed, List.filter_map, same, Function.comp_def]

theorem hasNode_undelayed (id : String) :
    definition.undelayed.hasNode id = definition.hasNode id := by
  simp [hasNode, undelayed, Function.comp_def]

/-- To take its delays away makes no defect, and mends none. -/
theorem defect?_undelayed : definition.undelayed.defect? = definition.defect? := by
  have ends : definition.undelayed.unknownEnd? = definition.unknownEnd? := by
    funext edge
    simp [unknownEnd?, hasNode_undelayed]
  simp only [defect?, startIds_undelayed, ends]
  simp only [undelayed, duplicate?_undelayed]

end Definition

namespace Graph

variable {graph : Graph} {text id : String} {answering : Bool}

/-- A flow with nodes that do nothing in the place of delays. -/
def undelayed (graph : Graph) : Graph where
  definition := graph.definition.undelayed
  start := graph.start.undelayed
  sound := Definition.defect?_undelayed.trans graph.sound
  start_found := by
    simp only [Definition.undelayed, Definition.find?_start_undelayed, graph.start_found,
      Option.map_some]
  departures := graph.departures
  departures_eq := graph.departures_eq

theorem node?_undelayed (id : String) :
    graph.undelayed.node? id = (graph.node? id).map Node.undelayed := by
  have same : ((fun node : Node => node.id == id) ∘ Node.undelayed) = fun node => node.id == id :=
    rfl
  simp only [node?_eq_find?, undelayed, Definition.undelayed, List.find?_map, same]

theorem nextTarget?_undelayed (id : String) :
    graph.undelayed.nextTarget? id = graph.nextTarget? id :=
  rfl

theorem nextNode?_undelayed (id : String) :
    graph.undelayed.nextNode? id = (graph.nextNode? id).map Node.undelayed := by
  simp only [nextNode?, nextTarget?_undelayed]
  cases graph.nextTarget? id with
  | none => rfl
  | some target => exact node?_undelayed target

theorem not_isDelay_undelayed : ¬ graph.undelayed.IsDelay id := by
  rintro ⟨node, found, kind⟩
  rw [node?_undelayed, Option.map_eq_some_iff] at found
  obtain ⟨node, _, rfl⟩ := found
  exact node.kind.undelayed_ne_delay kind

/-- After a node that talks to the user it makes no difference whether the next one is a delay. -/
theorem afterTalk_undelayed
    {stopsAt : NodeKind → Bool}
    (same : ∀ kind : NodeKind, stopsAt kind.undelayed = stopsAt kind) :
    Transition.afterTalk stopsAt graph.undelayed id = Transition.afterTalk stopsAt graph id := by
  simp only [Transition.afterTalk, nextNode?_undelayed]
  cases graph.nextNode? id with
  | none => rfl
  | some next => simp [Node.undelayed, same]

/-- All nodes but delays are left as before. -/
theorem exit_undelayed (notDelay : node.kind ≠ .delay) :
    graph.undelayed.exit text answering node = graph.exit text answering node := by
  have output : Transition.afterOutput graph.undelayed node.id =
      Transition.afterOutput graph node.id := afterTalk_undelayed NodeKind.awaitsReply_undelayed
  have ai : Transition.afterAi graph.undelayed node.id = Transition.afterAi graph node.id :=
    afterTalk_undelayed (by simp)
  unfold exit
  cases kind : node.kind with
  | message | image | audio | video => exact congrArg Transition.exit output
  | aiPrompt | advancedAiPrompt | prompt => exact congrArg Transition.exit ai
  | delay => exact (notDelay kind).elim
  | _ => rfl

/-- What was a delay is left along its first edge. -/
theorem exit_undelayed_of_delay (isDelay : node.kind = .delay) :
    graph.undelayed.exit text answering node.undelayed =
      match graph.nextTarget? node.id with
      | some target => .advance target false
      | none => .complete := by
  simp only [exit, Node.undelayed, isDelay, NodeKind.undelayed, Transition.along,
    nextTarget?_undelayed]
  cases graph.nextTarget? node.id with
  | some target => rfl
  | none => rfl

end Graph

namespace Library

/-- A library of flows with nodes that do nothing in the place of delays. -/
def undelayed (library : Library) : Library :=
  { library with flows := library.flows.map fun (id, graph) => (id, graph.undelayed) }

theorem get_undelayed (library : Library) (id : String) :
    library.undelayed.get id = (library.get id).map Graph.undelayed := by
  have found (flows : Keyed Graph) :
      Keyed.get? id (flows.map fun (id, graph) => (id, graph.undelayed)) =
        (Keyed.get? id flows).map Graph.undelayed := by
    induction flows with
    | nil => rfl
    | cons entry flows inductionHypothesis =>
        simp only [List.map_cons, Keyed.get?]
        split
        · rfl
        · exact inductionHypothesis
  simp only [get, undelayed, found]
  cases Keyed.get? id library.flows <;> rfl

theorem resolve_undelayed (library : Library) (device input : String) :
    library.undelayed.resolve device input =
      (library.resolve device input).map (Option.map Graph.undelayed) := by
  have same : library.undelayed.bindingFor? device input = library.bindingFor? device input := rfl
  simp only [resolve, same]
  cases library.bindingFor? device input with
  | none => rfl
  | some binding =>
      simp only [get_undelayed]
      cases library.get binding.flow <;> rfl

end Library
end Flow
end ChatFlow
