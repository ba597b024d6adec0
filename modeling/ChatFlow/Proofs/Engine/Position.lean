import ChatFlow.Flow.Builder
import ChatFlow.Proofs.Engine.Reachable

/-!
# Where executions stand

In every reachable scene all running executions stand at nodes of known flows, behind the nodes
where they stood before.  So no turn fails because it does not find a node or the flow of its
execution.
-/

namespace ChatFlow

open Process

/-- A fault that says that a node or a flow is missing. -/
def Fault.IsLost : Fault → Prop
  | .error (.nodeNotFound ..) | .error (.flowNotFound _) => True
  | _ => False

namespace Flow.Library

/-- A message is not resolved only when its device is bound to a flow that is missing. -/
theorem of_resolve_error
    {library : Library}
    {device input : String}
    {error : Error}
    (unresolved : library.resolve device input = .error error) :
    ∃ flow, error = .flowNotFound flow := by
  unfold resolve at unresolved
  split at unresolved
  · rename_i binding _
    refine ⟨binding.flow, ?_⟩
    unfold get at unresolved
    split at unresolved
    · cases unresolved
    · cases unresolved
      rfl
  · cases unresolved

end Flow.Library

/-- Nothing runs in the conversation of a message, and its device is bound to a missing flow. -/
def Site.Unbound (site : Site) (scene : Scene) (message : InboundMessage) (fault : Fault) :
    Prop :=
  (∀ row ∈ scene.store.executions, row.conversation = message.conversation →
    row.status ≠ .active) ∧
  ∃ flow, site.library.resolve message.conversation.device message.text =
      .error (.flowNotFound flow) ∧
    fault = .error (.flowNotFound flow)

/-- A flow that comes back to its delay after each message. -/
def Flow.Graph.roundabout : Flow.Graph where
  definition := ((((Definition.blank "roundabout").addNode ⟨"start", .start, []⟩).addDelay
    "wait" 5).addMessage "talk" "Hi").chain ["start", "wait", "talk", "wait"]
  start := ⟨"start", .start, []⟩
  sound := by decide
  start_found := rfl

/-- A site with that flow, where everything can fail at any time. -/
def Site.roundabout : Site where
  library := .ofFlows [.roundabout] [{ device := "1", flow := "roundabout" }]
  faults _ := True
  clock _ := True

/-- A message to that site. -/
def InboundMessage.toRoundabout : InboundMessage where
  conversation := { phone := "2", device := "1" }
  text := "go"

/-- The scene after that message was handled. -/
def Scene.roundabout : Scene :=
  ((Engine.serve {} (.message .toRoundabout)).run (Site.roundabout.answer ⟨0⟩ {}) {}).2

theorem reachable_roundabout : Site.roundabout.Reachable {} .roundabout :=
  .single (Site.serves_of_ends (by trivial) (ends_of_run _ (Site.answers_answer trivial {}) _ _))

namespace Engine

variable {site : Site} {engine : Engine} {scene : Scene}

/-- A turn does not get lost by itself. -/
theorem not_isLost_of_halts
    {fault : Fault}
    (halts : site.Halts engine fault)
    (isLost : fault.IsLost) :
    site.faults fault := by
  rcases halts with shown | ⟨⟨text, rfl⟩, _⟩
  · exact shown
  · cases isLost

/-- A message gets lost only when a callee says so, or when nothing runs and its device is bound to
a flow that is missing. -/
theorem Stops.of_isLost
    {message : InboundMessage}
    {fault : Fault}
    (stops : engine.Stops site scene message fault)
    (isLost : fault.IsLost) :
    site.faults fault ∨ site.Unbound scene message fault := by
  rcases stops with halts | ⟨text, rfl⟩ | ⟨text, rfl⟩ | ⟨idle, error, unresolved, rfl⟩
  · exact .inl (not_isLost_of_halts halts isLost)
  · cases isLost
  · cases isLost
  · obtain ⟨flow, rfl⟩ := Flow.Library.of_resolve_error unresolved
    exact .inr ⟨idle, flow, unresolved, rfl⟩

/-- In every scene that requests lead to, each running execution stands at a node of a known flow,
and where it stood before, if anywhere, has an edge to there.  No message and no continuation
ends with a missing node or, where an execution runs, with a missing flow, unless a callee says
that it is missing. -/
theorem position_of_reachable
    {flows : List Flow.Graph}
    {bindings : List Binding}
    (library_eq : site.library = .ofFlows flows bindings)
    (reachable : site.Reachable engine scene) :
    (∀ row ∈ scene.store.executions, row.status = .active →
      ∃ graph, site.library.get row.flow = .ok graph ∧
        (∃ node ∈ graph.definition.nodes, node.id = row.node) ∧
        (row.last = none ∨
          ∃ last, row.last = some last ∧ graph.hasEdge last row.node = true)) ∧
    (∀ message fault after,
      Ends site.Answers (engine.process message) scene (.error fault) after → fault.IsLost →
      site.faults fault ∨ site.Unbound scene message fault) ∧
    (∀ message text after,
      Ends site.Answers (engine.handleInbound message) scene (.ok (.failed text)) after →
      ∃ fault, text = fault.text ∧
        (fault.IsLost → site.faults fault ∨ site.Unbound scene message fault)) ∧
    ∀ item fault after, scene.Offers (.continuation item) →
      Ends site.Answers (engine.resume item) scene (.error fault) after → fault.IsLost →
      site.faults fault := by
  have filed : site.library.Filed := by
    rw [library_eq]
    exact Flow.Library.filed_ofFlows flows bindings
  have sound := reachable.sound filed
  have opening (request : Request) (locked : Scene) (graph : Flow.Graph) (row : ExecutionRow)
      (middle : Scene) (untouched : scene.Untouched locked)
      (opens : site.Opens engine locked request graph row middle) :
      site.library.Sound middle ∧ Turn.Kept engine site graph row.id site.library.Sound :=
    ⟨Site.sound_opens (sound.aside untouched.executions_eq untouched.queued_eq) opens,
      Site.sound_kept⟩
  have stable := (Site.sound_preserved : site.Preserved engine site.library.Sound).untouched
  refine ⟨?_, ?_, ?_, ?_⟩
  · intro row member active
    obtain ⟨graph, known⟩ := sound.known row member
    obtain ⟨⟨node, found⟩, edges⟩ := sound.placed row member active graph known
    refine ⟨graph, known, ⟨node, Flow.Graph.mem_of_node? found,
      Flow.Graph.id_of_node? found⟩, ?_⟩
    cases before : row.last with
    | none => exact .inl rfl
    | some last => exact .inr ⟨last, rfl, edges last before⟩
  · intro message fault after ends isLost
    have safe := process_safe filed sound fun graph row middle =>
      opening (.message message) scene graph row middle (.refl _)
    exact (safe.ends ends).2.of_isLost isLost
  · intro message text after ends
    have safe := handleInbound_safe filed sound stable (opening (.message message))
    obtain ⟨fault, stops, same⟩ := (safe.ends ends).2 text rfl
    exact ⟨fault, same, stops.of_isLost⟩
  · intro item fault after offered ends isLost
    have safe := resume_safe sound offered stable (opening (.continuation item))
    rcases (safe.ends ends).2 with (shown | ⟨text, _, rfl⟩) | ⟨_, ⟨text, rfl⟩, _⟩
    · exact shown
    · cases isLost
    · cases isLost

/-- A message sets out on a round and comes to the delay. -/
theorem position_of_reachable_roundabout :
    (Scene.roundabout.store.executions.map fun row => (row.node, row.last, row.status)) =
        [("wait", some "start", .active)] ∧
      ∀ row ∈ Scene.roundabout.store.executions, row.status = .active →
        ∃ graph, Site.roundabout.library.get row.flow = .ok graph ∧
          (∃ node ∈ graph.definition.nodes, node.id = row.node) ∧
          (row.last = none ∨
            ∃ last, row.last = some last ∧ graph.hasEdge last row.node = true) :=
  ⟨by decide +kernel, (position_of_reachable rfl reachable_roundabout).1⟩

end Engine
end ChatFlow
