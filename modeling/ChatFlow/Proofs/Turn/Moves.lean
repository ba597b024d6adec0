import ChatFlow.Proofs.Store.Rows
import ChatFlow.Proofs.Turn.Steps

/-!
# What a turn does to a scene

A turn replaces the row of its execution, queues continuations, and does other things that touch
neither rows nor queue.  `Turn.Move` lists these moves with all that is known when they are made;
what all of them keep is kept by whole turns.
-/

namespace ChatFlow

/-- How a turn changes the row of its execution. -/
inductive ExecutionRow.Changes (graph : Flow.Graph) (now : Instant) (row : ExecutionRow) :
    ExecutionRow → Prop
  /-- Along an edge, but neither away from a delay nor to a delay that waits for a reply. -/
  | advance {target : String} {waiting : Bool} (edge : graph.hasEdge row.node target = true)
      (passed : ¬ graph.IsDelay row.node) (parks : waiting = true → ¬ graph.IsDelay target) :
      Changes graph now row (row.moved now target waiting)
  /-- To wait for a reply. -/
  | wait (passed : ¬ graph.IsDelay row.node) :
      Changes graph now row { row with waiting := true, updated := Timestamp.print now }
  /-- To its end, from a delay only when nothing follows it. -/
  | complete (last : graph.IsDelay row.node → graph.nextTarget? row.node = none) :
      Changes graph now row
        { row with
          status := .completed, last := some row.node, node := "end", waiting := false,
          updated := Timestamp.print now }
  /-- In its stage and its captured fields. -/
  | annotate {stage : Option String} {vars : String} (passed : ¬ graph.IsDelay row.node) :
      Changes graph now row { row with stage, vars, updated := Timestamp.print now }

namespace ExecutionRow.Changes

variable {graph : Flow.Graph} {now : Instant} {row after : ExecutionRow}

theorem id_eq (changes : row.Changes graph now after) : after.id = row.id := by
  cases changes <;> rfl

theorem flow_eq (changes : row.Changes graph now after) : after.flow = row.flow := by
  cases changes <;> rfl

end ExecutionRow.Changes

/-- A row was written at a time of the clock. -/
def ExecutionRow.IsDated (row : ExecutionRow) (clock : Instant → Prop) : Prop :=
  ∃ now, clock now ∧ row.updated = Timestamp.print now

namespace Turn

/-- What a turn of the execution with an id does to a scene. -/
inductive Move
    (engine : Engine) (site : Site) (graph : Flow.Graph) (id : String) (before : Scene) :
    Scene → Prop
  /-- It touches neither rows nor queue. -/
  | aside {after : Scene} (rows : after.store.executions = before.store.executions)
      (queue : after.queued = before.queued) :
      Move engine site graph id before after
  /-- It replaces its row. -/
  | change {row changed : ExecutionRow} {now : Instant} (onClock : site.clock now)
      (member : row ∈ before.store.executions) (id_eq : row.id = id)
      (active : row.status = .active) (known : site.library.get row.flow = .ok graph)
      (changes : row.Changes graph now changed) :
      Move engine site graph id before (before.withStore (before.store.replace changed))
  /-- It queues a continuation at a delay that it has come to. -/
  | queue {row : ExecutionRow} {node : Flow.Node} {item : Continuation}
      (member : row ∈ before.store.executions) (id_eq : row.id = id)
      (active : row.status = .active) (known : site.library.get row.flow = .ok graph)
      (dated : row.IsDated site.clock) (found : graph.node? row.node = some node)
      (ready : row.waiting = false)
      (follows : item.Follows engine graph site.clock row.toExecution node) :
      Move engine site graph id before { before with queued := before.queued ++ [item] }

/-- A property of scenes that every move of a turn keeps. -/
def Kept
    (engine : Engine) (site : Site) (graph : Flow.Graph) (id : String)
    (property : Scene → Prop) : Prop :=
  ∀ before after, property before → Move engine site graph id before after → property after

/-- A row is that of the execution of a turn, and stands at a node; at a delay from which it can go
on it has only just come to stand. -/
structure Stands
    (site : Site) (graph : Flow.Graph) (execution : Execution) (row : ExecutionRow)
    (scene : Scene) : Prop where
  /-- The store is well kept. -/
  kept : scene.store.WellKept
  /-- The row is there. -/
  member : row ∈ scene.store.executions
  /-- It runs. -/
  active : row.status = .active
  /-- It has the id of the execution. -/
  id_eq : row.id = execution.id
  /-- It has the flow of the execution. -/
  flow_eq : row.flow = execution.flow
  /-- It has the conversation of the execution. -/
  conversation_eq : row.conversation = execution.conversation
  /-- It stands where the execution stands. -/
  node_eq : row.node = execution.node
  /-- Its flow is known. -/
  known : site.library.get row.flow = .ok graph
  /-- It stands at a node. -/
  placed : ∃ node, graph.node? row.node = some node
  /-- It has just come to a delay. -/
  arrived : graph.IsDelay row.node →
    graph.nextTarget? row.node = none ∨ row.waiting = false ∧ row.IsDated site.clock

end Turn

/-! ## Answers -/

/-- Whether a call touches neither executions nor the queue. -/
def Call.isAside : Call → Bool
  | .createExecution .. | .advance .. | .setWaiting .. | .complete .. | .setStage ..
  | .saveVariables .. | .enqueue _ => false
  | _ => true

namespace Site.Answers

variable {site : Site} {request : Call} {scene after : Scene} {outcome : request.Outcome}

/-- A call goes well, or it fails with or without its effect. -/
theorem inversion (answered : site.Answers request scene outcome after) :
    (∃ now choice, site.clock now ∧
      outcome = (scene.serve site.library site.stale now choice request).1 ∧
      after = (scene.serve site.library site.stale now choice request).2) ∨
    ∃ fault, site.faults fault ∧ request.failure? fault = some outcome ∧
      (after = scene ∨ ∃ now choice, site.clock now ∧
        after = (scene.serve site.library site.stale now choice request).2) := by
  cases answered with
  | well onClock choice => exact .inl ⟨_, choice, onClock, rfl, rfl⟩
  | failed shown fails => exact .inr ⟨_, shown, fails, .inl rfl⟩
  | failedLate shown fails onClock choice =>
      exact .inr ⟨_, shown, fails, .inr ⟨_, choice, onClock, rfl⟩⟩

/-- A call has the effect of one that goes well, or none. -/
theorem effect (answered : site.Answers request scene outcome after) :
    after = scene ∨ ∃ now choice, site.clock now ∧
      after = (scene.serve site.library site.stale now choice request).2 := by
  rcases answered.inversion with ⟨now, choice, onClock, _, rfl⟩ | ⟨_, _, _, effect⟩
  · exact .inr ⟨now, choice, onClock, rfl⟩
  · exact effect

/-- A call shows what callees show when it does so whenever it goes well. -/
theorem shows
    (answered : site.Answers request scene outcome after)
    (goesWell : ∀ now choice, site.clock now →
      site.Shows request (scene.serve site.library site.stale now choice request).1) :
    site.Shows request outcome := by
  rcases answered.inversion with ⟨now, choice, onClock, rfl, _⟩ | ⟨fault, shown, fails, _⟩
  · exact goesWell now choice onClock
  · cases request with
    | now | pause | publish => cases fails
    | _ =>
        cases fails
        intro other same
        cases same
        exact shown

/-- Rows and queue are as before when they are not what a call is about. -/
theorem of_isAside
    (answered : site.Answers request scene outcome after)
    (isAside : request.isAside = true) :
    after.store.executions = scene.store.executions ∧ after.queued = scene.queued := by
  rcases answered.effect with rfl | ⟨now, choice, _, rfl⟩
  · exact ⟨rfl, rfl⟩
  · cases request with
    | acquire conversation =>
        unfold Scene.serve
        split
        · exact ⟨rfl, rfl⟩
        · simp only [Scene.withStore, Store.acquireAt, and_true]
          split
          · rfl
          · split <;> rfl
    | createExecution | advance | setWaiting | complete | setStage | saveVariables | enqueue =>
        cases isAside
    | _ => exact ⟨rfl, rfl⟩

end Site.Answers

namespace Turn

variable {engine : Engine} {site : Site} {graph : Flow.Graph} {execution : Execution}
  {row : ExecutionRow} {scene after : Scene} {node : Flow.Node} {request : Call}
  {outcome : request.Outcome}

/-- Where a turn stands does not depend on what is neither row nor queue. -/
theorem Stands.aside
    (stands : Stands site graph execution row scene)
    (rows : after.store.executions = scene.store.executions) :
    Stands site graph execution row after where
  kept := stands.kept.of_eq rows
  member := by
    rw [rows]
    exact stands.member
  active := stands.active
  id_eq := stands.id_eq
  flow_eq := stands.flow_eq
  conversation_eq := stands.conversation_eq
  node_eq := stands.node_eq
  known := stands.known
  placed := stands.placed
  arrived := stands.arrived

/-- A turn stands where its row is put. -/
theorem Stands.replace
    {moved : Execution}
    {changed : ExecutionRow}
    (stands : Stands site graph execution row scene)
    (sameId : changed.id = row.id)
    (sameFlow : changed.flow = row.flow)
    (sameConversation : changed.conversation = row.conversation)
    (active : changed.status = .active)
    (movedId : moved.id = execution.id)
    (movedFlow : moved.flow = execution.flow)
    (movedConversation : moved.conversation = execution.conversation)
    (node_eq : changed.node = moved.node)
    (placed : ∃ node, graph.node? changed.node = some node)
    (arrived : graph.IsDelay changed.node →
      graph.nextTarget? changed.node = none ∨
        changed.waiting = false ∧ changed.IsDated site.clock) :
    Stands site graph moved changed (scene.withStore (scene.store.replace changed)) where
  kept := stands.kept.replace stands.member stands.active sameId sameConversation sameFlow
  member := Store.mem_replace_self stands.member sameId.symm
  active := active
  id_eq := by rw [sameId, stands.id_eq, movedId]
  flow_eq := by rw [sameFlow, stands.flow_eq, movedFlow]
  conversation_eq := by rw [sameConversation, stands.conversation_eq, movedConversation]
  node_eq := node_eq
  known := by
    rw [sameFlow]
    exact stands.known
  placed := placed
  arrived := arrived

/-- A turn that is at no delay stays where it is when it notes something down. -/
theorem Stands.annotated
    {now : Instant}
    (stands : Stands site graph execution row scene)
    (found : graph.node? row.node = some node)
    (passed : node.kind ≠ .delay)
    (onClock : site.clock now)
    (stage : Option String)
    (vars : String) :
    let changed : ExecutionRow := { row with stage, vars, updated := Timestamp.print now }
    Move engine site graph execution.id scene (scene.withStore (scene.store.replace changed)) ∧
      ∃ annotated, annotated.node = row.node ∧
        Stands site graph execution annotated (scene.withStore (scene.store.replace changed)) := by
  intro changed
  have notDelay : ¬ graph.IsDelay row.node := by
    rw [Flow.Graph.isDelay_iff found]
    exact passed
  refine ⟨.change onClock stands.member stands.id_eq stands.active stands.known
    (.annotate notDelay), changed, rfl, ?_⟩
  exact stands.replace rfl rfl rfl stands.active rfl rfl rfl stands.node_eq stands.placed
    fun isDelay => (notDelay isDelay).elim

/-- While a turn is at a node, all that its calls do is to move, and it stays there. -/
theorem Stands.answered
    (stands : Stands site graph execution row scene)
    (found : graph.node? row.node = some node)
    (allowed : StepCall engine graph site.clock execution node request)
    (answered : site.Answers request scene outcome after) :
    Move engine site graph execution.id scene after ∧
      ∃ changed, changed.node = row.node ∧ Stands site graph execution changed after := by
  have unmoved {later : Scene} (rows : later.store.executions = scene.store.executions)
      (queue : later.queued = scene.queued) :
      Move engine site graph execution.id scene later ∧
        ∃ changed, changed.node = row.node ∧ Stands site graph execution changed later :=
    ⟨.aside rows queue, row, rfl, stands.aside rows⟩
  by_cases isAside : request.isAside = true
  · obtain ⟨rows, queue⟩ := answered.of_isAside isAside
    exact unmoved rows queue
  · rcases answered.effect with rfl | ⟨now, choice, onClock, rfl⟩
    · exact unmoved rfl rfl
    · cases request with
      | setStage id stage =>
          obtain ⟨rfl, passed⟩ := allowed
          have replaced : scene.store.setStage now execution.id stage =
              scene.store.replace { row with stage, updated := Timestamp.print now } := by
            rw [← stands.id_eq]
            exact stands.kept.updateById_eq stands.member rfl
          simp only [Scene.serve, replaced]
          exact stands.annotated found passed onClock stage row.vars
      | saveVariables id vars =>
          obtain ⟨rfl, passed⟩ := allowed
          have replaced : scene.store.saveVariables now execution.id vars =
              scene.store.replace
                { row with
                  vars := Store.encodeVariables vars, updated := Timestamp.print now } := by
            rw [← stands.id_eq]
            exact stands.kept.updateById_eq stands.member rfl
          simp only [Scene.serve, replaced]
          exact stands.annotated found passed onClock row.stage (Store.encodeVariables vars)
      | enqueue item =>
          have follows : item.Follows engine graph site.clock execution node := allowed
          have isDelay : graph.IsDelay row.node := ⟨node, found, follows.kind⟩
          rcases stands.arrived isDelay with last | ⟨ready, dated⟩
          · rw [← Flow.Graph.id_of_node? found, follows.target] at last
            cases last
          · refine ⟨?_, row, rfl, stands.aside rfl⟩
            exact .queue stands.member stands.id_eq stands.active stands.known dated found ready
              { kind := follows.kind
                target := follows.target
                execution_eq := follows.execution_eq.trans stands.id_eq.symm
                flow_eq := follows.flow_eq.trans stands.flow_eq.symm
                conversation_eq := follows.conversation_eq.trans stands.conversation_eq.symm
                due := follows.due }
      | createExecution | advance | setWaiting | complete => cases allowed
      | _ => exact (isAside rfl).elim

end Turn
end ChatFlow
