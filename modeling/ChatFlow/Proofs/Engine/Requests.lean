import ChatFlow.Engine.Resume
import ChatFlow.Proofs.Turn.Walk

/-!
# Requests

An engine is asked to handle messages and to take up continuations.  A request reads what it
needs, and unless it is refused it then begins a turn in one of four ways: it creates an
execution, it goes on with one that can go on, it moves one away from a delay that is long over,
or it takes up a continuation that an execution awaits.  `Opens` lists these ways.  Up to there
nothing happens to the scene, and from there on it is the turn that moves.
-/

namespace ChatFlow

open Process

/-! ## What calls are about -/

/-- The conversation of an event. -/
def Event.conversation : Event → Conversation
  | .accepted conversation .. | .skipped conversation _ | .entered conversation ..
  | .dispatched conversation .. | .dispatchFailed conversation .. | .delayScheduled conversation ..
  | .resumed conversation _ | .completed conversation _ | .hopLimit conversation .. => conversation

namespace Call

/-- A call is about no other conversation, unless it names an execution. -/
def Concerns (conversation : Conversation) : Call → Prop
  | .acquire about | .release about | .activeExecution about | .latestExecution about _
  | .createExecution about .. | .advance about .. | .setWaiting about .. | .complete about _
  | .appendHistory about _ | .readHistory about _ => about = conversation
  | .sendText device phone _ | .sendMedia device phone .. =>
      device = conversation.device ∧ phone = conversation.phone
  | .enqueue item => item.conversation = conversation
  | .publish event => event.conversation = conversation
  | _ => True

/-- The executions that a call finds are of one conversation. -/
def Finds (conversation : Conversation) : (call : Call) → call.Outcome → Prop
  | .activeExecution _, .ok (some execution) => execution.conversation = conversation
  | .executionById _, .ok (some execution) => execution.conversation = conversation
  | .latestExecution .., .ok (some execution) => execution.conversation = conversation
  | .createExecution .., .ok execution => execution.conversation = conversation
  | _, _ => True

end Call

/-! ## Requests -/

/-- What an engine is asked to do. -/
inductive Request where
  /-- To handle a message. -/
  | message (message : InboundMessage)
  /-- To take up a continuation. -/
  | continuation (item : Continuation)

/-- What becomes of a request. -/
inductive Verdict where
  /-- What becomes of a message. -/
  | message (outcome : InboundOutcome)
  /-- What becomes of a continuation. -/
  | continuation (outcome : ResumeOutcome)
deriving DecidableEq

/-- Serves a request. -/
def Engine.serve (engine : Engine) : Request → Process Verdict
  | .message message => (engine.handleInbound message).andThen fun outcome =>
      .done (.message outcome)
  | .continuation item => (engine.resume item).andThen fun outcome =>
      .done (.continuation outcome)

/-- A continuation is another one, be it at another time or after another number of tries. -/
def Continuation.Retries (item queued : Continuation) : Prop :=
  item = { queued with due := item.due, attempt := item.attempt }

theorem Continuation.Retries.refl (item : Continuation) : item.Retries item :=
  rfl

namespace Scene

/-- Nothing changed but locks and events. -/
structure Untouched (before after : Scene) : Prop where
  /-- The executions are the same. -/
  executions_eq : after.store.executions = before.store.executions
  /-- The history is the same. -/
  history_eq : after.store.history = before.store.history
  /-- The capture rules are the same. -/
  captures_eq : after.store.captures = before.store.captures
  /-- Nothing was sent. -/
  sent_eq : after.sent = before.sent
  /-- Nothing was queued. -/
  queued_eq : after.queued = before.queued

theorem Untouched.refl (scene : Scene) : scene.Untouched scene :=
  ⟨rfl, rfl, rfl, rfl, rfl⟩

theorem Untouched.trans
    {first second third : Scene}
    (before : first.Untouched second)
    (after : second.Untouched third) :
    first.Untouched third where
  executions_eq := after.executions_eq.trans before.executions_eq
  history_eq := after.history_eq.trans before.history_eq
  captures_eq := after.captures_eq.trans before.captures_eq
  sent_eq := after.sent_eq.trans before.sent_eq
  queued_eq := after.queued_eq.trans before.queued_eq

/-- A request can be made: a continuation must have been queued. -/
def Offers (scene : Scene) : Request → Prop
  | .message _ => True
  | .continuation item => ∃ queued ∈ scene.queued, item.Retries queued

end Scene

namespace Flow.Library

/-- A scene is in order. -/
structure Sound (library : Library) (scene : Scene) : Prop where
  /-- The store is well kept. -/
  kept : scene.store.WellKept
  /-- The flow of every execution is known. -/
  known : ∀ row ∈ scene.store.executions, ∃ graph, library.get row.flow = .ok graph
  /-- A running execution stands at a node of its flow, and an edge leads there from where it
  stood before. -/
  placed : ∀ row ∈ scene.store.executions, row.status = .active →
    ∀ graph, library.get row.flow = .ok graph →
      (∃ node, graph.node? row.node = some node) ∧
      ∀ last, row.last = some last → graph.hasEdge last row.node = true
  /-- No running execution waits for a reply at a delay. -/
  parked : ∀ row ∈ scene.store.executions, row.status = .active → row.waiting = true →
    ∀ graph, library.get row.flow = .ok graph → ¬ graph.IsDelay row.node
  /-- A queued continuation names an execution. -/
  named : ∀ item ∈ scene.queued, ∃ row ∈ scene.store.executions, row.id = item.execution ∧
    row.flow = item.flow ∧ row.conversation = item.conversation

/-- Whether a scene is in order is seen by its executions and its queue. -/
theorem Sound.aside
    {library : Library}
    {before after : Scene}
    (sound : library.Sound before)
    (rows : after.store.executions = before.store.executions)
    (queue : after.queued = before.queued) :
    library.Sound after := by
  constructor
  · exact sound.kept.of_eq rows
  · rw [rows]
    exact sound.known
  · rw [rows]
    exact sound.placed
  · rw [rows]
    exact sound.parked
  · rw [rows, queue]
    exact sound.named

/-- An execution stands at a delay from which an edge leads to the target of a continuation. -/
structure Awaits (library : Library) (item : Continuation) (graph : Graph) (row : ExecutionRow) :
    Prop where
  /-- The execution is the one that the continuation names. -/
  id_eq : row.id = item.execution
  /-- It runs. -/
  active : row.status = .active
  /-- It does not wait for a reply. -/
  ready : row.waiting = false
  /-- The flow is known. -/
  known : library.get row.flow = .ok graph
  /-- It stands at a delay. -/
  isDelay : graph.IsDelay row.node
  /-- An edge leads to the target. -/
  edge : graph.hasEdge row.node item.target = true

end Flow.Library

namespace Site

/-- How a request begins a turn: in which flow, with which row, and in which scene. -/
inductive Opens (site : Site) (engine : Engine) (scene : Scene) :
    Request → Flow.Graph → ExecutionRow → Scene → Prop
  /-- A message to an idle conversation creates an execution. -/
  | fresh {message : InboundMessage} {graph : Flow.Graph} {stamp : Stamp}
      (onClock : site.clock stamp.now)
      (idle : ∀ row ∈ scene.store.executions, row.conversation = message.conversation →
        row.status ≠ .active)
      (unused : ∀ row ∈ scene.store.executions, row.id ≠ stamp.freshId)
      (known : site.library.get graph.id = .ok graph) :
      Opens site engine scene (.message message) graph
        (Store.freshRow stamp message.conversation graph.id graph.start.id)
        (scene.withStore { scene.store with
          executions := scene.store.executions ++
            [Store.freshRow stamp message.conversation graph.id graph.start.id] })
  /-- A message goes on with an execution that stands at no delay, or at the last one. -/
  | standing {message : InboundMessage} {graph : Flow.Graph} {row : ExecutionRow}
      (member : row ∈ scene.store.executions) (active : row.status = .active)
      (known : site.library.get row.flow = .ok graph)
      (last : graph.IsDelay row.node → graph.nextTarget? row.node = none) :
      Opens site engine scene (.message message) graph row scene
  /-- A message moves an execution away from a delay that is long over. -/
  | overdue {message : InboundMessage} {graph : Flow.Graph} {row : ExecutionRow}
      {node : Flow.Node} {target : String} {later now : Instant} (onClock : site.clock now)
      (laterOnClock : site.clock later)
      (member : row ∈ scene.store.executions) (active : row.status = .active)
      (ready : row.waiting = false)
      (known : site.library.get row.flow = .ok graph)
      (found : graph.node? row.node = some node) (kind : node.kind = .delay)
      (late : (Timestamp.parse row.updated).after (engine.patience node) < now)
      (next : graph.nextTarget? row.node = some target) :
      Opens site engine scene (.message message) graph (row.moved later target false)
        (scene.withStore (scene.store.replace (row.moved later target false)))
  /-- A continuation moves the execution that awaits it. -/
  | wake {item : Continuation} {graph : Flow.Graph} {row : ExecutionRow} {now : Instant}
      (onClock : site.clock now) (member : row ∈ scene.store.executions)
      (awaits : site.library.Awaits item graph row) :
      Opens site engine scene (.continuation item) graph (row.moved now item.target false)
        (scene.withStore (scene.store.replace (row.moved now item.target false)))

end Site
end ChatFlow
