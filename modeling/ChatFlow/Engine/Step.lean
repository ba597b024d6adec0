import ChatFlow.Condition
import ChatFlow.Delay
import ChatFlow.Engine.Output
import ChatFlow.Prompt

/-!
# Steps of a turn

What a turn does at a node of each kind, and where it goes on.  A node whose data is incomplete
does nothing and is passed.
-/

namespace ChatFlow
namespace Turn

open Process

/-- The keys of a message's text. -/
def textKeys : List String := ["text", "message", "content"]

/-- The keys of an address. -/
def urlKeys : List String := ["url", "mediaUrl", "media_url", "fileUrl", "src", "link"]

/-- The keys of the text that goes with media. -/
def captionKeys : List String := ["caption", "text"]

/-- The keys of a stage. -/
def stageKeys : List String := ["stage", "stageName", "stage_name"]

/-- The stage of a node, which may be empty. -/
def stageTemplate? (node : Flow.Node) : Option String :=
  stageKeys.findSome? fun key => (Keyed.get? key node.data).bind Json.Value.string?

/-- Sends the text of a node. -/
def talk (turn : Turn) (node : Flow.Node) : Process Turn :=
  match node.text? textKeys with
  | some template => turn.sendText node (turn.render template)
  | none => pure turn

/-- Sends the text that goes with media. -/
def sendCaption (turn : Turn) (node : Flow.Node) : Process Turn :=
  match node.text? captionKeys with
  | some template => turn.sendText node (turn.render template)
  | none => pure turn

/-- Sends the media of a node and the text that goes with it. -/
def showMedia (engine : Engine) (turn : Turn) (node : Flow.Node) : Process Turn :=
  match node.text? urlKeys with
  | some template => do
    let turn ← sendMedia engine turn node (turn.render (Text.trim template)) node.kind.media?
    turn.sendCaption node
  | none => pure turn

/-- Sets the stage of the execution. -/
def setStage (turn : Turn) (stage : String) : Process Turn := do
  orHalt (← ask (.setStage turn.execution.id (some stage)))
  pure { turn with execution := { turn.execution with stage := some stage } }

/-- Sets the fields that are captured at a stage; an error on looking for the rules is of no
consequence. -/
def captureFields (engine : Engine) (turn : Turn) (stage : String) : Process Turn := do
  if !engine.hasCaptures then return turn
  match ← orPanic (← ask (.captureRules turn.conversation.device stage)) with
  | .error _ => pure turn
  | .ok rules =>
    if rules.any fun rule => (rule.valueFor? turn.input.text).isSome then
      let vars := Capture.overlay turn.input.text rules turn.execution.vars
      orHalt (← ask (.saveVariables turn.execution.id vars))
      pure { turn with execution := { turn.execution with vars } }
    else pure turn

/-- Records the stage of a node and captures fields. -/
def enterStage (engine : Engine) (turn : Turn) (node : Flow.Node) : Process Turn :=
  match stageTemplate? node with
  | some template => do
    let stage := turn.render (Text.trim template)
    let turn ← turn.setStage stage
    if stage.isEmpty then pure turn else captureFields engine turn stage
  | none => pure turn

/-- When a wait that begins now is over; an error when that cannot be computed. -/
def dueAfter (wait : Span) : Process Instant := do
  if wait ≤ Span.longest then
    let due := (← ask .now).after wait
    if due ≤ Instant.latest then pure due
    else halt (.error (.scheduler "delay out of range"))
  else
    halt (.error (.scheduler
      "delay out of range: Source duration value is out of range for the target type"))

/-- Queues a continuation at the node that follows a delay. -/
def delay (engine : Engine) (graph : Flow.Graph) (turn : Turn) (node : Flow.Node) :
    Process Transition := do
  match graph.nextTarget? node.id with
  | none => pure .complete
  | some target =>
    let due ← dueAfter (Delay.span engine.settings.defaultDelay node)
    let item : Continuation :=
      { execution := turn.execution.id
        flow := turn.execution.flow
        target
        conversation := turn.conversation
        payload := turn.input.text
        due }
    orHalt (← ask (.enqueue item))
    pure (.scheduled item)

/-- Follows the branch that the user's text selects. -/
def branch (graph : Flow.Graph) (turn : Turn) (node : Flow.Node) : Transition :=
  match Condition.target? node (graph.outgoing node.id) turn.input.text with
  | some target => .advance target
  | none => .wait

/-- The history that the text generator sees. -/
def recent (engine : Engine) (turn : Turn) : Process (List HistoryEntry) := do
  match ← orPanic (← ask (.readHistory turn.conversation engine.settings.historyLimit)) with
  | .ok entries => pure entries
  | .error _ => pure []

/-- Does what a raw answer of the text generator says; one that is no reply is sent as it is. -/
def obey (engine : Engine) (turn : Turn) (node : Flow.Node) (raw : String) : Process Turn := do
  match Reply.ofText raw with
  | .ok reply =>
    let turn ← match reply.stage with
      | some stage => turn.setStage stage
      | none => pure turn
    sendItems engine node reply.items turn
  | .error _ =>
    if Text.isBlank raw then pure turn else turn.sendText node (Text.trim raw)

/-- Lets the text generator answer; without one, or when it fails, nothing is sent. -/
def consult (engine : Engine) (turn : Turn) (node : Flow.Node) : Process Turn := do
  if !engine.hasGenerator then return turn
  let history ← turn.recent engine
  let request : AiRequest :=
    { prompt := Prompt.compose node turn.context
      input := turn.input.text
      apiKey := Prompt.apiKey? node
      device := turn.conversation.device
      history }
  match ← orPanic (← ask (.generate request)) with
  | .ok raw => obey engine turn node raw
  | .error _ => pure turn

/-- Does what a node says and tells where to go on; `answering` tells whether the user's text
answers this node. -/
def step (engine : Engine) (graph : Flow.Graph) (node : Flow.Node) (answering : Bool)
    (turn : Turn) : Process (Transition × Turn) := do
  match node.kind with
  | .start | .manual | .unknown _ => pure (.along graph node.id, turn)
  | .message => return (.afterOutput graph node.id, ← turn.talk node)
  | .image | .audio | .video => return (.afterOutput graph node.id, ← showMedia engine turn node)
  | .stage => return (.along graph node.id, ← enterStage engine turn node)
  | .delay => return (← delay engine graph turn node, turn)
  | .condition => pure (branch graph turn node, turn)
  | .userReply | .waitingReplyTimes =>
    pure (if answering then .along graph node.id else .wait, turn)
  | .aiPrompt | .advancedAiPrompt | .prompt =>
    return (.afterAi graph node.id, ← consult engine turn node)
  | .end => pure (.complete, turn)

end Turn
end ChatFlow
