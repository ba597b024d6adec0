import ChatFlow.Engine.Walk
import ChatFlow.Word

/-!
# Messages

A message is processed under the lock of its conversation, which is released whatever happens in
between.  Without a running execution the message starts the flow that the device is bound to.
An execution that waits takes the message as the reply; one that stands at a delay refuses it,
unless the delay is so long over that its continuation must have been lost.
-/

namespace ChatFlow

/-- Why a message is not processed. -/
inductive SkipReason where
  /-- Another call processes the conversation. -/
  | busy
  /-- A delay of the conversation is not over. -/
  | delayPending
deriving DecidableEq, Inhabited, Repr

/-- The name of a reason. -/
def SkipReason.name : SkipReason → String
  | .busy => "busy"
  | .delayPending => "delay_pending"

/-- What became of a message. -/
inductive InboundOutcome where
  /-- A turn was performed. -/
  | processed (report : TurnReport)
  /-- The message was not processed. -/
  | skipped (reason : SkipReason)
  /-- Nothing runs and the device is bound to no flow. -/
  | noFlow
  /-- A turn was begun but broke off. -/
  | failed (reason : String)
deriving DecidableEq, Inhabited, Repr

/-- The text of a fault. -/
def Fault.text : Fault → String
  | .error cause => cause.message
  | .panic message => message

namespace Engine

open Process

/-- Releases the lock of a conversation; an error is of no consequence. -/
def release (conversation : Conversation) : Process Unit := do
  let _ ← orPanic (← ask (.release conversation))

/-- Performs a process under the lock of a conversation, with its result or its fault; nothing is
performed when the lock is not to be had. -/
def underLock (conversation : Conversation) (process : Process α) :
    Process (Option (Except Fault α)) := do
  if ← orHalt (← ask (.acquire conversation)) then
    let result ← process.contain
    release conversation
    pure (some result)
  else pure none

/-- Tells the observers that a message is not processed. -/
def skip (conversation : Conversation) (reason : SkipReason) : Process InboundOutcome := do
  publish (.skipped conversation reason.name)
  pure (.skipped reason)

/-- Performs a turn that a message starts. -/
def accept (engine : Engine) (graph : Flow.Graph) (execution : Execution) (input : TurnInput) :
    Process InboundOutcome := do
  publish (.accepted execution.conversation execution.flow execution.id)
  return .processed (← Turn.perform engine graph execution input)

/-- The longest time that the tries of a continuation take. -/
def retrySpan (settings : EngineSettings) : Span :=
  Span.ofSeconds (settings.resumeRetrySecs * settings.resumeMaxAttempts % Word.count)

/-- How long after its last change an execution may stand at a delay. -/
def patience (engine : Engine) (node : Flow.Node) : Span :=
  Delay.span engine.settings.defaultDelay node + engine.settings.lockStaleAfter +
    retrySpan engine.settings

/-- Whether an execution stands at a delay for so long that its continuation must have been
lost. -/
def isOverdue (engine : Engine) (execution : Execution) (node : Flow.Node) : Process Bool := do
  let patience := engine.patience node
  if Span.ofSeconds Word.count ≤ patience then
    halt (.panic "overflow when adding durations")
  else if patience ≤ Span.longest then
    let now ← ask .now
    let limit := execution.updated.after patience
    if limit ≤ Instant.latest then pure (decide (limit < now))
    else halt (.panic "`DateTime + TimeDelta` overflowed")
  else pure false

/-- Processes a message when nothing runs. -/
def begin (engine : Engine) (message : InboundMessage) : Process InboundOutcome := do
  let conversation := message.conversation
  match ← orHalt (← ask (.resolveFlow conversation.device message.text)) with
  | none => pure .noFlow
  | some graph =>
    let execution ← orHalt (← ask (.createExecution conversation graph.id graph.start.id))
    engine.accept graph execution (.ofMessage message false)

/-- Processes a message when an execution runs that does not wait for a reply. -/
def interrupt (engine : Engine) (graph : Flow.Graph) (execution : Execution)
    (message : InboundMessage) : Process InboundOutcome := do
  let node ← orFail (graph.require execution.node)
  let input := TurnInput.ofMessage message false
  if node.kind ≠ .delay then engine.accept graph execution input
  else if !(← engine.isOverdue execution node) then skip message.conversation .delayPending
  else
    match graph.nextTarget? node.id with
    | none => engine.accept graph execution input
    | some target =>
      orHalt (← ask (.advance message.conversation execution.flow target false))
      engine.accept graph { execution with node := target, last := some node.id } input

/-- Processes a message whose conversation is locked. -/
def process (engine : Engine) (message : InboundMessage) : Process InboundOutcome := do
  match ← orHalt (← ask (.activeExecution message.conversation)) with
  | none => engine.begin message
  | some execution =>
    let graph ← orHalt (← ask (.flow execution.flow))
    if execution.waiting then engine.accept graph execution (.ofMessage message true)
    else engine.interrupt graph execution message

/-- Handles a message.  Only an error of the lock is an error of the whole: once a turn may have
begun, every fault is an outcome, so that nobody handles the message a second time. -/
def handleInbound (engine : Engine) (message : InboundMessage) : Process InboundOutcome := do
  match ← underLock message.conversation (engine.process message) with
  | none => skip message.conversation .busy
  | some (.ok outcome) => pure outcome
  | some (.error fault) => pure (.failed fault.text)

end Engine
end ChatFlow
