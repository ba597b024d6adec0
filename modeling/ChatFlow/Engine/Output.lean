import ChatFlow.Engine.Turn
import ChatFlow.Reply

/-!
# Output of a turn

A turn sends texts and media.  What is handed over is counted, told to the observers and written
to the history; what cannot be handed over is told to the observers, and the turn goes on.  An
error of the history is of no consequence.
-/

namespace ChatFlow
namespace Turn

open Process

/-- Writes an exchange to the history. -/
def logExchange (turn : Turn) (user bot : String) : Process Unit := do
  let time ← ask .now
  let entry : HistoryEntry :=
    { user, bot, stage := turn.execution.stage, displayName := turn.input.displayName, time }
  let _ ← orPanic (← ask (.appendHistory turn.conversation entry))

/-- Writes what was sent to the history; the first such exchange of a turn brings the user's text
along. -/
def logOutput (turn : Turn) (bot : String) : Process Turn := do
  turn.logExchange (if turn.input.isNew && !turn.recorded then turn.input.text else "") bot
  pure { turn with recorded := true }

/-- Writes the user's text to the history unless it is there already. -/
def logInput (turn : Turn) : Process Unit :=
  if turn.input.isNew && !turn.recorded && !Text.isBlank turn.input.text then
    turn.logExchange turn.input.text ""
  else pure ()

/-- Takes notice of what became of a message. -/
def settle (turn : Turn) (node : Flow.Node) (kind body : String) :
    Except Error Unit → Process Turn
  | .ok _ => do
    publish (.dispatched turn.conversation node.id kind)
    { turn with dispatched := turn.dispatched + 1 }.logOutput body
  | .error error => do
    publish (.dispatchFailed turn.conversation node.id error.message)
    pure turn

/-- Sends a text. -/
def sendText (turn : Turn) (node : Flow.Node) (text : String) : Process Turn := do
  let outcome ← ask (.sendText turn.conversation.device turn.conversation.phone text)
  turn.settle node "text" text (← orPanic outcome)

/-- The kind as which media is sent, if it can be sent: what a look at it shows or, where nothing
looks at media, the kind that is hinted at or seems likely. -/
def mediaKind? (engine : Engine) (url : String) (hint : Option Media.Kind) :
    Process (Option Media.Kind) := do
  if engine.hasValidator then
    return (← orPanic (← ask (.classify url))).toOption
  else
    return some (hint.getD (Media.Kind.guess url))

/-- Sends media, or a text in its place when it cannot be used. -/
def sendMedia
    (engine : Engine) (turn : Turn) (node : Flow.Node) (url : String)
    (hint : Option Media.Kind) : Process Turn := do
  match ← mediaKind? engine url hint with
  | some kind =>
    let outcome ← ask (.sendMedia turn.conversation.device turn.conversation.phone url kind)
    turn.settle node kind.name url (← orPanic outcome)
  | none => turn.sendText node engine.settings.mediaFallbackText

/-- Sends one item of a reply. -/
def sendItem (engine : Engine) (turn : Turn) (node : Flow.Node) (item : ReplyItem) :
    Process Turn :=
  match item.media with
  | none => turn.sendText node item.content
  | some hint => sendMedia engine turn node (Text.trim item.content) hint

/-- Sends further items of a reply, with a pause before each. -/
def sendFurther (engine : Engine) (node : Flow.Node) :
    List ReplyItem → Turn → Process Turn
  | [], turn => pure turn
  | item :: rest, turn => do
    unless engine.settings.aiItemDelay = Span.zero do
      ask (.pause engine.settings.aiItemDelay)
    let turn ← sendItem engine turn node item
    sendFurther engine node rest turn

/-- Sends the items of a reply. -/
def sendItems (engine : Engine) (node : Flow.Node) :
    List ReplyItem → Turn → Process Turn
  | [], turn => pure turn
  | item :: rest, turn => do
    let turn ← sendItem engine turn node item
    sendFurther engine node rest turn

end Turn
end ChatFlow
