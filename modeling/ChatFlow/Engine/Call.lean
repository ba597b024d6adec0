import ChatFlow.Event
import ChatFlow.Execution
import ChatFlow.Flow.Graph

/-!
# Calls

The engine does nothing by itself: it calls the store, the library of flows, the channel that
delivers messages, the text generator, the clock and so on.  Each call has an outcome, whose type
depends on the call.  Most calls may fail, with an error or with a panic; reading the clock,
pausing and publishing an event cannot.
-/

namespace ChatFlow

/-- What the text generator is asked. -/
structure AiRequest where
  /-- The prompt. -/
  prompt : String
  /-- The user's text. -/
  input : String
  /-- The key of the node, if it brings one along. -/
  apiKey : Option String
  /-- The device. -/
  device : String
  /-- The latest exchanges of the conversation, the oldest first. -/
  history : List HistoryEntry
deriving DecidableEq, Inhabited, Repr

/-- What the engine calls. -/
inductive Call where
  /-- Take the lock of a conversation. -/
  | acquire (conversation : Conversation)
  /-- Release the lock of a conversation. -/
  | release (conversation : Conversation)
  /-- Find the flow that a message to a device starts. -/
  | resolveFlow (device input : String)
  /-- Find a flow by its id. -/
  | flow (id : String)
  /-- Find the running execution of a conversation. -/
  | activeExecution (conversation : Conversation)
  /-- Find an execution by its id. -/
  | executionById (id : String)
  /-- Find the latest execution of a conversation in a flow. -/
  | latestExecution (conversation : Conversation) (flow : String)
  /-- Create the running execution of a conversation in a flow, or find it. -/
  | createExecution (conversation : Conversation) (flow node : String)
  /-- Move the running execution of a conversation in a flow. -/
  | advance (conversation : Conversation) (flow node : String) (waiting : Bool)
  /-- Park or unpark the running execution of a conversation in a flow. -/
  | setWaiting (conversation : Conversation) (flow : String) (waiting : Bool)
  /-- Complete the running execution of a conversation in a flow. -/
  | complete (conversation : Conversation) (flow : String)
  /-- Set the stage of an execution. -/
  | setStage (id : String) (stage : Option String)
  /-- Set the captured fields of an execution. -/
  | saveVariables (id : String) (vars : Keyed String)
  /-- Add a history entry. -/
  | appendHistory (conversation : Conversation) (entry : HistoryEntry)
  /-- Read the latest history entries. -/
  | readHistory (conversation : Conversation) (limit : Nat)
  /-- Find the capture rules of a stage on a device. -/
  | captureRules (device stage : String)
  /-- Send a text. -/
  | sendText (device phone text : String)
  /-- Send media. -/
  | sendMedia (device phone url : String) (kind : Media.Kind)
  /-- Look at media. -/
  | classify (url : String)
  /-- Ask the text generator. -/
  | generate (request : AiRequest)
  /-- Queue a continuation. -/
  | enqueue (item : Continuation)
  /-- Read the clock. -/
  | now
  /-- Pause. -/
  | pause (span : Span)
  /-- Publish an event. -/
  | publish (event : Event)
deriving Repr

namespace Call

/-- The outcome of a call. -/
@[reducible]
def Outcome : Call → Type
  | .acquire _ => Except Fault Bool
  | .release _ => Except Fault Unit
  | .resolveFlow .. => Except Fault (Option Flow.Graph)
  | .flow _ => Except Fault Flow.Graph
  | .activeExecution _ => Except Fault (Option Execution)
  | .executionById _ => Except Fault (Option Execution)
  | .latestExecution .. => Except Fault (Option Execution)
  | .createExecution .. => Except Fault Execution
  | .advance .. => Except Fault Unit
  | .setWaiting .. => Except Fault Unit
  | .complete .. => Except Fault Unit
  | .setStage .. => Except Fault Unit
  | .saveVariables .. => Except Fault Unit
  | .appendHistory .. => Except Fault Unit
  | .readHistory .. => Except Fault (List HistoryEntry)
  | .captureRules .. => Except Fault (List Capture)
  | .sendText .. => Except Fault Unit
  | .sendMedia .. => Except Fault Unit
  | .classify _ => Except Fault Media.Kind
  | .generate _ => Except Fault String
  | .enqueue _ => Except Fault Unit
  | .now => Instant
  | .pause _ => Unit
  | .publish _ => Unit

end Call

end ChatFlow
