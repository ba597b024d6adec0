import ChatFlow.Engine.Process
import ChatFlow.Settings

/-!
# Turns

A turn walks one execution through its flow, from the node where it stands to the node where it
has to stop.  This module holds what a turn carries along, how a node tells where to go on, and
what is reported of a turn.
-/

namespace ChatFlow

/-- An engine: its settings, and which of the callees that it can do without it has. -/
structure Engine where
  /-- The settings. -/
  settings : EngineSettings := {}
  /-- Whether there is a text generator. -/
  hasGenerator : Bool := false
  /-- Whether media can be looked at before it is sent. -/
  hasValidator : Bool := false
  /-- Whether there are capture rules. -/
  hasCaptures : Bool := false
deriving Inhabited, Repr

/-- What a turn is given. -/
structure TurnInput where
  /-- The user's text. -/
  text : String
  /-- The user's name, if it is known. -/
  displayName : Option String := none
  /-- Whether the text answers the node where the turn begins. -/
  isReply : Bool := false
  /-- Whether the text belongs into the history. -/
  isNew : Bool := false
deriving Inhabited, Repr

namespace TurnInput

/-- The input of a turn that a message starts. -/
def ofMessage (message : InboundMessage) (isReply : Bool) : TurnInput :=
  { text := message.text, displayName := message.displayName, isReply, isNew := true }

/-- The input of a turn that goes on after a delay; its text is in the history already. -/
def ofPayload (payload : String) : TurnInput :=
  { text := payload }

end TurnInput

/-- What a turn carries along. -/
structure Turn where
  /-- The execution as far as the turn changed it. -/
  execution : Execution
  /-- What the turn was given. -/
  input : TurnInput
  /-- Whether the turn wrote to the history. -/
  recorded : Bool := false
  /-- The ids of the nodes that were entered, in order. -/
  visited : List String := []
  /-- The number of messages that were handed over. -/
  dispatched : Nat := 0
  /-- Whether the execution reached its end. -/
  completed : Bool := false
  /-- The continuation that was queued. -/
  scheduled : Option Continuation := none
  /-- Whether the turn stopped because it visited as many nodes as it may. -/
  hopLimit : Bool := false
deriving Inhabited, Repr

/-- What is reported of a turn. -/
structure TurnReport where
  /-- The id of the execution. -/
  execution : String
  /-- The id of the flow. -/
  flow : String
  /-- The ids of the nodes that were entered, in order. -/
  visited : List String
  /-- The number of messages that were handed over. -/
  dispatched : Nat
  /-- The node where the execution stands now. -/
  final : String
  /-- Whether the execution waits for the user's reply. -/
  waiting : Bool
  /-- Whether the execution reached its end. -/
  completed : Bool
  /-- The continuation that was queued. -/
  scheduled : Option Continuation
  /-- Whether the turn stopped because it visited as many nodes as it may. -/
  hopLimit : Bool
deriving DecidableEq, Inhabited, Repr

namespace Turn

/-- The conversation of a turn. -/
def conversation (turn : Turn) : Conversation :=
  turn.execution.conversation

/-- What templates can name in a turn. -/
def context (turn : Turn) : TemplateContext :=
  turn.execution.context turn.input.displayName turn.input.text

/-- The text of a template in a turn. -/
def render (turn : Turn) (template : String) : String :=
  Template.render turn.context template

/-- The turn with its execution moved to another node. -/
def moveTo (turn : Turn) (node : String) (waiting : Bool) : Turn :=
  { turn with
    execution := { turn.execution with node, last := some turn.execution.node, waiting } }

/-- What is reported of a turn. -/
def report (turn : Turn) : TurnReport :=
  { execution := turn.execution.id
    flow := turn.execution.flow
    visited := turn.visited
    dispatched := turn.dispatched
    final := turn.execution.node
    waiting := turn.execution.waiting
    completed := turn.completed
    scheduled := turn.scheduled
    hopLimit := turn.hopLimit }

end Turn

/-- Where a turn goes on after a node. -/
inductive Transition where
  /-- At another node. -/
  | advance (node : String)
  /-- At another node, but only once the user replies. -/
  | advanceAndWait (node : String)
  /-- At the same node, once the user replies. -/
  | wait
  /-- Wherever a queued continuation says, once its time has come. -/
  | scheduled (item : Continuation)
  /-- Nowhere: the execution is complete. -/
  | complete
deriving DecidableEq, Inhabited, Repr

namespace Transition

/-- Whether the turn itself goes on. -/
def goesOn : Transition → Bool
  | .advance _ => true
  | _ => false

/-- Along the first edge of a node, or to the end. -/
def along (graph : Flow.Graph) (node : String) : Transition :=
  match graph.nextTarget? node with
  | some next => .advance next
  | none => .complete

/-- After a node that talks to the user: as `along`, but a node of certain kinds is entered only
once the user replies. -/
def afterTalk (stopsAt : Flow.NodeKind → Bool) (graph : Flow.Graph) (node : String) :
    Transition :=
  match graph.nextNode? node with
  | none => .complete
  | some next => if stopsAt next.kind then .advanceAndWait next.id else .advance next.id

/-- After a node that sends something. -/
def afterOutput : Flow.Graph → String → Transition :=
  afterTalk Flow.NodeKind.awaitsReply

/-- After a node that lets the text generator answer: the next such node waits for the user,
too. -/
def afterAi : Flow.Graph → String → Transition :=
  afterTalk fun kind => kind.awaitsReply || kind.isAi

end Transition

end ChatFlow
