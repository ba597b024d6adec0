import ChatFlow.Engine.Step

/-!
# The walk of a turn

A turn enters one node after the other, and stores every transition before it goes on.  It ends
where the flow waits, where it is done, or when it has visited as many nodes as it may; what it
did not yet write of the user's text is then written to the history.
-/

namespace ChatFlow
namespace Turn

open Process

/-- Stores a transition and makes the turn follow it. -/
def follow (turn : Turn) : Transition → Process Turn
  | .advance node => do
    orHalt (← ask (.advance turn.conversation turn.execution.flow node false))
    pure (turn.moveTo node false)
  | .advanceAndWait node => do
    orHalt (← ask (.advance turn.conversation turn.execution.flow node true))
    pure (turn.moveTo node true)
  | .wait => do
    orHalt (← ask (.setWaiting turn.conversation turn.execution.flow true))
    pure { turn with execution := { turn.execution with waiting := true } }
  | .scheduled item => do
    publish (.delayScheduled turn.conversation item.target item.due)
    pure { turn with scheduled := some item }
  | .complete => do
    orHalt (← ask (.complete turn.conversation turn.execution.flow))
    publish (.completed turn.conversation turn.execution.id)
    pure { turn.moveTo "end" turn.execution.waiting with completed := true }

/-- Enters a node. -/
def enter (turn : Turn) (node : Flow.Node) : Process Turn := do
  publish (.entered turn.conversation node.id node.kind.text)
  pure { turn with visited := turn.visited ++ [node.id] }

/-- Walks on from the node where the execution stands, through at most `hops` nodes; `answering`
tells whether the user's text answers the first of them. -/
def walk (engine : Engine) (graph : Flow.Graph) : (hops : Nat) → (answering : Bool) → Turn →
    Process Turn
  | 0, _, turn => do
    publish (.hopLimit turn.conversation turn.execution.node turn.visited.length)
    pure { turn with hopLimit := true }
  | hops + 1, answering, turn => do
    let node ← orFail (graph.require turn.execution.node)
    let turn ← turn.enter node
    let (transition, turn) ← step engine graph node answering turn
    let turn ← turn.follow transition
    if transition.goesOn then walk engine graph hops false turn else pure turn

/-- Performs a turn of an execution. -/
def perform (engine : Engine) (graph : Flow.Graph) (execution : Execution) (input : TurnInput) :
    Process TurnReport := do
  let turn ← walk engine graph engine.settings.maxHops input.isReply { execution, input }
  turn.logInput
  pure turn.report

end Turn
end ChatFlow
