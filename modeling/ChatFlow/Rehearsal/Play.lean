import ChatFlow.Rehearsal.Stage

/-!
# Rehearsals step by step

A rehearsal is a list of steps.  Each step shows its own result and everything that can be seen
since the step before: the events, what was sent, queued, written to the history and asked of the
text generator, and how long the calls took.
-/

namespace ChatFlow
namespace Rehearsal

/-- What a step says instead of what a queued continuation says. -/
structure Patch where
  /-- The id of the execution. -/
  execution : Option String := none
  /-- The id of the flow. -/
  flow : Option String := none
  /-- The node to go on at. -/
  target : Option String := none
  /-- The user's text. -/
  payload : Option String := none
  /-- The number of tries so far. -/
  attempt : Option Nat := none
  /-- The conversation. -/
  conversation : Option Conversation := none
deriving Inhabited, Repr

/-- The continuation that a patch makes of another. -/
def Patch.apply (patch : Patch) (item : Continuation) : Continuation :=
  { item with
    execution := patch.execution.getD item.execution
    flow := patch.flow.getD item.flow
    target := patch.target.getD item.target
    payload := patch.payload.getD item.payload
    attempt := patch.attempt.getD item.attempt
    conversation := patch.conversation.getD item.conversation }

/-- A step of a rehearsal. -/
inductive Step where
  /-- Messages arrive at once. -/
  | messages (messages : List InboundMessage)
  /-- The queued continuation with a number is taken up, possibly patched. -/
  | resume (item : Nat) (patch : Patch)
  /-- The queued continuation with a number is delivered, possibly patched. -/
  | deliver (item : Nat) (patch : Patch)
  /-- Seconds pass. -/
  | timers (seconds : Nat)
  /-- The queue is closed. -/
  | cancel
  /-- Further attempts to take a lock fail. -/
  | lockFailures (count : Nat)
  /-- The store is used beside the engine. -/
  | store (command : Store.Command)

/-- The result of a step. -/
inductive Result where
  /-- What became of the processes of the step. -/
  | outcomes (outcomes : List Outcome)
  /-- There is no such continuation. -/
  | noSuchItem
  /-- The step was carried out. -/
  | done
  /-- The answer of the store. -/
  | answer (answer : Store.Answer)

/-- Everything that can be seen after a step. -/
structure Observation where
  /-- The result of the step. -/
  result : Result
  /-- The executions of the step's conversation. -/
  executions : List Execution
  /-- The new events. -/
  events : List Event
  /-- What was sent. -/
  sent : List Sent
  /-- The continuations that were queued. -/
  queued : List Continuation
  /-- The new history entries of the step's conversation. -/
  history : List HistoryEntry
  /-- What the text generator was asked. -/
  requests : List AiRequest
  /-- How long the calls of the step took. -/
  slept : Span

/-- Runs processes and tells what became of them. -/
def perform (script : Script) (engine : Engine) (stage : Stage)
    (processes : List (Process Outcome)) : Result × Stage :=
  let (outcomes, stage) := stage.runAll script engine processes
  (.outcomes outcomes, stage)

/-- The process of a message. -/
def messageProcess (engine : Engine) (message : InboundMessage) : Process Outcome :=
  Outcome.message <$> Process.contain (engine.handleInbound message)

/-- Carries out a step for a conversation. -/
def carryOut (script : Script) (engine : Engine) (stage : Stage) (conversation : Conversation) :
    Step → Result × Stage
  | .messages messages => perform script engine stage (messages.map (messageProcess engine))
  | .resume number patch =>
    match stage.world.queued[number]? with
    | none => (.noSuchItem, stage)
    | some item =>
      perform script engine stage
        [Outcome.continuation <$> Process.contain (engine.resume (patch.apply item))]
  | .deliver number patch =>
    match stage.world.queued[number]? with
    | none => (.noSuchItem, stage)
    | some item =>
      perform script engine stage
        [Outcome.delivery <$> Process.contain (engine.deliver (patch.apply item))]
  | .timers seconds => (.done, Nat.repeat (Stage.tick script engine) seconds stage)
  | .cancel => (.done, stage.close)
  | .lockFailures count =>
    (.done, { stage with world := { stage.world with lockFailures := count } })
  | .store command =>
    let (answer, session) := stage.world.session.run conversation command
    (.answer answer, { stage with world := { stage.world with session } })

/-- Carries out a step for a conversation and looks at what is new. -/
def observe (script : Script) (engine : Engine) (stage : Stage) (conversation : Conversation)
    (step : Step) : Observation × Stage :=
  let (result, after) := carryOut script engine stage conversation step
  let historyBefore := stage.world.historyOf script.history conversation
  let observation :=
    { result
      executions := after.world.session.dump conversation
      events := after.world.events.drop stage.world.events.length
      sent := after.world.sent.drop stage.world.sent.length
      queued := after.world.queued.drop stage.world.queued.length
      history := (after.world.historyOf script.history conversation).drop historyBefore.length
      requests := after.world.requests.drop stage.world.requests.length
      slept := ⟨after.world.elapsed.nanos - stage.world.elapsed.nanos⟩ }
  (observation, after)

end Rehearsal
end ChatFlow
