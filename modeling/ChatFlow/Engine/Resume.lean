import ChatFlow.Engine.Inbound
import ChatFlow.Word

/-!
# Continuations

A continuation moves an execution from its delay to the node behind it and performs a turn from
there.  It does so only while the execution still stands at the delay, so that a continuation
that arrives twice does no harm.  While the conversation is locked, or the store fails, it is
queued again, a limited number of times.
-/

namespace ChatFlow

/-- What became of a continuation. -/
inductive ResumeOutcome where
  /-- A turn was performed. -/
  | resumed (report : TurnReport)
  /-- The execution no longer stands at the delay. -/
  | stale
  /-- Another call processes the conversation. -/
  | busy
  /-- There is no such execution. -/
  | missing
deriving DecidableEq, Inhabited, Repr

namespace Engine

open Process

/-- The execution that a continuation means. -/
def executionOf (item : Continuation) : Process (Option Execution) := do
  match ← orHalt (← ask (.executionById item.execution)) with
  | some execution => pure (some execution)
  | none => orHalt (← ask (.latestExecution item.conversation item.flow))

/-- Whether an execution stands at a delay from which an edge leads to a node. -/
def isParkedBefore (graph : Flow.Graph) (execution : Execution) (target : String) : Bool :=
  execution.isActive && !execution.waiting &&
    ((graph.node? execution.node).any fun node => node.kind == .delay) &&
    graph.hasEdge execution.node target

/-- Takes up a continuation whose conversation is locked. -/
def takeUp (engine : Engine) (item : Continuation) : Process ResumeOutcome := do
  match ← executionOf item with
  | none => pure .missing
  | some execution =>
    let graph ← orHalt (← ask (.flow execution.flow))
    if isParkedBefore graph execution item.target then
      orHalt (← ask (.advance item.conversation execution.flow item.target false))
      publish (.resumed item.conversation item.target)
      let moved := { execution with node := item.target, last := some execution.node }
      return .resumed (← Turn.perform engine graph moved (.ofPayload item.payload))
    else pure .stale

/-- Takes up a continuation. -/
def resume (engine : Engine) (item : Continuation) : Process ResumeOutcome := do
  match ← underLock item.conversation (engine.takeUp item) with
  | none => pure .busy
  | some (.ok outcome) => pure outcome
  | some (.error (.error error)) => halt (.error error)
  | some (.error (.panic message)) =>
    halt (.error (.scheduler ("resume panicked: " ++ message)))

/-- When a continuation that is refused now is tried again. -/
def retryTime (settings : EngineSettings) : Process Instant := do
  let now ← ask .now
  let seconds := Word.signed settings.resumeRetrySecs
  if seconds.natAbs > (Word.signedCount - 1) / 1000 then
    halt (.panic "TimeDelta::seconds out of bounds")
  else
    let due := now.shiftMillis (seconds * 1000)
    if Instant.earliest ≤ due ∧ due ≤ Instant.latest then pure due
    else halt (.panic "`DateTime + TimeDelta` overflowed")

/-- Queues a refused continuation again, unless it was tried as often as it may be; an error of
the queue is of no consequence. -/
def requeue (engine : Engine) (item : Continuation) : Process Unit := do
  let attempt := (item.attempt + 1) % Word.shortCount
  if attempt < engine.settings.resumeMaxAttempts then
    let due ← retryTime engine.settings
    let _ ← orPanic (← ask (.enqueue { item with attempt, due }))

/-- Delivers a continuation whose time has come. -/
def deliver (engine : Engine) (item : Continuation) : Process Unit := do
  match ← (engine.resume item).contain with
  | .ok .busy | .error (.error (.database _)) => engine.requeue item
  | .error (.panic message) => halt (.panic message)
  | .ok _ | .error (.error _) => pure ()

end Engine
end ChatFlow
