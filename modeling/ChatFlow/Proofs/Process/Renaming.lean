import ChatFlow.Proofs.Engine.Requests

/-!
# Renaming executions

The id of an execution is only a name.  A `Naming` gives executions other ids, in all that mentions
them: rows, continuations, events, reports, and the calls and outcomes that carry these.  Two
processes are `Akin` when one makes the calls of the other with other ids, and goes on in the same
way whatever it is told; and no call of either is about another conversation.
-/

namespace ChatFlow

/-- What the ids of executions become. -/
abbrev Naming : Type :=
  String → String

variable (naming : Naming)

/-! ## Data -/

/-- The execution with its other id. -/
def Execution.rename (execution : Execution) : Execution :=
  { execution with id := naming execution.id }

/-- The row with its other id. -/
def ExecutionRow.rename (row : ExecutionRow) : ExecutionRow :=
  { row with id := naming row.id }

/-- The continuation of the execution with its other id. -/
def Continuation.rename (item : Continuation) : Continuation :=
  { item with execution := naming item.execution }

/-- The event, about the execution with its other id. -/
def Event.rename : Event → Event
  | .accepted conversation flow execution => .accepted conversation flow (naming execution)
  | .completed conversation execution => .completed conversation (naming execution)
  | event => event

/-- The report of the execution with its other id. -/
def TurnReport.rename (report : TurnReport) : TurnReport :=
  { report with
    execution := naming report.execution
    scheduled := report.scheduled.map (Continuation.rename naming) }

/-- The outcome of a message with other ids. -/
def InboundOutcome.rename : InboundOutcome → InboundOutcome
  | .processed report => .processed (report.rename naming)
  | outcome => outcome

/-- The outcome of a continuation with other ids. -/
def ResumeOutcome.rename : ResumeOutcome → ResumeOutcome
  | .resumed report => .resumed (report.rename naming)
  | outcome => outcome

/-- The verdict with other ids. -/
def Verdict.rename : Verdict → Verdict
  | .message outcome => .message (outcome.rename naming)
  | .continuation outcome => .continuation (outcome.rename naming)

/-- The request with other ids. -/
def Request.rename : Request → Request
  | .message inbound => .message inbound
  | .continuation item => .continuation (item.rename naming)

/-- The turn of the execution with its other id. -/
def Turn.rename (turn : Turn) : Turn :=
  { turn with
    execution := turn.execution.rename naming
    scheduled := turn.scheduled.map (Continuation.rename naming) }

/-- The transition with other ids. -/
def Transition.rename : Transition → Transition
  | .scheduled item => .scheduled (item.rename naming)
  | transition => transition

/-! ## Calls -/

namespace Call

/-- The call with other ids. -/
def rename : Call → Call
  | .executionById id => .executionById (naming id)
  | .setStage id stage => .setStage (naming id) stage
  | .saveVariables id vars => .saveVariables (naming id) vars
  | .enqueue item => .enqueue (item.rename naming)
  | .publish event => .publish (event.rename naming)
  | call => call

/-- The outcome of a call with other ids. -/
def renameOutcome : (call : Call) → call.Outcome → (call.rename naming).Outcome
  | .activeExecution _, outcome | .executionById _, outcome | .latestExecution .., outcome =>
      outcome.map (Option.map (Execution.rename naming))
  | .createExecution .., outcome => outcome.map (Execution.rename naming)
  | .acquire _, outcome | .release _, outcome | .resolveFlow .., outcome | .flow _, outcome
  | .advance .., outcome | .setWaiting .., outcome | .complete .., outcome
  | .setStage .., outcome | .saveVariables .., outcome | .appendHistory .., outcome
  | .readHistory .., outcome | .captureRules .., outcome | .sendText .., outcome
  | .sendMedia .., outcome | .classify _, outcome | .generate _, outcome | .enqueue _, outcome
  | .now, outcome | .pause _, outcome | .publish _, outcome => outcome

end Call

/-! ## Processes -/

namespace Process

variable {naming} {conversation : Conversation} {α β γ δ : Type} {post : α → β → Prop}
  {after : γ → δ → Prop}

/-- As long as what they find is of a conversation, a process is another one with other ids, and all
its calls are about that conversation. -/
def Akin (naming : Naming) (conversation : Conversation) (post : α → β → Prop) :
    Process α → Process β → Prop
  | .done value, other => ∃ renamed, other = .done renamed ∧ post value renamed
  | .halt fault, other => other = .halt fault
  | .step call next, other => call.Concerns conversation ∧
      ∃ goesOn, other = .step (call.rename naming) goesOn ∧
        ∀ outcome, call.Finds conversation outcome →
          (next outcome).Akin naming conversation post (goesOn (call.renameOutcome naming outcome))

theorem akin_done
    {value : α}
    {renamed : β}
    (holds : post value renamed) :
    (done value).Akin naming conversation post (done renamed) :=
  ⟨renamed, rfl, holds⟩

/-- Processes in a row are akin when their parts are. -/
theorem Akin.andThen
    {process : Process α}
    {other : Process β}
    {next : α → Process γ}
    {goesOn : β → Process δ}
    (akin : process.Akin naming conversation post other)
    (rest : ∀ value renamed, post value renamed →
      (next value).Akin naming conversation after (goesOn renamed)) :
    (process.andThen next).Akin naming conversation after (other.andThen goesOn) := by
  induction process generalizing other with
  | done value =>
      obtain ⟨renamed, rfl, holds⟩ := akin
      exact rest value renamed holds
  | halt fault =>
      obtain rfl := akin
      rfl
  | step call following inductionHypothesis =>
      obtain ⟨concerns, followingToo, rfl, same⟩ := akin
      refine ⟨concerns, _, rfl, fun outcome finds => ?_⟩
      exact inductionHypothesis outcome (same outcome finds)

/-- Results agree when values do; faults are the same. -/
inductive Agree (post : α → β → Prop) : Except Fault α → Except Fault β → Prop
  | ok {value : α} {renamed : β} (holds : post value renamed) : Agree post (.ok value) (.ok renamed)
  | error (fault : Fault) : Agree post (.error fault) (.error fault)

/-- What agrees with a value is a value. -/
theorem Agree.exists_ok
    {value : α}
    {other : Except Fault β}
    (agree : Agree post (.ok value) other) :
    ∃ renamed, other = .ok renamed ∧ post value renamed := by
  cases agree with
  | ok holds => exact ⟨_, rfl, holds⟩

/-- Results that agree by a function are what the function makes of each other. -/
theorem Agree.eq_map
    {rename : α → β}
    {result : Except Fault α}
    {other : Except Fault β}
    (agree : Agree (fun value renamed => renamed = rename value) result other) :
    other = result.map rename := by
  cases agree with
  | ok holds => exact congrArg Except.ok holds
  | error fault => rfl

/-- Processes whose faults are made results are akin as before. -/
theorem Akin.contain
    {process : Process α}
    {other : Process β}
    (akin : process.Akin naming conversation post other) :
    process.contain.Akin naming conversation (Agree post) other.contain := by
  induction process generalizing other with
  | done value =>
      obtain ⟨renamed, rfl, holds⟩ := akin
      exact akin_done (.ok holds)
  | halt fault =>
      obtain rfl := akin
      exact akin_done (.error fault)
  | step call following inductionHypothesis =>
      obtain ⟨concerns, followingToo, rfl, same⟩ := akin
      refine ⟨concerns, _, rfl, fun outcome finds => ?_⟩
      exact inductionHypothesis outcome (same outcome finds)

/-- To go on with a result without ids, or to halt with its fault, is akin to doing so with other
ids. -/
theorem akin_orHalt
    {outcome : Except Fault α}
    {next : α → Process γ}
    {goesOn : α → Process δ}
    (rest : ∀ value, (next value).Akin naming conversation after (goesOn value)) :
    ((orHalt outcome).andThen next).Akin naming conversation after
      ((orHalt outcome).andThen goesOn) := by
  cases outcome with
  | ok value => exact rest value
  | error fault => rfl

/-- To keep an error as a value is akin to doing so with other ids. -/
theorem akin_orPanic
    {outcome : Except Fault α}
    {next : Except Error α → Process γ}
    {goesOn : Except Error α → Process δ}
    (rest : ∀ result, (next result).Akin naming conversation after (goesOn result)) :
    ((orPanic outcome).andThen next).Akin naming conversation after
      ((orPanic outcome).andThen goesOn) := by
  rcases outcome with (error | message) | value
  · exact rest (.error error)
  · rfl
  · exact rest (.ok value)

end Process
end ChatFlow
