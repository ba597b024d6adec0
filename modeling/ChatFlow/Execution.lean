import ChatFlow.Conversation
import ChatFlow.Keyed
import ChatFlow.Template
import ChatFlow.Text.Ascii
import ChatFlow.Text.Blank
import ChatFlow.Time.Span

/-!
# Executions

An execution is the progress of one conversation through one flow.  Beside it stand the other
records of a conversation: its history, and the rules by which fields are captured.
-/

namespace ChatFlow

/-- Whether an execution still runs. -/
inductive ExecutionStatus where
  /-- The execution runs. -/
  | active
  /-- The execution reached its end. -/
  | completed
deriving DecidableEq, Inhabited, Repr

namespace ExecutionStatus

/-- The name of a status. -/
def name : ExecutionStatus → String
  | .active => "active"
  | .completed => "completed"

/-- Reads a status; what is not the name of the completed status is active. -/
def ofName (text : String) : ExecutionStatus :=
  if text = "completed" then .completed else .active

/-- A status is read back from its name. -/
theorem ofName_name (status : ExecutionStatus) : ofName status.name = status := by
  cases status <;> decide

end ExecutionStatus

/-- The progress of one conversation through one flow. -/
structure Execution where
  /-- The id of the execution. -/
  id : String
  /-- The id of the flow. -/
  flow : String
  /-- The conversation. -/
  conversation : Conversation
  /-- The node where the execution stands. -/
  node : String
  /-- The node where it stood before. -/
  last : Option String
  /-- Whether it waits for the user's reply. -/
  waiting : Bool
  /-- The stage; an empty stage is not the same as none. -/
  stage : Option String
  /-- Whether it still runs. -/
  status : ExecutionStatus
  /-- The captured fields. -/
  vars : Keyed String
  /-- When it was created. -/
  created : Instant
  /-- When it was last changed. -/
  updated : Instant
deriving DecidableEq, Inhabited, Repr

namespace Execution

/-- Whether the execution still runs. -/
def isActive (execution : Execution) : Bool :=
  execution.status == .active

/-- What templates can name in a turn of an execution. -/
def context (execution : Execution) (displayName : Option String) (input : String) :
    TemplateContext :=
  { vars := execution.vars
    phone := execution.conversation.phone
    device := execution.conversation.device
    displayName
    stage := execution.stage
    input }

end Execution

/-- One exchange of a conversation. -/
structure HistoryEntry where
  /-- What the user said. -/
  user : String
  /-- What was sent. -/
  bot : String
  /-- The stage at that time. -/
  stage : Option String := none
  /-- The user's name, as far as it was known. -/
  displayName : Option String := none
  /-- When it was written down. -/
  time : Instant
deriving DecidableEq, Inhabited, Repr

/-- Where a captured field gets its value from. -/
inductive CaptureInput where
  /-- From the user's text. -/
  | userInput
  /-- From the rule. -/
  | fixed
deriving DecidableEq, Inhabited, Repr

namespace CaptureInput

/-- The name of a source of values. -/
def name : CaptureInput → String
  | .userInput => "user_input"
  | .fixed => "fixed"

/-- Reads a source of values; what is not the fixed one is the user's text. -/
def ofName (text : String) : CaptureInput :=
  if Text.lowerAscii (Text.trim text) = "fixed" then .fixed else .userInput

/-- A source of values is read back from its name. -/
theorem ofName_name (input : CaptureInput) : ofName input.name = input := by
  cases input <;> decide +kernel

end CaptureInput

/-- A rule that sets a field when a conversation reaches a stage. -/
structure Capture where
  /-- Where the value comes from. -/
  input : CaptureInput
  /-- The value of a fixed rule. -/
  value : Option String := none
  /-- The field that is set. -/
  field : String
deriving DecidableEq, Inhabited, Repr

namespace Capture

/-- The value that a rule gives its field; a rule that takes the user's text gives none when that
is blank. -/
def valueFor? (rule : Capture) (input : String) : Option String :=
  match rule.input with
  | .userInput => if Text.isBlank input then none else some (Text.trim input)
  | .fixed => some (rule.value.getD "")

/-- Sets the fields of all rules that give a value, in order. -/
def overlay (input : String) (rules : List Capture) (vars : Keyed String) : Keyed String :=
  rules.foldl
    (fun vars rule =>
      match rule.valueFor? input with
      | some value => Keyed.insert rule.field value vars
      | none => vars)
    vars

end Capture

/-- The request to go on with an execution at a node once a time has come. -/
structure Continuation where
  /-- The id of the execution. -/
  execution : String
  /-- The id of the flow. -/
  flow : String
  /-- The node to go on at. -/
  target : String
  /-- The conversation. -/
  conversation : Conversation
  /-- The user's text that was being processed. -/
  payload : String
  /-- When to go on. -/
  due : Instant
  /-- The number of tries so far. -/
  attempt : Nat := 0
deriving DecidableEq, Inhabited, Repr

/-- A message of a user. -/
structure InboundMessage where
  /-- The conversation. -/
  conversation : Conversation
  /-- The text. -/
  text : String
  /-- The user's name, if it is known. -/
  displayName : Option String := none
deriving DecidableEq, Inhabited, Repr

end ChatFlow
