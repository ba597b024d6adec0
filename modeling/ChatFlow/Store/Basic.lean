import ChatFlow.Error
import ChatFlow.Execution
import ChatFlow.Store.Variables
import ChatFlow.Time.Timestamp
import ChatFlow.Word

/-!
# The store

The store keeps four kinds of rows, each in the order in which the rows were added: the locks of
conversations, executions, history entries and capture rules.  Times and captured fields are
kept in their text forms, and rows are ordered by these texts.  Operations are functions from
one store to the next; what they need of the outside world, the time and an id for a new row,
comes to them as a `Stamp`.
-/

namespace ChatFlow

/-- The row of a conversation's lock. -/
structure LockRow where
  /-- The conversation that is locked. -/
  conversation : Conversation
  /-- When the lock was taken. -/
  since : String
deriving DecidableEq, Inhabited, Repr

/-- The row of an execution. -/
structure ExecutionRow where
  /-- The id of the execution. -/
  id : String
  /-- The id of the flow. -/
  flow : String
  /-- The conversation. -/
  conversation : Conversation
  /-- The node where the execution stands. -/
  node : String
  /-- The node where it stood before. -/
  last : Option String := none
  /-- Whether it waits for the user's reply. -/
  waiting : Bool
  /-- The stage. -/
  stage : Option String := none
  /-- Whether it still runs. -/
  status : ExecutionStatus := .active
  /-- The captured fields, in stored form. -/
  vars : String := "\x7b\x7d"
  /-- When it was created, in stored form. -/
  created : String
  /-- When it was last changed, in stored form. -/
  updated : String
deriving DecidableEq, Inhabited, Repr

namespace ExecutionRow

/-- What a row says. -/
def toExecution (row : ExecutionRow) : Execution :=
  { id := row.id
    flow := row.flow
    conversation := row.conversation
    node := row.node
    last := row.last
    waiting := row.waiting
    stage := row.stage
    status := row.status
    vars := Store.decodeVariables row.vars
    created := Timestamp.parse row.created
    updated := Timestamp.parse row.updated }

/-- Whether a row belongs to a conversation and a flow. -/
def belongsTo (row : ExecutionRow) (conversation : Conversation) (flow : String) : Bool :=
  row.conversation == conversation && row.flow == flow

/-- Whether a row is the running execution of a conversation in a flow. -/
def runsIn (row : ExecutionRow) (conversation : Conversation) (flow : String) : Bool :=
  row.belongsTo conversation flow && row.status == .active

end ExecutionRow

/-- The row of a history entry. -/
structure HistoryRow where
  /-- The conversation. -/
  conversation : Conversation
  /-- What the user said. -/
  user : String
  /-- What was sent. -/
  bot : String
  /-- The stage at that time. -/
  stage : Option String
  /-- The user's name, as far as it was known. -/
  displayName : Option String
  /-- When it was written down, in stored form. -/
  time : String
deriving DecidableEq, Inhabited, Repr

namespace HistoryRow

/-- The row of an entry. -/
def ofEntry (conversation : Conversation) (entry : HistoryEntry) : HistoryRow :=
  { conversation
    user := entry.user
    bot := entry.bot
    stage := entry.stage
    displayName := entry.displayName
    time := Timestamp.print entry.time }

/-- What a row says. -/
def toEntry (row : HistoryRow) : HistoryEntry :=
  { user := row.user
    bot := row.bot
    stage := row.stage
    displayName := row.displayName
    time := Timestamp.parse row.time }

end HistoryRow

/-- The row of a capture rule. -/
structure CaptureRow where
  /-- The device that the rule is for. -/
  device : String
  /-- The stage that the rule is for. -/
  stage : String
  /-- The rule. -/
  capture : Capture
deriving DecidableEq, Inhabited, Repr

/-- What the store holds. -/
structure Store where
  /-- The locks. -/
  locks : List LockRow := []
  /-- The executions. -/
  executions : List ExecutionRow := []
  /-- The history. -/
  history : List HistoryRow := []
  /-- The capture rules. -/
  captures : List CaptureRow := []
deriving DecidableEq, Inhabited, Repr

/-- What an operation needs of the outside world. -/
structure Stamp where
  /-- The time. -/
  now : Instant
  /-- The id for a row that may be added. -/
  freshId : String
deriving DecidableEq, Inhabited, Repr

namespace Store

/-- The largest limit that limits: a greater one counts as none. -/
def largestLimit : Nat := Word.signedCount - 1

/-- The first rows up to a limit. -/
def limited (limit : Nat) (rows : List α) : List α :=
  if limit ≤ largestLimit then rows.take limit else rows

end Store

end ChatFlow
