import ChatFlow.Store.Basic

/-!
# Executions in the store

A conversation has at most one running execution in each flow.  Operations that move, park or
complete an execution act on the running execution of a conversation in a flow; operations on its
stage and fields act on the execution with an id.  Rows are never removed.
-/

namespace ChatFlow
namespace Store

/-! ## Looking up -/

/-- Rows by the time of their last change, the latest first; of rows changed at the same time the
one that was added last comes first. -/
def byRecency (rows : List ExecutionRow) : List ExecutionRow :=
  rows.reverse.mergeSort fun left right => decide (right.updated ≤ left.updated)

/-- The rows of a conversation. -/
def rowsOf (store : Store) (conversation : Conversation) : List ExecutionRow :=
  store.executions.filter fun row => row.conversation == conversation

/-- The executions of a conversation, the latest first. -/
def list (store : Store) (conversation : Conversation) (limit : Nat) : List Execution :=
  (limited limit (byRecency (store.rowsOf conversation))).map ExecutionRow.toExecution

/-- The running execution of a conversation; the latest if several flows run. -/
def active? (store : Store) (conversation : Conversation) : Option Execution :=
  (byRecency ((store.rowsOf conversation).filter fun row => row.status == .active)).head?.map
    ExecutionRow.toExecution

/-- The execution with an id. -/
def byId? (store : Store) (id : String) : Option Execution :=
  (store.executions.find? fun row => row.id == id).map ExecutionRow.toExecution

/-- The latest execution of a conversation in a flow, running or not. -/
def latest? (store : Store) (conversation : Conversation) (flow : String) : Option Execution :=
  (byRecency (store.executions.filter fun row => row.belongsTo conversation flow)).head?.map
    ExecutionRow.toExecution

/-- The running execution of a conversation in a flow. -/
def activeIn? (store : Store) (conversation : Conversation) (flow : String) : Option Execution :=
  (store.executions.find? fun row => row.runsIn conversation flow).map ExecutionRow.toExecution

/-- Whether a conversation has a running execution in a flow. -/
def isActiveIn (store : Store) (conversation : Conversation) (flow : String) : Bool :=
  store.executions.any fun row => row.runsIn conversation flow

/-! ## Changing -/

/-- Adds a running execution, unless the conversation already has one in that flow or the id is
taken. -/
def insertActive
    (store : Store) (stamp : Stamp) (conversation : Conversation) (flow node : String)
    (waiting : Bool) : Store :=
  if store.isActiveIn conversation flow || store.executions.any (fun row => row.id == stamp.freshId)
  then store
  else
    let time := Timestamp.print stamp.now
    { store with
      executions := store.executions ++
        [{ id := stamp.freshId, flow, conversation, node, waiting, created := time,
           updated := time }] }

/-- Creates the running execution of a conversation in a flow, or finds the one that is there. -/
def create
    (store : Store) (stamp : Stamp) (conversation : Conversation) (flow node : String) :
    Except Error Execution × Store :=
  let store := store.insertActive stamp conversation flow node false
  match store.activeIn? conversation flow with
  | some execution => (.ok execution, store)
  | none => (.error (.executionNotFound (conversation.address ++ " in flow " ++ flow)), store)

/-- Changes the running execution of a conversation in a flow. -/
def updateActive
    (store : Store) (conversation : Conversation) (flow : String)
    (change : ExecutionRow → ExecutionRow) : Store :=
  { store with
    executions := store.executions.map fun row =>
      if row.runsIn conversation flow then change row else row }

/-- Changes the execution with an id. -/
def updateById (store : Store) (id : String) (change : ExecutionRow → ExecutionRow) : Store :=
  { store with
    executions := store.executions.map fun row => if row.id = id then change row else row }

/-- Moves the running execution of a conversation in a flow to a node, adding one there if none
runs. -/
def advance
    (store : Store) (stamp : Stamp) (conversation : Conversation) (flow node : String)
    (waiting : Bool) : Store :=
  if store.isActiveIn conversation flow then
    store.updateActive conversation flow fun row =>
      { row with last := some row.node, node, waiting, updated := Timestamp.print stamp.now }
  else store.insertActive stamp conversation flow node waiting

/-- Parks or unparks the running execution of a conversation in a flow. -/
def setWaiting
    (store : Store) (now : Instant) (conversation : Conversation) (flow : String)
    (waiting : Bool) : Except Error Unit × Store :=
  if store.isActiveIn conversation flow then
    (.ok (), store.updateActive conversation flow fun row =>
      { row with waiting, updated := Timestamp.print now })
  else (.error (.executionNotFound (conversation.address ++ " in flow " ++ flow)), store)

/-- Completes the running execution of a conversation in a flow, if one runs. -/
def complete (store : Store) (now : Instant) (conversation : Conversation) (flow : String) :
    Store :=
  store.updateActive conversation flow fun row =>
    { row with
      status := .completed, last := some row.node, node := "end", waiting := false,
      updated := Timestamp.print now }

/-- Sets the stage of an execution. -/
def setStage (store : Store) (now : Instant) (id : String) (stage : Option String) : Store :=
  store.updateById id fun row => { row with stage, updated := Timestamp.print now }

/-- Sets the captured fields of an execution. -/
def saveVariables (store : Store) (now : Instant) (id : String) (vars : Keyed String) :
    Store :=
  store.updateById id fun row =>
    { row with vars := encodeVariables vars, updated := Timestamp.print now }

end Store
end ChatFlow
