import ChatFlow.Store.Database

/-!
# Sessions

A session works on a database with a clock that stands still between commands.  It turns commands
into answers; the ids of new executions are numbered in the order of their creation.
-/

namespace ChatFlow
namespace Store

/-- The id of the next execution that is created. -/
def nextId (store : Store) : String :=
  "execution-" ++ toString (store.executions.length + 1)

/-- What the outside world provides at a time. -/
def stampAt (store : Store) (now : Instant) : Stamp :=
  { now, freshId := store.nextId }

/-- A command to the store; each but the last ones concerns one conversation. -/
inductive Command where
  /-- Create the running execution of a flow at a node. -/
  | create (flow node : String)
  /-- Find the running execution. -/
  | active
  /-- Find the latest execution of a flow. -/
  | latest (flow : String)
  /-- Find the execution with an id. -/
  | byId (id : String)
  /-- List executions. -/
  | list (limit : Nat)
  /-- Move the running execution of a flow. -/
  | advance (flow node : String) (waiting : Bool)
  /-- Park or unpark the running execution of a flow. -/
  | setWaiting (flow : String) (waiting : Bool)
  /-- Complete the running execution of a flow. -/
  | complete (flow : String)
  /-- Set the stage of an execution. -/
  | setStage (id : String) (stage : Option String)
  /-- Set the captured fields of an execution. -/
  | saveVariables (id : String) (vars : Keyed String)
  /-- Take the lock now, with the session's allowed age of locks. -/
  | acquire
  /-- Take the lock at a time, with a given allowed age of locks. -/
  | acquireAt (now : Instant) (stale : Span)
  /-- Release the lock. -/
  | release
  /-- Add a history entry. -/
  | append (user bot : String) (stage displayName : Option String)
  /-- Read the history. -/
  | read (limit : Nat)
  /-- Add a capture rule for the conversation's device. -/
  | addCapture (stage : String) (capture : Capture)
  /-- Find the capture rules of a stage on the conversation's device. -/
  | captures (stage : String)
  /-- Move the clock by milliseconds. -/
  | clock (millis : Int)
  /-- Close the database and open it again. -/
  | reopen
  /-- Let another program hold the database, or no longer hold it. -/
  | hold (held : Bool)
deriving Repr

/-- The answer to a command. -/
inductive Answer where
  /-- An execution, if there is one. -/
  | execution (found : Option Execution)
  /-- Several executions. -/
  | executions (found : List Execution)
  /-- Whether something was done. -/
  | flag (value : Bool)
  /-- Nothing to say. -/
  | nothing
  /-- History entries. -/
  | history (entries : List HistoryEntry)
  /-- Capture rules. -/
  | captures (rules : List Capture)
  /-- The command was carried out outside the store. -/
  | done
  /-- The command failed. -/
  | failed (error : Error)
  /-- The command failed, and the answer it would have had otherwise. -/
  | failedWith (error : Error) (state : Answer)
deriving Repr

/-- The answer to asking for a lock; to give up is a failure of the database. -/
def Answer.ofLock : Except Fault Bool → Answer
  | .ok taken => .flag taken
  | .error (.error error) => .failed error
  | .error (.panic message) => .failed (.database message)

/-- A database, the time, and the allowed age of locks. -/
structure Session where
  /-- The database. -/
  database : Database := {}
  /-- The time. -/
  now : Instant
  /-- The allowed age of locks. -/
  stale : Span := Span.ofSeconds 30
deriving Inhabited, Repr

namespace Session

/-- All executions of a conversation, the one that was changed the longest ago first. -/
def dump (session : Session) (conversation : Conversation) : List Execution :=
  (byRecency (session.database.store.rowsOf conversation)).reverse.map ExecutionRow.toExecution

/-- Performs a change and answers with what can be seen afterwards. -/
def changeThen
    (session : Session) (operation : Store → Except Error Unit × Store)
    (view : Session → Answer) : Answer × Session :=
  let (result, database) := session.database.write operation
  let session := { session with database }
  match result with
  | .ok _ => (view session, session)
  | .error error => (.failedWith error (view session), session)

/-- Performs a change that cannot fail by itself and says nothing about it. -/
def change (session : Session) (operation : Store → Store) : Answer × Session :=
  let (result, database) := session.database.change operation
  let session := { session with database }
  match result with
  | .ok _ => (.nothing, session)
  | .error error => (.failed error, session)

/-- Carries out a command. -/
def run (session : Session) (conversation : Conversation) : Command → Answer × Session
  | .create flow node =>
    let (result, database) := session.database.write fun store =>
      store.create (store.stampAt session.now) conversation flow node
    let session := { session with database }
    match result with
    | .ok execution => (.execution (some execution), session)
    | .error error => (.failed error, session)
  | .active => (.execution (session.database.store.active? conversation), session)
  | .latest flow => (.execution (session.database.store.latest? conversation flow), session)
  | .byId id => (.execution (session.database.store.byId? id), session)
  | .list limit => (.executions (session.database.store.list conversation limit), session)
  | .advance flow node waiting =>
    session.changeThen
      (fun store =>
        (.ok (), store.advance (store.stampAt session.now) conversation flow node waiting))
      fun session => .executions (session.dump conversation)
  | .setWaiting flow waiting =>
    session.changeThen (fun store => store.setWaiting session.now conversation flow waiting)
      fun session => .executions (session.dump conversation)
  | .complete flow =>
    session.changeThen (fun store => (.ok (), store.complete session.now conversation flow))
      fun session => .executions (session.dump conversation)
  | .setStage id stage =>
    session.changeThen (fun store => (.ok (), store.setStage session.now id stage))
      fun session => .execution (session.database.store.byId? id)
  | .saveVariables id vars =>
    session.changeThen (fun store => (.ok (), store.saveVariables session.now id vars))
      fun session => .execution (session.database.store.byId? id)
  | .acquire =>
    let (result, database) :=
      session.database.acquireAt conversation session.now session.stale
    (.ofLock result, { session with database })
  | .acquireAt now stale =>
    let (result, database) := session.database.acquireAt conversation now stale
    (.ofLock result, { session with database })
  | .release => session.change fun store => store.release conversation
  | .append user bot stage displayName =>
    session.change fun store =>
      store.appendHistory conversation { user, bot, stage, displayName, time := session.now }
  | .read limit =>
    (.history (session.database.store.readHistory conversation limit), session)
  | .addCapture stage capture =>
    session.change fun store => store.addCapture conversation.device stage capture
  | .captures stage =>
    (.captures (session.database.store.capturesOf conversation.device stage), session)
  | .clock millis => (.done, { session with now := session.now.shiftMillis millis })
  | .reopen => (.done, session)
  | .hold held => (.done, { session with database := { session.database with held } })

end Session
end Store
end ChatFlow
