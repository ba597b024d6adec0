import ChatFlow.Store.Executions
import ChatFlow.Store.Locks
import ChatFlow.Store.Records

/-!
# A database that others may hold

A database is a store that another program may hold for writing.  While it does, reads go on,
writes fail, and no lock of a conversation can be taken.
-/

namespace ChatFlow

/-- A store, and whether another program holds it for writing. -/
structure Database where
  /-- The store. -/
  store : Store := {}
  /-- Whether another program holds it. -/
  held : Bool := false
deriving Inhabited, Repr

namespace Database

/-- The error of a write to a database that is held by another program. -/
def lockedError : Error := .database "database is locked"

/-- Performs a write. -/
def write (database : Database) (operation : Store → Except Error α × Store) :
    Except Error α × Database :=
  if database.held then (.error lockedError, database)
  else
    let (result, store) := operation database.store
    (result, { database with store })

/-- Performs a write that cannot fail by itself. -/
def change (database : Database) (operation : Store → Store) : Except Error Unit × Database :=
  database.write fun store => (.ok (), operation store)

/-- Tries to take the lock of a conversation; gives up when the allowed age of locks is no length
of time. -/
def acquireAt (database : Database) (conversation : Conversation) (now : Instant)
    (stale : Span) : Except Fault Bool × Database :=
  if database.held then (.ok false, database)
  else if Store.tellsAge stale then
    let (taken, store) := database.store.acquireAt conversation now stale
    (.ok taken, { database with store })
  else (.error (.panic "TimeDelta::milliseconds out of bounds"), database)

end Database

end ChatFlow
