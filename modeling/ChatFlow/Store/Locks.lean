import ChatFlow.Store.Basic
import ChatFlow.Word

/-!
# Locks in the store

A conversation is processed by one call at a time, the one that holds its lock.  A lock that is
older than the allowed age counts as abandoned and may be taken over, as far as that age is a
length of time.  A lock has no owner: to release it is to remove the row, whoever put it there.
-/

namespace ChatFlow
namespace Store

/-- The allowed age of a lock in nanoseconds.  It is computed in milliseconds of sixty-four
signed bits. -/
def allowedAge (stale : Span) : Int :=
  Word.signed stale.millis * nanosPerMilli

/-- Whether the allowed age of a lock is a length of time at all: the least signed word of
milliseconds is none, for it has no opposite. -/
def tellsAge (stale : Span) : Bool :=
  decide (Word.signed stale.millis ≠ -Word.signedCount)

/-- The lock of a conversation. -/
def lock? (store : Store) (conversation : Conversation) : Option LockRow :=
  store.locks.find? fun row => row.conversation == conversation

/-- Tries to take the lock of a conversation at a time; a lock older than `stale` is taken over.
Tells whether the lock was taken. -/
def acquireAt (store : Store) (conversation : Conversation) (now : Instant) (stale : Span) :
    Bool × Store :=
  match store.lock? conversation with
  | none =>
    (true, { store with
      locks := store.locks ++ [{ conversation, since := Timestamp.print now }] })
  | some row =>
    if now.since (Timestamp.parse row.since) ≤ allowedAge stale then (false, store)
    else
      (true, { store with
        locks := store.locks.map fun row =>
          if row.conversation = conversation then { row with since := Timestamp.print now }
          else row })

/-- Removes the lock of a conversation, if there is one. -/
def release (store : Store) (conversation : Conversation) : Store :=
  { store with locks := store.locks.filter fun row => row.conversation != conversation }

end Store
end ChatFlow
