import ChatFlow.Error
import ChatFlow.Execution
import ChatFlow.Settings

/-!
# The queue of arriving messages

Messages wait in a queue of limited length until a worker takes them, in the order of their
arrival.  A message whose handling fails goes back to the end of the queue, if it has tries left
and the queue has a free slot.  A pool that is cancelled takes no new messages; when its last
worker is gone it also loses those that wait.
-/

namespace ChatFlow
namespace Ingress

/-- A message on its way through the pool. -/
structure Job where
  /-- The number of the message among those that were accepted. -/
  number : Nat
  /-- The message. -/
  message : InboundMessage
  /-- The number of this try; the first is 1. -/
  attempt : Nat
deriving DecidableEq, Inhabited, Repr

/-- How a try to handle a message ends. -/
inductive Verdict where
  /-- The message was handled. -/
  | done
  /-- The try failed. -/
  | failed (error : Error)
  /-- The worker gave up all of its work. -/
  | panicked (reason : String)
deriving DecidableEq, Inhabited, Repr

/-- What becomes of a message after a try. -/
inductive Fate where
  /-- The message was handled. -/
  | finished
  /-- The message waits for its next try. -/
  | retried
  /-- The message has no tries left. -/
  | givenUp
  /-- The message found no free slot for its next try. -/
  | dropped
  /-- The message went down with its worker. -/
  | lost
deriving DecidableEq, Inhabited, Repr

/-- The messages that wait. -/
structure Pool where
  /-- The most messages that wait. -/
  capacity : Nat
  /-- The most tries for one message. -/
  maxAttempts : Nat
  /-- The messages that wait, in the order in which they are taken. -/
  queue : List Job := []
  /-- How many messages were accepted. -/
  accepted : Nat := 0
  /-- Whether the pool is cancelled. -/
  cancelled : Bool := false
  /-- Whether no worker is left. -/
  closed : Bool := false
deriving DecidableEq, Inhabited, Repr

namespace Pool

/-- The pool of some settings; there is at least one slot, and at least one try. -/
def ofSettings (settings : IngressSettings) : Pool :=
  { capacity := max settings.queueCapacity 1, maxAttempts := max settings.maxAttempts 1 }

/-- The number of free slots. -/
def available (pool : Pool) : Nat :=
  pool.capacity - pool.queue.length

/-- Puts a job at the end of the queue, if there is a free slot. -/
def push? (pool : Pool) (job : Job) : Option Pool :=
  if pool.closed || pool.capacity ≤ pool.queue.length then none
  else some { pool with queue := pool.queue ++ [job] }

/-- Accepts a message or says why not. -/
def submit (pool : Pool) (message : InboundMessage) : Except Error Pool :=
  if pool.cancelled || pool.closed then .error .poolClosed
  else
    match pool.push? { number := pool.accepted, message, attempt := 1 } with
    | some pool => .ok { pool with accepted := pool.accepted + 1 }
    | none => .error .queueFull

/-- Takes the first message that waits. -/
def take? (pool : Pool) : Option (Job × Pool) :=
  match pool.queue with
  | [] => none
  | job :: queue => some (job, { pool with queue })

/-- Decides what becomes of a message after a try. -/
def settle (pool : Pool) (job : Job) : Verdict → Fate × Pool
  | .done => (.finished, pool)
  | .panicked _ => (.lost, pool)
  | .failed _ =>
    if job.attempt < pool.maxAttempts then
      match pool.push? { job with attempt := job.attempt + 1 } with
      | some pool => (.retried, pool)
      | none => (.dropped, pool)
    else (.givenUp, pool)

/-- Takes no new messages any more. -/
def cancel (pool : Pool) : Pool :=
  { pool with cancelled := true }

/-- Loses the messages that wait, and takes no new ones any more. -/
def close (pool : Pool) : Pool :=
  { pool with queue := [], closed := true }

/-- A job that found a slot stands behind the others. -/
theorem queue_of_push?_eq_some
    {pool after : Pool} {job : Job} (pushed : pool.push? job = some after) :
    after.queue = pool.queue ++ [job] := by
  simp only [push?] at pushed
  split at pushed
  · simp at pushed
  · simp only [Option.some.injEq] at pushed
    rw [← pushed]

/-- A queue that fits its capacity still fits when a job found a slot. -/
theorem queue_length_le_of_push?_eq_some
    {pool after : Pool} {job : Job} (pushed : pool.push? job = some after) :
    after.queue.length ≤ after.capacity := by
  simp only [push?, Bool.or_eq_true, decide_eq_true_eq] at pushed
  split at pushed
  · simp at pushed
  · simp only [Option.some.injEq] at pushed
    subst pushed
    simp only [List.length_append, List.length_singleton]
    omega

end Pool
end Ingress
end ChatFlow
