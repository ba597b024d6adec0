import ChatFlow.Ingress.Pool
import ChatFlow.Time.Span

/-!
# Workers in a rehearsal

The workers of a pool take turns: one of them listens at the queue, the others who have nothing
to do stand in line behind it.  The listener takes a message, hands its place to the next in line
and handles the message; then it stands in line again.  How the handling of each message goes is
written in a script, and the clock moves only when nothing is left to do at the present time.

Workers who have nothing to do are all alike, so a crew knows how many they are and not who they
are.
-/

namespace ChatFlow
namespace Rehearsal

open Ingress (Job Pool Verdict)

/-- How the handling of a message goes. -/
structure Act where
  /-- How long it takes. -/
  duration : Span := Span.zero
  /-- How it ends. -/
  verdict : Verdict := .done
deriving DecidableEq, Inhabited, Repr

/-- What a worker is about to do. -/
inductive Errand where
  /-- Stand in line. -/
  | arrive
  /-- Look at the queue, as the first in line. -/
  | look
  /-- Be done with a message. -/
  | finish (job : Job) (verdict : Verdict)
deriving DecidableEq, Inhabited, Repr

/-- A pool and its workers. -/
structure Crew where
  /-- The messages that wait. -/
  pool : Pool
  /-- The number of workers that are left. -/
  staff : Nat
  /-- The number of workers in line, the listener included. -/
  inLine : Nat := 0
  /-- What is about to happen now, in this order. -/
  errands : List Errand
  /-- The messages that are being handled, in the order in which that began: when it ends, and
  how. -/
  busy : List (Span × Job × Verdict) := []
  /-- The time since the beginning. -/
  clock : Span := Span.zero
  /-- How the handling of the next messages goes; after that all goes well at once. -/
  acts : List Act
  /-- The messages that were handed to the handler. -/
  handled : List InboundMessage := []
deriving DecidableEq, Inhabited, Repr

namespace Crew

/-- A crew at the beginning: every worker, one at least, is about to stand in line. -/
def ofSettings (settings : IngressSettings) (acts : List Act) : Crew :=
  let staff := max settings.workers 1
  { pool := Pool.ofSettings settings, staff, errands := List.replicate staff .arrive, acts }

/-- Hands a message to the handler, whose work follows the script. -/
def hand (crew : Crew) (message : InboundMessage) : Act × Crew :=
  let crew := { crew with handled := crew.handled ++ [message] }
  match crew.acts with
  | [] => ({}, crew)
  | act :: acts => (act, { crew with acts })

/-- Makes the first in line look at the queue, unless that is about to happen anyway. -/
def rouse (crew : Crew) : Crew :=
  if crew.inLine = 0 || crew.errands.contains .look then crew
  else { crew with errands := crew.errands ++ [.look] }

/-- A worker leaves for good; with the last one the pool is closed. -/
def leave (crew : Crew) : Crew :=
  let staff := crew.staff - 1
  { crew with staff, pool := if staff = 0 then crew.pool.close else crew.pool }

/-- The first in line goes to work on a message. -/
def begin (crew : Crew) (job : Job) : Crew :=
  let crew := { crew with inLine := crew.inLine - 1 }.rouse
  let (act, crew) := crew.hand job.message
  if act.duration = Span.zero then
    { crew with errands := .finish job act.verdict :: crew.errands }
  else { crew with busy := crew.busy ++ [(crew.clock + act.duration, job, act.verdict)] }

/-- Runs an errand. -/
def run (crew : Crew) : Errand → Crew
  | .arrive =>
    if crew.inLine = 0 then { crew with inLine := 1, errands := .look :: crew.errands }
    else { crew with inLine := crew.inLine + 1 }
  | .look =>
    if crew.pool.cancelled then { crew with inLine := crew.inLine - 1 }.leave.rouse
    else
      match crew.pool.take? with
      | none => crew
      | some (job, pool) => { crew with pool }.begin job
  | .finish job verdict =>
    match verdict with
    | .panicked _ => crew.leave
    | .done => { crew with errands := .arrive :: crew.errands }
    | .failed _ =>
      let (fate, pool) := crew.pool.settle job verdict
      let crew := { crew with pool }
      let crew := if fate = .retried then crew.rouse else crew
      { crew with errands := .arrive :: crew.errands }

/-- The time at which the first of the messages that are being handled is done with. -/
def nextEnd? (crew : Crew) : Option Span :=
  crew.busy.foldl
    (fun first entry =>
      match first with
      | some time => if time ≤ entry.1 then some time else some entry.1
      | none => some entry.1)
    none

/-- Moves the clock to a time at which messages are done with. -/
def moveTo (crew : Crew) (clock : Span) : Crew :=
  let (finished, busy) := crew.busy.partition fun entry => entry.1 = clock
  { crew with
    clock, busy
    errands := crew.errands ++ finished.map fun (_, job, verdict) => .finish job verdict }

/-- Lets everything happen whose time the crew may reach; at most `moves` moves are made. -/
def goOn (mayReach : Span → Bool) : (moves : Nat) → Crew → Crew
  | 0, crew => crew
  | moves + 1, crew =>
    match crew.errands with
    | errand :: errands => goOn mayReach moves ({ crew with errands }.run errand)
    | [] =>
      match crew.nextEnd? with
      | none => crew
      | some time => if mayReach time then goOn mayReach moves (crew.moveTo time) else crew

/-- More moves than a crew can make: the handling of a message takes an act of the script or is
the last of that message, and each handling causes at most seven moves. -/
def patience (crew : Crew) : Nat :=
  7 * (crew.acts.length + crew.pool.queue.length + crew.busy.length + crew.errands.length +
    crew.staff + 1)

/-- Lets everything happen whose time the crew may reach. -/
def settleWithin (crew : Crew) (mayReach : Span → Bool) : Crew :=
  crew.goOn mayReach crew.patience

/-- Lets everything happen that happens within a span of time. -/
def pass (crew : Crew) (span : Span) : Crew :=
  let clock := crew.clock + span
  { crew.settleWithin fun time => time ≤ clock with clock }

/-- The pool may have got a message. -/
def adopt (crew : Crew) (pool : Pool) : Crew :=
  let crew := { crew with pool }
  if pool.queue.isEmpty then crew else crew.rouse

/-- A message is to be handled by a worker. -/
def submit (crew : Crew) (message : InboundMessage) : Except Error Unit × Crew :=
  match crew.pool.submit message with
  | .ok pool => (.ok (), crew.adopt pool)
  | .error error => (.error error, crew)

/-- A message is handled apart from the queue, while the workers go on. -/
def handleNow (crew : Crew) (message : InboundMessage) : Verdict × Crew :=
  let (act, crew) := crew.hand message
  if act.duration = Span.zero then (act.verdict, crew)
  else
    let clock := crew.clock + act.duration
    (act.verdict, { crew.settleWithin fun time => time ≤ clock && time != clock with clock })

/-- The workers are told to leave when they are done with what they are doing. -/
def cancel (crew : Crew) : Crew :=
  { crew with pool := crew.pool.cancel }.rouse

/-- The workers are told to leave, and all of them leave. -/
def shutdown (crew : Crew) : Crew :=
  crew.cancel.settleWithin fun _ => true

end Crew
end Rehearsal
end ChatFlow
