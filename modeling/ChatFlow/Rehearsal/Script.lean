import ChatFlow.Engine.Resume
import ChatFlow.Flow.Library
import ChatFlow.Store.Session

/-!
# Scripted collaborators

An engine can be rehearsed: everything that it calls is played by a script instead of the real
thing, on a clock that only moves when it is told to.  A `Script` says how the collaborators
behave, and a `World` is what they hold and what they have seen so far.
-/

namespace ChatFlow
namespace Rehearsal

/-- Where the history is kept. -/
inductive HistoryKeeper where
  /-- In memory, beside the store. -/
  | memory
  /-- In the store. -/
  | store
  /-- Nowhere: every call fails. -/
  | broken
deriving DecidableEq, Inhabited, Repr

/-- Where the capture rules come from. -/
inductive CaptureKeeper where
  /-- From the store. -/
  | store
  /-- There are no rules. -/
  | none
  /-- From nowhere: every call fails. -/
  | broken
deriving DecidableEq, Inhabited, Repr

/-- How the collaborators behave. -/
structure Script where
  /-- The flows. -/
  library : Flow.Library := {}
  /-- Where the history is kept. -/
  history : HistoryKeeper := .memory
  /-- Where the capture rules come from. -/
  captures : CaptureKeeper := .store
  /-- Texts that contain this cannot be sent. -/
  failText : Option String := none
  /-- Media whose address contains this cannot be sent. -/
  failMedia : Option String := none
  /-- Sending anything that contains this is a panic. -/
  panicOn : Option String := none
  /-- How long it takes to send something. -/
  latency : Span := Span.zero
  /-- The kinds of media by their addresses; other media cannot be used.  Without this nobody looks
  at media. -/
  media : Option (List (String × Media.Kind)) := none
  /-- Whether there is a text generator. -/
  generates : Bool := false
  /-- Whether locks cannot be released. -/
  releaseFails : Bool := false
  /-- Whether queued continuations are delivered when their time has come. -/
  timers : Bool := false

namespace Script

/-- The engine that fits the collaborators. -/
def engine (script : Script) (settings : EngineSettings) : Engine :=
  { settings
    hasGenerator := script.generates
    hasValidator := script.media.isSome
    hasCaptures := script.captures != .none }

/-- How long a call takes. -/
def duration (script : Script) : Call → Span
  | .pause span => span
  | .sendText .. | .sendMedia .. => script.latency
  | _ => Span.zero

end Script

/-- Something that was sent. -/
structure Sent where
  /-- The device. -/
  device : String
  /-- The user's phone. -/
  phone : String
  /-- The kind of media; a text has none. -/
  media : Option Media.Kind
  /-- The text, or the address of the media. -/
  body : String
deriving DecidableEq, Inhabited, Repr

/-- What the collaborators hold and what they have seen. -/
structure World where
  /-- The store and the clock. -/
  session : Store.Session
  /-- The history that is kept beside the store. -/
  memory : List (Conversation × HistoryEntry) := []
  /-- What the text generator will answer. -/
  replies : List (Except Error String) := []
  /-- How many further attempts to take a lock fail. -/
  lockFailures : Nat := 0
  /-- Whether the queue takes no more continuations. -/
  closed : Bool := false
  /-- The time that calls and timers took since the beginning. -/
  elapsed : Span := Span.zero
  /-- The continuations whose timers run, and the elapsed time at which each timer ends. -/
  alarms : List (Span × Continuation) := []
  /-- The events, in order. -/
  events : List Event := []
  /-- What was sent, in order. -/
  sent : List Sent := []
  /-- The continuations that were queued, in order. -/
  queued : List Continuation := []
  /-- What the text generator was asked, in order. -/
  requests : List AiRequest := []

namespace World

/-- The entries of a conversation in the history that is kept beside the store. -/
def remembered (world : World) (conversation : Conversation) : List HistoryEntry :=
  (world.memory.filter fun pair => pair.1 = conversation).map Prod.snd

/-- The history of a conversation, wherever it is kept. -/
def historyOf (world : World) (keeper : HistoryKeeper) (conversation : Conversation) :
    List HistoryEntry :=
  match keeper with
  | .memory => world.remembered conversation
  | .store => (world.session.database.store.historyOf conversation).map HistoryRow.toEntry
  | .broken => []

/-- Performs a write to the store. -/
def write (world : World) (operation : Store → Except Error α × Store) :
    Except Fault α × World :=
  let (result, database) := world.session.database.write operation
  (result.mapError .error, { world with session := { world.session with database } })

/-- Performs a change of the store that cannot fail by itself. -/
def change (world : World) (operation : Store → Store) : Except Fault Unit × World :=
  world.write fun store => (.ok (), operation store)

/-- Sends something, unless that fails. -/
def send (world : World) (script : Script) (sent : Sent) (failsOn : Option String)
    (failure : String) : Except Fault Unit × World :=
  let mentions (marker : Option String) : Bool :=
    marker.any fun marker => Text.contains sent.body marker
  if mentions script.panicOn then (.error (.panic "provider exploded"), world)
  else if mentions failsOn then (.error (.error (.dispatch "recording" failure)), world)
  else (.ok (), { world with sent := world.sent ++ [sent] })

/-- What the text generator answers next. -/
def nextReply (world : World) : Except Error String × World :=
  match world.replies with
  | [] => (.error (.aiRequest "no scripted reply left"), world)
  | reply :: replies => (reply, { world with replies })

/-- Answers a call. -/
def answer (script : Script) : (request : Call) → World → request.Outcome × World
  | .acquire conversation, world =>
    match world.lockFailures with
    | lockFailures + 1 =>
      (.error (.error (.database "lock store down")), { world with lockFailures })
    | 0 =>
      let (result, database) := world.session.database.acquireAt conversation world.session.now
        world.session.stale
      (result, { world with session := { world.session with database } })
  | .release conversation, world =>
    if script.releaseFails then (.error (.error (.database "release failed")), world)
    else world.change fun store => store.release conversation
  | .resolveFlow device input, world =>
    ((script.library.resolve device input).mapError .error, world)
  | .flow id, world => ((script.library.get id).mapError .error, world)
  | .activeExecution conversation, world =>
    (.ok (world.session.database.store.active? conversation), world)
  | .executionById id, world => (.ok (world.session.database.store.byId? id), world)
  | .latestExecution conversation flow, world =>
    (.ok (world.session.database.store.latest? conversation flow), world)
  | .createExecution conversation flow node, world =>
    world.write fun store => store.create (store.stampAt world.session.now) conversation flow node
  | .advance conversation flow node waiting, world =>
    world.change fun store =>
      store.advance (store.stampAt world.session.now) conversation flow node waiting
  | .setWaiting conversation flow waiting, world =>
    world.write fun store => store.setWaiting world.session.now conversation flow waiting
  | .complete conversation flow, world =>
    world.change fun store => store.complete world.session.now conversation flow
  | .setStage id stage, world =>
    world.change fun store => store.setStage world.session.now id stage
  | .saveVariables id vars, world =>
    world.change fun store => store.saveVariables world.session.now id vars
  | .appendHistory conversation entry, world =>
    match script.history with
    | .memory => (.ok (), { world with memory := world.memory ++ [(conversation, entry)] })
    | .store => world.change fun store => store.appendHistory conversation entry
    | .broken => (.error (.error (.database "history store down")), world)
  | .readHistory conversation limit, world =>
    match script.history with
    | .memory =>
      let entries := world.remembered conversation
      (.ok (entries.drop (entries.length - limit)), world)
    | .store => (.ok (world.session.database.store.readHistory conversation limit), world)
    | .broken => (.error (.error (.database "history store down")), world)
  | .captureRules device stage, world =>
    match script.captures with
    | .store => (.ok (world.session.database.store.capturesOf device stage), world)
    | .none => (.ok [], world)
    | .broken => (.error (.error (.database "capture store down")), world)
  | .sendText device phone text, world =>
    world.send script { device, phone, media := none, body := text } script.failText
      "scripted failure"
  | .sendMedia device phone url kind, world =>
    world.send script { device, phone, media := some kind, body := url } script.failMedia
      "scripted media failure"
  | .classify url, world =>
    match (script.media.getD []).find? fun pair => pair.1 = url with
    | some (_, kind) => (.ok kind, world)
    | none => (.error (.error (.mediaValidation url "not reachable")), world)
  | .generate request, world =>
    let (reply, world) := { world with requests := world.requests ++ [request] }.nextReply
    (reply.mapError .error, world)
  | .enqueue item, world =>
    if !script.timers then (.ok (), { world with queued := world.queued ++ [item] })
    else if world.closed then (.error (.error (.scheduler "delay queue is closed")), world)
    else
      let alarm := (world.elapsed + world.session.now.spanUntil item.due, item)
      (.ok (), { world with alarms := world.alarms ++ [alarm] })
  | .now, world => (world.session.now, world)
  | .pause _, world => ((), world)
  | .publish event, world => ((), { world with events := world.events ++ [event] })

end World
end Rehearsal
end ChatFlow
