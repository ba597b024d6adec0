import ChatFlow.Proofs.Process.Safety
import ChatFlow.Rehearsal.Script

/-!
# Scenes and sites

A `Scene` is what can be seen of the work of engines: the store, what was sent, what was queued
and what was published.  A `Site` is where an engine works: it fixes the flows, the age at which
locks count as abandoned, the faults that callees may show and the times that the clock may show.
Everything else that callees decide on their own is a `Choice`.  At a site each call either goes
well or fails, and a call that fails may have had its effect nevertheless.
-/

namespace ChatFlow

/-- What can be seen of the work of engines. -/
structure Scene where
  /-- The store. -/
  store : Store := {}
  /-- What was sent, in order. -/
  sent : List Rehearsal.Sent := []
  /-- The continuations that were queued, in order. -/
  queued : List Continuation := []
  /-- What was published, in order. -/
  events : List Event := []
deriving DecidableEq

/-- What callees decide on their own. -/
structure Choice where
  /-- The id for a row that may be added. -/
  freshId : String := ""
  /-- Whether the database is being written to when a lock is asked for. -/
  contended : Bool := false
  /-- What the text generator says. -/
  reply : String := ""
  /-- The kind of the media that is looked at. -/
  kind : Media.Kind := .image
  /-- The capture rules of a stage. -/
  rules : List Capture := []
  /-- The history that is read. -/
  entries : List HistoryEntry := []

/-- Where an engine works. -/
structure Site where
  /-- The flows. -/
  library : Flow.Library := {}
  /-- The age beyond which a lock counts as abandoned. -/
  stale : Span := Span.ofSeconds 30
  /-- The faults that callees may show. -/
  faults : Fault → Prop
  /-- The times that the clock may show. -/
  clock : Instant → Prop

namespace Scene

/-- The scene with another store. -/
def withStore (scene : Scene) (store : Store) : Scene :=
  { scene with store }

/-- The scene after something was sent. -/
def send (scene : Scene) (sent : Rehearsal.Sent) : Scene :=
  { scene with sent := scene.sent ++ [sent] }

/-- What becomes of a call that goes well. -/
def serve (library : Flow.Library) (stale : Span) (now : Instant) (choice : Choice) :
    (request : Call) → Scene → request.Outcome × Scene
  | .acquire conversation, scene =>
      if choice.contended then (.ok false, scene)
      else
        let (taken, store) := scene.store.acquireAt conversation now stale
        (.ok taken, scene.withStore store)
  | .release conversation, scene =>
      (.ok (), scene.withStore (scene.store.release conversation))
  | .resolveFlow device input, scene =>
      ((library.resolve device input).mapError .error, scene)
  | .flow id, scene => ((library.get id).mapError .error, scene)
  | .activeExecution conversation, scene => (.ok (scene.store.active? conversation), scene)
  | .executionById id, scene => (.ok (scene.store.byId? id), scene)
  | .latestExecution conversation flow, scene =>
      (.ok (scene.store.latest? conversation flow), scene)
  | .createExecution conversation flow node, scene =>
      let (result, store) := scene.store.create ⟨now, choice.freshId⟩ conversation flow node
      (result.mapError .error, scene.withStore store)
  | .advance conversation flow node waiting, scene =>
      (.ok (), scene.withStore
        (scene.store.advance ⟨now, choice.freshId⟩ conversation flow node waiting))
  | .setWaiting conversation flow waiting, scene =>
      let (result, store) := scene.store.setWaiting now conversation flow waiting
      (result.mapError .error, scene.withStore store)
  | .complete conversation flow, scene =>
      (.ok (), scene.withStore (scene.store.complete now conversation flow))
  | .setStage id stage, scene => (.ok (), scene.withStore (scene.store.setStage now id stage))
  | .saveVariables id vars, scene =>
      (.ok (), scene.withStore (scene.store.saveVariables now id vars))
  | .appendHistory conversation entry, scene =>
      (.ok (), scene.withStore (scene.store.appendHistory conversation entry))
  | .readHistory .., scene => (.ok choice.entries, scene)
  | .captureRules .., scene => (.ok choice.rules, scene)
  | .sendText device phone text, scene =>
      (.ok (), scene.send { device, phone, media := none, body := text })
  | .sendMedia device phone url kind, scene =>
      (.ok (), scene.send { device, phone, media := some kind, body := url })
  | .classify _, scene => (.ok choice.kind, scene)
  | .generate _, scene => (.ok choice.reply, scene)
  | .enqueue item, scene => (.ok (), { scene with queued := scene.queued ++ [item] })
  | .now, scene => (now, scene)
  | .pause _, scene => ((), scene)
  | .publish event, scene => ((), { scene with events := scene.events ++ [event] })

end Scene

namespace Call

/-- The outcome of a call that fails, if it can. -/
def failure? : (request : Call) → Fault → Option request.Outcome
  | .now, _ | .pause _, _ | .publish _, _ => none
  | .acquire _, fault | .release _, fault | .resolveFlow .., fault | .flow _, fault
  | .activeExecution _, fault | .executionById _, fault | .latestExecution .., fault
  | .createExecution .., fault | .advance .., fault | .setWaiting .., fault
  | .complete .., fault | .setStage .., fault | .saveVariables .., fault
  | .appendHistory .., fault | .readHistory .., fault | .captureRules .., fault
  | .sendText .., fault | .sendMedia .., fault | .classify _, fault | .generate _, fault
  | .enqueue _, fault => some (.error fault)

/-- Whether a call is about the lock of a conversation. -/
def isLock : Call → Bool
  | .acquire _ | .release _ => true
  | _ => false

end Call

namespace Site

/-- How calls are answered at a site. -/
inductive Answers (site : Site) (request : Call) (scene : Scene) :
    request.Outcome → Scene → Prop
  /-- The call goes well. -/
  | well {now : Instant} (onClock : site.clock now) (choice : Choice) :
      Answers site request scene
        (scene.serve site.library site.stale now choice request).1
        (scene.serve site.library site.stale now choice request).2
  /-- The call fails without an effect. -/
  | failed {fault : Fault} {outcome : request.Outcome} (shown : site.faults fault)
      (fails : request.failure? fault = some outcome) :
      Answers site request scene outcome scene
  /-- The call fails, but not before it had its effect. -/
  | failedLate {fault : Fault} {outcome : request.Outcome} {now : Instant}
      (shown : site.faults fault) (fails : request.failure? fault = some outcome)
      (onClock : site.clock now) (choice : Choice) :
      Answers site request scene outcome
        (scene.serve site.library site.stale now choice request).2

/-- The site at one moment: its clock stands still. -/
def moment (site : Site) (now : Instant) : Site :=
  { site with clock := (· = now) }

/-- How a call is answered when it goes well at a time and by a choice. -/
def answer (site : Site) (now : Instant) (choice : Choice) (request : Call) (scene : Scene) :
    request.Outcome × Scene :=
  scene.serve site.library site.stale now choice request

/-- To go well is one way to be answered. -/
theorem answers_answer
    {site : Site}
    {now : Instant}
    (onClock : site.clock now)
    (choice : Choice)
    (request : Call)
    (scene : Scene) :
    site.Answers request scene (site.answer now choice request scene).1
      (site.answer now choice request scene).2 :=
  .well onClock choice

end Site

end ChatFlow
