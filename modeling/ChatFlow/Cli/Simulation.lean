import ChatFlow.Rehearsal.Play

/-!
# Simulations

A conversation with a flow at the terminal.  The engine works on a store that is forgotten
afterwards, what it sends is printed, and after each line that the user types a remark says how
that went, if there is anything to say.
-/

namespace ChatFlow
namespace Cli

open Rehearsal (Script Sent Stage)

/-- A conversation at the terminal. -/
structure Simulation where
  /-- How the collaborators behave. -/
  script : Script
  /-- The engine. -/
  engine : Engine
  /-- The conversation. -/
  conversation : Conversation
  /-- When it began. -/
  began : Instant
  /-- The collaborators and what is under way. -/
  stage : Stage

/-- How something that is sent is printed; the lines of a text stand below one another. -/
def printSent (sent : Sent) : String :=
  match sent.media with
  | some kind => "bot> [" ++ kind.name ++ "] " ++ sent.body ++ "\n"
  | none => "bot> " ++ String.intercalate "\n     " (Text.split '\n' sent.body) ++ "\n"

/-- A line of the user without what ends it. -/
def stripLineEnd (line : String) : String :=
  String.ofList (line.toList.reverse.dropWhile fun c => c == '\r' || c == '\n').reverse

/-- The time of day of an instant. -/
def timeOfDay (instant : Instant) : String :=
  let second := ((instant.nanos.fdiv nanosPerSecond).fmod 86400).toNat
  let two (n : Nat) : String := String.ofList (Timestamp.padded 2 n)
  two (second / 3600) ++ ":" ++ two (second / 60 % 60) ++ ":" ++ two (second % 60)

/-- The remark on a turn that was made. -/
def remarkOnTurn (report : TurnReport) : String :=
  if report.completed then "  (flow completed)\n"
  else
    match report.scheduled with
    | some item => "  (continues at " ++ timeOfDay item.due ++ ")\n"
    | none => if report.hopLimit then "  (aborted: hop limit reached)\n" else ""

/-- The remark on what became of a message. -/
def remark (device : String) : InboundOutcome → String
  | .processed report => remarkOnTurn report
  | .skipped reason => "  (skipped: " ++ reason.name ++ ")\n"
  | .noFlow => "  (no flow bound to device " ++ device ++ ")\n"
  | .failed message => "  (failed: " ++ message ++ ")\n"

namespace Simulation

/-- The time since the beginning, as far as the simulation has come. -/
def elapsed (simulation : Simulation) : Span :=
  simulation.stage.world.elapsed

/-- A simulation at its beginning. -/
def start (settings : Settings) (library : Flow.Library) (conversation : Conversation)
    (now : Instant) : Simulation :=
  let script : Script :=
    { library, history := .store, generates := settings.ai.isSome, timers := true }
  let session : Store.Session := { now, stale := settings.engine.lockStaleAfter }
  { script, conversation
    engine := script.engine settings.engine
    began := now
    stage := { world := { session } } }

/-- What is printed at the beginning. -/
def greeting (simulation : Simulation) : String :=
  "Simulating " ++ simulation.conversation.phone ++ " on device " ++
    simulation.conversation.device ++ ". Type /quit to exit.\n"

/-- What is printed in front of a line of the user. -/
def invitation : String := "you> "

/-- Whether a line ends the simulation. -/
def isFarewell (line : String) : Bool :=
  let text := stripLineEnd line
  text == "/quit" || text == "/exit"

/-- What was sent between two states. -/
def printNew (before after : Stage) : String :=
  String.join ((after.world.sent.drop before.world.sent.length).map printSent)

/-- Sets the clock to the time that a span after the beginning is. -/
def setClock (simulation : Simulation) (elapsed : Span) : Simulation :=
  let world := simulation.stage.world
  let session := { world.session with now := simulation.began.after elapsed }
  { simulation with stage := { simulation.stage with world := { world with session } } }

/-- Lets the simulation come to a time, unless it is further already; returns what is printed
meanwhile. -/
def passTo (simulation : Simulation) (elapsed : Span) : String × Simulation :=
  if elapsed ≤ simulation.elapsed then ("", simulation)
  else
    let simulation := simulation.setClock elapsed
    let after := simulation.stage.goOn simulation.script simulation.engine (some elapsed)
      Stage.patience
    (printNew simulation.stage after,
      { simulation with stage := { after with world := { after.world with elapsed } } })

/-- Hears a line of the user; returns what is printed, and the error that ends the simulation if
there is one. -/
def hear (simulation : Simulation) (line : String) :
    (String × Option Error) × Simulation :=
  let message : InboundMessage :=
    { conversation := simulation.conversation, text := stripLineEnd line }
  let before := simulation.stage
  let (outcomes, after) := before.runAll simulation.script simulation.engine
    [Rehearsal.messageProcess simulation.engine message]
  let printed := printNew before after
  let simulation := { simulation with stage := after }.setClock after.world.elapsed
  match outcomes with
  | .message (.ok outcome) :: _ =>
    ((printed ++ remark simulation.conversation.device outcome, none), simulation)
  | .message (.error (.error error)) :: _ => ((printed, some error), simulation)
  | _ => ((printed, none), simulation)

end Simulation
end Cli
end ChatFlow
