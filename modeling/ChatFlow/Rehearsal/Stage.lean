import ChatFlow.Rehearsal.Script

/-!
# The stage of a rehearsal

Several processes can be under way at once.  Each call takes its time, and while one process
waits for the outcome of its call another goes on: the process whose call ends first makes the
next move, and of several such processes the one that stands first.  Continuations whose timers
have ended become processes of their own.
-/

namespace ChatFlow
namespace Rehearsal

/-- What becomes of a process. -/
inductive Outcome where
  /-- What became of a message. -/
  | message (result : Except Fault InboundOutcome)
  /-- What became of a continuation. -/
  | continuation (result : Except Fault ResumeOutcome)
  /-- A continuation was delivered. -/
  | delivery (result : Except Fault Unit)

/-- A process that is under way. -/
structure Task where
  /-- The number under which the outcome is noted. -/
  number : Option Nat
  /-- The elapsed time at which the process made its last move. -/
  since : Span
  /-- What is left of the process. -/
  process : Process Outcome

/-- The world and the processes that are under way. -/
structure Stage where
  /-- The world. -/
  world : World
  /-- The processes. -/
  tasks : List Task := []
  /-- The outcomes that were noted. -/
  outcomes : List (Nat × Outcome) := []

/-- The elapsed time at which a task makes its next move. -/
def Task.due (script : Script) (task : Task) : Span :=
  match task.process with
  | .step request _ => task.since + script.duration request
  | _ => task.since

/-- The next of some times with positions: the earliest, and of several earliest the first. -/
def earliest? (times : List (Span × Nat)) : Option (Span × Nat) :=
  times.foldl
    (fun best time =>
      match best with
      | some found => if found.1 ≤ time.1 then some found else some time
      | none => some time)
    none

namespace Stage

/-- Notes the outcome of a task that is done. -/
def note (stage : Stage) (task : Task) (outcome : Outcome) : Stage :=
  match task.number with
  | some number => { stage with outcomes := stage.outcomes ++ [(number, outcome)] }
  | none => stage

/-- Lets the task at a position make its next move, at an elapsed time. -/
def move (script : Script) (stage : Stage) (elapsed : Span) (position : Nat) : Stage :=
  match stage.tasks[position]? with
  | none => stage
  | some task =>
    match task.process with
    | .done outcome =>
      { stage with tasks := stage.tasks.eraseIdx position }.note task outcome
    | .halt fault =>
      { stage with tasks := stage.tasks.eraseIdx position }.note task (.delivery (.error fault))
    | .step request next =>
      let (outcome, world) := World.answer script request { stage.world with elapsed }
      let task := { task with since := elapsed, process := next outcome }
      { stage with world, tasks := stage.tasks.set position task }

/-- Makes the continuation at a position among the alarms a process of its own. -/
def ring (engine : Engine) (stage : Stage) (elapsed : Span) (position : Nat) : Stage :=
  match stage.world.alarms[position]? with
  | none => stage
  | some (_, item) =>
    let world :=
      { stage.world with alarms := stage.world.alarms.eraseIdx position, elapsed }
    let process := Process.contain (engine.deliver item)
    let task : Task :=
      { number := none, since := elapsed, process := process.andThen fun result =>
          .done (.delivery result) }
    { stage with world, tasks := stage.tasks ++ [task] }

/-- Whether a task whose outcome is to be noted is under way. -/
def isAwaited (stage : Stage) : Bool :=
  stage.tasks.any fun task => task.number.isSome

/-- Lets the tasks and alarms go on in the order of their times: until no awaited task is left,
or, given a limit, until nothing happens up to that elapsed time.  At most `moves` moves are
made. -/
def goOn (script : Script) (engine : Engine) (limit : Option Span) : (moves : Nat) → Stage → Stage
  | 0, stage => stage
  | moves + 1, stage =>
    let isOpen (time : Span) : Bool := limit.all fun limit => time ≤ limit
    if limit.isNone && !stage.isAwaited then stage
    else
      let task := earliest? ((stage.tasks.map (Task.due script)).zipIdx)
      let alarm := earliest? ((stage.world.alarms.map Prod.fst).zipIdx)
      match task, alarm with
      | none, none => stage
      | some (time, position), none =>
        if isOpen time then goOn script engine limit moves (stage.move script time position)
        else stage
      | none, some (time, position) =>
        if isOpen time then goOn script engine limit moves (stage.ring engine time position)
        else stage
      | some (taskTime, task), some (alarmTime, alarm) =>
        if taskTime ≤ alarmTime then
          if isOpen taskTime then goOn script engine limit moves (stage.move script taskTime task)
          else stage
        else
          if isOpen alarmTime then
            goOn script engine limit moves (stage.ring engine alarmTime alarm)
          else stage

/-- More moves than a rehearsal makes in one go. -/
def patience : Nat := 10000000

/-- Lets processes begin at once and go on until each has its outcome; returns the outcomes in
the order of the processes. -/
def runAll (script : Script) (engine : Engine) (stage : Stage)
    (processes : List (Process Outcome)) : List Outcome × Stage :=
  let tasks := processes.zipIdx.map fun (process, number) =>
    { number := some number, since := stage.world.elapsed, process : Task }
  let stage := goOn script engine none patience { stage with tasks := tasks ++ stage.tasks }
  let outcomes := processes.zipIdx.filterMap fun (_, number) =>
    (stage.outcomes.find? fun noted => noted.1 = number).map Prod.snd
  (outcomes, { stage with outcomes := [] })

/-- Lets one second pass on the clock and for the timers. -/
def tick (script : Script) (engine : Engine) (stage : Stage) : Stage :=
  let limit := stage.world.elapsed + Span.ofSeconds 1
  let session := { stage.world.session with now := stage.world.session.now.shiftMillis 1000 }
  let stage := goOn script engine (some limit) patience
    { stage with world := { stage.world with session } }
  { stage with world := { stage.world with elapsed := limit } }

/-- Closes the queue: continuations whose timers run are lost. -/
def close (stage : Stage) : Stage :=
  { stage with world := { stage.world with closed := true, alarms := [] } }

end Stage
end Rehearsal
end ChatFlow
