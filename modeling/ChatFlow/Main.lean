import ChatFlow.Cli.Program
import Std.Time.DateTime.Timestamp

/-!
# The program at a terminal

The outer layer of the program: it reads files, asks the operating system for the time and for
variables, prints, and waits for the lines of the user.  While it waits, a simulation goes on.
-/

namespace ChatFlow
namespace Terminal

open Cli (Next Printed Simulation)

/-- The fault of a file operation; an error number may come with either sign. -/
def faultOf : IO.Error → IoFault
  | .noFileOrDirectory .. => .notFound
  | .inappropriateType _ code details =>
    if code = 20 ∨ code = -20 then .notDirectory
    else if code = 21 ∨ code = -21 then .isDirectory
    else .other details
  | error => .other (toString error)

/-- The text of a file, or why it cannot be read. -/
def readText (path : String) : IO (Except IoFault String) := do
  try
    match String.fromUTF8? (← IO.FS.readBinFile path) with
    | some text => return .ok text
    | none => return .error .notText
  catch error => return .error (faultOf error)

/-- A path and what there is to read. -/
def entry (path : String) : IO (String × Except IoFault String) := do
  return (path, ← readText path)

/-- The names of the files in a directory, or why it cannot be read. -/
def readNames (path : String) : IO (Except IoFault (List String)) := do
  try
    let directory ← IO.FS.realPath path
    return .ok ((← directory.readDir).toList.map IO.FS.DirEntry.fileName)
  catch error => return .error (faultOf error)

/-- A directory and the flow files in it. -/
def directoryEntries (path : String) : IO (List (String × Except IoFault String)) := do
  match ← readNames path with
  | .error fault => return [(path, .error fault)]
  | .ok names =>
    let files ← (names.filter Flow.isFlowFile).mapM fun name => entry (Path.join path name)
    return (path, .error .isDirectory) :: files

/-- The environment, as far as some names go. -/
def environmentOf (names : List String) : IO Environment :=
  names.filterMapM fun name => do return (← IO.getEnv name).map fun value => (name, value)

/-- The present time. -/
def now : IO Instant := do
  return ⟨(← Std.Time.Timestamp.now).toNanosecondsSinceUnixEpoch.val⟩

/-- Prints at once. -/
def print (printed : Printed) : IO Unit := do
  IO.eprint printed.diagnostics
  IO.print printed.output
  (← IO.getStdout).flush

/-- Lets a simulation come to the present time and prints what happens meanwhile. -/
def catchUp (simulation : Simulation) : IO Simulation := do
  let (output, simulation) := simulation.passTo (simulation.began.spanUntil (← now))
  print { output }
  return simulation

/-- Waits for a line of the user, while the simulation goes on. -/
partial def awaitLine (line : Task (Except IO.Error String)) (simulation : Simulation) :
    IO (String × Simulation) := do
  if ← IO.hasFinished line then return (← IO.ofExcept line.get, ← catchUp simulation)
  else
    IO.sleep 20
    awaitLine line (← catchUp simulation)

/-- Converses with the user; returns how the program ends. -/
partial def converse (simulation : Simulation) : IO UInt32 := do
  print { output := Simulation.invitation }
  let (line, simulation) ← awaitLine (← IO.asTask (← IO.getStdin).getLine) simulation
  if line.isEmpty || Simulation.isFarewell line then return 0
  else
    let ((output, error), simulation) := simulation.hear line
    print { output }
    match error with
    | some error =>
      print { diagnostics := (Cli.Failure.failed error).text }
      return 1
    | none => converse simulation

/-- Runs the program on the arguments of the command line. -/
def run (arguments : List String) : IO UInt32 := do
  let first ← (Cli.firstFile? arguments).toList.mapM entry
  let named := Files.ofContents first
  let environment ← environmentOf (Cli.variableNames named arguments)
  let flows ← (Cli.directory? named environment arguments).toList.mapM directoryEntries
  let files := Files.ofContents (first ++ flows.flatten)
  let (printed, next) := Cli.start files environment (← now) arguments
  print printed
  match next with
  | .exit code => return code.toUInt32
  | .converse simulation => converse simulation

end Terminal
end ChatFlow

/-- Runs the program. -/
def main (arguments : List String) : IO UInt32 :=
  ChatFlow.Terminal.run arguments
