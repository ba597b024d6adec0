import ChatFlow.Cli.Help
import ChatFlow.Cli.Simulation
import ChatFlow.Flow.Loading
import ChatFlow.Settings.Reading
import ChatFlow.Settings.Writing

/-!
# The program

What the program does with a command line: it looks at files and at the environment, prints, and
either is done or begins a simulation.  The files and variables that it will look at can be found
out beforehand, step by step: first the file that the command line names, then the variables that
the settings refer to, then the directory of the flows.
-/

namespace ChatFlow
namespace Cli

/-- Why a command fails. -/
inductive Failure where
  /-- An error. -/
  | failed (error : Error)
  /-- A file that cannot be read. -/
  | reading (path : String) (fault : IoFault)
  /-- The command needs a network. -/
  | needsNetwork
deriving DecidableEq, Inhabited, Repr

namespace Failure

/-- What went wrong. -/
def summary : Failure → String
  | .failed error => error.message
  | .reading path _ => "reading " ++ path
  | .needsNetwork => "no network to serve on"

/-- What the failure comes from, if that is known. -/
def cause? : Failure → Option String
  | .failed (.io message) => some message
  | .failed (.json message) => some message
  | .failed _ => none
  | .reading _ fault => some fault.message
  | .needsNetwork => none

/-- How a failure is printed. -/
def text (failure : Failure) : String :=
  let cause := match failure.cause? with
    | some cause => "\n\nCaused by:\n    " ++ cause
    | none => ""
  "Error: " ++ failure.summary ++ cause ++ "\n"

end Failure

/-- What is printed, as output and as diagnostics. -/
structure Printed where
  /-- The output. -/
  output : String := ""
  /-- The diagnostics. -/
  diagnostics : String := ""
deriving DecidableEq, Inhabited, Repr

/-- How the program goes on. -/
inductive Next where
  /-- The program is done. -/
  | exit (code : Nat)
  /-- A simulation begins. -/
  | converse (simulation : Simulation)

/-- A step of the program: what it prints, and how it goes on. -/
abbrev Progress := Printed × Next

/-- The program stops without running a command. -/
def halt : Halt → Progress
  | .help topic => ({ output := helpText topic }, .exit 0)
  | .version => ({ output := versionText }, .exit 0)
  | .misuse reason => ({ diagnostics := "error: " ++ reason ++ "\n" }, .exit 2)

/-- A command is done. -/
def finish (output : String) : Progress :=
  ({ output }, .exit 0)

/-- A command fails. -/
def fail (failure : Failure) : Progress :=
  ({ diagnostics := failure.text }, .exit 1)

/-- A step with further diagnostics in front. -/
def warnFirst (warning : String) (progress : Progress) : Progress :=
  ({ progress.1 with diagnostics := warning ++ progress.1.diagnostics }, progress.2)

/-- What is said about a flow that is sound. -/
def praise (path : String) (graph : Flow.Graph) : String :=
  let warnings := graph.unknownKinds.map fun kind =>
    "  warning: unknown node type '" ++ kind ++ "' will pass through like \x60manual\x60\n"
  path ++ ": flow '" ++ graph.id ++ "' (" ++ graph.name ++ ") ok, " ++ toString graph.size ++
    " nodes\n" ++ String.join warnings

/-- Checks the text of a flow file. -/
def checkText (path : String) (text : String) : Progress :=
  match Flow.Graph.ofText text with
  | .ok graph => finish (praise path graph)
  | .error error => fail (.failed error)

/-- What is said when there is no settings file. -/
def defaultsWarning (path : String) : String :=
  "Warning: " ++ path ++
    " not found, using defaults. See flowbot.toml.example for reference.\n"

/-- The bindings of a simulation: a flow that is asked for belongs to the device. -/
def bindingsFor (settings : Settings) (device : String) (flow : Option String) : List Binding :=
  match flow with
  | some flow => [{ device, flow }]
  | none => settings.flows.bindings

/-- Checks a flow file. -/
def check (files : Files) (path : String) : Progress :=
  match files.read path with
  | .ok text => checkText path text
  | .error fault => fail (.reading path fault)

/-- The settings in the file at a path, and a warning when there is no file. -/
def loadSettings (files : Files) (environment : Environment) (path : String) :
    String × Except Error Settings :=
  if files.exists? path then
    match files.read path with
    | .ok text => ("", Settings.ofText environment text)
    | .error _ => ("", .error (.configNotFound path))
  else (defaultsWarning path, .ok {})

/-- The flows of the settings, with some bindings. -/
def loadLibrary (files : Files) (environment : Environment) (settings : Settings)
    (bindings : List Binding) : Except Error Flow.Library :=
  Flow.Library.load files (settings.flowsDir environment) bindings

/-- Begins a simulation. -/
def simulate (files : Files) (environment : Environment) (now : Instant) (settings : Settings)
    (conversation : Conversation) (flow : Option String) : Progress :=
  match loadLibrary files environment settings (bindingsFor settings conversation.device flow) with
  | .error error => fail (.failed error)
  | .ok library =>
    let simulation := Simulation.start settings library conversation now
    ({ output := simulation.greeting }, .converse simulation)

/-- Serves, as far as that goes without a network. -/
def serve (files : Files) (environment : Environment) (settings : Settings) : Progress :=
  match loadLibrary files environment settings settings.flows.bindings with
  | .error error => fail (.failed error)
  | .ok _ => fail .needsNetwork

/-- Runs a command with settings. -/
def runWith (files : Files) (environment : Environment) (now : Instant) (settings : Settings) :
    Command → Progress
  | .check file => check files file
  | .config => finish (settings.toText ++ "\n")
  | .serve _ => serve files environment settings
  | .simulate device phone flow => simulate files environment now settings { phone, device } flow

/-- Runs a command.  Checking a flow file needs no settings. -/
def runInvocation (files : Files) (environment : Environment) (now : Instant)
    (invocation : Invocation) : Progress :=
  match invocation.command with
  | .check file => check files file
  | command =>
    let (warning, settings) := loadSettings files environment invocation.config
    match settings with
    | .error error => warnFirst warning (fail (.failed error))
    | .ok settings => warnFirst warning (runWith files environment now settings command)

/-- Runs the program on a command line, up to its end or to a simulation. -/
def start (files : Files) (environment : Environment) (now : Instant) (arguments : List String) :
    Progress :=
  match readInvocation arguments with
  | .error reason => halt reason
  | .ok invocation => runInvocation files environment now invocation

/-- The file that the program looks at first. -/
def firstFile? (arguments : List String) : Option String :=
  match readInvocation arguments with
  | .error _ => none
  | .ok { command := .check file, .. } => some file
  | .ok invocation => some invocation.config

/-- The variables that the program looks at. -/
def variableNames (files : Files) (arguments : List String) : List String :=
  let references :=
    match firstFile? arguments with
    | some path => ((files.read path).map Environment.references).toOption.getD []
    | none => []
  "HOME" :: references

/-- The directory of flows that the program looks at. -/
def directory? (files : Files) (environment : Environment) (arguments : List String) :
    Option String :=
  match readInvocation arguments with
  | .error _ => none
  | .ok { command := .check _, .. } => none
  | .ok invocation =>
    match (loadSettings files environment invocation.config).2 with
    | .error _ => none
    | .ok settings => some (settings.flowsDir environment)

/-- Lets a simulation hear lines; returns what is printed, and how the program ends. -/
def converse (simulation : Simulation) : List String → Printed × Nat
  | [] => ({ output := Simulation.invitation }, 0)
  | line :: lines =>
    if Simulation.isFarewell line then ({ output := Simulation.invitation }, 0)
    else
      let ((output, error), simulation) := simulation.hear line
      let output := Simulation.invitation ++ output
      match error with
      | some error => ({ output, diagnostics := (Failure.failed error).text }, 1)
      | none =>
        let (printed, code) := converse simulation lines
        ({ printed with output := output ++ printed.output }, code)

/-- Runs the whole program, with all lines of the user at hand. -/
def run (files : Files) (environment : Environment) (now : Instant)
    (arguments lines : List String) : Printed × Nat :=
  match start files environment now arguments with
  | (printed, .exit code) => (printed, code)
  | (printed, .converse simulation) =>
    let (further, code) := converse simulation lines
    ({ output := printed.output ++ further.output
       diagnostics := printed.diagnostics ++ further.diagnostics }, code)

end Cli
end ChatFlow
