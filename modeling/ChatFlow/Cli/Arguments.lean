import ChatFlow.Text.Search

/-!
# Command lines

A command line names a command, with options before and behind it.  It is read from left to
right: the first thing that cannot be understood, or that asks for help or for the version,
decides.  What stands behind `--` is never an option.
-/

namespace ChatFlow
namespace Cli

/-- A command. -/
inductive Command where
  /-- Serve the gateway, or only work through what is queued. -/
  | serve (withGateway : Bool)
  /-- Talk to a flow at the terminal. -/
  | simulate (device phone : String) (flow : Option String)
  /-- Check a flow file. -/
  | check (file : String)
  /-- Show the settings. -/
  | config
deriving DecidableEq, Inhabited, Repr

/-- What a command line asks for. -/
structure Invocation where
  /-- The path of the settings file. -/
  config : String := "flowbot.toml"
  /-- The command. -/
  command : Command
deriving DecidableEq, Inhabited, Repr

/-- What help can be asked about. -/
inductive Topic where
  /-- The program. -/
  | program
  /-- The command that serves. -/
  | serve
  /-- The command that simulates. -/
  | simulate
  /-- The command that checks. -/
  | check
  /-- The command that shows the settings. -/
  | config
  /-- The command that helps. -/
  | help
deriving DecidableEq, Inhabited, Repr

/-- Why the program does not run a command. -/
inductive Halt where
  /-- Help is asked for. -/
  | help (topic : Topic)
  /-- The version is asked for. -/
  | version
  /-- The command line is wrong. -/
  | misuse (reason : String)
deriving DecidableEq, Inhabited, Repr

/-- An option of a command. -/
structure Flag where
  /-- The name behind two dashes. -/
  name : String
  /-- The letter behind one dash. -/
  letter : Option Char := none
  /-- Whether a value follows. -/
  takesValue : Bool := true
  /-- Whether the value may be empty. -/
  mayBeEmpty : Bool := true
deriving DecidableEq, Inhabited, Repr

/-- What can stand behind the name of a command. -/
structure Grammar where
  /-- What help is about. -/
  topic : Topic
  /-- The options. -/
  flags : List Flag := []
  /-- The number of words. -/
  words : Nat := 0
  /-- Whether the version can be asked for. -/
  knowsVersion : Bool := false
  /-- Whether the first word ends what this grammar is about. -/
  stopsAtWord : Bool := false

/-- What was read so far. -/
structure Found where
  /-- The options that were given, with their values. -/
  options : List (String × String) := []
  /-- The words. -/
  words : List String := []
deriving DecidableEq, Inhabited, Repr

namespace Found

/-- The value of an option. -/
def get? (found : Found) (name : String) : Option String :=
  (found.options.find? fun option => option.1 == name).map Prod.snd

end Found

/-- What is wrong with an argument that nobody expects. -/
def unexpected (argument : String) : Halt :=
  .misuse ("unexpected argument '" ++ argument ++ "' found")

/-- Adds the value of an option, which must not be given twice. -/
def give (found : Found) (flag : Flag) (value : String) : Except Halt Found :=
  if (found.get? flag.name).isSome then
    .error (.misuse ("the argument '--" ++ flag.name ++ "' cannot be used multiple times"))
  else if value.isEmpty && !flag.mayBeEmpty then
    .error (.misuse ("a value is required for '--" ++ flag.name ++ "' but none was supplied"))
  else .ok { found with options := found.options ++ [(flag.name, value)] }

/-- Whether an argument looks like an option. -/
def looksLikeOption (argument : String) : Bool :=
  argument.startsWith "-" && argument != "-"

/-- What an argument that looks like an option means: the options given by it, and an option whose
value is the next argument. -/
abbrev Meaning := Except Halt (Found × Option Flag)

/-- Reads an option behind two dashes. -/
def readLong (grammar : Grammar) (found : Found) (characters : List Char) : Meaning := do
  let name := String.ofList (characters.takeWhile (· != '='))
  let attached := characters.dropWhile (· != '=')
  if name = "help" && attached.isEmpty then throw (.help grammar.topic)
  if name = "version" && grammar.knowsVersion && attached.isEmpty then throw .version
  match grammar.flags.find? fun flag => flag.name == name with
  | none => throw (unexpected ("--" ++ name))
  | some flag =>
    match flag.takesValue, attached with
    | true, '=' :: value => return (← give found flag (String.ofList value), none)
    | true, _ => return (found, some flag)
    | false, [] => return (← give found flag "true", none)
    | false, _ => throw (unexpected (String.ofList attached))

/-- Reads the letters behind one dash; the first one that takes a value takes the rest. -/
def readLetters (grammar : Grammar) (found : Found) : List Char → Meaning
  | [] => .ok (found, none)
  | letter :: rest => do
    if letter = 'h' then throw (.help grammar.topic)
    if letter = 'V' && grammar.knowsVersion then throw .version
    match grammar.flags.find? fun flag => flag.letter == some letter with
    | none => throw (unexpected ("-" ++ String.singleton letter))
    | some flag =>
      if flag.takesValue then
        match rest with
        | [] => return (found, some flag)
        | '=' :: value => return (← give found flag (String.ofList value), none)
        | value => return (← give found flag (String.ofList value), none)
      else readLetters grammar (← give found flag "true") rest

/-- Reads an argument that looks like an option. -/
def readOption (grammar : Grammar) (found : Found) (argument : String) : Meaning :=
  match argument.toList with
  | '-' :: '-' :: name => readLong grammar found name
  | _ :: letters => readLetters grammar found letters
  | [] => .ok (found, none)

/-- Adds a word. -/
def addWord (grammar : Grammar) (found : Found) (word : String) : Except Halt Found :=
  if grammar.words ≤ found.words.length then .error (unexpected word)
  else if word.isEmpty then .error (.misuse "a value is required but none was supplied")
  else .ok { found with words := found.words ++ [word] }

/-- Reads arguments: what was found, and the arguments from the first word on where that is the
end. -/
def readArguments (grammar : Grammar) (found : Found) :
    List String → Except Halt (Found × List String)
  | [] => .ok (found, [])
  | "--" :: words => do return (← words.foldlM (addWord grammar) found, [])
  | argument :: rest => do
    if looksLikeOption argument then
      match ← readOption grammar found argument, rest with
      | (found, none), rest => readArguments grammar found rest
      | (found, some flag), value :: rest =>
        if looksLikeOption value then
          throw (.misuse ("a value is required for '--" ++ flag.name ++ "' but none was supplied"))
        else readArguments grammar (← give found flag value) rest
      | (_, some flag), [] =>
        throw (.misuse ("a value is required for '--" ++ flag.name ++ "' but none was supplied"))
    else if grammar.stopsAtWord then return (found, argument :: rest)
    else readArguments grammar (← addWord grammar found argument) rest

/-- What can stand in front of a command. -/
def programGrammar : Grammar :=
  { topic := .program
    flags := [{ name := "config", letter := some 'c', mayBeEmpty := false }]
    knowsVersion := true
    stopsAtWord := true }

/-- What can stand behind a command that takes nothing but a call for help. -/
def bareGrammar (topic : Topic) : Grammar :=
  { topic }

/-- What can stand behind the command that serves. -/
def serveGrammar : Grammar :=
  { topic := .serve, flags := [{ name := "no-gateway", takesValue := false }] }

/-- What can stand behind the command that simulates. -/
def simulateGrammar : Grammar :=
  { topic := .simulate, flags := [{ name := "device" }, { name := "phone" }, { name := "flow" }] }

/-- What can stand behind the command that checks. -/
def checkGrammar : Grammar :=
  { topic := .check, words := 1 }

/-- The topics of the command that helps. -/
def topic? : String → Option Topic
  | "serve" => some .serve
  | "simulate" => some .simulate
  | "check" => some .check
  | "config" => some .config
  | "help" => some .help
  | _ => none

/-- What is wrong with the name of a command that nobody knows. -/
def unknownCommand (name : String) : Halt :=
  .misuse ("unrecognized subcommand '" ++ name ++ "'")

/-- What a call for help leads to. -/
def helpFor : List String → Halt
  | [] => .help .program
  | [name] =>
    match topic? name with
    | some topic => .help topic
    | none => unknownCommand name
  | _ :: word :: _ => unknownCommand word

/-- What is wrong with a command line that lacks an argument. -/
def missing (argument : String) : Halt :=
  .misuse ("the following required arguments were not provided: " ++ argument)

/-- Reads a command from its name and what stands behind that. -/
def readCommand (name : String) (arguments : List String) : Except Halt Command := do
  match name with
  | "serve" =>
    let (found, _) ← readArguments serveGrammar {} arguments
    return .serve (found.get? "no-gateway").isNone
  | "simulate" =>
    let (found, _) ← readArguments simulateGrammar {} arguments
    match found.get? "device" with
    | none => throw (missing "--device <DEVICE>")
    | some device =>
      return .simulate device ((found.get? "phone").getD "simulator") (found.get? "flow")
  | "check" =>
    let (found, _) ← readArguments checkGrammar {} arguments
    match found.words with
    | [] => throw (missing "<FILE>")
    | file :: _ => return .check file
  | "config" =>
    let _ ← readArguments (bareGrammar .config) {} arguments
    return .config
  | "help" => throw (helpFor arguments)
  | name => throw (unknownCommand name)

/-- Reads a command line. -/
def readInvocation (arguments : List String) : Except Halt Invocation := do
  match ← readArguments programGrammar {} arguments with
  | (_, []) => throw (.misuse "a subcommand is required but one was not provided")
  | (found, name :: arguments) =>
    let command ← readCommand name arguments
    return { config := (found.get? "config").getD "flowbot.toml", command }

end Cli
end ChatFlow
