import ChatFlow.Settings

/-!
# The environment

The variables that the user sets outside the program.  A settings text may refer to them: each
reference is replaced by the value of its variable, once and from left to right, and a reference
to a variable that is not set stays.  The home directory is one of the variables.
-/

namespace ChatFlow

/-- The variables that are set, with their values. -/
abbrev Environment := List (String × String)

namespace Environment

/-- The value of a variable. -/
def get? (environment : Environment) (name : String) : Option String :=
  (environment.find? fun pair => pair.1 == name).map Prod.snd

/-- What a reference to a variable is replaced by. -/
def refer (environment : Environment) (name : List Char) : List Char :=
  match environment.get? (String.ofList name) with
  | some value => value.toList
  | none => '$' :: '\x7b' :: name ++ ['\x7d']

/-- Replaces the references in a text.  Inside a reference the characters of its name are gathered
in reverse; the end of the text ends the reference, too. -/
def expandFrom (environment : Environment) : (name : Option (List Char)) → List Char → List Char
  | none, '$' :: '\x7b' :: rest => expandFrom environment (some []) rest
  | none, c :: rest => c :: expandFrom environment none rest
  | none, [] => []
  | some name, '\x7d' :: rest =>
    environment.refer name.reverse ++ expandFrom environment none rest
  | some name, c :: rest => expandFrom environment (some (c :: name)) rest
  | some name, [] => environment.refer name.reverse

/-- Replaces the references in a text by the values of their variables. -/
def expand (environment : Environment) (text : String) : String :=
  String.ofList (expandFrom environment none text.toList)

/-- The names that a text refers to. -/
def referencesFrom : (name : Option (List Char)) → List Char → List String
  | none, '$' :: '\x7b' :: rest => referencesFrom (some []) rest
  | none, _ :: rest => referencesFrom none rest
  | none, [] => []
  | some name, '\x7d' :: rest => String.ofList name.reverse :: referencesFrom none rest
  | some name, c :: rest => referencesFrom (some (c :: name)) rest
  | some name, [] => [String.ofList name.reverse]

/-- The names that a text refers to. -/
def references (text : String) : List String :=
  referencesFrom none text.toList

/-- A path of which `~/` at the beginning stands for the home directory. -/
def expandHome (environment : Environment) (path : String) : String :=
  match path.toList, environment.get? "HOME" with
  | '~' :: '/' :: rest, some home =>
    let rest := String.ofList rest
    if rest.isEmpty then (if home.endsWith "/" || home.isEmpty then home else home ++ "/")
    else if rest.startsWith "/" then rest
    else if home.isEmpty || home.endsWith "/" then home ++ rest
    else home ++ "/" ++ rest
  | _, _ => path

end Environment

namespace Settings

/-- The path of the database. -/
def storagePath (settings : Settings) (environment : Environment) : String :=
  environment.expandHome settings.storage.path

/-- The directory of the flow files. -/
def flowsDir (settings : Settings) (environment : Environment) : String :=
  environment.expandHome settings.flows.dir

end Settings
end ChatFlow
