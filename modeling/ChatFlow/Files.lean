import ChatFlow.Text.Search

/-!
# Files

A tree of files, as far as programs look at it: the texts of files and the names in directories.
A directory exists when it is listed as one or when a path leads through it.
-/

namespace ChatFlow

/-- Why a path cannot be read. -/
inductive IoFault where
  /-- There is nothing at the path. -/
  | notFound
  /-- The path leads through a file, or ends at one where a directory is needed. -/
  | notDirectory
  /-- The path ends at a directory where a file is needed. -/
  | isDirectory
  /-- The file holds no text. -/
  | notText
  /-- Anything else. -/
  | other (message : String)
deriving DecidableEq, Inhabited, Repr

namespace IoFault

/-- The text of a fault. -/
def message : IoFault → String
  | .notFound => "No such file or directory (os error 2)"
  | .notDirectory => "Not a directory (os error 20)"
  | .isDirectory => "Is a directory (os error 21)"
  | .notText => "stream did not contain valid UTF-8"
  | .other message => message

end IoFault

/-- The names that a path goes through; a path from the root begins with a name of its own. -/
def Path.names (path : String) : List String :=
  let names := (Text.split '/' path).filter fun name => !(name.isEmpty || name == ".")
  if path.startsWith "/" then "/" :: names else names

/-- A path that goes on from another. -/
def Path.join (base path : String) : String :=
  if path.startsWith "/" || base.isEmpty then path
  else if base.endsWith "/" then base ++ path
  else base ++ "/" ++ path

/-- A tree of files: paths, each with the text of a file or the reason why there is none. -/
structure Files where
  /-- The entries, in any order. -/
  entries : List (List String × Except IoFault String) := []
deriving Inhabited, Repr

namespace Files

/-- The tree with these paths, each with what there is to read. -/
def ofContents (contents : List (String × Except IoFault String)) : Files :=
  { entries := contents.map fun (path, content) => (Path.names path, content) }

/-- The tree with these paths, each with the text of a file or, for a directory, without. -/
def ofPaths (paths : List (String × Option String)) : Files :=
  ofContents (paths.map fun (path, text) =>
    (path, match text with
      | some text => .ok text
      | none => .error .isDirectory))

/-- The entry with these names. -/
def entry? (files : Files) (names : List String) : Option (Except IoFault String) :=
  (files.entries.find? fun entry => entry.1 == names).map Prod.snd

/-- Whether these names lead to a file. -/
def isFile (files : Files) (names : List String) : Bool :=
  match files.entry? names with
  | some (.ok _) => true
  | _ => false

/-- Whether these names lead to a directory. -/
def isDirectory (files : Files) (names : List String) : Bool :=
  names.isEmpty || files.entries.any fun (entry, content) =>
    names.isPrefixOf entry &&
      (entry.length > names.length ||
        match content with
        | .error .isDirectory => true
        | _ => false)

/-- Why nothing can be read where these names lead: either they lead through a file, or there is
nothing. -/
def absence (files : Files) (names : List String) : IoFault :=
  let isThrough (length : Nat) : Bool := files.isFile (names.take length)
  if (List.range (names.length + 1)).any isThrough then .notDirectory else .notFound

/-- The text of the file at a path. -/
def read (files : Files) (path : String) : Except IoFault String :=
  let names := Path.names path
  match files.entry? names with
  | some content => content
  | none => .error (if files.isDirectory names then .isDirectory else files.absence names)

/-- Whether a path leads to anything. -/
def exists? (files : Files) (path : String) : Bool :=
  match files.read path with
  | .error .notFound => false
  | .error .notDirectory => false
  | _ => true

/-- The names in the directory at a path, each once. -/
def list (files : Files) (path : String) : Except IoFault (List String) :=
  let names := Path.names path
  if files.isDirectory names then
    .ok (files.entries.filterMap fun (entry, _) =>
      if names.isPrefixOf entry then entry[names.length]? else none).eraseDups
  else
    match files.entry? names with
    | some (.error fault) => .error fault
    | _ => .error (files.absence names)

end Files
end ChatFlow
