import ChatFlow.Files
import ChatFlow.Flow.Library

/-!
# Loading flows from files

A library can be kept in a directory, one flow in each file whose name ends in `.json`.  The
files are read in the order of their names, and the first one that is not a sound flow fails the
whole; so does a binding to a flow that no file holds.
-/

namespace ChatFlow
namespace Flow

/-- What is known of the files of a directory: their names and, once looked at, their texts. -/
abbrev Listing := List (String × Except IoFault String)

/-- Whether a file of this name holds a flow: something stands before the last dot and `json`
behind it. -/
def isFlowFile (name : String) : Bool :=
  let (ending, rest) := name.toList.reverse.span (· != '.')
  ending == "nosj".toList && rest.length > 1

/-- The flow files of a listing, in the order of their names. -/
def flowFiles (listing : Listing) : Listing :=
  (listing.filter fun file => isFlowFile file.1).mergeSort fun left right =>
    decide (left.1 ≤ right.1)

namespace Library

/-- Adds the flow in a file of a directory. -/
def addFile (directory : String) (library : Library) :
    String × Except IoFault String → Except Error Library
  | (_, .error fault) => .error (.io fault.message)
  | (name, .ok text) =>
    match Definition.ofText? text with
    | none => .error (.config (Path.join directory name))
    | some definition => (Graph.validate definition).map library.insert

/-- Adds a binding to a flow that is there. -/
def addBinding (library : Library) (binding : Binding) : Except Error Library :=
  match library.get binding.flow with
  | .ok _ => .ok (library.bind binding)
  | .error _ =>
    .error (.config ("binding for device " ++ binding.device ++ " references unknown flow " ++
      binding.flow))

/-- The library of the files of a directory. -/
def ofListing (directory : String) (listing : Listing) (bindings : List Binding) :
    Except Error Library := do
  let library ← (flowFiles listing).foldlM (addFile directory) empty
  bindings.foldlM addBinding library

/-- The error of a directory that cannot be read. -/
def unreadable (directory : String) (fault : IoFault) : Error :=
  .config ("cannot read flows dir " ++ directory ++ ": " ++ fault.message)

/-- Loads the library in a directory of a tree of files. -/
def load (files : Files) (directory : String) (bindings : List Binding) :
    Except Error Library :=
  match files.list directory with
  | .error fault => .error (unreadable directory fault)
  | .ok names =>
    ofListing directory (names.map fun name => (name, files.read (Path.join directory name)))
      bindings

end Library
end Flow
end ChatFlow
