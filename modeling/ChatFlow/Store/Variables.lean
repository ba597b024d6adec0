import ChatFlow.Json.Reading
import ChatFlow.Json.Record
import ChatFlow.Json.Writing

/-!
# The stored form of captured fields

The captured fields of an execution are stored as one JSON object of strings.
-/

namespace ChatFlow
namespace Store

/-- The JSON form of captured fields. -/
def variablesValue (vars : Keyed String) : Json.Value :=
  .object (vars.map fun (key, value) => (key, .string value))

/-- The stored text of captured fields. -/
def encodeVariables (vars : Keyed String) : String :=
  Json.compact (variablesValue vars)

/-- Reads the fields of an object whose values are all strings. -/
def stringFields? : List (Option String × Json.Tree) → Option (List (String × String))
  | [] => some []
  | (key, tree) :: rest => do
    let key ← key
    let value ← tree.string?
    return (key, value) :: (← stringFields? rest)

/-- Reads captured fields from their stored text; a text that is no such object holds none. -/
def decodeVariables (text : String) : Keyed String :=
  match Json.tree? text with
  | some (.object fields) => ((stringFields? fields).map Keyed.ofList).getD []
  | _ => []

end Store
end ChatFlow
