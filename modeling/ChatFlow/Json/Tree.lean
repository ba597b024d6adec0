import ChatFlow.Json.Value

/-!
# JSON texts as trees

A tree records what a JSON text says before anything is demanded of it: fields stay in the order
and number in which they were written, and a string with half a surrogate pair or a number beyond
the range of doubles stands as `none`, since it is an error only where its value is used.
`Tree.value?` makes a tree into a value and fails exactly on such parts and on too deep nesting.
-/

namespace ChatFlow
namespace Json

/-- What a JSON text says. -/
inductive Tree where
  /-- The null value. -/
  | null
  /-- A truth value. -/
  | bool (value : Bool)
  /-- A number, or `none` when it is too large. -/
  | number (value : Option Number)
  /-- A string, or `none` when it holds half a surrogate pair. -/
  | string (value : Option String)
  /-- An array. -/
  | array (items : List Tree)
  /-- An object, as its fields in the order of the text. -/
  | object (fields : List (Option String × Tree))
deriving Inhabited, Repr

/-- The number of arrays and objects that may enclose one another. -/
def depthLimit : Nat := 127

mutual

/-- The value of a tree in which at most `depth` arrays and objects enclose one another. -/
def Tree.valueWithin? (depth : Nat) : Tree → Option Value
  | .null => some .null
  | .bool value => some (.bool value)
  | .number value => value.map .number
  | .string value => value.map .string
  | .array items =>
    if depth = 0 then none
    else (valuesWithin? (depth - 1) items).map .array
  | .object fields =>
    if depth = 0 then none
    else (fieldsWithin? (depth - 1) fields).map fun pairs => .object (Keyed.ofList pairs)

/-- The values of the items of an array. -/
def valuesWithin? (depth : Nat) : List Tree → Option (List Value)
  | [] => some []
  | item :: rest => do
    let value ← item.valueWithin? depth
    let values ← valuesWithin? depth rest
    return value :: values

/-- The values of the fields of an object. -/
def fieldsWithin? (depth : Nat) : List (Option String × Tree) → Option (List (String × Value))
  | [] => some []
  | (key, item) :: rest => do
    let key ← key
    let value ← item.valueWithin? depth
    let values ← fieldsWithin? depth rest
    return (key, value) :: values

end

/-- The value of a tree. -/
def Tree.value? (tree : Tree) : Option Value :=
  tree.valueWithin? depthLimit

end Json
end ChatFlow
