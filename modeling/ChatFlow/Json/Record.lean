import ChatFlow.Json.Tree

/-!
# Records in JSON texts

A record with named fields is written as an object, in which unknown fields are ignored and a
field given twice is an error, or as the array of its fields in their order, in which the last
ones may be missing.  A field may have several names.  `Tree.record?` finds the fields; what a
missing field means is for the record to say.
-/

namespace ChatFlow
namespace Json

/-- Puts a tree into the slot of its name.  An unknown name is ignored; a slot that is already
filled is an error. -/
def fillSlot? (name : String) (tree : Tree) :
    List (List String × Option Tree) → Option (List (List String × Option Tree))
  | [] => some []
  | (names, found) :: rest =>
    if names.contains name then
      match found with
      | none => some ((names, some tree) :: rest)
      | some _ => none
    else (fillSlot? name tree rest).map ((names, found) :: ·)

/-- Puts the fields of an object into their slots. -/
def fillSlots? (slots : List (List String × Option Tree)) :
    List (Option String × Tree) → Option (List (List String × Option Tree))
  | [] => some slots
  | (none, _) :: _ => none
  | (some name, tree) :: rest =>
    (fillSlot? name tree slots).bind fun slots => fillSlots? slots rest

namespace Tree

/-- The fields of a record whose fields have these names, in their order. -/
def record? (names : List (List String)) : Tree → Option (List (Option Tree))
  | .object fields =>
    (fillSlots? (names.map fun name => (name, none)) fields).map fun slots => slots.map (·.2)
  | .array items =>
    if names.length < items.length then none
    else some (items.map some ++ List.replicate (names.length - items.length) none)
  | _ => none

/-- The text of a string. -/
def string? : Tree → Option String
  | .string value => value
  | _ => none

/-- The items of an array. -/
def items? : Tree → Option (List Tree)
  | .array items => some items
  | _ => none

/-- The text of a string, or none for a null. -/
def optionalString? : Tree → Option (Option String)
  | .null => some none
  | .string value => value.map some
  | _ => none

/-- The fields of an object in which at most `depth` arrays and objects enclose one another. -/
def fields? (depth : Nat) : Tree → Option Fields
  | .object fields =>
    if depth = 0 then none else (fieldsWithin? (depth - 1) fields).map Keyed.ofList
  | _ => none

end Tree

end Json
end ChatFlow
