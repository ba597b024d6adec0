import ChatFlow.Flow.Definition
import ChatFlow.Json.Writing
import ChatFlow.Text.Search
import ChatFlow.Text.Upper

/-!
# Conditions

A condition node lists branches, and the user's text selects one of them.  Selection goes through
tiers: labels first, then the kinds of test in a fixed order; within a tier the first branch wins.
The edge of a branch is then looked for by its numbered handle, by its position and by the names
of the branch.  A branch without an edge, or no branch at all, leads to the first default branch
that has an edge, and failing that to the last edge.
-/

namespace ChatFlow
namespace Condition

/-- The test of a branch. -/
inductive Kind where
  /-- One of the tokens is the input. -/
  | equals
  /-- One of the tokens occurs in the input. -/
  | contains
  /-- None of the tokens is the input. -/
  | notEquals
  /-- The input starts with one of the tokens. -/
  | startsWith
  /-- The input ends with one of the tokens. -/
  | endsWith
  /-- The branch for inputs that no other branch takes. -/
  | default
  /-- A test this library does not know; it never holds. -/
  | unsupported
deriving DecidableEq, Inhabited, Repr

namespace Kind

/-- Reads a kind of test by one of its names. -/
def ofName : String → Kind
  | "equals" | "equal" | "eq" => .equals
  | "contains" => .contains
  | "not_equals" | "notEquals" | "not_equal" | "neq" => .notEquals
  | "starts_with" | "startsWith" => .startsWith
  | "ends_with" | "endsWith" => .endsWith
  | "default" | "else" | "fallback" => .default
  | _ => .unsupported

/-- Reads a kind of test from JSON: its name, or an object whose one field has that name and is
null. -/
def ofValue? : Json.Value → Option Kind
  | .string name => some (ofName name)
  | .object [(name, .null)] => some (ofName name)
  | _ => none

/-- Whether a branch of this kind can be selected by an input. -/
def isSelectable : Kind → Bool
  | .default | .unsupported => false
  | _ => true

end Kind

/-- A branch of a condition node. -/
structure Branch where
  /-- The test. -/
  kind : Kind
  /-- The tokens of the test, between commas. -/
  value : String := ""
  /-- The label, which selects the branch when it is the input. -/
  label : String := ""
  /-- The id of the branch, one of the names its edge may carry. -/
  id : Option String := none
deriving DecidableEq, Inhabited, Repr

namespace Branch

/-- A text field: a string is itself, null is empty, and any other value is its compact JSON. -/
def lenientText : Json.Value → String
  | .string text => text
  | .null => ""
  | value => Json.compact value

/-- An optional text field. -/
def optionalText? : Json.Value → Option (Option String)
  | .null => some none
  | .string text => some (some text)
  | _ => none

/-- Builds a branch from its four fields as far as they are given. -/
def ofParts? (kind value label id : Option Json.Value) : Option Branch := do
  return {
    kind := ← (kind.map Kind.ofValue?).getD (some .equals)
    value := (value.map lenientText).getD ""
    label := (label.map lenientText).getD ""
    id := ← (id.map optionalText?).getD (some none) }

/-- Reads a branch: an object with named fields, or the array of its fields in their order. -/
def ofValue? : Json.Value → Option Branch
  | .object fields =>
    ofParts? (Keyed.get? "type" fields) (Keyed.get? "value" fields) (Keyed.get? "label" fields)
      (Keyed.get? "id" fields)
  | .array items =>
    if 4 < items.length then none else ofParts? items[0]? items[1]? items[2]? items[3]?
  | _ => none

/-- What stands for an entry that is no branch, so that later branches keep their number. -/
def placeholder : Branch := { kind := .unsupported }

/-- The tokens of the test: the parts between commas, trimmed and in upper case, without the
empty ones. -/
def tokens (branch : Branch) : List String :=
  ((Text.split ',' branch.value).map fun part => Text.upper (Text.trim part)).filter fun token =>
    token != ""

end Branch

/-- The branches that a node lists. -/
def branches (node : Flow.Node) : List Branch :=
  match Keyed.get? "conditions" node.data with
  | some (.array items) => items.map fun item => (Branch.ofValue? item).getD Branch.placeholder
  | _ => []

/-! ## Selecting a branch -/

/-- The input as the tests see it: trimmed and in upper case. -/
def fold (input : String) : String :=
  Text.upper (Text.trim input)

/-- The tiers of selection, the first one tried first. -/
inductive Tier where
  /-- The label of the branch is the input. -/
  | label
  /-- A token occurs in the input. -/
  | contains
  /-- A token is the input. -/
  | equals
  /-- No token is the input. -/
  | notEquals
  /-- The input starts or ends with a token. -/
  | affix
deriving DecidableEq, Repr

namespace Tier

/-- The tiers in the order in which they are tried. -/
def all : List Tier := [.label, .contains, .equals, .notEquals, .affix]

/-- Whether a branch hits in a tier, for an input that is already folded. -/
def hits (tier : Tier) (branch : Branch) (input : String) : Bool :=
  match tier with
  | .label =>
    let label := Text.trim branch.label
    label != "" && Text.upper label == input
  | .contains =>
    branch.kind == .contains && branch.tokens.any fun token => Text.contains input token
  | .equals => branch.kind == .equals && branch.tokens.any fun token => token == input
  | .notEquals => branch.kind == .notEquals && branch.tokens.all fun token => token != input
  | .affix =>
    match branch.kind with
    | .startsWith =>
      branch.tokens.any fun token => token.toList.isPrefixOf input.toList
    | .endsWith =>
      branch.tokens.any fun token => token.toList.isSuffixOf input.toList
    | _ => false

end Tier

/-- The number of the first branch that hits in a tier. -/
def firstHit? (branches : List Branch) (input : String) (tier : Tier) : Option Nat :=
  branches.findIdx? fun branch => branch.kind.isSelectable && tier.hits branch input

/-- The number of the branch that an input selects. -/
def select? (branches : List Branch) (input : String) : Option Nat :=
  Tier.all.findSome? (firstHit? branches (fold input))

/-! ## Finding the edge of a branch -/

/-- The handle that names a branch by its number. -/
def numberedHandle (index : Nat) : String :=
  "condition-" ++ toString index

/-- The names that the handle of an edge may use for a branch. -/
def Branch.names (branch : Branch) : List String :=
  [Text.trim branch.label, Text.trim branch.value] ++
    (branch.id.map Text.trim).toList ++
    (if branch.kind = .default then ["default", "else"] else [])

/-- Whether an edge carries one of the names of a branch. -/
def Branch.isNamedBy (branch : Branch) (edge : Flow.Edge) : Bool :=
  match edge.handle with
  | none => false
  | some handle =>
    branch.names.any fun name =>
      name != "" && Text.equalIgnoringAsciiCase name (Text.trim handle)

/-- The edge of a branch: the one with its numbered handle, else the one at its position, else
the first that carries one of its names. -/
def edge? (edges : List Flow.Edge) (index : Nat) (branch : Branch) : Option Flow.Edge :=
  (edges.find? fun edge => edge.handle == some (numberedHandle index)).or
    ((edges[index]?).or (edges.find? branch.isNamedBy))

/-- The edge of the first default branch that has one. -/
def defaultEdge? (edges : List Flow.Edge) (branches : List Branch) : Option Flow.Edge :=
  branches.zipIdx.findSome? fun (branch, index) =>
    if branch.kind = .default then edge? edges index branch else none

/-- The edge that the selected branch leads along, if a branch is selected and has an edge. -/
def selectedEdge? (edges : List Flow.Edge) (branches : List Branch) (input : String) :
    Option Flow.Edge := do
  let index ← select? branches input
  let branch ← branches[index]?
  edge? edges index branch

/-- The target of a condition node for an input; none only where no edge leaves the node. -/
def target? (node : Flow.Node) (edges : List Flow.Edge) (input : String) : Option String :=
  if edges.isEmpty then none
  else
    let branches := branches node
    let edge :=
      ((selectedEdge? edges branches input).or (defaultEdge? edges branches)).or edges.getLast?
    edge.map Flow.Edge.target

end Condition
end ChatFlow
