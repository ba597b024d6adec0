import ChatFlow.Keyed
import ChatFlow.Text.Blank
import ChatFlow.Text.Search

/-!
# Templates

The texts of a flow may name values between double braces.  `render` goes through a template once
from left to right: a placeholder is replaced by the value of its name, a placeholder whose name
has no value stays as it is written, and every other character is copied.  What was put in is
never looked at again.
-/

namespace ChatFlow

/-- The values that a template can name. -/
structure TemplateContext where
  /-- The captured fields of the execution, which come before the built-in names. -/
  vars : Keyed String := []
  /-- The user's phone. -/
  phone : String := ""
  /-- The device that the user talks to. -/
  device : String := ""
  /-- The user's name. -/
  displayName : Option String := none
  /-- The stage of the execution. -/
  stage : Option String := none
  /-- The user's text. -/
  input : String := ""
deriving Inhabited, Repr

namespace TemplateContext

/-- The value of a built-in name. -/
def builtin? (context : TemplateContext) : String → Option String
  | "phone" => some context.phone
  | "device" => some context.device
  | "name" => context.displayName
  | "stage" => context.stage
  | "input" => some context.input
  | _ => none

/-- The value of a name: that of a captured field, else the built-in one. -/
def lookup? (context : TemplateContext) (name : String) : Option String :=
  (Keyed.get? name context.vars).or (context.builtin? name)

end TemplateContext

namespace Template

/-- The characters of the names in placeholders. -/
def isNameChar (c : Char) : Bool :=
  c.isAlphanum || c == '_' || c == '.' || c == '-'

/-- Two opening braces. -/
def opening : List Char := ['\x7b', '\x7b']

/-- Two closing braces. -/
def closing : List Char := ['\x7d', '\x7d']

/-- The placeholder at the front of a list of characters: its name and its length. -/
def placeholder? (characters : List Char) : Option (List Char × Nat) :=
  if opening.isPrefixOf characters then
    let inner := characters.drop 2
    let start := inner.dropWhile Text.isBlankChar
    let name := start.takeWhile isNameChar
    let rest := (start.dropWhile isNameChar).dropWhile Text.isBlankChar
    if !name.isEmpty && closing.isPrefixOf rest then
      some (name, characters.length - rest.length + 2)
    else none
  else none

/-- What a placeholder is replaced by: the value of its name, else its own text. -/
def fill (context : TemplateContext) (name written : List Char) : List Char :=
  match context.lookup? (String.ofList name) with
  | some value => value.toList
  | none => written

/-- Goes through a template from left to right, `skip` being the number of characters that belong
to a placeholder which is already replaced. -/
def scan (context : TemplateContext) : Nat → List Char → List Char
  | _, [] => []
  | skip + 1, _ :: rest => scan context skip rest
  | 0, c :: rest =>
    match placeholder? (c :: rest) with
    | some (name, length) =>
      fill context name ((c :: rest).take length) ++ scan context (length - 1) rest
    | none => c :: scan context 0 rest

/-- The text of a template in a context. -/
def render (context : TemplateContext) (template : String) : String :=
  if Text.occursIn opening template.toList then
    String.ofList (scan context 0 template.toList)
  else template

end Template
end ChatFlow
