import ChatFlow.Text.Ascii

/-!
# Media types

A media type names a type and a subtype, and the subtype may have a suffix behind a plus sign;
parameters follow.  The case of letters does not matter.
-/

namespace ChatFlow
namespace Http

/-- A media type without its parameters, in lower case. -/
structure MediaType where
  /-- The type. -/
  type : String
  /-- The subtype, up to its suffix. -/
  subtype : String
  /-- The suffix. -/
  suffix : Option String
deriving DecidableEq, Inhabited, Repr

namespace MediaType

/-- The characters that a name is made of. -/
def isNameChar (c : Char) : Bool :=
  Text.isDigit c || ('a' ≤ c && c ≤ 'z') || ('A' ≤ c && c ≤ 'Z') ||
    "!#$%&'*+-.^_`|~".toList.contains c

/-- The characters that may stand inside quotes. -/
def isQuotedChar (c : Char) : Bool :=
  0x20 ≤ c.toNat && c.toNat != 0x7F

/-- Whether characters are the rest of a quoted value, its closing quote, and further parameters;
`more` says what further parameters are. -/
def isQuotedTail (more : List Char → Bool) : List Char → Bool
  | [] => false
  | '"' :: rest =>
    match rest.dropWhile (· == ' ') with
    | [] => true
    | ';' :: rest => more rest
    | _ => false
  | c :: rest => isQuotedChar c && isQuotedTail more rest

/-- Whether characters are parameters, as they stand behind the first semicolon.  A quoted value
has at least one character, whatever that is.  At most `count` parameters are looked at. -/
def isParameters (count : Nat) (characters : List Char) : Bool :=
  match count with
  | 0 => false
  | count + 1 =>
    let start := characters.dropWhile (· == ' ')
    let name := start.takeWhile isNameChar
    match start.dropWhile isNameChar with
    | [] => start.isEmpty
    | '=' :: '"' :: first :: rest =>
      !name.isEmpty && isQuotedChar first && isQuotedTail (isParameters count) rest
    | '=' :: rest =>
      let value := rest.takeWhile isNameChar
      match rest.dropWhile isNameChar with
      | [] => !name.isEmpty
      | ';' :: rest => !name.isEmpty && !value.isEmpty && isParameters count rest
      | _ => false
    | _ => false

/-- The subtype and the suffix behind its last plus sign, if something stands before that. -/
def cutSuffix (name : List Char) : List Char × Option (List Char) :=
  let suffix := (name.reverse.takeWhile (· != '+')).reverse
  let front := name.take (name.length - suffix.length - 1)
  if front.isEmpty then (name, none) else (front, some suffix)

/-- Reads a media type. -/
def ofText? (text : String) : Option MediaType := do
  let characters := text.toList
  let type := characters.takeWhile isNameChar
  let rest ←
    match characters.dropWhile isNameChar with
    | '/' :: rest => some rest
    | _ => none
  let name := rest.takeWhile isNameChar
  let parameters := rest.dropWhile isNameChar
  let isSound :=
    match parameters with
    | [] => true
    | ';' :: parameters => !name.isEmpty && isParameters (parameters.length + 1) parameters
    | _ => false
  if type.isEmpty || !isSound then none
  else
    let lower (name : List Char) : String := String.ofList (name.map Text.lowerAsciiChar)
    let (subtype, suffix) := cutSuffix name
    return { type := lower type, subtype := lower subtype, suffix := suffix.map lower }

/-- Whether what is sent is JSON. -/
def isJson (type : MediaType) : Bool :=
  type.type == "application" && (type.subtype == "json" || type.suffix == some "json")

end MediaType
end Http
end ChatFlow
