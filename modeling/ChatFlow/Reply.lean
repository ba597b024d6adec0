import ChatFlow.Error
import ChatFlow.Json.Reading
import ChatFlow.Json.Writing
import ChatFlow.Media.Kind
import ChatFlow.Text.Search

/-!
# Replies of the text generator

The text generator is asked for one JSON object that names a stage and lists what to send.  It
often wraps the object in a code fence or in prose, so the object is first cut out of the raw
text; then its fields are read, tolerating several spellings and shapes.
-/

namespace ChatFlow

/-- One thing to send. -/
structure ReplyItem where
  /-- None for a text; for media the kind, if the reply gave a usable one. -/
  media : Option (Option Media.Kind)
  /-- The text, or the address of the media. -/
  content : String
deriving DecidableEq, Inhabited, Repr

/-- What a reply says. -/
structure Reply where
  /-- The stage that the reply sets, if it sets one that is not blank. -/
  stage : Option String
  /-- What to send, in order. -/
  items : List ReplyItem
deriving DecidableEq, Inhabited, Repr

namespace Reply

/-- Why a raw text is no reply. -/
inductive Fault where
  /-- The text holds no object. -/
  | noObject
  /-- What looks like an object is not JSON. -/
  | malformed
  /-- The JSON is no object. -/
  | notObject
  /-- The object does not say what to send. -/
  | missingResponse
  /-- What to send is neither an array nor an object nor a text. -/
  | unexpectedShape (response : Json.Value)
deriving Repr

namespace Fault

/-- The text of a fault. -/
def message : Fault → String
  | .noObject => "no JSON object in reply"
  | .malformed => "malformed JSON"
  | .notObject => "reply is not a JSON object"
  | .missingResponse => "missing Response"
  | .unexpectedShape response => "Response has unexpected shape: " ++ Json.compact response

/-- A fault as an error. -/
def toError (fault : Fault) : Error :=
  .aiParse fault.message

end Fault

/-! ## Cutting the object out of the raw text -/

/-- The mark that opens and closes a code fence. -/
def fence : List Char := ['\x60', '\x60', '\x60']

/-- Drops the name of the language after the mark that opens a fence. -/
def dropLanguage (characters : List Char) : List Char :=
  let language := "json".toList
  if language.isPrefixOf characters then characters.drop language.length else characters

/-- What stands inside the first code fence, trimmed; the text itself where no fence is opened
and closed. -/
def unfence (characters : List Char) : List Char :=
  match Text.cut? fence characters with
  | none => characters
  | some (_, after) =>
    match Text.cut? fence (dropLanguage after) with
    | none => characters
    | some (inside, _) => Text.trimChars inside

/-- What stands from the first opening to the last closing brace. -/
def braced? (characters : List Char) : Option (List Char) :=
  let opened := characters.dropWhile (· != '\x7b')
  let closed := (opened.reverse.dropWhile (· != '\x7d')).reverse
  if closed.isEmpty then none else some closed

/-- The object in a raw text. -/
def body? (raw : String) : Option (List Char) :=
  braced? (unfence (Text.trimChars raw.toList))

/-! ## Reading the object -/

/-- The first field that is there under one of the keys. -/
def field? (fields : Json.Fields) (keys : List String) : Option Json.Value :=
  keys.findSome? fun key => Keyed.get? key fields

/-- A text trimmed, unless it is blank. -/
def filledText? (value : Json.Value) : Option String := do
  let text := Text.trim (← value.string?)
  if text = "" then none else some text

/-- Whether an item is a text or media, and of which kind, from the name of its type and from the
kind named beside it. -/
def mediaOf (type : String) (named : Option Media.Kind) : Option (Option Media.Kind) :=
  match type with
  | "image" => some (some .image)
  | "video" => some (some .video)
  | "audio" => some (some .audio)
  | "media" | "file" => some named
  | _ => none

/-- Reads an item: a plain text, or an object whose content is a text that is not blank. -/
def item? : Json.Value → Option ReplyItem
  | .string text => some { media := none, content := text }
  | .object fields => do
    let content ← (field? fields ["content", "Content"]).bind filledText?
    let type := ((field? fields ["type", "Type"]).bind Json.Value.string?).getD "text"
    let named := ((field? fields ["Jenis", "jenis"]).bind Json.Value.string?).bind
      Media.Kind.ofName?
    return { media := mediaOf (Text.lowerAscii (Text.trim type)) named, content }
  | _ => none

/-- Reads what to send: an array of items, one object, or one text.  What is no item is left
out. -/
def items? : Json.Value → Except Fault (List ReplyItem)
  | .array entries => .ok (entries.filterMap item?)
  | .string text => .ok [{ media := none, content := text }]
  | .object fields => .ok (item? (.object fields)).toList
  | other => .error (.unexpectedShape other)

/-- Reads a reply from its JSON value. -/
def ofValue : Json.Value → Except Fault Reply
  | .object fields => do
    let stage := (field? fields ["Stage", "stage"]).bind filledText?
    match field? fields ["Response", "response"] with
    | some response => return { stage, items := ← items? response }
    | none => .error .missingResponse
  | _ => .error .notObject

/-- Reads a reply from the raw text of the generator. -/
def ofText (raw : String) : Except Fault Reply :=
  match body? raw with
  | none => .error .noObject
  | some body =>
    match (Json.treeOfChars? body).bind Json.Tree.value? with
    | none => .error .malformed
    | some value => ofValue value

end Reply

end ChatFlow
