import ChatFlow.Json.Reading

/-!
# Webhook bodies

The body of a webhook request is a record in JSON: `phone`, `device`, `message` and, if it is
known, `name`.  The body is judged in reading order.  What is no JSON makes it malformed, and JSON
that says something else makes it misshapen; the first fault decides, so a field of the wrong
kind in front of broken text is still misshapen.
-/

namespace ChatFlow
namespace Gateway

/-- What a webhook request says. -/
structure Webhook where
  /-- The user's phone. -/
  phone : String
  /-- The device. -/
  device : String
  /-- The user's text. -/
  message : String
  /-- The user's name. -/
  name : Option String
deriving DecidableEq, Inhabited, Repr

/-- Why a body cannot be used. -/
inductive BodyFault where
  /-- The body is not JSON. -/
  | malformed
  /-- The body says something else. -/
  | misshapen
deriving DecidableEq, Inhabited, Repr

namespace Webhook

open Json (skipSpace)

/-- The fault of a value of the wrong kind at the front: it is read just as far as its kind
shows. -/
def misfit (characters : List Char) : BodyFault :=
  match skipSpace characters with
  | '[' :: _ => .misshapen
  | '\x7b' :: _ => .misshapen
  | characters =>
    match Json.readTree 1 characters with
    | some (.string none, _) => .malformed
    | some (.number none, _) => .malformed
    | some _ => .misshapen
    | none => .malformed

/-- Reads a string. -/
def readText (characters : List Char) : Except BodyFault (String × List Char) :=
  match skipSpace characters with
  | '"' :: rest =>
    match Json.readString rest with
    | some (some text, rest) => .ok (text, rest)
    | _ => .error .malformed
  | characters => .error (misfit characters)

/-- Reads a string or a null. -/
def readOptionalText (characters : List Char) :
    Except BodyFault (Option String × List Char) :=
  match skipSpace characters with
  | 'n' :: 'u' :: 'l' :: 'l' :: rest => .ok (none, rest)
  | 'n' :: _ => .error .malformed
  | characters => (readText characters).map fun (text, rest) => (some text, rest)

/-- The fields that were read so far. -/
structure Draft where
  /-- The user's phone. -/
  phone : Option String := none
  /-- The device. -/
  device : Option String := none
  /-- The user's text. -/
  message : Option String := none
  /-- The user's name. -/
  name : Option (Option String) := none

/-- The webhook of a draft, if no field that is needed is missing. -/
def Draft.toWebhook (draft : Draft) : Except BodyFault Webhook :=
  match draft.phone, draft.device, draft.message with
  | some phone, some device, some message =>
    .ok { phone, device, message, name := draft.name.getD none }
  | _, _, _ => .error .misshapen

/-- Reads the value behind the colon of a field of text that was not read before. -/
def readTextField (found : Option String) (characters : List Char) :
    Except BodyFault (String × List Char) :=
  if found.isSome then .error .misshapen
  else
    match skipSpace characters with
    | ':' :: rest => readText rest
    | _ => .error .malformed

/-- Reads the value of a field; an unknown field is read past, and a known one must not be given
twice. -/
def readField (draft : Draft) (key : String) (characters : List Char) :
    Except BodyFault (Draft × List Char) :=
  match key with
  | "phone" => (readTextField draft.phone characters).map fun (text, rest) =>
      ({ draft with phone := some text }, rest)
  | "device" => (readTextField draft.device characters).map fun (text, rest) =>
      ({ draft with device := some text }, rest)
  | "message" => (readTextField draft.message characters).map fun (text, rest) =>
      ({ draft with message := some text }, rest)
  | "name" =>
    if draft.name.isSome then .error .misshapen
    else
      match skipSpace characters with
      | ':' :: rest => (readOptionalText rest).map fun (text, rest) =>
          ({ draft with name := some text }, rest)
      | _ => .error .malformed
  | _ =>
    match skipSpace characters with
    | ':' :: rest =>
      match Json.readTree (2 * rest.length + 2) rest with
      | some (_, rest) => .ok (draft, rest)
      | none => .error .malformed
    | _ => .error .malformed

/-- Reads the fields of an object, at least one, and its closing brace. -/
def readFields (count : Nat) (draft : Draft) (characters : List Char) :
    Except BodyFault (Draft × List Char) :=
  match count with
  | 0 => .error .malformed
  | count + 1 =>
    match skipSpace characters with
    | '"' :: rest =>
      match Json.readString rest with
      | some (some key, rest) => do
        let (draft, rest) ← readField draft key rest
        match skipSpace rest with
        | '\x7d' :: rest => return (draft, rest)
        | ',' :: rest => readFields count draft rest
        | _ => throw .malformed
      | _ => .error .malformed
    | _ => .error .malformed

/-- Reads the comma in front of a further item; none when the array ends instead. -/
def readComma (characters : List Char) : Except BodyFault (Option (List Char)) :=
  match skipSpace characters with
  | ',' :: rest =>
    match skipSpace rest with
    | ']' :: _ => .error .malformed
    | _ => .ok (some rest)
  | ']' :: _ => .ok none
  | _ => .error .malformed

/-- Reads the comma in front of an item that is needed. -/
def needComma (characters : List Char) : Except BodyFault (List Char) := do
  match ← readComma characters with
  | some rest => return rest
  | none => throw .misshapen

/-- Reads the items of an array and its closing bracket. -/
def readItems (characters : List Char) : Except BodyFault (Webhook × List Char) := do
  let (phone, rest) ← readText characters
  let (device, rest) ← readText (← needComma rest)
  let (message, rest) ← readText (← needComma rest)
  let (name, rest) ←
    match ← readComma rest with
    | some rest => readOptionalText rest
    | none => pure (none, rest)
  match skipSpace rest with
  | ']' :: rest => return ({ phone, device, message, name }, rest)
  | _ => throw .malformed

/-- Reads a record, written as an object or as the array of its fields. -/
def readRecord (characters : List Char) : Except BodyFault (Webhook × List Char) :=
  match skipSpace characters with
  | '\x7b' :: rest =>
    match skipSpace rest with
    | '\x7d' :: _ => .error .misshapen
    | _ => do
      let (draft, rest) ← readFields rest.length {} rest
      return (← draft.toWebhook, rest)
  | '[' :: rest =>
    match skipSpace rest with
    | ']' :: _ => .error .misshapen
    | _ => readItems rest
  | characters => .error (misfit characters)

/-- Reads a body: a record with nothing but blanks around it. -/
def ofText (body : String) : Except BodyFault Webhook := do
  let (webhook, rest) ← readRecord body.toList
  if (skipSpace rest).isEmpty then return webhook else throw .malformed

end Webhook
end Gateway
end ChatFlow
