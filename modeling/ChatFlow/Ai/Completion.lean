import ChatFlow.Engine.Call
import ChatFlow.Http.Exchange
import ChatFlow.Json.Reading
import ChatFlow.Json.Record
import ChatFlow.Settings

/-!
# Completions of a chat

A text generator is asked over the network: it gets the prompt, the history and the user's text
as the messages of a chat, and answers with the next message.
-/

namespace ChatFlow
namespace Ai

/-- The address of a known provider; the one of the first provider when in doubt. -/
def usualAddress : String → String
  | "ollama" => "http://localhost:11434/v1"
  | "groq" => "https://api.groq.com/openai/v1"
  | "openrouter" => "https://openrouter.ai/api/v1"
  | "together" => "https://api.together.xyz/v1"
  | "mistral" => "https://api.mistral.ai/v1"
  | _ => "https://api.openai.com/v1"

/-- The address that is asked. -/
def address (settings : AiSettings) : String :=
  Http.endpoint (settings.baseUrl.getD (usualAddress settings.provider)) "chat/completions"

/-- A message of a chat. -/
def message (role content : String) : Json.Value :=
  .record [("role", .string role), ("content", .string content)]

/-- What two parties said in an exchange; nothing is said with an empty text. -/
def exchangeMessages (entry : HistoryEntry) : List Json.Value :=
  (if entry.user.isEmpty then [] else [message "user" entry.user]) ++
    (if entry.bot.isEmpty then [] else [message "assistant" entry.bot])

/-- The messages of a chat. -/
def messages (request : AiRequest) : List Json.Value :=
  message "system" request.prompt :: request.history.flatMap exchangeMessages ++
    [message "user" request.input]

/-- The shortest decimal that reads back as a single, as a number of its own. -/
def decimalOf (number : Single) : Json.Value :=
  if number.magnitude = 0 then .number (.real number.toDouble)
  else if binary32.infinity ≤ number.magnitude then .null
  else
    let (digits, exponent) := Decimal.shortestSingle number
    .number (.real (Decimal.scaled number.isNegative digits exponent))

/-- The request for the next message of a chat. -/
def requestOf (settings : AiSettings) (request : AiRequest) : Http.Request :=
  { method := .post
    url := address settings
    token := request.apiKey.or settings.apiKey
    body := some (.record [
      ("model", .string settings.modelId),
      ("messages", .array (messages request)),
      ("max_tokens", .natural settings.maxTokens),
      ("temperature", decimalOf settings.temperature),
      ("stream", .bool false)]) }

/-- Reads the content of a message, which may be missing. -/
def content? (tree : Json.Tree) : Option (Option String) := do
  match ← tree.record? [["content"]] with
  | [some content] => content.optionalString?
  | _ => some none

/-- Reads the content of a choice. -/
def choice? (tree : Json.Tree) : Option (Option String) := do
  match ← tree.record? [["message"]] with
  | [some message] => content? message
  | _ => none

/-- Reads the contents of the choices of an answer. -/
def choices? (text : String) : Option (List (Option String)) := do
  match ← (← Json.tree? text).record? [["choices"]] with
  | [some choices] => (← choices.items?).mapM choice?
  | _ => some []

/-- What an answer says. -/
def read (response : Http.Response) : Except Error String :=
  if !Http.isSuccess response.status then
    .error (.aiRequest ("HTTP " ++ Http.statusText response.status ++ ": " ++ response.body))
  else
    match choices? response.body with
    | none => .error (.aiParse "error decoding response body")
    | some (some content :: _) => .ok content
    | some _ => .error (.aiParse "response has no message content")

/-- Asks the text generator once. -/
def complete [Monad m] (network : Http.Network m) (settings : AiSettings) (request : AiRequest) :
    m (Except Error String) := do
  match ← Http.exchange network (requestOf settings request) with
  | .error failure => return .error (.aiRequest failure.message)
  | .ok response => return read response

end Ai
end ChatFlow
