import ChatFlow.Error
import ChatFlow.Http.Exchange
import ChatFlow.Media.Kind
import ChatFlow.Text.Search

/-!
# Looking at media

What an address leads to is asked for without its body first.  Where that is refused as such, or
says nothing of the kind, the first byte is asked for instead.
-/

namespace ChatFlow
namespace Media

/-- The kind of media that a content type names: what stands before its slash, the parameters
left out. -/
def Kind.ofContentType? (contentType : String) : Option Kind := do
  let essence := contentType.toList.takeWhile (· != ';')
  let (top, _) ← Text.cut? ['/'] (Text.trimChars essence)
  Kind.ofName? (String.ofList top)

/-- The kind of media that an answer speaks of. -/
def kindOf? (response : Http.Response) : Option Kind :=
  response.contentType.bind Kind.ofContentType?

/-- Asks for the first byte. -/
def probeByte [Monad m] (network : Http.Network m) (url : String) : m (Except Error Kind) := do
  match ← Http.exchange network { method := .get, url, range := some "bytes=0-0" } with
  | .error failure => return .error (.mediaValidation url failure.message)
  | .ok response =>
    if !Http.isSuccess response.status then
      return .error (.mediaValidation url ("GET returned " ++ Http.statusText response.status))
    else
      match kindOf? response with
      | some kind => return .ok kind
      | none => return .error (.mediaValidation url "unsupported content type")

/-- Finds the kind of the media at an address. -/
def probe [Monad m] (network : Http.Network m) (url : String) : m (Except Error Kind) := do
  match ← Http.exchange network { method := .head, url } with
  | .error _ => probeByte network url
  | .ok response =>
    if Http.isSuccess response.status then
      match kindOf? response with
      | some kind => return .ok kind
      | none => probeByte network url
    else if response.status = 405 then probeByte network url
    else
      return .error (.mediaValidation url ("HEAD returned " ++ Http.statusText response.status))

end Media
end ChatFlow
