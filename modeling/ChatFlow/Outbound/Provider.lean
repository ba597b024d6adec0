import ChatFlow.Error
import ChatFlow.Http.Exchange
import ChatFlow.Media.Kind
import ChatFlow.Outbound.Chunks
import ChatFlow.Settings

/-!
# Delivery by a provider

A provider takes messages as requests.  A text is posted in chunks, one after the other, until
the provider refuses one; media is posted as its address.
-/

namespace ChatFlow
namespace Outbound

/-- The name of the channel. -/
def channel : String := "http"

/-- The error of a request that was not granted. -/
def refusal (path : String) (response : Http.Response) : Error :=
  .dispatch channel (path ++ " returned " ++ Http.statusText response.status ++ ": " ++
    String.ofList (response.body.toList.take 200))

/-- Posts one message. -/
def post [Monad m] (network : Http.Network m) (settings : ProviderSettings) (path : String)
    (fields : List (String × Json.Value)) : m (Except Error Unit) := do
  let request : Http.Request :=
    { method := .post
      url := Http.endpoint settings.baseUrl path
      token := settings.token
      body := some (.record fields) }
  match ← Http.exchange network request with
  | .error failure => return .error (.dispatch channel failure.message)
  | .ok response =>
    if Http.isSuccess response.status then return .ok ()
    else return .error (refusal path response)

/-- Posts messages in order up to the first one that is refused. -/
def postAll [Monad m] (network : Http.Network m) (settings : ProviderSettings) (path : String) :
    List (List (String × Json.Value)) → m (Except Error Unit)
  | [] => pure (.ok ())
  | fields :: rest => do
    match ← post network settings path fields with
    | .ok _ => postAll network settings path rest
    | .error error => return .error error

/-- Sends a text. -/
def sendText [Monad m] (network : Http.Network m) (settings : ProviderSettings)
    (device phone text : String) : m (Except Error Unit) :=
  postAll network settings "send-message"
    ((chunks settings.maxMessageLen text).map fun chunk =>
      [("device", .string device), ("phone", .string phone), ("message", .string chunk)])

/-- Sends media. -/
def sendMedia [Monad m] (network : Http.Network m) (settings : ProviderSettings)
    (device phone url : String) (kind : Media.Kind) : m (Except Error Unit) :=
  post network settings "send-media"
    [("device", .string device), ("phone", .string phone), ("url", .string url),
      ("type", .string kind.name)]

end Outbound
end ChatFlow
