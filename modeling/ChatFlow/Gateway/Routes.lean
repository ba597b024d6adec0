import ChatFlow.Gateway.Webhook
import ChatFlow.Http.MediaType
import ChatFlow.Http.Url
import ChatFlow.Ingress.Pool
import ChatFlow.Json.Writing
import ChatFlow.Store.Executions
import ChatFlow.Text.Search
import ChatFlow.Time.Timestamp

/-!
# The gateway

The gateway answers requests: it takes in messages for the pool, shows the running execution of a
conversation, and tells whether it is well.  Where a token is set, a request must show it before
anything else about the request is looked at.
-/

namespace ChatFlow
namespace Gateway

/-- A request. -/
structure Request where
  /-- The method. -/
  method : String
  /-- The path and what follows it. -/
  target : String
  /-- The headers. -/
  headers : List (String × String)
  /-- The body. -/
  body : String := ""
deriving DecidableEq, Inhabited, Repr

/-- An answer; its body is JSON or nothing that matters. -/
structure Reply where
  /-- The status code. -/
  status : Nat
  /-- The body. -/
  body : Option Json.Value := none
deriving Inhabited, Repr

/-- What a request leads to. -/
inductive Decision where
  /-- An answer. -/
  | reply (reply : Reply)
  /-- An attempt to put a message into the queue. -/
  | enqueue (message : InboundMessage)
deriving Inhabited, Repr

/-- The version of the program. -/
def version : String := "0.3.0"

/-- The most bytes that a body may have. -/
def bodyLimit : Nat := 2 * 1024 * 1024

namespace Request

/-- The value of the first header with a name, if it is plain text. -/
def header? (request : Request) (name : String) : Option String :=
  match request.headers.find? fun header => Text.equalIgnoringAsciiCase header.1 name with
  | some (_, value) =>
    if value.toList.all fun c => c == '\t' || (0x20 ≤ c.toNat && c.toNat < 0x7F) then some value
    else none
  | none => none

/-- Whether a request may come in: it shows the token, if one is set. -/
def isAllowed (request : Request) (token : Option String) : Bool :=
  match token with
  | none => true
  | some token => request.header? "authorization" == some ("Bearer " ++ token)

/-- The steps of the path. -/
def steps (request : Request) : List (List Char) :=
  let path := request.target.toList.takeWhile fun c => c != '?' && c != '#'
  (Text.splitOnChar '/' path).drop 1

/-- Whether the body is said to be JSON. -/
def isJson (request : Request) : Bool :=
  ((request.header? "content-type").bind Http.MediaType.ofText?).any Http.MediaType.isJson

end Request

/-- What can be asked for. -/
inductive Route where
  /-- Whether the gateway is well. -/
  | health
  /-- The running execution of a conversation, whose names are percent encoded. -/
  | execution (device phone : List Char)
  /-- To take in a message. -/
  | webhook
deriving DecidableEq, Inhabited, Repr

/-- What the steps of a path ask for. -/
def Route.ofSteps? (steps : List (List Char)) : Option Route :=
  match steps.map String.ofList, steps with
  | ["api", "health"], _ => some .health
  | ["webhook"], _ => some .webhook
  | ["api", "executions", _, _], [_, _, device, phone] =>
    if device.isEmpty || phone.isEmpty then none else some (.execution device phone)
  | _, _ => none

/-- A JSON object whose values are texts. -/
def texts (pairs : List (String × String)) : Json.Value :=
  .record (pairs.map fun (key, text) => (key, .string text))

/-- What an execution looks like in an answer. -/
def executionBody (execution : Execution) : Json.Value :=
  .record
    [("execution_id", .string execution.id),
      ("flow_id", .string execution.flow),
      ("key", texts
        [("phone", execution.conversation.phone), ("device", execution.conversation.device)]),
      ("current_node_id", .string execution.node),
      ("last_node_id", .ofOption execution.last),
      ("waiting_for_reply", .bool execution.waiting),
      ("stage", .ofOption execution.stage),
      ("variables", texts execution.vars),
      ("status", .string execution.status.name),
      ("created_at", .string (Timestamp.printZ execution.created)),
      ("updated_at", .string (Timestamp.printZ execution.updated))]

/-- The answer to the question whether the gateway is well. -/
def health (pool : Ingress.Pool) : Reply :=
  let body := [("status", .string "ok"), ("version", .string version),
    ("queue_available", .natural pool.available)]
  { status := 200, body := some (.record body) }

/-- The answer that shows the running execution of a conversation. -/
def execution (store : Store) (device phone : List Char) : Reply :=
  match Http.percentDecode? device, Http.percentDecode? phone with
  | some device, some phone =>
    match store.active? { phone, device } with
    | some execution => { status := 200, body := some (executionBody execution) }
    | none => { status := 404 }
  | _, _ => { status := 400 }

/-- An answer that names an error. -/
def refusal (status : Nat) (error : String) : Reply :=
  { status, body := some (texts [("error", error)]) }

/-- The message of a webhook: phone and device are trimmed and must not be blank, and a blank name
is no name. -/
def Webhook.message? (webhook : Webhook) : Option InboundMessage :=
  if Text.isBlank webhook.phone || Text.isBlank webhook.device then none
  else
    some
      { conversation := ⟨Text.trim webhook.phone, Text.trim webhook.device⟩
        text := webhook.message
        displayName := webhook.name.filter fun name => !Text.isBlank name }

/-- What a request to take in a message leads to. -/
def receive (request : Request) : Decision :=
  if !request.isJson then .reply { status := 415 }
  else if bodyLimit < request.body.utf8ByteSize then .reply { status := 413 }
  else
    match Webhook.ofText request.body with
    | .error .malformed => .reply { status := 400 }
    | .error .misshapen => .reply { status := 422 }
    | .ok webhook =>
      match webhook.message? with
      | some message => .enqueue message
      | none => .reply (refusal 400 "phone and device are required")

/-- What a request with the method of its route leads to. -/
def decideRoute (token : Option String) (store : Store) (pool : Ingress.Pool)
    (request : Request) : Route → Decision
  | .health => .reply (health pool)
  | .execution device phone =>
    .reply (if request.isAllowed token then execution store device phone else { status := 401 })
  | .webhook => if request.isAllowed token then receive request else .reply { status := 401 }

/-- What a request leads to.  Any place answers the question which requests it takes; what can be
read can also be asked for without its body. -/
def decide (token : Option String) (store : Store) (pool : Ingress.Pool) (request : Request) :
    Decision :=
  if request.method = "OPTIONS" then .reply { status := 200 }
  else
    match Route.ofSteps? request.steps with
    | none => .reply { status := 404 }
    | some .webhook =>
      if request.method = "POST" then decideRoute token store pool request .webhook
      else .reply { status := 405 }
    | some route =>
      match request.method, decideRoute token store pool request route with
      | "GET", decision => decision
      | "HEAD", .reply reply => .reply { reply with body := none }
      | _, _ => .reply { status := 405 }

/-- The answer to an attempt to put a message into the queue. -/
def submitted : Except Error α → Reply
  | .ok _ => { status := 202, body := some (texts [("status", "accepted")]) }
  | .error .queueFull => refusal 429 "queue full"
  | .error error => refusal 503 error.message

/-- Answers a request. -/
def answer (token : Option String) (store : Store) (pool : Ingress.Pool) (request : Request) :
    Reply × Ingress.Pool :=
  match decide token store pool request with
  | .reply reply => (reply, pool)
  | .enqueue message =>
    let result := pool.submit message
    (submitted result, result.toOption.getD pool)

end Gateway
end ChatFlow
