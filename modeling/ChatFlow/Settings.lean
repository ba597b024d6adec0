import ChatFlow.Decimal.Binary
import ChatFlow.Time.Span

/-!
# Settings

Everything that can be set, by the part of the program that it concerns, with the values that
hold where nothing is said.
-/

namespace ChatFlow

/-- Settings of the engine. -/
structure EngineSettings where
  /-- The most nodes that one turn visits. -/
  maxHops : Nat := 50
  /-- The age in seconds beyond which a conversation's lock may be taken over. -/
  lockStaleSecs : Nat := 30
  /-- How long to wait for a busy database, in milliseconds. -/
  lockBusyTimeoutMs : Nat := 500
  /-- The wait of a delay node that names none, in seconds. -/
  defaultDelaySecs : Nat := 5
  /-- The pause between two items of a reply, in milliseconds. -/
  aiItemDelayMs : Nat := 1000
  /-- The most history entries that the text generator sees. -/
  historyLimit : Nat := 20
  /-- The wait before a refused continuation is tried again, in seconds. -/
  resumeRetrySecs : Nat := 2
  /-- The number of tries after which a continuation is given up. -/
  resumeMaxAttempts : Nat := 5
  /-- What is sent in place of media that cannot be used. -/
  mediaFallbackText : String := "Sorry, this media is not available right now."
deriving DecidableEq, Inhabited, Repr

namespace EngineSettings

/-- The age beyond which a lock may be taken over. -/
def lockStaleAfter (settings : EngineSettings) : Span :=
  Span.ofSeconds settings.lockStaleSecs

/-- The wait of a delay node that names none. -/
def defaultDelay (settings : EngineSettings) : Span :=
  Span.ofSeconds settings.defaultDelaySecs

/-- The pause between two items of a reply. -/
def aiItemDelay (settings : EngineSettings) : Span :=
  Span.ofMillis settings.aiItemDelayMs

end EngineSettings

/-- Settings of the pool that takes messages in. -/
structure IngressSettings where
  /-- The number of workers. -/
  workers : Nat := 8
  /-- The most messages that wait for a worker. -/
  queueCapacity : Nat := 1024
  /-- The most tries for one message. -/
  maxAttempts : Nat := 2
deriving DecidableEq, Inhabited, Repr

/-- Settings of the store. -/
structure StorageSettings where
  /-- The path of the database. -/
  path : String := "~/.flowbot/flowbot.db"
deriving DecidableEq, Inhabited, Repr

/-- Which flow a device runs. -/
structure Binding where
  /-- The device. -/
  device : String
  /-- The id of the flow. -/
  flow : String
  /-- The first message that starts the flow; any message does when there is none. -/
  trigger : Option String := none
deriving DecidableEq, Inhabited, Repr

/-- Settings of the flows. -/
structure FlowSettings where
  /-- The directory of the flow files. -/
  dir : String := "flows"
  /-- Which device runs which flow. -/
  bindings : List Binding := []
deriving DecidableEq, Inhabited, Repr

/-- How often and how patiently a request is tried again. -/
structure RetrySettings where
  /-- The most tries after the first one. -/
  maxRetries : Nat := 2
  /-- The wait before the first of them, in milliseconds. -/
  initialBackoffMs : Nat := 1000
  /-- The longest wait, in milliseconds. -/
  maxBackoffMs : Nat := 15000
deriving DecidableEq, Inhabited, Repr

/-- Settings of the text generator. -/
structure AiSettings where
  /-- The name of the provider. -/
  provider : String := "openai"
  /-- The address of the provider, where it is not the usual one. -/
  baseUrl : Option String := none
  /-- The model. -/
  modelId : String
  /-- The key. -/
  apiKey : Option String := none
  /-- The most tokens of an answer. -/
  maxTokens : Nat := 1024
  /-- The temperature. -/
  temperature : Single := ⟨0x3E99999A⟩
  /-- The longest wait for an answer, in seconds. -/
  timeoutSecs : Nat := 60
  /-- How failed requests are tried again. -/
  retry : RetrySettings := {}
deriving DecidableEq, Inhabited, Repr

/-- Settings of the provider that delivers messages. -/
structure ProviderSettings where
  /-- The address of the provider. -/
  baseUrl : String
  /-- The token to show, if one is needed. -/
  token : Option String := none
  /-- The longest wait for an answer, in seconds. -/
  timeoutSecs : Nat := 30
  /-- The most bytes of one message. -/
  maxMessageLen : Nat := 4096
  /-- Whether media is looked at before it is sent. -/
  validateMedia : Bool := true
deriving DecidableEq, Inhabited, Repr

/-- Settings of the gateway. -/
structure GatewaySettings where
  /-- Where to listen. -/
  bind : String := "127.0.0.1:18790"
  /-- The token that requests must show, if there is one. -/
  token : Option String := none
deriving DecidableEq, Inhabited, Repr

/-- All settings. -/
structure Settings where
  /-- Settings of the engine. -/
  engine : EngineSettings := {}
  /-- Settings of the pool that takes messages in. -/
  ingress : IngressSettings := {}
  /-- Settings of the store. -/
  storage : StorageSettings := {}
  /-- Settings of the flows. -/
  flows : FlowSettings := {}
  /-- Settings of the text generator. -/
  ai : Option AiSettings := none
  /-- Settings of the provider. -/
  provider : Option ProviderSettings := none
  /-- Settings of the gateway. -/
  gateway : Option GatewaySettings := none
deriving DecidableEq, Inhabited, Repr

end ChatFlow
