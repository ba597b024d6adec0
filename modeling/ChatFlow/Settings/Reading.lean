import ChatFlow.Error
import ChatFlow.Settings.Environment
import ChatFlow.Toml.Reading
import ChatFlow.Word

/-!
# Reading settings

Settings are written as a TOML document.  What is not written has its default; what is not known
is ignored; what has the wrong type or is out of range is an error, and so is a missing setting
without a default.
-/

namespace ChatFlow

open Toml (Value)

/-- The fields of a record. -/
structure Record where
  /-- The values by their names. -/
  fields : List (String × Value)

namespace Record

/-- The record with these names of fields that a value is. -/
def ofValue? (names : List String) (value : Value) : Option Record :=
  (value.fields? names).map Record.mk

/-- The value of a field. -/
def get? (record : Record) (name : String) : Option Value :=
  (record.fields.find? fun pair => pair.1 == name).map Prod.snd

/-- A field that has a default. -/
def optional (record : Record) (name : String) (read : Value → Option α) (default : α) :
    Option α :=
  match record.get? name with
  | some value => read value
  | none => some default

/-- A field that has none. -/
def required (record : Record) (name : String) (read : Value → Option α) : Option α :=
  (record.get? name).bind read

/-- A field that need not be there. -/
def maybe (record : Record) (name : String) (read : Value → Option α) : Option (Option α) :=
  record.optional name (fun value => (read value).map some) none

/-- A text that has a default. -/
def text (record : Record) (name default : String) : Option String :=
  record.optional name Value.string? default

/-- A text that need not be there. -/
def text? (record : Record) (name : String) : Option (Option String) :=
  record.maybe name Value.string?

/-- A number of thirty-two bits. -/
def short (record : Record) (name : String) (default : Nat) : Option Nat :=
  record.optional name (Value.natural? (Word.shortCount - 1)) default

/-- A number of sixty-four bits. -/
def long (record : Record) (name : String) (default : Nat) : Option Nat :=
  record.optional name (Value.natural? (Word.count - 1)) default

end Record

namespace EngineSettings

/-- The names of the settings, in order. -/
def names : List String :=
  ["max_hops", "lock_stale_secs", "lock_busy_timeout_ms", "default_delay_secs",
   "ai_item_delay_ms", "history_limit", "resume_retry_secs", "resume_max_attempts",
   "media_fallback_text"]

/-- Reads the settings. -/
def ofValue? (value : Value) : Option EngineSettings := do
  let default : EngineSettings := {}
  let record ← Record.ofValue? names value
  return {
    maxHops := ← record.long "max_hops" default.maxHops
    lockStaleSecs := ← record.long "lock_stale_secs" default.lockStaleSecs
    lockBusyTimeoutMs := ← record.long "lock_busy_timeout_ms" default.lockBusyTimeoutMs
    defaultDelaySecs := ← record.long "default_delay_secs" default.defaultDelaySecs
    aiItemDelayMs := ← record.long "ai_item_delay_ms" default.aiItemDelayMs
    historyLimit := ← record.long "history_limit" default.historyLimit
    resumeRetrySecs := ← record.long "resume_retry_secs" default.resumeRetrySecs
    resumeMaxAttempts := ← record.short "resume_max_attempts" default.resumeMaxAttempts
    mediaFallbackText := ← record.text "media_fallback_text" default.mediaFallbackText }

end EngineSettings

namespace IngressSettings

/-- The names of the settings, in order. -/
def names : List String := ["workers", "queue_capacity", "max_attempts"]

/-- Reads the settings. -/
def ofValue? (value : Value) : Option IngressSettings := do
  let default : IngressSettings := {}
  let record ← Record.ofValue? names value
  return {
    workers := ← record.long "workers" default.workers
    queueCapacity := ← record.long "queue_capacity" default.queueCapacity
    maxAttempts := ← record.short "max_attempts" default.maxAttempts }

end IngressSettings

namespace StorageSettings

/-- Reads the settings. -/
def ofValue? (value : Value) : Option StorageSettings := do
  let default : StorageSettings := {}
  let record ← Record.ofValue? ["path"] value
  return { path := ← record.text "path" default.path }

end StorageSettings

namespace Binding

/-- Reads a binding. -/
def ofValue? (value : Value) : Option Binding := do
  let record ← Record.ofValue? ["device", "flow_id", "trigger"] value
  return {
    device := ← record.required "device" Value.string?
    flow := ← record.required "flow_id" Value.string?
    trigger := ← record.text? "trigger" }

end Binding

namespace FlowSettings

/-- Reads the settings. -/
def ofValue? (value : Value) : Option FlowSettings := do
  let default : FlowSettings := {}
  let record ← Record.ofValue? ["dir", "bindings"] value
  return {
    dir := ← record.text "dir" default.dir
    bindings := ← record.optional "bindings"
      (fun value => value.items?.bind fun items => items.mapM Binding.ofValue?) default.bindings }

end FlowSettings

namespace RetrySettings

/-- The names of the settings, in order. -/
def names : List String := ["max_retries", "initial_backoff_ms", "max_backoff_ms"]

/-- Reads the settings. -/
def ofValue? (value : Value) : Option RetrySettings := do
  let default : RetrySettings := {}
  let record ← Record.ofValue? names value
  return {
    maxRetries := ← record.short "max_retries" default.maxRetries
    initialBackoffMs := ← record.long "initial_backoff_ms" default.initialBackoffMs
    maxBackoffMs := ← record.long "max_backoff_ms" default.maxBackoffMs }

end RetrySettings

namespace AiSettings

/-- The names of the settings, in order. -/
def names : List String :=
  ["provider", "base_url", "model_id", "api_key", "max_tokens", "temperature", "timeout_secs",
   "retry"]

/-- Reads the settings. -/
def ofValue? (value : Value) : Option AiSettings := do
  let default : AiSettings := { modelId := "" }
  let record ← Record.ofValue? names value
  return {
    provider := ← record.text "provider" default.provider
    baseUrl := ← record.text? "base_url"
    modelId := ← record.required "model_id" Value.string?
    apiKey := ← record.text? "api_key"
    maxTokens := ← record.short "max_tokens" default.maxTokens
    temperature := ← record.optional "temperature" Value.single? default.temperature
    timeoutSecs := ← record.long "timeout_secs" default.timeoutSecs
    retry := ← record.optional "retry" RetrySettings.ofValue? default.retry }

end AiSettings

namespace ProviderSettings

/-- The names of the settings, in order. -/
def names : List String :=
  ["base_url", "token", "timeout_secs", "max_message_len", "validate_media"]

/-- Reads the settings. -/
def ofValue? (value : Value) : Option ProviderSettings := do
  let default : ProviderSettings := { baseUrl := "" }
  let record ← Record.ofValue? names value
  return {
    baseUrl := ← record.required "base_url" Value.string?
    token := ← record.text? "token"
    timeoutSecs := ← record.long "timeout_secs" default.timeoutSecs
    maxMessageLen := ← record.long "max_message_len" default.maxMessageLen
    validateMedia := ← record.optional "validate_media" Value.bool? default.validateMedia }

end ProviderSettings

namespace GatewaySettings

/-- Reads the settings. -/
def ofValue? (value : Value) : Option GatewaySettings := do
  let default : GatewaySettings := {}
  let record ← Record.ofValue? ["bind", "token"] value
  return { bind := ← record.text "bind" default.bind, token := ← record.text? "token" }

end GatewaySettings

namespace Settings

/-- The names of the parts, in order. -/
def names : List String :=
  ["engine", "ingress", "storage", "flows", "ai", "provider", "gateway"]

/-- Reads all settings. -/
def ofValue? (value : Value) : Option Settings := do
  let record ← Record.ofValue? names value
  return {
    engine := ← record.optional "engine" EngineSettings.ofValue? {}
    ingress := ← record.optional "ingress" IngressSettings.ofValue? {}
    storage := ← record.optional "storage" StorageSettings.ofValue? {}
    flows := ← record.optional "flows" FlowSettings.ofValue? {}
    ai := ← record.maybe "ai" AiSettings.ofValue?
    provider := ← record.maybe "provider" ProviderSettings.ofValue?
    gateway := ← record.maybe "gateway" GatewaySettings.ofValue? }

/-- Reads settings from a text that may refer to the environment. -/
def ofText (environment : Environment) (text : String) : Except Error Settings :=
  match (Toml.value? (environment.expand text)).bind ofValue? with
  | some settings => .ok settings
  | none => .error (.config "the settings cannot be read")

end Settings
end ChatFlow
