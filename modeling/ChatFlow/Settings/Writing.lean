import ChatFlow.Settings
import ChatFlow.Toml.Writing

/-!
# Writing settings

The settings as a document, every value written out, one section for each part of the program
that is set up.
-/

namespace ChatFlow

open Toml (Section)

/-- A field that is written only when there is something to say. -/
def optionalText (name : String) (text : Option String) : List (String × Toml.Entry) :=
  match text with
  | some text => [(name, .text text)]
  | none => []

/-- The section of the engine. -/
def EngineSettings.toSection (settings : EngineSettings) : Section :=
  { header := ["engine"]
    fields :=
      [("max_hops", .natural settings.maxHops),
        ("lock_stale_secs", .natural settings.lockStaleSecs),
        ("lock_busy_timeout_ms", .natural settings.lockBusyTimeoutMs),
        ("default_delay_secs", .natural settings.defaultDelaySecs),
        ("ai_item_delay_ms", .natural settings.aiItemDelayMs),
        ("history_limit", .natural settings.historyLimit),
        ("resume_retry_secs", .natural settings.resumeRetrySecs),
        ("resume_max_attempts", .natural settings.resumeMaxAttempts),
        ("media_fallback_text", .text settings.mediaFallbackText)] }

/-- The section of the pool that takes messages in. -/
def IngressSettings.toSection (settings : IngressSettings) : Section :=
  { header := ["ingress"]
    fields :=
      [("workers", .natural settings.workers),
        ("queue_capacity", .natural settings.queueCapacity),
        ("max_attempts", .natural settings.maxAttempts)] }

/-- The section of a binding. -/
def Binding.toSection (binding : Binding) : Section :=
  { header := ["flows", "bindings"]
    isRepeated := true
    fields :=
      [("device", .text binding.device), ("flow_id", .text binding.flow)] ++
        optionalText "trigger" binding.trigger }

/-- The sections of the flows: bindings follow in sections of their own. -/
def FlowSettings.toSections (settings : FlowSettings) : List Section :=
  let none := if settings.bindings.isEmpty then [("bindings", Toml.Entry.nothing)] else []
  { header := ["flows"], fields := ("dir", .text settings.dir) :: none } ::
    settings.bindings.map Binding.toSection

/-- The section of how failed requests are tried again. -/
def RetrySettings.toSection (settings : RetrySettings) : Section :=
  { header := ["ai", "retry"]
    fields :=
      [("max_retries", .natural settings.maxRetries),
        ("initial_backoff_ms", .natural settings.initialBackoffMs),
        ("max_backoff_ms", .natural settings.maxBackoffMs)] }

/-- The sections of the text generator. -/
def AiSettings.toSections (settings : AiSettings) : List Section :=
  [{ header := ["ai"]
     fields :=
      [("provider", .text settings.provider)] ++ optionalText "base_url" settings.baseUrl ++
        [("model_id", .text settings.modelId)] ++ optionalText "api_key" settings.apiKey ++
        [("max_tokens", .natural settings.maxTokens),
          ("temperature", .float settings.temperature.toDouble),
          ("timeout_secs", .natural settings.timeoutSecs)] },
    settings.retry.toSection]

/-- The section of the provider. -/
def ProviderSettings.toSection (settings : ProviderSettings) : Section :=
  { header := ["provider"]
    fields :=
      [("base_url", .text settings.baseUrl)] ++ optionalText "token" settings.token ++
        [("timeout_secs", .natural settings.timeoutSecs),
          ("max_message_len", .natural settings.maxMessageLen),
          ("validate_media", .flag settings.validateMedia)] }

/-- The section of the gateway. -/
def GatewaySettings.toSection (settings : GatewaySettings) : Section :=
  { header := ["gateway"]
    fields := ("bind", .text settings.bind) :: optionalText "token" settings.token }

namespace Settings

/-- The sections of all settings. -/
def toSections (settings : Settings) : List Section :=
  [settings.engine.toSection, settings.ingress.toSection,
    { header := ["storage"], fields := [("path", .text settings.storage.path)] }] ++
    settings.flows.toSections ++
    (settings.ai.map AiSettings.toSections).getD [] ++
    settings.provider.toList.map ProviderSettings.toSection ++
    settings.gateway.toList.map GatewaySettings.toSection

/-- The text of all settings. -/
def toText (settings : Settings) : String :=
  Toml.document settings.toSections

end Settings
end ChatFlow
