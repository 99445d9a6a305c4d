import Colloquy.Context.Basic
import Colloquy.Provider.Options
import Colloquy.Retry.Policy
import Colloquy.Settings.Reading

/-!
# Settings

The settings of the program in four sections, their defaults, and what they say to a provider, to
the retries and to the context of prompts.
-/

namespace Colloquy

namespace Settings

/-- What the system tells a provider before anything else. -/
def standardPrompt : String :=
  "You are a software engineering assistant. Plan the project with propose_plan, " ++
    "ask_user_for_clarification when the request is ambiguous, and write each file " ++
    "with write_file_content."

/-- What the program is and where it works. -/
structure App where
  name : String := "maestro"
  /-- Where files are written. -/
  workspace : Option String := none
  systemPrompt : String := standardPrompt
deriving DecidableEq, Repr

/-- Which provider is active and what is asked of it. -/
structure Provider where
  active : String := "mock"
  model : Option String := none
  template : Option String := none
  timeoutSeconds : UInt64 := 30
  temperature : Float32 := (0.7 : Float).toFloat32
  maxTokens : UInt32 := 2000
  /-- How long a tool may take. -/
  toolTimeoutSeconds : UInt64 := 30
deriving DecidableEq

/-- Whether and how failed requests are tried again. -/
structure Retries where
  enabled : Bool := true
  maxRetries : UInt32 := 3
  initialBackoffMillis : UInt64 := 1000
  maxBackoffMillis : UInt64 := 30000
  factor : Float := 2.0
  jitter : Float := 0.1
  onRateLimit : Bool := true
  onServerError : Bool := true
  onNetworkError : Bool := true
deriving DecidableEq

/-- Whether prompts get a context, and how much of it. -/
structure Context where
  enabled : Bool := false
  maxFiles : UInt64 := 5
  maxSnippetLines : UInt64 := 40
deriving DecidableEq, Repr

end Settings

/-- The settings of the program. -/
structure Settings where
  app : Settings.App := {}
  provider : Settings.Provider := {}
  retries : Settings.Retries := {}
  context : Settings.Context := {}
deriving DecidableEq

namespace Settings

/-! ### The fields -/

/-- The fields of the first section. -/
def App.slots : List (Slot App) := [
  .of "name" readText fun r v => { r with name := v },
  .of "workspace_root" readOptionalText fun r v => { r with workspace := v },
  .of "system_prompt" readText fun r v => { r with systemPrompt := v }]

/-- The fields of the second section. -/
def Provider.slots : List (Slot Provider) := [
  .of "active" readText fun r v => { r with active := v },
  .of "model" readOptionalText fun r v => { r with model := v },
  .of "template" readOptionalText fun r v => { r with template := v },
  .of "timeout_secs" read64 fun r v => { r with timeoutSeconds := v },
  .of "temperature" readSingle fun r v => { r with temperature := v },
  .of "max_tokens" read32 fun r v => { r with maxTokens := v },
  .of "tool_timeout_secs" read64 fun r v => { r with toolTimeoutSeconds := v }]

/-- The fields of the third section. -/
def Retries.slots : List (Slot Retries) := [
  .of "enabled" readFlag fun r v => { r with enabled := v },
  .of "max_retries" read32 fun r v => { r with maxRetries := v },
  .of "initial_backoff_ms" read64 fun r v => { r with initialBackoffMillis := v },
  .of "max_backoff_ms" read64 fun r v => { r with maxBackoffMillis := v },
  .of "backoff_factor" readDouble fun r v => { r with factor := v },
  .of "jitter_factor" readDouble fun r v => { r with jitter := v },
  .of "retry_on_rate_limit" readFlag fun r v => { r with onRateLimit := v },
  .of "retry_on_server_error" readFlag fun r v => { r with onServerError := v },
  .of "retry_on_network_error" readFlag fun r v => { r with onNetworkError := v }]

/-- The fields of the fourth section. -/
def Context.slots : List (Slot Context) := [
  .of "enabled" readFlag fun r v => { r with enabled := v },
  .of "max_files" read64 fun r v => { r with maxFiles := v },
  .of "max_snippet_lines" read64 fun r v => { r with maxSnippetLines := v }]

/-- The sections. -/
def slots : List (Slot Settings) := [
  .of "app" (readSection "AppSection" App.slots {}) fun r v => { r with app := v },
  .of "provider" (readSection "ProviderSection" Provider.slots {}) fun r v =>
    { r with provider := v },
  .of "retry" (readSection "RetrySection" Retries.slots {}) fun r v => { r with retries := v },
  .of "context" (readSection "ContextSection" Context.slots {}) fun r v =>
    { r with context := v }]

/-- The settings that a tree says; whatever it does not say has its default. -/
def read (tree : Setting) : Except Refusal Settings :=
  readSection "AppConfig" slots {} tree

/-! ### What they mean -/

/-- The options of the provider. -/
def options (s : Settings) : Colloquy.Provider.Options where
  timeoutSeconds := s.provider.timeoutSeconds
  maxRetries := s.retries.maxRetries
  retryDelayMillis := s.retries.initialBackoffMillis
  temperature := s.provider.temperature
  maxTokens := s.provider.maxTokens
  templateId := s.provider.template

/-- The policy of retries. -/
def policy (s : Settings) : Retry.Policy where
  maxRetries := s.retries.maxRetries
  initialBackoff := .ofMillis s.retries.initialBackoffMillis.toNat
  maxBackoff := .ofMillis s.retries.maxBackoffMillis.toNat
  factor := s.retries.factor
  jitter := s.retries.jitter
  onRateLimit := s.retries.onRateLimit
  onServerError := s.retries.onServerError
  onNetworkError := s.retries.onNetworkError

/-- How much context a prompt gets at most. -/
def limits (s : Settings) : Colloquy.Context.Limits where
  snippets := s.context.maxFiles.toNat
  snippetLines := s.context.maxSnippetLines.toNat

end Settings

end Colloquy
