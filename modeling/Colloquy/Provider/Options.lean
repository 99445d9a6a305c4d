import Colloquy.Json.Wire

/-!
# Options of a provider

The settings that a provider is prepared with.
-/

namespace Colloquy.Provider

/-- The settings of a provider. -/
structure Options where
  timeoutSeconds : UInt64 := 30
  maxRetries : UInt32 := 3
  retryDelayMillis : UInt64 := 1000
  temperature : Float32 := (0.7 : Float).toFloat32
  maxTokens : UInt32 := 2000
  templateId : Option String := none
  /-- Settings that only one provider knows. -/
  additional : Dictionary String := ∅
deriving DecidableEq

namespace Options

instance : Inhabited Options := ⟨{}⟩

/-- The JSON form of options. -/
def shape : Json.Shape :=
  .record "ProviderOptions" [
    ⟨"timeout_secs", .required, .natural 64 "u64"⟩,
    ⟨"max_retries", .required, .natural 32 "u32"⟩,
    ⟨"retry_delay_ms", .required, .natural 64 "u64"⟩,
    ⟨"temperature", .required, .single "f32"⟩,
    ⟨"max_tokens", .required, .natural 32 "u32"⟩,
    ⟨"template_id", .nullable, .optional .text⟩,
    ⟨"additional", .required, .dictionary⟩]

/-- Options as a JSON value. -/
def encode (o : Options) : Json :=
  .object [("timeout_secs", .ofNat o.timeoutSeconds.toNat),
    ("max_retries", .ofNat o.maxRetries.toNat),
    ("retry_delay_ms", .ofNat o.retryDelayMillis.toNat),
    ("temperature", .number (.single o.temperature)),
    ("max_tokens", .ofNat o.maxTokens.toNat),
    ("template_id", .ofOptionalText o.templateId),
    ("additional", .ofDictionary o.additional)]

/-- A JSON value as options. -/
def decode? : Json → Option Options
  | .object [("timeout_secs", .number (.integer timeout)),
      ("max_retries", .number (.integer retries)),
      ("retry_delay_ms", .number (.integer delay)),
      ("temperature", .number (.single temperature)),
      ("max_tokens", .number (.integer tokens)), ("template_id", template),
      ("additional", additional)] => do
    return { timeoutSeconds := UInt64.ofNat timeout.toNat
             maxRetries := UInt32.ofNat retries.toNat
             retryDelayMillis := UInt64.ofNat delay.toNat
             temperature
             maxTokens := UInt32.ofNat tokens.toNat
             templateId := ← Json.optionalText? template
             additional := ← Json.dictionary? additional }
  | _ => none

instance : Wire Options := ⟨shape, encode, decode?⟩

end Options

end Colloquy.Provider
