import Colloquy.Json.Wire

/-!
# Models

What a provider tells about one of its models.
-/

namespace Colloquy.Provider

/-- A model in the catalogue of a provider. -/
structure ModelInfo where
  id : String
  name : String
  provider : String
  version : String
  /-- The abilities of the model, each with its degree. -/
  capabilities : Dictionary String
  isLocal : Bool
  contextWindow : UInt64
  additional : Dictionary String
deriving DecidableEq, Repr

namespace ModelInfo

/-- A model about which only its id and its provider are known; the id serves as its name. -/
def named (id provider : String) : ModelInfo :=
  ⟨id, id, provider, "", ∅, false, 0, ∅⟩

/-- The model of a provider that has none. -/
def unknown : ModelInfo :=
  ⟨"", "", "", "", ∅, false, 0, ∅⟩

/-- The model with one more ability. -/
def withCapability (m : ModelInfo) (name degree : String) : ModelInfo :=
  { m with capabilities := m.capabilities.insert name degree }

/-- Whether the model has an ability. -/
def supports (m : ModelInfo) (capability : String) : Bool :=
  m.capabilities.contains capability

/-- The JSON form of a model. -/
def shape : Json.Shape :=
  .record "ModelInfo" [
    ⟨"id", .required, .text⟩, ⟨"name", .required, .text⟩, ⟨"provider", .required, .text⟩,
    ⟨"version", .required, .text⟩, ⟨"capabilities", .required, .dictionary⟩,
    ⟨"is_local", .required, .flag⟩,
    ⟨"context_window_size", .required, .natural 64 "usize"⟩,
    ⟨"additional_info", .required, .dictionary⟩]

/-- A model as a JSON value. -/
def encode (m : ModelInfo) : Json :=
  .object [("id", .text m.id), ("name", .text m.name), ("provider", .text m.provider),
    ("version", .text m.version), ("capabilities", .ofDictionary m.capabilities),
    ("is_local", .bool m.isLocal), ("context_window_size", .ofNat m.contextWindow.toNat),
    ("additional_info", .ofDictionary m.additional)]

/-- A JSON value as a model. -/
def decode? : Json → Option ModelInfo
  | .object [("id", .text id), ("name", .text name), ("provider", .text provider),
      ("version", .text version), ("capabilities", capabilities), ("is_local", .bool isLocal),
      ("context_window_size", .number (.integer window)), ("additional_info", additional)] => do
    return { id, name, provider, version, isLocal
             capabilities := ← Json.dictionary? capabilities
             contextWindow := UInt64.ofNat window.toNat
             additional := ← Json.dictionary? additional }
  | _ => none

instance : Wire ModelInfo := ⟨shape, encode, decode?⟩

end ModelInfo

end Colloquy.Provider
