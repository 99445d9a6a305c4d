import Colloquy.Json.Wire

/-!
# Completions

What is sent to a provider besides the messages (the tools it may call) and what it answers: a
content, calls of tools, or an error.
-/

namespace Colloquy.Provider

/-! ### Tools as a provider sees them -/

/-- A tool that is declared to a provider; the schema of its arguments is a JSON text. -/
structure ToolDefinition where
  name : String
  description : String
  schema : String
deriving DecidableEq, Repr

namespace ToolDefinition

/-- The JSON form of a definition. -/
def shape : Json.Shape :=
  .record "ToolDefinition" [⟨"name", .required, .text⟩, ⟨"description", .required, .text⟩,
    ⟨"schema", .required, .text⟩]

/-- A definition as a JSON value. -/
def encode (d : ToolDefinition) : Json :=
  .object [("name", .text d.name), ("description", .text d.description),
    ("schema", .text d.schema)]

/-- A JSON value as a definition. -/
def decode? : Json → Option ToolDefinition
  | .object [("name", .text name), ("description", .text description),
      ("schema", .text schema)] => some ⟨name, description, schema⟩
  | _ => none

instance : Wire ToolDefinition := ⟨shape, encode, decode?⟩

end ToolDefinition

/-- A call of a tool; the arguments are a JSON text that nobody has read yet. -/
structure ToolCall where
  id : String
  name : String
  arguments : String
deriving DecidableEq, Repr

namespace ToolCall

/-- The JSON form of a call. -/
def shape : Json.Shape :=
  .record "ToolCall" [⟨"id", .required, .text⟩, ⟨"name", .required, .text⟩,
    ⟨"arguments", .required, .text⟩]

/-- A call as a JSON value. -/
def encode (c : ToolCall) : Json :=
  .object [("id", .text c.id), ("name", .text c.name), ("arguments", .text c.arguments)]

/-- A JSON value as a call. -/
def decode? : Json → Option ToolCall
  | .object [("id", .text id), ("name", .text name), ("arguments", .text arguments)] =>
    some ⟨id, name, arguments⟩
  | _ => none

instance : Wire ToolCall := ⟨shape, encode, decode?⟩

end ToolCall

/-! ### Answers -/

/-- Whether an answer is one. -/
inductive CompletionStatus where
  | success
  | apiError
deriving DecidableEq, Repr

namespace CompletionStatus

/-- The word for a status. -/
def word : CompletionStatus → String
  | success => "success"
  | apiError => "api_error"

/-- The status that a word stands for. -/
def ofWord? (s : String) : Option CompletionStatus :=
  if s = "success" then some success else if s = "api_error" then some apiError else none

/-- The JSON form of a status. -/
def shape : Json.Shape := .choice ["success", "api_error"]

/-- A status as a JSON value. -/
def encode (s : CompletionStatus) : Json := .text s.word

/-- A JSON value as a status. -/
def decode? : Json → Option CompletionStatus
  | .text s => ofWord? s
  | _ => none

instance : Wire CompletionStatus := ⟨shape, encode, decode?⟩

end CompletionStatus

/-- The answer of a provider. -/
structure Completion where
  status : CompletionStatus
  content : String
  toolCalls : List ToolCall
  errorMessage : String
  metadata : Dictionary String
deriving DecidableEq, Repr

namespace Completion

/-- An answer with a content and calls of tools. -/
def calling (content : String) (toolCalls : List ToolCall) : Completion :=
  ⟨.success, content, toolCalls, "", ∅⟩

/-- An answer with a content alone. -/
def text (content : String) : Completion :=
  calling content []

/-- An answer that is an error. -/
def apiError (message : String) : Completion :=
  ⟨.apiError, "", [], message, ∅⟩

/-- The answer with one more remark. -/
def withMetadata (c : Completion) (key value : String) : Completion :=
  { c with metadata := c.metadata.insert key value }

/-- Whether the answer is no error. -/
def isSuccess (c : Completion) : Bool :=
  c.status == .success

/-- The JSON form of an answer. -/
def shape : Json.Shape :=
  .record "CompletionResponse" [⟨"status", .required, CompletionStatus.shape⟩,
    ⟨"content", .required, .text⟩, ⟨"tool_calls", .required, .list ToolCall.shape⟩,
    ⟨"error_message", .required, .text⟩, ⟨"metadata", .required, .dictionary⟩]

/-- An answer as a JSON value. -/
def encode (c : Completion) : Json :=
  .object [("status", c.status.encode), ("content", .text c.content),
    ("tool_calls", .array (c.toolCalls.map ToolCall.encode)),
    ("error_message", .text c.errorMessage), ("metadata", .ofDictionary c.metadata)]

/-- A JSON value as an answer. -/
def decode? : Json → Option Completion
  | .object [("status", status), ("content", .text content), ("tool_calls", .array calls),
      ("error_message", .text errorMessage), ("metadata", metadata)] => do
    return { content, errorMessage
             status := ← CompletionStatus.decode? status
             toolCalls := ← calls.mapM ToolCall.decode?
             metadata := ← Json.dictionary? metadata }
  | _ => none

instance : Wire Completion := ⟨shape, encode, decode?⟩

end Completion

end Colloquy.Provider
