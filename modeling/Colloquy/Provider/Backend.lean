import Colloquy.Chat.Message
import Colloquy.Provider.Completion
import Colloquy.Provider.ModelInfo
import Colloquy.Retry.Policy

/-!
# Scripted backends

A backend answers requests.  This one follows a script: each request takes the next item, an answer
or a failure; once the script is over, it repeats the last thing the user said.  It has a catalogue
of models and a list of templates and notes what it was asked, which makes whole conversations run
without a network.
-/

namespace Colloquy.Provider

/-- A backend that follows a script. -/
structure Backend where
  name : String
  models : List ModelInfo
  /-- The place of the current model in the catalogue. -/
  modelIndex : Nat := 0
  templates : List String
  template : Option String
  options : Options := {}
  /-- A policy of its own; without one it follows its options. -/
  ownPolicy : Option Retry.Policy := none
  /-- Whether it has let itself be prepared at least once. -/
  prepared : Bool := false
  /-- Whether it refuses to be prepared. -/
  rejects : Bool := false
  /-- Whether it refuses to change its model or its template. -/
  refusesSwitch : Bool := false
  script : List (Except Failure Completion) := []
  /-- The failures of the next embeddings. -/
  embeddingFailures : List Failure := []
  calls : Nat := 0
  lastMessages : List Message := []
  lastTools : List String := []

namespace Backend

/-! ### Setting up -/

/-- The catalogue of a backend that was not given one. -/
def standardModels (provider : String) : List ModelInfo :=
  [{ (ModelInfo.named "mock-small" provider).withCapability "tools" "full" with
      contextWindow := 8192 },
    { ((ModelInfo.named "mock-large" provider).withCapability "tools" "full").withCapability
        "embeddings" "full" with
      contextWindow := 128000 }]

/-- The templates of a backend that was not given any. -/
def standardTemplates : List String := ["default", "code"]

/-- A backend without a script. -/
def named (name : String) : Backend where
  name := name
  models := standardModels name
  templates := standardTemplates
  template := standardTemplates.head?

instance : Inhabited Backend := ⟨named ""⟩

/-- The backend with another catalogue; the first model is the current one. -/
def withModels (b : Backend) (models : List ModelInfo) : Backend :=
  { b with models, modelIndex := 0 }

/-- The backend with other templates; the first one is the current one. -/
def withTemplates (b : Backend) (templates : List String) : Backend :=
  { b with templates, template := templates.head? }

/-- Puts items at the end of the script. -/
def push (b : Backend) (items : List (Except Failure Completion)) : Backend :=
  { b with script := b.script ++ items }

/-! ### Settings -/

/-- Prepares the backend; gives whether it let itself be prepared. -/
def prepare (b : Backend) (o : Options) : Bool × Backend :=
  if b.rejects then (false, b) else (true, { b with options := o, prepared := true })

/-- The current model. -/
def currentModel (b : Backend) : ModelInfo :=
  b.models[b.modelIndex]?.getD .unknown

/-- Changes to the first model with an id; gives whether it did. -/
def setModel (b : Backend) (id : String) : Bool × Backend :=
  if b.refusesSwitch then (false, b)
  else match b.models.findIdx? fun m => m.id == id with
    | some i => (true, { b with modelIndex := i })
    | none => (false, b)

/-- Changes to a template; gives whether it did. -/
def setTemplate (b : Backend) (template : String) : Bool × Backend :=
  if b.refusesSwitch then (false, b)
  else if b.templates.contains template then (true, { b with template := some template })
  else (false, b)

/-- Whether the current model has an ability. -/
def supports (b : Backend) (capability : String) : Bool :=
  match b.models[b.modelIndex]? with
  | some m => m.supports capability
  | none => false

/-- The policy that requests follow if nobody says otherwise. -/
def retryPolicy (b : Backend) : Retry.Policy :=
  b.ownPolicy.getD (.ofOptions b.options)

/-! ### Requests -/

/-- The last thing the user said. -/
def lastUserContent? (messages : List Message) : Option String :=
  (messages.reverse.find? fun m => m.role == .user).map Message.content

/-- The answer to a request once the script is over. -/
def echo (messages : List Message) : Completion :=
  .text ("Echo from Mock: " ++ (lastUserContent? messages).getD "(no input)")

/-- Answers a request. -/
def complete (messages : List Message) (tools : List ToolDefinition) (b : Backend) :
    Except Failure Completion × Backend :=
  let b := { b with
    calls := b.calls + 1
    lastMessages := messages
    lastTools := tools.map ToolDefinition.name }
  match b.script with
  | [] => (.ok (echo messages), b)
  | item :: rest => (item, { b with script := rest })

/-- How many numbers an embedding has. -/
def embeddingSize : Nat := 16

/-- The embedding of some bytes: the sum of every sixteenth byte, as a part of the largest. -/
def embedding (bytes : List UInt8) : List Float32 :=
  (List.range embeddingSize).map fun k =>
    (bytes.zipIdx.filter fun x => x.2 % embeddingSize == k).foldl
      (fun sum x => sum + Float32.ofNat x.1.toNat / 255) 0

/-- Answers a request for an embedding. -/
def embed (text : String) (b : Backend) : Except Failure (List Float32) × Backend :=
  match b.embeddingFailures with
  | f :: rest => (.error f, { b with embeddingFailures := rest })
  | [] => (.ok (embedding text.toUTF8.toList), b)

end Backend

end Colloquy.Provider
