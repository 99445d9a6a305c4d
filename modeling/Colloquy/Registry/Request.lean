import Colloquy.Chat.Message
import Colloquy.Registry.Activation

/-!
# Requests to the active provider

Requests go to the provider that is active when they are made, with retries.  A completion that is
given up becomes an answer that reports the error; only a registry without an active provider
refuses it.
-/

namespace Colloquy.Registry

open Provider (Backend Completion GivenUp ModelInfo Options ToolDefinition)

/-! ### The active provider -/

/-- What a request needs to know of the active provider. -/
structure Active where
  displayName : String
  backend : BackendId
  policy : Retry.Policy

/-- The active provider. -/
def active? (r : Registry) : Except Error Active :=
  match r.active.bind r.entries.find? with
  | none => .error .noActiveProvider
  | some e =>
    match e.backend with
    | none => .error .noActiveProvider
    | some id => .ok ⟨e.displayName, id, e.policy.getD (r.backend id).retryPolicy⟩

/-- The backend of the active provider. -/
def activeBackend? (r : Registry) : Except Error Backend :=
  r.active?.map fun a => r.backend a.backend

/-! ### Calls with retries -/

/-- Calls the active backend with retries. -/
def call {α : Type} (r : Registry) (a : Active) (operation : String)
    (request : Backend → Except Provider.Failure α × Backend) :
    Registry × Except GivenUp α :=
  let run := Retry.execute (a.policy.effective r.retriesEnabled) r.draws request
    (r.backend a.backend)
  let announced := run.announcements.map fun x => (a.displayName ++ "." ++ operation, x)
  -- The backend keeps what its calls did to it, also those that failed.
  ({ r.setBackend a.backend run.state with
      statistics := r.statistics.recordRun run
      announcements := r.announcements ++ announced
      waited := r.waited + run.waited },
    run.result)

/-- A request that was given up as an answer. -/
def giveUp (displayName : String) (g : GivenUp) : Completion :=
  ((Completion.apiError g.message).withMetadata "provider" displayName).withMetadata
    "error_kind" g.failure.kind.reason |>.withMetadata "retries" (toString g.retries)

/-- Asks for a completion. -/
def complete (r : Registry) (messages : List Message) (tools : List ToolDefinition) :
    Registry × Except Error Completion :=
  match r.active? with
  | .error e => (r, .error e)
  | .ok a =>
    match r.call a "completion" (Backend.complete messages tools) with
    | (r, .ok answer) => (r, .ok answer)
    | (r, .error g) => (r, .ok (giveUp a.displayName g))

/-- Asks for an embedding. -/
def embed (r : Registry) (text : String) : Registry × Except Error (List Float32) :=
  match r.active? with
  | .error e => (r, .error e)
  | .ok a =>
    match r.call a "embedding" (Backend.embed text) with
    | (r, .ok v) => (r, .ok v)
    | (r, .error g) => (r, .error (.provider g.message))

/-! ### Models, templates and options -/

/-- The catalogue of the active provider. -/
def models? (r : Registry) : Except Error (List ModelInfo) :=
  r.activeBackend?.map Backend.models

/-- The current model of the active provider. -/
def model? (r : Registry) : Except Error ModelInfo :=
  r.activeBackend?.map Backend.currentModel

/-- Changes the model of the active provider and tells the listeners. -/
def setModel (r : Registry) (id : String) : Registry × Except Error ModelInfo :=
  match r.active? with
  | .error e => (r, .error e)
  | .ok a =>
    let b := r.backend a.backend
    if !(b.models.any fun m => m.id == id) then (r, .error (.notFound .model id))
    else match b.setModel id with
      | (false, _) => (r, .error (.notFound .model id))
      | (true, b) =>
        let r := r.setBackend a.backend b
        let info := b.currentModel
        ({ r with notices := r.notices ++ notify r.modelListeners (.model info) }, .ok info)

/-- The templates of the active provider. -/
def templates? (r : Registry) : Except Error (List String) :=
  r.activeBackend?.map Backend.templates

/-- The current template of the active provider. -/
def template? (r : Registry) : Except Error (Option String) :=
  r.activeBackend?.map Backend.template

/-- Changes the template of the active provider and tells the listeners. -/
def setTemplate (r : Registry) (id : String) : Registry × Except Error Unit :=
  match r.active? with
  | .error e => (r, .error e)
  | .ok a =>
    let b := r.backend a.backend
    if !b.templates.contains id then (r, .error (.notFound .template id))
    else match b.setTemplate id with
      | (false, _) => (r, .error (.notFound .template id))
      | (true, b) =>
        let r := r.setBackend a.backend b
        ({ r with notices := r.notices ++ notify r.templateListeners (.template id) }, .ok ())

/-- Whether the current model of the active provider has an ability. -/
def supports (r : Registry) (capability : String) : Bool :=
  match r.activeBackend? with
  | .ok b => b.supports capability
  | .error _ => false

/-- The options of the active provider. -/
def options? (r : Registry) : Except Error Options :=
  r.activeBackend?.map Backend.options

/-- Sets the options of the active provider. -/
def setOptions (r : Registry) (o : Options) : Registry × Except Error Unit :=
  match r.active? with
  | .error e => (r, .error e)
  | .ok a => (r.setBackend a.backend { r.backend a.backend with options := o }, .ok ())

end Colloquy.Registry
