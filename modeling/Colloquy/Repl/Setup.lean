import Colloquy.Context.Excerpt
import Colloquy.Conversation.Basic
import Colloquy.Settings.Sources
import Colloquy.Text.Utf8
import Colloquy.Tool.File

/-!
# Setting up a conversation

The program makes its workspace, registers its one provider and chooses the model and the template
that the settings name.  A provider that nobody registered is no failure: the one that there is
becomes active instead.

Main statement: `setUp` gives the conversation that the settings ask for, or says why there is none.
The workspace is made in any case, before anything else can fail.
-/

namespace Colloquy.Repl

open Files (Disk Location SystemError)

/-! ### Failures -/

/-- Why the program ends before the user wants it to. -/
inductive Failure where
  /-- The directory of the workspace cannot be made. -/
  | workspace (name : String) (cause : SystemError)
  | registry (error : Registry.Error)
  /-- A line of the user is no text. -/
  | input (fault : Text.Utf8Fault)
deriving DecidableEq, Repr

/-- The sentence that says what went wrong. -/
def Failure.message : Failure → String
  | workspace name _ => s!"Failed to create {name}"
  | registry e => e.message
  | input _ => "Failed to read stdin"

/-- The sentence that says why, if that is another matter. -/
def Failure.cause? : Failure → Option String
  | workspace _ cause => some cause.message
  | registry _ => none
  | input fault => some fault.message

/-- What the user is told in the end. -/
def Failure.report (f : Failure) : String :=
  "Error: " ++ f.message ++ match f.cause? with
    | some cause => "\n\nCaused by:\n    " ++ cause
    | none => ""

/-! ### The workspace -/

/-- The directory that files are written to if the settings name none. -/
def standardWorkspace : String := "workspace"

/-- Makes the workspace with a name, seen from a directory.  Nothing has to be made for the empty
name. -/
def makeWorkspace (d : Disk) (directory : Location) (name : String) :
    Disk × Except Failure Workspace.Root :=
  if name.isEmpty then (d, .ok { path := directory, unnamed := true })
  else match Workspace.Root.create d (Settings.pathFrom directory name) with
    | (d, .ok root) => (d, .ok root)
    | (d, .error cause) => (d, .error (.workspace name cause))

/-! ### The registry -/

/-- The name of the provider that there is. -/
def standardProvider : String := "mock"

/-- A change of a registry that can fail. -/
abbrev Change := Registry → Registry × Except Registry.Error Unit

/-- Makes changes one after the other, up to the first one that fails. -/
def makeChanges (r : Registry) : List Change → Registry × Except Registry.Error Unit
  | [] => (r, .ok ())
  | change :: changes =>
    match change r with
    | (r, .ok ()) => makeChanges r changes
    | (r, .error e) => (r, .error e)

/-- Activates a provider, or else the one that there is. -/
def activateAny (name : String) : Change := fun r =>
  match r.activate name with
  | (r, .ok ()) => (r, .ok ())
  | (r, .error _) => r.activate standardProvider

/-- Changes the model of the active provider. -/
def chooseModel (id : String) : Change := fun r =>
  match r.setModel id with
  | (r, .ok _) => (r, .ok ())
  | (r, .error e) => (r, .error e)

/-- What the settings ask of a registry, with a maker of backends. -/
def changes (s : Settings) (maker : MakerId) : List Change := [
  fun r => r.register standardProvider (.made maker),
  fun r => r.setPolicy standardProvider s.policy,
  fun r => r.prepare standardProvider s.options,
  activateAny s.provider.active] ++
  s.provider.model.toList.map chooseModel ++
  s.provider.template.toList.map fun id r => r.setTemplate id

/-- The registry that the settings ask for. -/
def makeRegistry (s : Settings) : Registry × Except Registry.Error Unit :=
  let empty : Registry := { retriesEnabled := s.retries.enabled }
  let (r, maker) := empty.addMaker (Provider.Backend.named standardProvider) []
  makeChanges r (changes s maker)

/-! ### The conversation -/

/-- A new conversation in a workspace. -/
def converse (s : Settings) (r : Registry) (d : Disk) (root : Workspace.Root) : Conversation where
  registry := r
  disk := d
  executor := ⟨.standard root, s.provider.toolTimeoutSeconds.toNat⟩
  history := .start s.app.systemPrompt
  attachment := some {
    source := .ofWorkspace root
    limits := s.limits
    enabled := s.context.enabled }

/-- Sets up a conversation in a directory. -/
def setUp (s : Settings) (d : Disk) (directory : Location) : Disk × Except Failure Conversation :=
  match makeWorkspace d directory (s.app.workspace.getD standardWorkspace) with
  | (d, .error f) => (d, .error f)
  | (d, .ok root) =>
    match makeRegistry s with
    | (_, .error e) => (d, .error (.registry e))
    | (r, .ok ()) => (d, .ok (converse s r d root))

end Colloquy.Repl
