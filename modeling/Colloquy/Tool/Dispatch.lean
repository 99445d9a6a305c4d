import Colloquy.Json.Reader
import Colloquy.Text.Blank
import Colloquy.Tool.Basic

/-!
# Dispatching calls of tools

`Executor.dispatch` reads the arguments of a call, finds the tool and lets it act, unless that takes
longer than the time limit.  Every call leaves one audit record, however it ends.
-/

namespace Colloquy.Tool

open Provider (ToolCall)

/-! ### Audit records -/

/-- A record of a call. -/
structure Audit where
  tool : String
  /-- The identity of the call; a call that has none gets one that nobody else has. -/
  callId : Option String
  ok : Bool
  outcome : String
  preview : String
deriving DecidableEq, Repr

/-- The most characters of the arguments that a record shows. -/
def auditLimit : Nat := 200

/-- The arguments of a call as a record shows them. -/
def auditPreview (arguments : String) : String :=
  if auditLimit < arguments.length then
    String.ofList (arguments.toList.take auditLimit) ++ "..."
  else arguments

/-- The word for how a call ended. -/
def outcomeWord : Outcome → String
  | .ok _ => "ok"
  | .error { error := .unknownTool _, .. } => "unknown_tool"
  | .error _ => "error"

/-- The record of a call that ended in some way. -/
def audit (call : ToolCall) (outcome : Outcome) : Audit where
  tool := call.name
  callId := if call.id.isEmpty then none else some call.id
  ok := outcome.isOk
  outcome := outcomeWord outcome
  preview := auditPreview call.arguments

/-! ### Dispatching -/

/-- Reads the arguments of a call; blank ones are an object without members. -/
def readArguments (call : ToolCall) : Except Failure Json :=
  if Text.isBlankText call.arguments then .ok (.object [])
  else match Json.parse call.arguments with
    | .ok j => .ok j
    | .error r => .error { error := .invalidArguments call.name r.message }

/-- Tools and a time limit for their calls. -/
structure Executor where
  toolbox : Toolbox
  timeoutSeconds : Nat

/-- How a call was dispatched: the files after it, how it ended, its record, and how long it
took. -/
structure Dispatch where
  disk : Files.Disk
  outcome : Outcome
  audit : Audit
  elapsed : Duration

namespace Executor

/-- Lets a tool act within the time limit. -/
def runTool (x : Executor) (t : Tool) (name : String) (arguments : Json) (d : Files.Disk) :
    Files.Disk × Outcome × Duration :=
  let limit := Duration.ofSeconds x.timeoutSeconds
  if limit < t.delay arguments then
    (d, .error { error := .executionFailed s!"{name} timed out after {x.timeoutSeconds}s" }, limit)
  else
    let (d, outcome) := t.act arguments d
    (d, outcome, t.delay arguments)

/-- The effect of a call. -/
def perform (x : Executor) (call : ToolCall) (d : Files.Disk) :
    Files.Disk × Outcome × Duration :=
  match readArguments call with
  | .error f => (d, .error f, .zero)
  | .ok arguments =>
    match x.toolbox.find? call.name with
    | none => (d, .error { error := .unknownTool call.name }, .zero)
    | some t => x.runTool t call.name arguments d

/-- Dispatches a call. -/
def dispatch (x : Executor) (call : ToolCall) (d : Files.Disk) : Dispatch :=
  let (disk, outcome, elapsed) := x.perform call d
  ⟨disk, outcome, audit call outcome, elapsed⟩

end Executor

end Colloquy.Tool
