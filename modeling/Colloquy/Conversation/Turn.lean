import Colloquy.Conversation.Basic

/-!
# Turns

A turn takes the user's words to the active provider and interprets the answer.  An answer without
calls of tools waits for the user's approval.  Calls of tools are dispatched in order, whether the
earlier ones went well or not, and what each gave is remembered for the provider; if one of them
failed, the conversation is in error.  After an error, the next prompt starts with a fresh history.
-/

namespace Colloquy.Conversation

open Provider (Completion ToolCall)

/-! ### Calls of tools -/

/-- Shows the output of a tool. -/
def showOutput (c : Conversation) (output : Tool.Output) : Conversation :=
  let screen := (c.screen.postAll output.chat).upsertFiles output.files
  { c with screen := match output.status with
    | none => screen
    | some status => screen.setStatus status }

/-- Dispatches a call; gives what the user is told if it failed. -/
def runCall (c : Conversation) (call : ToolCall) : Conversation × Option String :=
  let d := c.executor.dispatch call c.disk
  let c := { c with
    disk := d.disk
    audits := c.audits ++ [d.audit]
    worked := c.worked + d.elapsed }
  match d.outcome with
  | .ok output =>
    ((c.showOutput output).remember (.tool call.name output.content), none)
  | .error f =>
    let c := { c with screen := c.screen.upsertFiles f.files }
    (c.remember (.tool call.name s!"Error: {f.error.message}"),
      some s!"{call.name}: {f.error.message}")

/-- Dispatches calls in order; gives what the user is told of those that failed. -/
def runCalls (c : Conversation) : List ToolCall → Conversation × List String
  | [] => (c, [])
  | call :: rest =>
    let (c, failure) := c.runCall call
    let (c, failures) := c.runCalls rest
    (c, failure.toList ++ failures)

/-! ### Answers -/

/-- What the line of status says when the user is to answer. -/
def reviewStatus : String := "AI responded. Please review and reply."

/-- What the line of status says when a tool has failed. -/
def toolErrorStatus : String := "One or more tool calls failed."

/-- Interprets an answer of the provider. -/
def process (c : Conversation) (answer : Completion) : Conversation :=
  if !answer.isSuccess then c.fail answer.errorMessage
  else
    let c := c.remember (.assistant answer.content)
    let c := if Text.isBlankText answer.content then c else c.say .ai answer.content
    -- Without calls it is the user's turn.
    if answer.toolCalls.isEmpty then (c.enter .awaitingApproval).setStatus reviewStatus
    else match c.runCalls answer.toolCalls with
      | (c, []) => c.enter .executingTask
      | (c, failures) =>
        ((c.enter .aiError).post
          ("Tool execution failed: " ++ "; ".intercalate failures)).setStatus toolErrorStatus

/-! ### The words of the user -/

/-- Takes the user's words to the provider. -/
def ask (c : Conversation) (text status : String) : Conversation :=
  let c := c.say .user text
  -- The log has the words of the user; the provider is sent them with their context.
  let c := c.remember (.user (c.enrich text))
  let c := ((c.enter .awaitingAiResponse).setProcessing true).setStatus status
  let (registry, answer) :=
    c.registry.complete c.history.messages c.executor.toolbox.definitions
  let c := { c with registry }
  let c := match answer with
    | .ok answer => c.process answer
    | .error e => c.fail e.message
  c.setProcessing false

/-- What the user is told when a prompt follows an error. -/
def recoveryNotice : String := "Recovering from previous error. Starting a fresh request."

/-- Starts afresh if the conversation is in error. -/
def recover (c : Conversation) : Conversation :=
  if c.state = .aiError then c.forget.post recoveryNotice else c

/-- A new request. -/
def prompt (c : Conversation) (text : String) : Conversation :=
  c.recover.ask text "AI is processing your request..."

/-- What the user says to an answer; if none waits for approval, it is a new request. -/
def feedback (c : Conversation) (text : String) : Conversation :=
  if c.state = .awaitingApproval then c.ask text "Processing your feedback..."
  else c.prompt text

/-- What the user says while a task is executed; if none is, it is a new request. -/
def taskFeedback (c : Conversation) (text : String) : Conversation :=
  if c.state = .executingTask then c.ask text "Continuing the task with your feedback..."
  else c.prompt text

/-- The user's words, taken for what the state of the conversation suggests. -/
def submit (c : Conversation) (text : String) : Conversation :=
  match c.state with
  | .awaitingApproval => c.feedback text
  | .executingTask => c.taskFeedback text
  | _ => c.prompt text

end Colloquy.Conversation
