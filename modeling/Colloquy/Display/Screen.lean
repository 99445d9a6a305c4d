import Colloquy.Json.Value

/-!
# What a user sees

The display holds the state of the conversation, a chat log, the files that are being worked on and
a line of status.  The log only grows.  A file is listed once under its name, in the order in which
the names came up.
-/

namespace Colloquy.Display

/-! ### States -/

/-- The states of a conversation. -/
inductive State where
  | idle
  | awaitingAiResponse
  | awaitingApproval
  | executingTask
  | aiError
deriving DecidableEq, Repr

/-- All states. -/
def State.all : List State :=
  [.idle, .awaitingAiResponse, .awaitingApproval, .executingTask, .aiError]

/-- The word for a state. -/
def State.word : State → String
  | .idle => "IDLE"
  | .awaitingAiResponse => "AWAITING_AI_RESPONSE"
  | .awaitingApproval => "AWAITING_APPROVAL"
  | .executingTask => "EXECUTING_TASK"
  | .aiError => "AI_ERROR"

/-! ### The chat log -/

/-- Who an entry of the chat log comes from. -/
inductive Sender where
  | user
  | ai
  | system
deriving DecidableEq, Repr

/-- The word for a sender. -/
def Sender.word : Sender → String
  | .user => "USER"
  | .ai => "AI"
  | .system => "SYSTEM"

/-- An entry of the chat log. -/
structure ChatEntry where
  sender : Sender
  text : String
deriving DecidableEq, Repr

/-! ### Files -/

/-- How far a file is. -/
inductive FileStatus where
  | planned
  | generating
  | generated
  | modified
  | error
deriving DecidableEq, Repr

/-- The word for a status of a file. -/
def FileStatus.word : FileStatus → String
  | .planned => "PLANNED"
  | .generating => "GENERATING"
  | .generated => "GENERATED"
  | .modified => "MODIFIED"
  | .error => "ERROR"

/-- A file in the list, or an update of one. -/
structure ProjectFile where
  filename : String
  status : FileStatus
  description : String
deriving DecidableEq, Repr

/-- The file list after an update.  A file that is already listed keeps its place, and keeps its
description if the update has none. -/
def upsert (update : ProjectFile) : List ProjectFile → List ProjectFile
  | [] => [update]
  | f :: files =>
    if f.filename = update.filename then
      { f with
        status := update.status
        description := if update.description.isEmpty then f.description else update.description }
      :: files
    else f :: upsert update files

/-! ### The display -/

/-- What a user sees of a conversation. -/
structure Screen where
  state : State
  chat : List ChatEntry
  files : List ProjectFile
  status : String
  processing : Bool
deriving DecidableEq, Repr

/-- The first entry of every chat log. -/
def welcome : String :=
  "Welcome! Describe what you want to build and the assistant will plan and write it."

/-- The status of a conversation in which nothing is going on. -/
def readyStatus : String := "Ready"

namespace Screen

/-- The display of a new conversation. -/
def start : Screen := ⟨.idle, [⟨.system, welcome⟩], [], readyStatus, false⟩

/-- Adds an entry to the chat log. -/
def post (m : Screen) (sender : Sender) (text : String) : Screen :=
  { m with chat := m.chat ++ [⟨sender, text⟩] }

/-- Adds entries to the chat log. -/
def postAll (m : Screen) (entries : List ChatEntry) : Screen :=
  { m with chat := m.chat ++ entries }

/-- Sets the line of status. -/
def setStatus (m : Screen) (status : String) : Screen :=
  { m with status }

/-- Applies an update to the file list. -/
def upsertFile (m : Screen) (update : ProjectFile) : Screen :=
  { m with files := upsert update m.files }

/-- Applies updates to the file list, one after the other. -/
def upsertFiles (m : Screen) (updates : List ProjectFile) : Screen :=
  { m with files := updates.foldl (fun files u => upsert u files) m.files }

/-- The file with a name. -/
def file? (m : Screen) (filename : String) : Option ProjectFile :=
  m.files.find? fun f => f.filename == filename

/-- The newest entry of the chat log. -/
def lastChat? (m : Screen) : Option ChatEntry :=
  m.chat.getLast?

/-- How many entries come from a sender. -/
def countSender (m : Screen) (sender : Sender) : Nat :=
  m.chat.countP (·.sender == sender)

@[simp]
theorem chat_post (m : Screen) (sender : Sender) (text : String) :
    (m.post sender text).chat = m.chat ++ [⟨sender, text⟩] := rfl

end Screen

/-! ### The display as JSON -/

/-- A file as a JSON value. -/
def ProjectFile.encode (f : ProjectFile) : Json :=
  .object [("filename", .text f.filename), ("status", .text f.status.word),
    ("description", .text f.description)]

/-- An entry of the chat log as a JSON value, posted at a moment. -/
def ChatEntry.encode (moment : String) (e : ChatEntry) : Json :=
  .object [("sender", .text e.sender.word), ("text", .text e.text), ("timestamp", .text moment)]

/-- A display as a JSON value, all entries of whose log were posted at one moment. -/
def Screen.encode (moment : String) (m : Screen) : Json :=
  .object [("state", .text m.state.word), ("chat", .array (m.chat.map (·.encode moment))),
    ("files", .array (m.files.map ProjectFile.encode)), ("global_status", .text m.status),
    ("ai_processing", .bool m.processing)]

end Colloquy.Display
