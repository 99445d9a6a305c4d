import Colloquy.Repl.Request
import Colloquy.Repl.Setup
import Colloquy.Text.Lines

/-!
# The dialogue with the user

The user gets to see what was said since the last line, except for what he said himself, and then
the state of the conversation.  The chat log only grows, so it is enough to remember how much of it
has been shown.

Main statement: a whole run answers the lines one after the other, up to the first one that asks to
quit or that is no text.
-/

namespace Colloquy.Repl

open Display (ChatEntry Sender State)

/-! ### What is shown -/

/-- Something that the user gets to see. -/
inductive Output where
  /-- An entry of the chat log, which does not come from the user. -/
  | entry (e : ChatEntry)
  /-- The state of the conversation and its line of status. -/
  | status (state : State) (text : String)
  /-- A text of whole lines. -/
  | report (text : String)
  /-- A request that nobody knows. -/
  | unknown (line : String)
deriving DecidableEq, Repr

/-- How the user sees a sender. -/
def senderName : Sender → String
  | .user => "User"
  | .ai => "AI"
  | .system => "System"

/-- What is shown as text with its line ends.  An entry has the time of day before it. -/
def Output.render (time : String) : Output → String
  | entry e => s!"{time} [{senderName e.sender}]: {e.text}\n"
  | status state text => s!"[{state.word}] {text}\n"
  | report text => text
  | unknown line => s!"Unknown command: {line}\n"

/-! ### Dialogues -/

/-- A conversation and how much of its chat log has been shown. -/
structure Dialogue where
  conversation : Conversation
  shown : Nat := 0

namespace Dialogue

/-- The entries of the chat log that have not been shown, except for those of the user. -/
def news (d : Dialogue) : List Output :=
  ((d.conversation.screen.chat.drop d.shown).filter (·.sender != .user)).map .entry

/-- The state of the conversation as it is shown. -/
def status (d : Dialogue) : Output :=
  .status d.conversation.state d.conversation.screen.status

/-- The dialogue after its news have been shown. -/
def caughtUp (d : Dialogue) : Dialogue :=
  { d with shown := d.conversation.screen.chat.length }

/-- Carries out a command. -/
def obey (d : Dialogue) (c : Command) : Dialogue :=
  { d with conversation := d.conversation.obey c }

/-- Answers a request. -/
def answer (d : Dialogue) : Request → Dialogue × List Output
  | .command c => ((d.obey c).caughtUp, (d.obey c).news ++ [(d.obey c).status])
  | .statistics => (d, [.report d.conversation.registry.statistics.report])
  | .unknown line => (d, [.unknown line])
  | .quit => (d, [])

end Dialogue

/-! ### Runs -/

/-- How far a run is, or how it ended. -/
inductive Progress where
  | goesOn
  | finished
  | failed (f : Failure)
deriving DecidableEq, Repr

/-- What comes of a line. -/
structure Step where
  dialogue : Dialogue
  output : List Output := []
  progress : Progress := .goesOn

/-- The byte that ends a line. -/
def lineFeed : UInt8 := 0x0A

/-- The byte that may stand before the end of a line and belongs to it. -/
def carriageReturn : UInt8 := 0x0D

/-- Takes in a line. -/
def Dialogue.step (d : Dialogue) (line : List UInt8) : Step :=
  match Text.decodeUtf8 (Text.withoutLineEnd lineFeed carriageReturn line) with
  | .error fault => { dialogue := d, progress := .failed (.input fault) }
  | .ok text =>
    match Request.read? text with
    | none => { dialogue := d }
    | some .quit => { dialogue := d, progress := .finished }
    | some request =>
      let (d, output) := d.answer request
      { dialogue := d, output }

/-- Takes in lines until the run ends, be it because there are no more. -/
def Dialogue.run (d : Dialogue) : List (List UInt8) → Step
  | [] => { dialogue := d, progress := .finished }
  | line :: lines =>
    let s := d.step line
    match s.progress with
    | .goesOn =>
      let rest := s.dialogue.run lines
      { rest with output := s.output ++ rest.output }
    | _ => s

/-- A whole run: the files after it, everything that was shown, and why it failed if it did. -/
structure Run where
  disk : Files.Disk
  output : List Output
  failure : Option Failure

/-- Runs the program on the bytes of the user. -/
def run (s : Settings) (d : Files.Disk) (directory : Files.Location) (bytes : List UInt8) : Run :=
  match setUp s d directory with
  | (d, .error f) => ⟨d, [], some f⟩
  | (_, .ok c) =>
    let start : Dialogue := { conversation := c }
    let s := start.caughtUp.run (Text.cutAfter lineFeed bytes)
    ⟨s.dialogue.conversation.disk, start.news ++ s.output, match s.progress with
      | .failed f => some f
      | _ => none⟩

end Colloquy.Repl
