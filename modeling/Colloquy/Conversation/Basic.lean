import Colloquy.Chat.History
import Colloquy.Context.Basic
import Colloquy.Registry.Request
import Colloquy.Tool.Dispatch

/-!
# Conversations

A conversation is led with the active provider of a registry.  It has a history, which is what
providers get to see, and a screen, which is what the user sees; the state on the screen says what
the user's next words will be taken for.  The tools that a provider calls act on the files of a
disk.
-/

namespace Colloquy

/-- Context that is written into prompts while it is enabled. -/
structure Attachment where
  source : Context.Source
  limits : Context.Limits
  enabled : Bool := true

/-- A conversation. -/
structure Conversation where
  registry : Registry
  disk : Files.Disk
  executor : Tool.Executor
  history : History
  screen : Display.Screen := .start
  attachment : Option Attachment := none
  /-- What the user is looking at. -/
  focus : Context.Focus := {}
  /-- The records of all calls of tools so far. -/
  audits : List Tool.Audit := []
  /-- How long tools have taken so far. -/
  worked : Duration := .zero

namespace Conversation

/-- The state of the conversation. -/
def state (c : Conversation) : Display.State := c.screen.state

/-- How long the conversation has waited so far, for retries and for tools. -/
def elapsed (c : Conversation) : Duration := c.registry.waited + c.worked

/-! ### Small changes -/

/-- Enters a state. -/
def enter (c : Conversation) (state : Display.State) : Conversation :=
  { c with screen := { c.screen with state } }

/-- Sets the line of status. -/
def setStatus (c : Conversation) (status : String) : Conversation :=
  { c with screen := c.screen.setStatus status }

/-- Shows the user whether an answer is being waited for. -/
def setProcessing (c : Conversation) (processing : Bool) : Conversation :=
  { c with screen := { c.screen with processing } }

/-- Adds an entry to the chat log. -/
def say (c : Conversation) (sender : Display.Sender) (text : String) : Conversation :=
  { c with screen := c.screen.post sender text }

/-- Adds an entry of the system to the chat log. -/
def post (c : Conversation) (text : String) : Conversation :=
  c.say .system text

/-- Adds a message to the history. -/
def remember (c : Conversation) (m : Message) : Conversation :=
  { c with history := c.history.push m }

/-- Forgets the history but for the message of the system. -/
def forget (c : Conversation) : Conversation :=
  { c with history := c.history.truncate }

/-- Switches the context of prompts on or off, if there is any. -/
def enableContext (c : Conversation) (enabled : Bool) : Conversation :=
  { c with attachment := c.attachment.map fun a => { a with enabled } }

/-- Notes what the user is looking at now. -/
def setFocus (c : Conversation) (focus : Context.Focus) : Conversation :=
  { c with focus }

/-- A prompt as the provider gets it: with its context, if that is enabled. -/
def enrich (c : Conversation) (prompt : String) : String :=
  match c.attachment with
  | none => prompt
  | some a =>
    if a.enabled then a.source.enrich c.focus a.limits c.disk prompt else prompt

/-! ### Ends of turns -/

/-- What the line of status says after an error of the provider. -/
def errorStatus : String := "Error from AI."

/-- Ends a turn with an error, which the user is told. -/
def fail (c : Conversation) (message : String) : Conversation :=
  (((c.enter .aiError).post message).setStatus errorStatus).setProcessing false

/-- Starts over: forgets the history and waits for a prompt. -/
def reset (c : Conversation) : Conversation :=
  ((((c.forget.enter .idle).setProcessing false).setStatus Display.readyStatus).post
    "Conversation reset.")

end Conversation

end Colloquy
