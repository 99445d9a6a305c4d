import Colloquy.Conversation.Turn

/-!
# Commands

Commands lead a conversation from outside.  A `Worker` owns a conversation and takes commands from a
queue, one after the other.  When a turn starts it publishes a screen that shows that an answer is
being waited for, and after every command the screen as it is then.  It stops at the first command
to quit: whatever comes later in the queue is never carried out.
-/

namespace Colloquy

/-- What a conversation can be told to do. -/
inductive Command where
  /-- Words of the user, taken for what the state of the conversation suggests. -/
  | submit (text : String)
  /-- A new request. -/
  | prompt (text : String)
  | reset
  | provider (name : String)
  | model (id : String)
  | template (id : String)
  | quit
deriving DecidableEq, Repr

namespace Command

/-- Whether a command takes words of the user to a provider. -/
def isTurn : Command → Bool
  | submit _ | prompt _ => true
  | _ => false

end Command

namespace Conversation

/-- Replaces the registry and tells the user how that went. -/
def switch {α : Type} (c : Conversation) (change : Registry × Except Registry.Error α)
    (success : α → String) : Conversation :=
  let c := { c with registry := change.1 }
  match change.2 with
  | .ok a => c.post (success a)
  | .error e => c.post e.message

/-- Carries out a command. -/
def obey (c : Conversation) : Command → Conversation
  | .submit text => c.submit text
  | .prompt text => c.prompt text
  | .reset => c.reset
  | .provider name => c.switch (c.registry.activate name) fun _ => s!"Switched provider to {name}"
  | .model id => c.switch (c.registry.setModel id) fun m => s!"Switched model to {m.id}"
  | .template id => c.switch (c.registry.setTemplate id) fun _ => s!"Switched template to {id}"
  | .quit => c

/-- Carries out commands in order. -/
def obeyAll (c : Conversation) (commands : List Command) : Conversation :=
  commands.foldl obey c

end Conversation

/-! ### Workers -/

/-- The owner of a conversation. -/
structure Worker where
  conversation : Conversation
  queue : List Command := []
  stopped : Bool := false
  /-- The last screen that was published before a turn, if somebody had the time to see it. -/
  seenBusy : Option Display.Screen := none

namespace Worker

/-- Puts a command at the end of the queue, unless the worker has stopped. -/
def send? (w : Worker) (command : Command) : Option Worker :=
  if w.stopped then none else some { w with queue := w.queue ++ [command] }

/-- The screen that is published before a turn. -/
def busyScreen (w : Worker) : Display.Screen :=
  (w.conversation.setProcessing true).screen

/-- Carries out a command.  The screen from before a turn can be seen only if the turn takes
time. -/
def handle (w : Worker) (command : Command) : Worker :=
  let conversation := w.conversation.obey command
  let waited := decide (w.conversation.elapsed < conversation.elapsed)
  { w with
    conversation
    seenBusy := if command.isTurn && waited then some w.busyScreen else w.seenBusy }

/-- Carries out commands up to the first one to quit. -/
def handleAll (w : Worker) : List Command → Worker
  | [] => w
  | .quit :: _ => { w with stopped := true }
  | command :: rest => (w.handle command).handleAll rest

/-- Empties the queue. -/
def work (w : Worker) : Worker :=
  { w with queue := [], seenBusy := none }.handleAll w.queue

/-- Empties the queue, after which no command is taken any more. -/
def finish (w : Worker) : Worker :=
  { w.work with stopped := true }

end Worker

end Colloquy
