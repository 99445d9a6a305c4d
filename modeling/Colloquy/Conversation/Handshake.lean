import Colloquy.Conversation.Command

/-!
# Sending a command and waiting

The user's side and the owner of a conversation run beside each other.  Commands go one way, through
a queue; notices come back the other way, through a cell that holds the last one only.  A notice is
a screen, published before a turn, where it says that an answer is being waited for, and after every
command.  The user's side sends one command at a time.  It then waits for notices that it has not
seen until it reads one that does not say so.

`Step` says what each side can do on its own.  Whatever the other side does may come in between: a
notice may be replaced after the wait was told of it and before it is read, and a notice may never
be seen at all.
-/

namespace Colloquy.Handshake

/-! ### Notices -/

/-- What the owner makes known. -/
structure Notice where
  screen : Display.Screen
  /-- How many commands had been carried out. -/
  count : Nat
deriving DecidableEq, Repr

/-- The last notice, and how many came before it. -/
structure Cell where
  notice : Notice
  version : Nat := 0

/-- Replaces the notice. -/
def Cell.publish (k : Cell) (notice : Notice) : Cell := ⟨notice, k.version + 1⟩

/-! ### The two sides -/

/-- What the owner of the conversation is about to do. -/
inductive Stage where
  /-- Take the next command, once there is one. -/
  | free
  /-- Make known that a command is being carried out, if it is a turn. -/
  | taken (command : Command)
  /-- Carry out a command. -/
  | busy (command : Command)
  /-- Publish the screen after a command. -/
  | done
  /-- Nothing any more. -/
  | stopped
deriving DecidableEq, Repr

/-- What the user's side is about to do. -/
inductive Phase where
  /-- Send a command, or leave. -/
  | ready
  /-- Wait for a notice that it has not seen. -/
  | waiting
  /-- Read the last notice, since there was one that it had not seen. -/
  | reading
  /-- Nothing any more. -/
  | gone
deriving DecidableEq, Repr

/-- Both sides, what is between them, and a record of what has happened. -/
structure System where
  conversation : Conversation
  stage : Stage := .free
  queue : List Command := []
  cell : Cell
  phase : Phase := .ready
  /-- The version of the last notice that the user's side has seen or been told of. -/
  seen : Nat := 0
  /-- All commands that were sent. -/
  sent : List Command := []
  /-- All commands that were carried out. -/
  obeyed : List Command := []
  /-- The notices that ended a wait. -/
  reads : List Notice := []

namespace System

/-- Both sides before the first command. -/
def start (c : Conversation) : System where
  conversation := c
  cell := { notice := ⟨c.screen, 0⟩ }

/-- The conversation as its owner makes it known after a command. -/
def current (s : System) : Notice := ⟨s.conversation.screen, s.obeyed.length⟩

/-- The conversation as its owner makes it known before a turn. -/
def lock (s : System) : Notice :=
  ⟨({ conversation := s.conversation } : Worker).busyScreen, s.obeyed.length⟩

/-- Puts a command at the end of the queue. -/
def enqueue (s : System) (command : Command) : System :=
  { s with queue := s.queue ++ [command], sent := s.sent ++ [command] }

/-- Reads the last notice, which ends the wait if it does not say that an answer is waited for. -/
def read (s : System) : System :=
  let notice := s.cell.notice
  { s with
    seen := s.cell.version
    phase := if notice.screen.processing then .waiting else .ready
    reads := if notice.screen.processing then s.reads else s.reads ++ [notice] }

/-- Makes known that a command is being carried out, if it is a turn. -/
def announce (s : System) (command : Command) : System :=
  { s with
    stage := .busy command
    cell := if command.isTurn then s.cell.publish s.lock else s.cell }

/-- Carries out a command. -/
def carryOut (s : System) (command : Command) : System :=
  { s with
    stage := .done
    conversation := s.conversation.obey command
    obeyed := s.obeyed ++ [command] }

/-- Makes the conversation known after a command. -/
def publish (s : System) : System :=
  { s with stage := .free, cell := s.cell.publish s.current }

end System

/-! ### Steps -/

/-- What can happen next. -/
inductive Step (s : System) : System → Prop where
  /-- The user's side sends a command and waits. -/
  | send (command : Command) (hphase : s.phase = .ready) (hopen : s.stage ≠ .stopped) :
      Step s { s.enqueue command with phase := .waiting }
  /-- It sends the command to quit as its last one. -/
  | leave (hphase : s.phase = .ready) (hopen : s.stage ≠ .stopped) :
      Step s { s.enqueue .quit with phase := .gone }
  /-- It breaks off without a word. -/
  | hangUp (hphase : s.phase = .ready) : Step s { s with phase := .gone }
  /-- After a command to quit anybody may go on to send commands. -/
  | pile (command : Command) (hquit : .quit ∈ s.sent) (hopen : s.stage ≠ .stopped) :
      Step s (s.enqueue command)
  /-- The wait is told that there is a notice that has not been seen. -/
  | wake (hphase : s.phase = .waiting) (hnew : s.seen ≠ s.cell.version) :
      Step s { s with phase := .reading, seen := s.cell.version }
  /-- The last notice is read. -/
  | read (hphase : s.phase = .reading) : Step s s.read
  /-- The wait fails, since there will not be another notice. -/
  | giveUp (hphase : s.phase = .waiting) (hold : s.seen = s.cell.version)
      (hstage : s.stage = .stopped) : Step s { s with phase := .gone }
  /-- The owner takes a command. -/
  | take (command : Command) (rest : List Command) (hstage : s.stage = .free)
      (hqueue : s.queue = command :: rest) (hquit : command ≠ .quit) :
      Step s { s with stage := .taken command, queue := rest }
  /-- The owner takes the command to quit. -/
  | quit (rest : List Command) (hstage : s.stage = .free) (hqueue : s.queue = .quit :: rest) :
      Step s { s with stage := .stopped, queue := rest }
  /-- The owner stops since nobody is there to send a command. -/
  | close (hphase : s.phase = .gone) (hstage : s.stage = .free) (hqueue : s.queue = []) :
      Step s { s with stage := .stopped }
  | announce (command : Command) (hstage : s.stage = .taken command) : Step s (s.announce command)
  | carryOut (command : Command) (hstage : s.stage = .busy command) : Step s (s.carryOut command)
  | publish (hstage : s.stage = .done) : Step s s.publish

end Colloquy.Handshake
