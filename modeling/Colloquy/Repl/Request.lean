import Colloquy.Conversation.Command
import Colloquy.Text.Blank

/-!
# What a line asks for

The user leads the program by lines.  A line that starts with a slash is a request by name, perhaps
with an argument after the first space; any other line is for the conversation.  Blanks around a
line do not count, and a blank line asks for nothing.
-/

namespace Colloquy.Repl

/-- What the user can ask for. -/
inductive Request where
  /-- A command for the conversation. -/
  | command (c : Command)
  /-- The statistics of the retries. -/
  | statistics
  | quit
  /-- Something that nobody knows. -/
  | unknown (line : String)
deriving DecidableEq, Repr

/-- A text before its first space, and after it. -/
def cutAtSpace (cs : List Char) : List Char × List Char :=
  (cs.takeWhile (· != ' '), (cs.dropWhile (· != ' ')).drop 1)

/-- A request by name that has to have an argument. -/
def withArgument? (name argument : String) : Option Command :=
  if argument.isEmpty then none
  else match name with
    | "/provider" => some (.provider argument)
    | "/model" => some (.model argument)
    | "/template" => some (.template argument)
    | _ => none

/-- The request that a line makes by name. -/
def Request.byName (line : String) : Request :=
  let (name, rest) := cutAtSpace line.toList
  match String.ofList name with
  | "/reset" => .command .reset
  | "/stats" => .statistics
  | "/quit" => .quit
  | "/exit" => .quit
  | name =>
    match withArgument? name (Text.trim (String.ofList rest)) with
    | some c => .command c
    | none => .unknown line

/-- What a line asks for. -/
def Request.read? (line : String) : Option Request :=
  let text := Text.trim line
  match text.toList with
  | [] => none
  | '/' :: _ => some (.byName text)
  | _ => some (.command (.submit text))

end Colloquy.Repl
