import Colloquy.Files.Disk
import Colloquy.Workspace.Basic

/-!
# Context of a prompt

What a user is looking at while writing a prompt: the file in the editor with the place of the
cursor, a selection, the other open files.  A `Source` gathers excerpts from there and writes them
into the prompt; each of the two steps may fail, and may crash.
-/

namespace Colloquy.Context

/-- What a user is looking at.  Lines are counted from one; line zero stands for no line. -/
structure Focus where
  file : String := ""
  line : Nat := 0
  column : Nat := 0
  selection : String := ""
  visible : List String := []
deriving DecidableEq, Repr

/-- How much is gathered at most. -/
structure Limits where
  snippets : Nat := 5
  snippetLines : Nat := 40
  relatedFiles : Nat := 10
deriving DecidableEq, Repr

/-- Some lines of a file. -/
structure Snippet where
  file : String
  content : String
  firstLine : Nat
  lastLine : Nat
deriving DecidableEq, Repr

/-- What was gathered. -/
structure Gathered where
  file : String := ""
  line : Nat := 0
  column : Nat := 0
  selection : String := ""
  visible : List String := []
  snippets : List Snippet := []
  related : List String := []
deriving DecidableEq, Repr

/-- Whether nothing was gathered that a prompt could show. -/
def Gathered.isEmpty (g : Gathered) : Bool :=
  g.snippets.isEmpty && g.selection.isEmpty && g.related.isEmpty

/-- Why there is no context. -/
inductive Error where
  | workspace (error : Workspace.Error)
  | unavailable (reason : String)
deriving DecidableEq, Repr

/-- The sentence that reports an error. -/
def Error.message : Error → String
  | workspace e => e.message
  | unavailable reason => s!"Context unavailable: {reason}"

/-- How a step can go wrong. -/
inductive Mishap where
  | error (e : Error)
  | crash
deriving DecidableEq, Repr

/-- Where context comes from. -/
structure Source where
  gather : Focus → Limits → Files.Disk → Except Mishap Gathered
  compose : String → Gathered → Limits → Except Mishap String

/-- A prompt with its context; if anything goes wrong, the prompt alone. -/
def Source.enrich (s : Source) (focus : Focus) (limits : Limits) (d : Files.Disk)
    (prompt : String) : String :=
  match s.gather focus limits d with
  | .error _ => prompt
  | .ok g =>
    match s.compose prompt g limits with
    | .error _ => prompt
    | .ok text => text

end Colloquy.Context
