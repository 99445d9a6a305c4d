import Colloquy.Display.Screen
import Colloquy.Json.Shape
import Colloquy.Provider.Completion
import Colloquy.Retry.Duration
import Colloquy.Workspace.Basic

/-!
# Tools

A tool is something that a provider may call with a JSON value and that gives an output or a
failure.  On the way it may change files.  A `Toolbox` holds tools by name, in the order in which
the names came up first; a tool that is put in under a name that is taken replaces the other one
at its place.

Main statements: `names_register` and `find?_register` say what putting in a tool does to the order
of the names and to every look-up.
-/

namespace Colloquy.Tool

/-! ### Outcomes -/

/-- Why a call failed. -/
inductive Error where
  | unknownTool (name : String)
  | invalidArguments (tool message : String)
  | executionFailed (reason : String)
  | workspace (error : Workspace.Error)
deriving DecidableEq, Repr

/-- The sentence that reports an error. -/
def Error.message : Error → String
  | unknownTool name => s!"Unknown tool: {name}"
  | invalidArguments tool message => s!"Invalid arguments for {tool}: {message}"
  | executionFailed reason => s!"Tool execution failed: {reason}"
  | workspace e => e.message

/-- What a call gives if it succeeds. -/
structure Output where
  /-- What the provider gets to see. -/
  content : String
  /-- What is added to the chat log. -/
  chat : List Display.ChatEntry := []
  files : List Display.ProjectFile := []
  status : Option String := none
deriving DecidableEq, Repr

/-- What a call gives if it fails: the error, and files whose state has changed nevertheless. -/
structure Failure where
  error : Error
  files : List Display.ProjectFile := []
deriving DecidableEq, Repr

/-- How a call ends. -/
abbrev Outcome := Except Failure Output

end Tool

/-! ### Tools -/

/-- Something that a provider may call. -/
structure Tool where
  name : String
  description : String
  /-- The schema of the arguments. -/
  schema : Json
  /-- How long it takes before the tool acts. -/
  delay : Json → Duration
  /-- What the tool does: the files after it, and how the call ends. -/
  act : Json → Files.Disk → Files.Disk × Tool.Outcome

namespace Tool

/-- The tool as a provider sees it. -/
def definition (t : Tool) : Provider.ToolDefinition :=
  ⟨t.name, t.description, t.schema.render⟩

/-- The schema of a tool without arguments. -/
def noParameters : Json :=
  .ofMembers [("type", .text "object"), ("properties", .object []), ("required", .array [])]

/-! ### Toolboxes -/

/-- Tools by name. -/
structure Toolbox where
  tools : List Tool

namespace Toolbox

/-- No tools. -/
def empty : Toolbox := ⟨[]⟩

/-- A tool put among others: at the place of the one with its name, or at the end. -/
def place (t : Tool) : List Tool → List Tool
  | [] => [t]
  | u :: rest => if u.name = t.name then t :: rest else u :: place t rest

/-- Puts in a tool. -/
def register (b : Toolbox) (t : Tool) : Toolbox := ⟨place t b.tools⟩

/-- The tool with a name. -/
def find? (b : Toolbox) (name : String) : Option Tool :=
  b.tools.find? fun t => t.name == name

/-- The names in order. -/
def names (b : Toolbox) : List String := b.tools.map Tool.name

/-- The tools as a provider sees them. -/
def definitions (b : Toolbox) : List Provider.ToolDefinition := b.tools.map definition

/-- Puts in several tools. -/
def registerAll (b : Toolbox) (ts : List Tool) : Toolbox := ts.foldl register b

theorem map_name_place (t : Tool) (ts : List Tool) :
    (place t ts).map Tool.name =
      if t.name ∈ ts.map Tool.name then ts.map Tool.name else ts.map Tool.name ++ [t.name] := by
  induction ts with
  | nil => simp [place]
  | cons u rest ih =>
    rw [place]
    split
    · next h => simp [h]
    · next h =>
      have h : t.name ≠ u.name := fun hu => h hu.symm
      simp only [List.map_cons, ih, List.mem_cons, h, false_or]
      split <;> simp

/-- A name that is new goes to the end, and a name that is known stays where it is. -/
theorem names_register (b : Toolbox) (t : Tool) :
    (b.register t).names = if t.name ∈ b.names then b.names else b.names ++ [t.name] :=
  map_name_place t b.tools

theorem find?_place (t : Tool) (name : String) (ts : List Tool) :
    (place t ts).find? (fun u => u.name == name) =
      if t.name = name then some t else ts.find? fun u => u.name == name := by
  induction ts with
  | nil => by_cases h : t.name = name <;> simp [place, h]
  | cons u rest ih =>
    rw [place]
    split
    · next hu => by_cases h : t.name = name <;> simp [h, hu]
    · next hu =>
      by_cases hn : u.name = name
      · have h : t.name ≠ name := fun h => hu (hn.trans h.symm)
        simp [hn, h]
      · have hn : (u.name == name) = false := by simpa using hn
        simp [hn, ih]

/-- The tool that was put in last under a name is the one that is found. -/
theorem find?_register (b : Toolbox) (t : Tool) (name : String) :
    (b.register t).find? name = if t.name = name then some t else b.find? name :=
  find?_place t name b.tools

end Toolbox

end Tool

end Colloquy
