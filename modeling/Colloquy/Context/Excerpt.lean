import Colloquy.Context.Basic
import Colloquy.Text.Lines

/-!
# Excerpts from a workspace

The context that a workspace gives: some lines around the cursor of the current file, the beginning
of other open files, and the names of other files.  An open file that cannot be read is left out,
since it may not have been saved yet; the current file has to be readable.
-/

namespace Colloquy.Context

/-! ### Snippets -/

/-- The lines before a window of at most `size` lines around a line, in a file of `count` lines.
Line zero stands for the beginning of the file. -/
def windowStart (count center size : Nat) : Nat :=
  if center = 0 then 0 else min center count - 1 - size / 2

/-- A window of at most `size` lines around a line, unless it would be empty. -/
def window (file : String) (lines : List String) (center size : Nat) : Option Snippet :=
  if lines.isEmpty || size = 0 then none
  else
    let start := windowStart lines.length center size
    let stop := min (start + size) lines.length
    some {
      file
      content := Text.joinLines ((lines.take stop).drop start)
      firstLine := start + 1
      lastLine := stop }

/-- A window of a file in a workspace. -/
def snippet (root : Workspace.Root) (d : Files.Disk) (file : String) (center size : Nat) :
    Except Workspace.Error (Option Snippet) :=
  (root.read d file).map fun content => window file (Text.lines content) center size

/-! ### Gathering -/

/-- Adds snippets of open files until there are enough. -/
def addVisible (root : Workspace.Root) (d : Files.Disk) (current : String) (limits : Limits) :
    List Snippet → List String → List Snippet
  | snippets, [] => snippets
  | snippets, file :: files =>
    if limits.snippets ≤ snippets.length then snippets
    else if file = current then addVisible root d current limits snippets files
    else
      let more := match snippet root d file 0 limits.snippetLines with
        | .ok (some s) => [s]
        | _ => []
      addVisible root d current limits (snippets ++ more) files

/-- The snippet of the current file, if there is a current file. -/
def currentSnippet (root : Workspace.Root) (d : Files.Disk) (focus : Focus) (limits : Limits) :
    Except Workspace.Error (List Snippet) :=
  if focus.file.isEmpty then .ok []
  -- A cursor without a line stands at the first one.
  else (snippet root d focus.file (max focus.line 1) limits.snippetLines).map Option.toList

/-- Gathers the context of a focus. -/
def gather (root : Workspace.Root) (focus : Focus) (limits : Limits) (d : Files.Disk) :
    Except Error Gathered :=
  match currentSnippet root d focus limits, root.list d with
  | .error e, _ => .error (.workspace e)
  | .ok _, .error e => .error (.workspace e)
  | .ok current, .ok files =>
    .ok {
      file := focus.file
      line := focus.line
      column := focus.column
      selection := focus.selection
      visible := focus.visible
      -- The snippet of the current file comes first, whatever the limit on snippets.
      snippets := addVisible root d focus.file limits current focus.visible
      related := (files.filter (· != focus.file)).take limits.relatedFiles }

/-! ### Writing the prompt -/

/-- A snippet as part of a prompt. -/
def Snippet.render (s : Snippet) : String :=
  s!"### {s.file} (lines {s.firstLine}-{s.lastLine})\n```\n{s.content}\n```\n"

/-- A prompt with the context that was gathered for it. -/
def compose (prompt : String) (g : Gathered) : String :=
  if g.isEmpty then prompt
  else
    let current := if g.file.isEmpty then "" else
      s!"Current file: {g.file} (line {g.line}, column {g.column})\n"
    let selection := if g.selection.isEmpty then "" else
      s!"Selected text:\n```\n{g.selection}\n```\n"
    let related := if g.related.isEmpty then "" else
      "Other project files: " ++ ", ".intercalate g.related ++ "\n"
    prompt ++ "\n\n## Relevant code context\n" ++ current ++ selection ++
      String.join (g.snippets.map Snippet.render) ++ related

/-- The context that a workspace gives. -/
def Source.ofWorkspace (root : Workspace.Root) : Source where
  gather focus limits d := (Context.gather root focus limits d).mapError .error
  compose prompt g _ := .ok (Context.compose prompt g)

end Colloquy.Context
