import Colloquy.Files.Change
import Colloquy.Text.Blank

/-!
# Names of files in a workspace

A name is a relative path, written by a person or a model: blanks around it and any number of `./`
in front of it do not count.  A name that starts at the top or that goes up is no name of a
workspace.
-/

namespace Colloquy.Workspace

open Files (isHere splitPath)
open Files.Disk (Ending)

/-- A name taken apart. -/
structure Name where
  /-- The parts of the path up to its last name. -/
  parts : List String
  ending : Ending
deriving DecidableEq, Repr

/-- The name without what does not count in front of it and at its end. -/
def Name.text (n : Name) : String :=
  "/".intercalate n.parts

/-- A text without the `./` in front of it, however many there are. -/
def dropHere : List Char → List Char
  | '.' :: '/' :: rest => dropHere rest
  | cs => cs

/-- Takes a name apart, unless it leaves the workspace. -/
def Name.read? (s : String) : Option Name :=
  let cs := dropHere (Text.trimChars s.toList)
  let parts := splitPath (String.ofList cs)
  if cs.isEmpty || cs.head? = some '/' || parts.contains ".." then none
  else some {
    parts := (parts.reverse.dropWhile isHere).reverse
    ending := ⟨(parts.reverse.takeWhile isHere).reverse⟩ }

end Colloquy.Workspace
