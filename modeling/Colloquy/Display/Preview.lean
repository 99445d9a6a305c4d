/-!
# Previews of files

The preview of a file is the file itself if it is short.  Of a longer file it is the lines that
start within the first `previewLimit` characters, and a remark that the file goes on.
-/

namespace Colloquy.Display

/-- A file with more characters than this is cut. -/
def previewLimit : Nat := 300

/-- The remark at the end of a preview that is cut. -/
def continuation : String := "\n... (file continues)"

/-- The preview of a text. -/
def preview (content : String) : String :=
  let cs := content.toList
  if cs.length ≤ previewLimit then content
  else
    let rest := cs.drop previewLimit
    let line := if rest.contains '\n' then rest.takeWhile (· ≠ '\n') else []
    String.ofList (cs.take previewLimit ++ line) ++ continuation

end Colloquy.Display
