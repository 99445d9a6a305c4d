import Colloquy.Display.Preview
import Colloquy.Tool.Planning

/-!
# File tools

Tools that write, read and list the files of a workspace.  A file that is written is listed as
generated if there was none before and as modified otherwise; a file that could not be written is
listed with an error.
-/

namespace Colloquy.Tool

/-! ### Writing -/

/-- The name under which files are written. -/
def writeFileName : String := "write_file_content"

/-- The parameters of writing a file. -/
def writeParameters : Parameters := {
  title := "WriteFileArgs"
  fields := [
    { name := "filename", presence := .required, shape := .text
      remark := some "工作区内的相对路径，如 src/main.rs" },
    { name := "content", presence := .required, shape := .text, remark := some "完整文件内容" },
    { name := "description", presence := .default .null, shape := .optional .text
      remark := some "文件用途说明", shownDefault := some .null }] }

/-- The output of a call that has written a file. -/
def written (filename content description : String) (status : Display.FileStatus) : Output :=
  let remark := if description.isEmpty then [] else
    [said s!"**File Description**: {description}"]
  { content := s!"File {filename} saved successfully ({content.utf8ByteSize} bytes)"
    chat :=
      [said s!"I've generated the contents for **{filename}**:",
        said ("```\n" ++ Display.preview content ++ "\n```")] ++ remark ++
      [⟨.system, s!"Editor: File {filename} saved successfully."⟩]
    files := [⟨filename, status, description⟩]
    status := some s!"{filename} generated successfully." }

/-- Writes a file and says how that went. -/
def saveFile (root : Workspace.Root) (filename content description : String) (d : Files.Disk) :
    Files.Disk × Outcome :=
  let existed := root.contains d filename
  match root.write d filename content with
  | (d, .error e) => (d, .error { error := .workspace e, files := [⟨filename, .error, ""⟩] })
  | (d, .ok ()) =>
    (d, .ok (written filename content description (if existed then .modified else .generated)))

/-- What the tool that writes files does. -/
def actWrite (root : Workspace.Root) (arguments : Json) (d : Files.Disk) :
    Files.Disk × Outcome :=
  match writeParameters.check writeFileName arguments with
  | .error f => (d, .error f)
  | .ok (.object [("filename", .text filename), ("content", .text content),
      ("description", description)]) =>
    saveFile root filename content (((Json.optionalText? description).join).getD "") d
  | .ok _ => (d, .error { error := .executionFailed writeFileName })

/-- The tool that writes files. -/
def writeFile (root : Workspace.Root) : Tool := {
  name := writeFileName
  description := "Write the complete content of one project file into the workspace. " ++
    "Parent directories are created automatically; an existing file is overwritten."
  schema := writeParameters.schema
  delay := fun _ => .zero
  act := actWrite root }

/-! ### Reading -/

/-- The name under which files are read. -/
def readFileName : String := "read_file_content"

/-- The parameters of reading a file. -/
def readParameters : Parameters := {
  title := "ReadFileArgs"
  fields := [
    { name := "filename", presence := .required, shape := .text
      remark := some "工作区内的相对路径" }] }

/-- What the tool that reads files does. -/
def actRead (root : Workspace.Root) (arguments : Json) (d : Files.Disk) :
    Files.Disk × Outcome :=
  match readParameters.check readFileName arguments with
  | .error f => (d, .error f)
  | .ok (.object [("filename", .text filename)]) =>
    match root.read d filename with
    | .error e => (d, .error { error := .workspace e })
    | .ok content => (d, .ok { content })
  | .ok _ => (d, .error { error := .executionFailed readFileName })

/-- The tool that reads files. -/
def readFile (root : Workspace.Root) : Tool := {
  name := readFileName
  description := "Read the current content of a workspace file."
  schema := readParameters.schema
  delay := fun _ => .zero
  act := actRead root }

/-! ### Listing -/

/-- What the tool that lists files does, whatever the arguments are. -/
def actList (root : Workspace.Root) (_ : Json) (d : Files.Disk) : Files.Disk × Outcome :=
  match root.list d with
  | .error e => (d, .error { error := .workspace e })
  | .ok files =>
    (d, .ok { content :=
      if files.isEmpty then "(workspace is empty)" else "\n".intercalate files })

/-- The tool that lists files; it takes any arguments. -/
def listFiles (root : Workspace.Root) : Tool := {
  name := "list_workspace_files"
  description := "List all files in the workspace, one relative path per line."
  schema := noParameters
  delay := fun _ => .zero
  act := actList root }

/-- The tools of every conversation. -/
def Toolbox.standard (root : Workspace.Root) : Toolbox :=
  Toolbox.empty.registerAll
    [proposePlan, askForClarification, writeFile root, readFile root, listFiles root]

end Colloquy.Tool
