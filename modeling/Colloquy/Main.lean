import Colloquy.Repl.Dialogue

/-!
# The program

`main` leads the dialogue on the standard streams.  What happens in it is decided elsewhere: here the
files that can matter are read into a disk, lines are passed on, and what a line has changed on the
disk is written back to the files.
-/

namespace Colloquy.Program

open Files (Disk Entry Location isHere splitPath)

/-! ### Files -/

/-- The location that a path names if no link is on the way. -/
def locationOf (path : List String) : Location :=
  path.foldl (fun l part =>
    if isHere part then l else if part = ".." then l.dropLast else l ++ [part]) []

/-- The path of a location as a text. -/
def pathText (l : Location) : String :=
  "/" ++ "/".intercalate l

/-- Reads what is at a location into a disk, with what is below it down to a depth.  What cannot be
read is left out. -/
def capture : Nat → Location → Disk → IO Disk
  | depth, l, d => do
    let path := (← IO.currentDir) / pathText l
    try
      match (← path.symlinkMetadata).type with
      | .file => return d.put l (.file (← IO.FS.readBinFile path))
      | .symlink => return d.put l (.link (← IO.FS.realPath path).toString)
      | .dir =>
        match depth with
        | 0 => return d.put l .directory
        | depth + 1 =>
          let mut d := d.put l .directory
          for e in ← path.readDir do
            d ← capture depth (l ++ [e.fileName]) d
          return d
      | .other => return d
    catch _ => return d

/-- Reads what is at a location into a disk, together with the directories on the way to it. -/
def captureWithWay (depth : Nat) (l : Location) (d : Disk) : IO Disk := do
  let mut d := d
  for k in List.range l.length do
    d ← capture 0 (l.take k) d
  capture depth l d

/-- Where a location really is. -/
def realLocation (l : Location) : IO Location := do
  try return locationOf (splitPath (← IO.FS.realPath (pathText l)).toString)
  catch _ => return l

/-- How deep directories are read. -/
def maxDepth : Nat := 100

/-- The paths of the files that settings may come from. -/
def settingsPaths (directory : Location) (file : Option String) : List (List String) :=
  let names := Settings.defaultNames ++ file.toList
  (names.map (Settings.pathFrom directory)).flatMap fun path =>
    path :: (Settings.candidates path).map Prod.fst

/-- Writes to the files what has changed from one disk to another. -/
def writeBack (before after : Disk) : IO Unit := do
  for (l, e) in after.entries do
    if before.find? l != some e then
      match e with
      | .directory => IO.FS.createDirAll (pathText l)
      | .file content => IO.FS.writeBinFile (pathText l) content
      | .link _ => pure ()

/-! ### The environment and the time -/

/-- The variables of the environment. -/
def environment : IO (List (String × String)) := do
  let bytes ← IO.FS.readBinFile "/proc/self/environ"
  return (Text.cutAfter 0 bytes.toList).filterMap fun piece => do
    let text ← (Text.decodeUtf8 (piece.filter (· != 0))).toOption
    let cs := text.toList
    return (String.ofList (cs.takeWhile (· != '=')),
      String.ofList ((cs.dropWhile (· != '=')).drop 1))

/-- A number with two digits. -/
def twoDigits (n : Nat) : String :=
  if n < 10 then s!"0{n}" else toString n

/-- The time of day so many seconds after a midnight. -/
def timeText (seconds : Nat) : String :=
  ":".intercalate ([seconds / 3600 % 24, seconds / 60 % 60, seconds % 60].map twoDigits)

/-- The first number of a text. -/
def firstNumber (cs : List Char) : Nat :=
  (((cs.dropWhile fun c => !c.isDigit).takeWhile Char.isDigit).foldl
    fun n c => n * 10 + (c.toNat - '0'.toNat)) 0

/-- The time of day. -/
def timeOfDay : IO String := do
  let started := (← IO.FS.lines "/proc/stat").toList.find? fun line => line.startsWith "btime "
  let running ← IO.FS.readFile "/proc/uptime"
  return timeText (firstNumber (started.getD "0").toList + firstNumber running.toList)

/-! ### The dialogue -/

/-- Reads a line with its end; gives nothing at the end of the input. -/
partial def readLine (input : IO.FS.Stream) (reversed : List UInt8) : IO (List UInt8) := do
  match (← input.read 1).toList with
  | b :: _ =>
    if b = Repl.lineFeed then return (b :: reversed).reverse else readLine input (b :: reversed)
  | [] => return reversed.reverse

/-- Shows something to the user. -/
def present (shown : List Repl.Output) : IO Unit := do
  let output ← IO.getStdout
  for o in shown do
    output.putStr (o.render (← timeOfDay))
  output.flush

/-- Reports a failure; gives the code that the program ends with. -/
def fail (f : Repl.Failure) : IO UInt32 := do
  IO.eprintln f.report
  return 1

/-- Leads the dialogue to its end; gives the code that the program ends with. -/
partial def lead (d : Repl.Dialogue) : IO UInt32 := do
  match ← readLine (← IO.getStdin) [] with
  | [] => return 0
  | line =>
    let s := d.step line
    writeBack d.conversation.disk s.dialogue.conversation.disk
    present s.output
    match s.progress with
    | .goesOn => lead s.dialogue
    | .finished => return 0
    | .failed f => fail f

end Colloquy.Program

open Colloquy Program in
/-- Runs the program; the first argument names a file with settings. -/
def main (args : List String) : IO UInt32 := do
  let here := locationOf (Files.splitPath (← IO.currentDir).toString)
  -- Only what the settings and the workspace can lead to is taken from the file system.
  let mut disk := Files.Disk.empty
  for path in settingsPaths here args.head? do
    disk ← captureWithWay 0 (locationOf path) disk
  let settings := match Settings.load disk here args.head? (← environment) with
    | .ok s => s
    | .error _ => {}
  let workspace := settings.app.workspace.getD Repl.standardWorkspace
  let named := locationOf (Settings.pathFrom here workspace)
  for l in [named, ← realLocation named] do
    disk ← captureWithWay maxDepth l disk
  let (after, result) := Repl.setUp settings disk here
  writeBack disk after
  match result with
  | .error f => fail f
  | .ok conversation =>
    let dialogue : Repl.Dialogue := { conversation }
    present dialogue.news
    lead dialogue.caughtUp
