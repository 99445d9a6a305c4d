import Colloquy.Files.Walk
import Colloquy.Ini.Document
import Colloquy.Json.Reader
import Colloquy.Json5.Document
import Colloquy.Ron.Document
import Colloquy.Settings.Basic
import Colloquy.Settings.KeyPath
import Colloquy.Toml.Document
import Colloquy.Yaml.Document

/-!
# Sources of settings

Settings come from files and from the environment.  The file with the defaults, in the directory or
else in the one above it, may be missing; a file that is asked for may not.  The ending of its name
tells the format of a file, and may be left out by whoever asks for it.  The environment counts more
than any file: a variable whose name starts with `MAESTRO__` sets what the rest of its name
says, with two underscores between the parts.

Main statement: `load` puts the sources on top of each other and reads the settings from the result.
-/

namespace Colloquy.Settings

open Files (Disk Location splitPath isHere)

/-- Why there are no settings. -/
inductive LoadError where
  /-- The file that was asked for is not there, or nobody can tell its format. -/
  | noFile (name : String)
  /-- A file breaks the rules of its format. -/
  | badFile (name : String)
  | refused (refusal : Refusal)
deriving DecidableEq, Repr

/-! ### Paths -/

/-- The parts of a path that is given from a directory. -/
def pathFrom (directory : Location) (name : String) : List String :=
  if name.toList.head? == some '/' then splitPath name else directory ++ splitPath name

/-- A path as it is shown: from the directory, as far as that is above it. -/
def shownFrom (directory path : List String) : String :=
  "/".intercalate (go directory (path.filter (!isHere ·)))
where
  /-- Drops the common beginning and goes up for the rest of the directory. -/
  go : List String → List String → List String
    | a :: as, b :: bs => if a = b then go as bs else List.replicate (as.length + 1) ".." ++ b :: bs
    | [], bs => bs
    | as, [] => List.replicate as.length ".."

/-! ### Files -/

/-- The formats of files. -/
inductive FileFormat where
  | toml
  | json
  | yaml
  | ini
  | ron
  | json5
deriving DecidableEq, Repr

/-- The endings of the names of files in a format. -/
def FileFormat.endings : FileFormat → List String
  | toml => ["toml"]
  | json => ["json"]
  | yaml => ["yaml", "yml"]
  | ini => ["ini"]
  | ron => ["ron"]
  | json5 => ["json5"]

/-- All formats. -/
def FileFormat.all : List FileFormat := [toml, json, yaml, ini, ron, json5]

/-- What follows the last point in a name, unless the name starts with that point. -/
def endingOf? (name : String) : Option String :=
  let reversed := name.toList.reverse
  match reversed.dropWhile (· != '.') with
  | '.' :: _ :: _ => some (String.ofList (reversed.takeWhile (· != '.')).reverse)
  | _ => none

/-- The format that a name tells. -/
def formatOf? (name : String) : Option FileFormat :=
  (endingOf? name).bind fun e => FileFormat.all.find? fun f => f.endings.contains e

/-- A path with an ending put to its last part, unless that is the way up. -/
def withEnding (path : List String) (ending : String) : List String :=
  let parts := path.filter (!isHere ·)
  match parts.getLast? with
  | none => []
  | some name => if name = ".." then parts else parts.dropLast ++ [name ++ "." ++ ending]

/-- A path with each of the endings put to it, and the formats that they tell. -/
def candidates (path : List String) : List (List String × FileFormat) :=
  FileFormat.all.flatMap fun f => f.endings.map fun e => (withEnding path e, f)

/-- The file at a path, or the first one at the path with an ending, and its format. -/
def findFile? (d : Disk) (path : List String) : Option (List String × FileFormat) :=
  if d.isFile path then (path.getLast?.bind formatOf?).map fun f => (path, f)
  else (candidates path).find? fun c => d.isFile c.1

/-- The members of a text in a format. -/
def parse? (origin : String) (f : FileFormat) (text : String) : Option (List (String × Setting)) :=
  match f with
  | .toml => (Toml.Document.read? text).map (Setting.ofTomlMembers (some origin))
  | .json =>
    match Json.parse text with
    | .ok (.object ms) => some (Setting.ofJsonMembers (some origin) ms)
    | _ => none
  | .yaml => (Yaml.Document.read? text).map (Setting.ofJsonMembers (some origin))
  | .ini => (Ini.Document.read? text).map (Setting.ofJsonMembers (some origin))
  | .ron => (Ron.Document.read? text).map (Setting.ofJsonMembers (some origin))
  | .json5 => (Json5.Document.read? text).map (Setting.ofJsonMembers (some origin))

/-- Reads a file; gives nothing if there is none. -/
def readFile (d : Disk) (directory path : List String) :
    Except LoadError (Option (List (String × Setting))) :=
  match findFile? d path with
  | none => .ok none
  | some (path, f) =>
    let origin := shownFrom directory path
    match ((d.fileAt? path).bind String.fromUTF8?).bind (parse? origin f) with
    | none => .error (.badFile origin)
    | some ms => .ok (some ms)

/-- The names of the file with the defaults, without the ending. -/
def defaultNames : List String := ["config/default", "../config/default"]

/-- The ending by which the file with the defaults is found. -/
def defaultEnding : String := "toml"

/-- The path of the file with the defaults, without the ending. -/
def defaultPath? (d : Disk) (directory : Location) : Option (List String) :=
  (defaultNames.map (pathFrom directory)).find? fun path =>
    d.leads (withEnding path defaultEnding)

/-- The settings of the file with the defaults. -/
def readDefaults (d : Disk) (directory : Location) :
    Except LoadError (List (String × Setting)) :=
  match defaultPath? d directory with
  | none => .ok []
  | some path => (readFile d directory path).map (·.getD [])

/-- The settings of the file that is asked for, if there is one. -/
def readExplicit (d : Disk) (directory : Location) :
    Option String → Except LoadError (List (String × Setting))
  | none => .ok []
  | some name =>
    match readFile d directory (pathFrom directory name) with
    | .ok (some ms) => .ok ms
    | .ok none => .error (.noFile name)
    | .error e => .error e

/-! ### The environment -/

/-- What the names of variables start with, in lower case. -/
def variableStart : List Char := "maestro__".toList

/-- The name of a source that is no file. -/
def environmentName : String := "the environment"

/-- A text with a point for every two underscores. -/
def pointed : List Char → List Char
  | '_' :: '_' :: cs => '.' :: pointed cs
  | c :: cs => c :: pointed cs
  | [] => []

/-- The key that a variable sets. -/
def keyOfVariable? (name : String) : Option String :=
  let cs := (Text.lowercase name).toList
  if variableStart.isPrefixOf cs then
    some (String.ofList (pointed (cs.drop variableStart.length)))
  else none

/-- The value that a text spells: a flag, a whole number, a float, or else the text itself. -/
def spelled (text : String) : Scalar :=
  let word := Text.lowercase text
  if word = "true" then .flag true
  else if word = "false" then .flag false
  else match (Decimal.readInteger? text).filter fun n =>
      -(Nat.pow 2 63 : Int) ≤ n && n < Nat.pow 2 63 with
    | some n => .whole n
    | none =>
      match Decimal.readDouble? text with
      | some x => .real x
      | none => .text text

/-- The settings of the environment, in ascending order of their keys. -/
def readEnvironment (environment : List (String × String)) : List (String × Setting) :=
  (Dictionary.ofList (environment.filterMap fun v =>
    (keyOfVariable? v.1).map fun key =>
      (key, Setting.scalar (some environmentName) (spelled v.2)))).entries

/-! ### All sources -/

/-- The settings of a source put on top of a tree. -/
def putSource (tree : Setting) (source : List (String × Setting)) : Setting :=
  source.foldl (fun tree s => tree.putKey s.1 s.2) tree

/-- The settings of a program that is started in a directory, perhaps with the name of a file. -/
def load (d : Disk) (directory : Location) (file : Option String)
    (environment : List (String × String)) : Except LoadError Settings := do
  let defaults ← readDefaults d directory
  let explicit ← readExplicit d directory file
  let tree := [defaults, explicit, readEnvironment environment].foldl putSource Setting.empty
  (read tree).mapError .refused

end Colloquy.Settings
