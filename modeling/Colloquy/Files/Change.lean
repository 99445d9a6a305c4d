import Colloquy.Files.Walk

/-!
# Changing a disk

The operations that create and change entries.  Each gives the disk afterwards together with
whether it went well: an operation in several steps can fail half way, and what it did until then
stays.
-/

namespace Colloquy.Files.Disk

/-- A path without the slashes at its end. -/
def withoutSlash (path : List String) : List String :=
  (path.reverse.dropWhile (· == "")).reverse

/-- Makes one directory; there must be nothing at its path.  A slash at the end of the path means
nothing. -/
def makeDirectory (d : Disk) (path : List String) : Disk × Except SystemError Unit :=
  match refusal? path, d.walk false (withoutSlash path) with
  | some e, _ => (d, .error e)
  | none, .ok (.vacant l name) => (d.put (l ++ [name]) .directory, .ok ())
  | none, .ok (.found _) => (d, .error .fileExists)
  | none, .error e => (d, .error e)

/-- Makes one directory unless the path leads to one. -/
def ensureDirectory (d : Disk) (path : List String) : Disk × Except SystemError Unit :=
  match d.makeDirectory path with
  | (d, .ok ()) => (d, .ok ())
  | (d, .error e) => if d.isDirectory path then (d, .ok ()) else (d, .error e)

/-- Makes the directory at the first of some paths, each of which is above the one before; those
above it are made if they are missing. -/
def ensureUpwards (d : Disk) : List (List String) → Disk × Except SystemError Unit
  | [] => (d, .ok ())
  | path :: above =>
    match d.makeDirectory path with
    | (d, .error .noSuchFile) =>
      match d.ensureUpwards above with
      | (d, .ok ()) => d.ensureDirectory path
      | (d, .error e) => (d, .error e)
    | (d, .ok ()) => (d, .ok ())
    -- What is there already is as good, be it a link to a directory.
    | (d, .error e) => if d.isDirectory path then (d, .ok ()) else (d, .error e)

/-- Makes a directory and those above it that are missing. -/
def ensureDirectories (d : Disk) (path : List String) : Disk × Except SystemError Unit :=
  d.ensureUpwards (ancestors path)

/-- What follows the last name of a path. -/
structure Ending where
  parts : List String
deriving DecidableEq, Repr

/-- Nothing. -/
def Ending.name : Ending := ⟨[]⟩

/-- Whether there are slashes and no dots. -/
def Ending.isSlash (e : Ending) : Bool :=
  !e.parts.isEmpty && e.parts.all (· == "")

/-- Writes a regular file, which is created if there is none.  A path that ends in a slash is the
path of a directory, whether there is one or not. -/
def writeFile (d : Disk) (path : List String) (ending : Ending) (content : ByteArray) :
    Disk × Except SystemError Unit :=
  let whole := path ++ ending.parts
  if ending.isSlash then
    match refusal? whole, d.locate (path.dropLast ++ [""]) with
    | some e, _ => (d, .error e)
    | none, .ok _ => (d, .error .isDirectory)
    | none, .error e => (d, .error e)
  else match d.walk true whole with
    | .ok (.vacant l name) => (d.put (l ++ [name]) (.file content), .ok ())
    -- The walk follows links, so what it ends at is none.
    | .ok (.found l) =>
      match d.find? l with
      | some (.file _) => (d.put l (.file content), .ok ())
      | _ => (d, .error .isDirectory)
    | .error e => (d, .error e)

/-- Makes a symbolic link; there must be nothing at its path. -/
def makeLink (d : Disk) (path : List String) (target : String) :
    Disk × Except SystemError Unit :=
  match d.walk false path with
  | .ok (.vacant l name) => (d.put (l ++ [name]) (.link target), .ok ())
  | .ok (.found _) => (d, .error .fileExists)
  | .error e => (d, .error e)

/-- Removes the entry that a path ends at, with everything in it. -/
def removeEntry (d : Disk) (path : List String) : Disk × Except SystemError Unit :=
  match d.walk false path with
  | .ok (.found l) => (d.remove l, .ok ())
  | .ok (.vacant ..) => (d, .error .noSuchFile)
  | .error e => (d, .error e)

end Colloquy.Files.Disk
