import Colloquy.Files.Disk

/-!
# Walking a path

A path is a list of parts: names, `.` or nothing for the directory itself, and `..` for the one
above it.  Walking a path ends at an entry, or at a name that is free in its directory.  On the way
symbolic links are followed, at most `maxLinks` of them; whether a link at the very end is followed
is up to the caller.

The walk is structural twice over: along the parts, and down the number of links that may still be
followed.
-/

namespace Colloquy.Files

/-! ### Errors -/

/-- Why the file system refuses something. -/
inductive SystemError where
  | noSuchFile
  | fileExists
  | notDirectory
  | isDirectory
  | nameTooLong
  | tooManyLinks
  | nulByte
  | notText
deriving DecidableEq, Repr

/-- The words for an error. -/
def SystemError.message : SystemError → String
  | noSuchFile => "No such file or directory (os error 2)"
  | fileExists => "File exists (os error 17)"
  | notDirectory => "Not a directory (os error 20)"
  | isDirectory => "Is a directory (os error 21)"
  | nameTooLong => "File name too long (os error 36)"
  | tooManyLinks => "Too many levels of symbolic links (os error 40)"
  | nulByte => "file name contained an unexpected NUL byte"
  | notText => "stream did not contain valid UTF-8"

/-! ### Paths -/

/-- The parts of a path between its slashes. -/
def splitPath (s : String) : List String :=
  (split s.toList).map String.ofList
where
  /-- The characters between slashes. -/
  split : List Char → List (List Char)
    | [] => [[]]
    | c :: cs =>
      if c = '/' then [] :: split cs
      else match split cs with
        | [] => [[c]]
        | p :: ps => (c :: p) :: ps

/-- Whether a part stands for the directory itself. -/
def isHere (part : String) : Bool :=
  part == "" || part == "."

/-- The parts of a path that are not there for nothing. -/
def namesOf (path : List String) : List String :=
  path.filter (!isHere ·)

/-- A path that is given from its end, without what follows its last name, and the paths above
it. -/
def upwards : List String → List (List String)
  | [] => [[]]
  | part :: rest => if isHere part then upwards rest else (part :: rest).reverse :: upwards rest

/-- A path and the paths above it: each one is the one before without its last name, and the last
one is the top. -/
def ancestors (path : List String) : List (List String) :=
  path :: (upwards path.reverse).tail

/-- The longest name, in bytes. -/
def maxName : Nat := 255

/-- A path of this many bytes is refused. -/
def maxPath : Nat := 4096

/-- How many links a walk may follow. -/
def maxLinks : Nat := 40

/-- The bytes of a path from the top. -/
def pathSize (path : List String) : Nat :=
  path.foldl (fun n part => n + part.utf8ByteSize + 1) 0

/-- Why a path is refused whatever is on the disk. -/
def refusal? (path : List String) : Option SystemError :=
  if path.any fun part => part.toList.contains '\x00' then some .nulByte
  else if maxPath ≤ pathSize path then some .nameTooLong
  else none

/-! ### The walk -/

/-- Where a walk ends. -/
inductive Place where
  /-- At an entry. -/
  | found (l : Location)
  /-- At a name that is free in a directory. -/
  | vacant (directory : Location) (name : String)
deriving DecidableEq, Repr

namespace Disk

/-- Walks along the parts of a path from a location; `follow` goes on from a link. -/
def walkWith (d : Disk) (followLast : Bool)
    (follow : Location → List String → Except SystemError Place) :
    Location → List String → Except SystemError Place
  | l, [] => .ok (.found l)
  | l, part :: rest =>
    match d.find? l with
    | some .directory =>
      if isHere part then walkWith d followLast follow l rest
      else if part = ".." then walkWith d followLast follow l.dropLast rest
      else if maxName < part.utf8ByteSize then .error .nameTooLong
      else match d.find? (l ++ [part]) with
        -- Only the last part of a path may be free.
        | none => if rest.isEmpty then .ok (.vacant l part) else .error .noSuchFile
        | some (.link target) =>
          if rest.isEmpty && !followLast then .ok (.found (l ++ [part]))
          else follow (if target.toList.head? == some '/' then [] else l) (splitPath target ++ rest)
        | some _ => walkWith d followLast follow (l ++ [part]) rest
    | _ => .error .notDirectory

/-- Walks along the parts of a path from a location, following at most so many links. -/
def walkFrom (d : Disk) (followLast : Bool) :
    Nat → Location → List String → Except SystemError Place
  | 0 => walkWith d followLast fun _ _ => .error .tooManyLinks
  | n + 1 => walkWith d followLast (walkFrom d followLast n)

/-- Walks along the parts of a path from the top. -/
def walk (d : Disk) (followLast : Bool) (path : List String) : Except SystemError Place :=
  match refusal? path with
  | some e => .error e
  | none => walkFrom d followLast maxLinks [] path

/-! ### Looking -/

/-- The location of the entry that a path ends at, with all links followed.

This stands for the real path, too, where one is asked for.  The system gives no real path of
`maxPath` bytes or more, even if the path that leads there is a short one, through links.  It is
assumed here that no real path that is asked for is that long. -/
def locate (d : Disk) (path : List String) : Except SystemError Location :=
  match d.walk true path with
  | .ok (.found l) => .ok l
  | .ok (.vacant ..) => .error .noSuchFile
  | .error e => .error e

/-- Whether a path ends at an entry, be it a link that leads nowhere. -/
def hasEntry (d : Disk) (path : List String) : Bool :=
  match d.walk false path with
  | .ok (.found _) => true
  | _ => false

/-- Whether a path leads to an entry. -/
def leads (d : Disk) (path : List String) : Bool :=
  (d.locate path).isOk

/-- The content of the regular file that a path leads to. -/
def fileAt? (d : Disk) (path : List String) : Option ByteArray :=
  match d.locate path with
  | .ok l =>
    match d.find? l with
    | some (.file content) => some content
    | _ => none
  | .error _ => none

/-- Whether a path leads to a regular file. -/
def isFile (d : Disk) (path : List String) : Bool :=
  (d.fileAt? path).isSome

/-- Whether a path leads to a directory. -/
def isDirectory (d : Disk) (path : List String) : Bool :=
  match d.locate path with
  | .ok l => d.find? l == some .directory
  | .error _ => false

end Disk

end Colloquy.Files
