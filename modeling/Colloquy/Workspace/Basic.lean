import Colloquy.Workspace.Name

/-!
# Workspaces

A workspace is a directory that files are written to and read from by name.  A name is resolved to
a path below the root, and a path is refused if it leads out of the root through a symbolic link:
of the path and the directories above it, up to the root, the first one that exists has to be
really below the root.

Listing a workspace walks down from the root, without going through links or into what has a name
that starts with a dot, and gives the regular files that it meets.  A directory is opened by its
path, so the listing fails if it comes to one whose path is refused.
-/

namespace Colloquy

open Files (Disk Entry Location SystemError ancestors maxPath namesOf refusal?)

namespace Workspace

/-! ### Errors -/

/-- Why an operation on a workspace failed. -/
inductive Error where
  | pathEscape (name : String)
  | notFound (name : String)
  | io (path : String) (cause : SystemError)
  /-- In a listing there is a directory that cannot be opened. -/
  | unlisted (root directory : String) (cause : SystemError)
deriving DecidableEq, Repr

/-- The sentence that reports an error. -/
def Error.message : Error → String
  | pathEscape name => s!"Path escape attempt: {name}"
  | notFound name => s!"File not found: {name}"
  | io path cause => s!"IO error on {path}: {cause.message}"
  | unlisted root directory cause =>
    s!"IO error on {root}: IO error for operation on {directory}: {cause.message}"

/-! ### Resolving names -/

/-- The directory that a workspace is confined to: a path to it, which need not lead anywhere. -/
structure Root where
  path : List String
  /-- Whether the directory was given no name.  Then names lead from where the program runs, but
  there is nothing that the workspace would be confined to. -/
  unnamed : Bool := false
deriving DecidableEq, Repr

/-- The root at a path.  If the path leads somewhere, links on the way are followed once and for
all. -/
def Root.open (d : Disk) (path : List String) : Root :=
  match d.locate path with
  | .ok path => { path }
  | .error _ => { path }

/-- Makes the directory at a path, and those above it that are missing, and takes it for a root. -/
def Root.create (d : Disk) (path : List String) : Disk × Except SystemError Root :=
  match d.ensureDirectories path with
  | (d, .ok ()) => (d, .ok (.open d path))
  | (d, .error e) => (d, .error e)

/-- Where the root really is. -/
def Root.real (r : Root) (d : Disk) : Location :=
  if r.unnamed then [] else match d.locate r.path with
    | .ok l => l
    | .error _ => namesOf r.path

/-- The path of a root as it stands in front of a name, with one slash after it. -/
def Root.front (r : Root) : List String :=
  if r.path.getLast? = some "" then r.path.dropLast else r.path

/-- The path of a name up to its last part that counts. -/
def Root.pathOf (r : Root) (n : Name) : List String :=
  r.front ++ n.parts

/-- The path of a name. -/
def Root.wholePathOf (r : Root) (n : Name) : List String :=
  r.pathOf n ++ n.ending.parts

/-- Whether a path is that of the root or starts with it. -/
def Root.startsPath (r : Root) (path : List String) : Bool :=
  (namesOf r.path).isPrefixOf (namesOf path) && !(r.unnamed && namesOf path == namesOf r.path)

/-- The path of a name and the paths above it, up to the root. -/
def Root.ancestors (r : Root) (n : Name) : List (List String) :=
  (Files.ancestors (r.wholePathOf n)).takeWhile r.startsPath

/-- Whether the path of a name stays below the root.  The real paths that are compared are taken to
be shorter than `maxPath` bytes (see `Disk.locate`). -/
def Root.confines (r : Root) (d : Disk) (n : Name) : Bool :=
  match (r.ancestors n).find? d.hasEntry with
  -- Nothing on the way is there, so there is no link that could lead out.
  | none => true
  | some path =>
    match d.locate path with
    | .ok l => (r.real d).isPrefixOf l
    | .error _ => false

/-- The name that a text stands for in a workspace. -/
def Root.resolve (r : Root) (d : Disk) (name : String) : Except Error Name :=
  match Name.read? name with
  | none => .error (.pathEscape name)
  | some n => if r.confines d n then .ok n else .error (.pathEscape name)

/-! ### Files -/

/-- Writes a file and makes the directories above it that are missing. -/
def Root.write (r : Root) (d : Disk) (name content : String) : Disk × Except Error Unit :=
  match r.resolve d name with
  | .error e => (d, .error e)
  | .ok n =>
    match d.ensureUpwards (Files.ancestors (r.wholePathOf n)).tail with
    | (d, .error e) => (d, .error (.io name e))
    | (d, .ok ()) =>
      match d.writeFile (r.pathOf n) n.ending content.toUTF8 with
      | (d, .error e) => (d, .error (.io name e))
      | (d, .ok ()) => (d, .ok ())

/-- Whether there is a file with a name. -/
def Root.contains (r : Root) (d : Disk) (name : String) : Bool :=
  match r.resolve d name with
  | .error _ => false
  | .ok n => d.isFile (r.wholePathOf n)

/-- Reads a file. -/
def Root.read (r : Root) (d : Disk) (name : String) : Except Error String :=
  match r.resolve d name with
  | .error e => .error e
  | .ok n =>
    match d.fileAt? (r.wholePathOf n) with
    | none => .error (.notFound name)
    | some content =>
      match String.fromUTF8? content with
      | none => .error (.io name .notText)
      | some text => .ok text

/-! ### Listing -/

/-- Whether listings leave a name out. -/
def isHiddenName (name : String) : Bool :=
  name.toList.head? == some '.'

/-- The way from one location down to another. -/
def below? : Location → Location → Option Location
  | [], l => some l
  | a :: as, b :: bs => if a = b then below? as bs else none
  | _ :: _, [] => none

/-- The entries in a directory, each with its name. -/
def entriesIn (d : Disk) (l : Location) : List (String × Entry) :=
  d.entries.filterMap fun e =>
    match below? l e.1 with
    | some [name] => some (name, e.2)
    | _ => none

/-- The text of a path from the top. -/
def pathText (path : List String) : String :=
  "/" ++ "/".intercalate path

/-- The error for a directory, at a way down from the root, that cannot be opened. -/
def Root.unopened (r : Root) (way : Location) (cause : SystemError) : Error :=
  .unlisted (pathText r.path) (pathText (r.front ++ way)) cause

/-- The ways to the regular files that a listing finds through an entry of the directory at a way;
`visit` goes on into directories. -/
def meet (visit : Location → Except Error (List Location)) (way : Location) (x : String × Entry) :
    Except Error (List Location) :=
  if isHiddenName x.1 then .ok []
  else match x.2 with
    | .file _ => .ok [way ++ [x.1]]
    | .link _ => .ok []
    | .directory => visit (way ++ [x.1])

/-- Walks through the directory at a way down from `top` and through those in it, and gives the ways
to the regular files that it meets.  Every directory is opened by its path, which goes on from that
of the root; the first one that cannot be opened ends the walk.  A path gets longer with every name,
so no walk goes deeper than a path may be long. -/
def Root.visit (r : Root) (d : Disk) (top : Location) :
    Nat → Location → Except Error (List Location)
  | 0, way => .error (r.unopened way .nameTooLong)
  | depth + 1, way =>
    match refusal? (r.front ++ way) with
    | some cause => .error (r.unopened way cause)
    | none =>
      ((entriesIn d (top ++ way)).mapM (meet (r.visit d top depth) way)).map List.flatten

/-- Whether a path ends at a link. -/
def endsAtLink (d : Disk) (path : List String) : Bool :=
  match d.walk false path with
  | .ok (.found l) => match d.find? l with
    | some (.link _) => true
    | _ => false
  | _ => false

/-- The ways to the files in a workspace, from where its root really is.  A root that is no directory
but a regular file is the only one in it, unless the path of the root ends at a link. -/
def Root.waysFrom (r : Root) (d : Disk) (top : Location) : Except Error (List Location) :=
  match d.find? top with
  | some .directory => r.visit d top (maxPath + 1) []
  -- The root itself is met, at the way without parts.
  | some (.file _) => .ok (if endsAtLink d r.path then [] else [[]])
  | _ => .ok []

/-- The names of the files in a workspace, in ascending order; none if the root leads nowhere. -/
def Root.list (r : Root) (d : Disk) : Except Error (List String) :=
  if r.unnamed then .ok [] else match d.locate r.path with
    | .error _ => .ok []
    | .ok top => (r.waysFrom d top).map fun ways =>
      (ways.map ("/".intercalate ·)).mergeSort fun a b => decide (a ≤ b)

end Workspace

end Colloquy
