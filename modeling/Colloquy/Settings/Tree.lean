import Colloquy.Data.Dictionary
import Colloquy.Json.Value
import Colloquy.Text.Lowercase
import Colloquy.Toml.Value

/-!
# Trees of settings

A tree of settings holds what the sources say so far: tables of settings by name, whatever the case
of the letters, with lists and single values in them.  Each setting remembers where it comes from.

Sources are put on top of each other setting by setting: a table is merged into the one that is
there, and anything else replaces what was there before.
-/

namespace Colloquy.Settings

/-- A single value. -/
inductive Scalar where
  | nothing
  | flag (b : Bool)
  | whole (n : Int)
  | real (x : Float)
  | text (s : String)
deriving DecidableEq

/-- A setting, with the source that it comes from.  A table that several sources may have added to
comes from none of them. -/
inductive Setting where
  | scalar (origin : Option String) (value : Scalar)
  | list (origin : Option String) (items : List Setting)
  | table (origin : Option String) (members : List (String × Setting))

namespace Setting

/-- A table without settings. -/
def empty : Setting := .table none []

instance : Inhabited Setting := ⟨empty⟩

/-- The source of a setting. -/
def origin : Setting → Option String
  | scalar o _ => o
  | list o _ => o
  | table o _ => o

/-- A setting that is there, but has no value. -/
def missing : Setting := .scalar none .nothing

/-! ### Merging -/

/-- The members of a table; whatever is none has no members. -/
def members : Setting → List (String × Setting)
  | table _ ms => ms
  | _ => []

/-- The member under a name. -/
def member? (s : Setting) (name : String) : Option Setting :=
  findValue? (Text.lowercase name) s.members

/-- Sets the member under a name; whatever is no table becomes one. -/
def setMember (s : Setting) (name : String) (value : Setting) : Setting :=
  match s with
  | table o ms => .table o (insertEntry (Text.lowercase name) value ms)
  | _ => .table none (insertEntry (Text.lowercase name) value [])

/-- A table; whatever is none is replaced by one without members. -/
def asTable : Setting → Setting
  | table o ms => .table o ms
  | _ => empty

mutual

/-- Puts a setting under a name on top of a tree.  A table is merged with what is there. -/
def put (name : String) (tree : Setting) : Setting → Setting
  | .table _ ms => tree.setMember name (putAll ((tree.member? name).getD empty) ms)
  | .scalar o v => tree.setMember name (.scalar o v)
  | .list o items => tree.setMember name (.list o items)
termination_by structural s => s

/-- Puts settings on top of a tree, one after the other. -/
def putAll (tree : Setting) : List (String × Setting) → Setting
  | [] => tree
  | m :: rest => putAll (putMember tree m) rest
termination_by structural l => l

/-- Puts a member of a table on top of a tree. -/
def putMember (tree : Setting) : String × Setting → Setting
  | (name, s) => put name tree s
termination_by structural m => m

end

/-! ### Values of other formats -/

mutual

/-- A TOML value as a setting; a moment is taken as its text. -/
def ofToml (origin : Option String) : Toml.Value → Setting
  | .text s => .scalar origin (.text s)
  | .integer n => .scalar origin (.whole n)
  | .float x => .scalar origin (.real x)
  | .flag b => .scalar origin (.flag b)
  | .moment m => .scalar origin (.text m.render)
  | .array items => .list origin (ofTomls origin items)
  | .table ms => .table origin (ofTomlMembers origin ms)
termination_by structural v => v

/-- TOML values as settings. -/
def ofTomls (origin : Option String) : List Toml.Value → List Setting
  | [] => []
  | v :: rest => ofToml origin v :: ofTomls origin rest
termination_by structural l => l

/-- Members of a TOML table as settings. -/
def ofTomlMembers (origin : Option String) : List (String × Toml.Value) → List (String × Setting)
  | [] => []
  | m :: rest => ofTomlMember origin m :: ofTomlMembers origin rest
termination_by structural l => l

/-- A member of a TOML table as a setting. -/
def ofTomlMember (origin : Option String) : String × Toml.Value → String × Setting
  | (name, v) => (name, ofToml origin v)
termination_by structural m => m

end

/-- A JSON number as a value; an integer that does not fit into 64 bits with a sign is taken as a
float. -/
def ofNumber : Number → Scalar
  | .integer n => if n < Nat.pow 2 63 then .whole n else .real (Float.ofInt n)
  | .double x => .real x
  | .single x => .real x.toFloat

mutual

/-- A JSON value as a setting. -/
def ofJson (origin : Option String) : Json → Setting
  | .null => .scalar origin .nothing
  | .bool b => .scalar origin (.flag b)
  | .number n => .scalar origin (ofNumber n)
  | .text s => .scalar origin (.text s)
  | .array items => .list origin (ofJsons origin items)
  | .object ms => .table origin (ofJsonMembers origin ms)
termination_by structural j => j

/-- JSON values as settings. -/
def ofJsons (origin : Option String) : List Json → List Setting
  | [] => []
  | j :: rest => ofJson origin j :: ofJsons origin rest
termination_by structural l => l

/-- Members of a JSON object as settings. -/
def ofJsonMembers (origin : Option String) : List (String × Json) → List (String × Setting)
  | [] => []
  | m :: rest => ofJsonMember origin m :: ofJsonMembers origin rest
termination_by structural l => l

/-- A member of a JSON object as a setting. -/
def ofJsonMember (origin : Option String) : String × Json → String × Setting
  | (name, j) => (name, ofJson origin j)
termination_by structural m => m

end

end Setting

end Colloquy.Settings
