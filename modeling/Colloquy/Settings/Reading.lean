import Colloquy.Decimal.Reading
import Colloquy.Json.Fault
import Colloquy.Retry.Backoff
import Colloquy.Settings.Tree

/-!
# Reading settings

What a program wants to know is a number, a flag or a text, and what a source says is taken for it
as far as that makes sense: a text that spells a number for the number, a number for a flag, a
single value for a text.  A `Refusal` says what could not be taken for what, under which key, and
where it was set.

A section of the settings is a record.  Its fields are given by name, or in order by a list; a
field that is not given keeps its default, and a name that is no field means nothing.
-/

namespace Colloquy.Settings

/-! ### Refusals -/

/-- What a setting turned out to be. -/
inductive Found where
  | unit
  | flag (b : Bool)
  | whole (n : Int)
  | wide (n : Nat)
  | text (s : String)
  | sequence
  | map
deriving DecidableEq, Repr

/-- A found setting in words. -/
def Found.describe : Found → String
  | unit => "unit value"
  | flag b => s!"boolean `{b}`"
  | whole n => s!"64-bit integer `{n}`"
  | wide n => s!"64-bit unsigned integer `{n}`"
  | text s => s!"string {Text.quoted s}"
  | sequence => "sequence"
  | map => "map"

/-- Why settings are refused. -/
inductive Refusal where
  /-- A field is not what it should be. -/
  | field (found : Found) (expected : String) (key : String) (origin : Option String)
  /-- A section is no section. -/
  | section (found : String) (name : String)
deriving DecidableEq, Repr

namespace Refusal

/-- The sentence that reports a refusal. -/
def message : Refusal → String
  | field found expected key origin =>
    let place := if key.isEmpty then "" else s!" for key `{key}`"
    let source := match origin with
      | none => ""
      | some o => s!" in {o}"
    s!"invalid type: {found.describe}, expected {expected}" ++ place ++ source
  | .section found name => s!"invalid type: {found}, expected struct {name}"

/-- A key below a member. -/
def joinKey (name key : String) : String :=
  if key.isEmpty || key.toList.head? == some '[' then name ++ key else name ++ "." ++ key

/-- The refusal of a field, seen from the table around it. -/
def under (name : String) : Refusal → Refusal
  | field found expected key origin => .field found expected (joinKey name key) origin
  | other => other

end Refusal

/-! ### Single values -/

/-- The refusal of a setting where something else is expected. -/
def refuse {α : Type} (s : Setting) (found : Found) (expected : String) : Except Refusal α :=
  .error (.field found expected "" s.origin)

/-- The words that stand for yes, in lower case. -/
def yesWords : List String := ["true", "on", "yes"]

/-- The words that stand for no, in lower case. -/
def noWords : List String := ["false", "off", "no"]

/-- A setting as a flag. -/
def readFlag (s : Setting) : Except Refusal Bool :=
  let expected := "a boolean"
  match s with
  | .scalar _ (.flag b) => .ok b
  | .scalar _ (.whole n) => .ok (n != 0)
  | .scalar _ (.real x) => .ok (x != 0)
  | .scalar _ (.text t) =>
    let word := Text.lowercase t
    if word == "1" || yesWords.contains word then .ok true
    else if word == "0" || noWords.contains word then .ok false
    else refuse s (.text word) expected
  | .scalar _ .nothing => refuse s .unit expected
  | .list .. => refuse s .sequence expected
  | .table .. => refuse s .map expected

/-- The largest number of 64 bits. -/
def maxWide : Nat := Nat.pow 2 64 - 1

/-- A float to the nearest number of 64 bits, a half going up. -/
def roundWide (x : Float) : Nat :=
  if x == 1.0 / 0.0 then maxWide else min maxWide (Retry.floatRound x)

/-- The number of 64 bits that a text spells. -/
def spelledWide? (t : String) : Option Nat :=
  let digits := match t.toList with
    | '+' :: rest => rest
    | cs => cs
  if digits.isEmpty || !digits.all Char.isDigit then none
  else
    let n := Decimal.digitsValue digits
    if n ≤ maxWide then some n else none

/-- A setting as a number of 64 bits without a sign. -/
def readWide (s : Setting) : Except Refusal Nat :=
  let expected := "an integer"
  match s with
  | .scalar _ (.whole n) =>
    if 0 ≤ n then .ok n.toNat else refuse s (.whole n) "an unsigned 64 bit or less integer"
  | .scalar _ (.flag b) => .ok (if b then 1 else 0)
  | .scalar _ (.real x) => .ok (roundWide x)
  | .scalar _ (.text t) =>
    -- Texts are tried as words for yes and no before they are tried as numbers.
    let word := Text.lowercase t
    if yesWords.contains word then .ok 1
    else if noWords.contains word then .ok 0
    else match spelledWide? t with
      | some n => .ok n
      | none => refuse s (.text t) expected
  | .scalar _ .nothing => refuse s .unit expected
  | .list .. => refuse s .sequence expected
  | .table .. => refuse s .map expected

/-- A setting as a number of 64 bits. -/
def read64 (s : Setting) : Except Refusal UInt64 :=
  (readWide s).map UInt64.ofNat

/-- A setting as a number of 32 bits. -/
def read32 (s : Setting) : Except Refusal UInt32 :=
  match readWide s with
  | .error e => .error e
  | .ok n =>
    if n < Nat.pow 2 32 then .ok (UInt32.ofNat n)
    else .error (.field (.wide n) "an unsigned 32 bit integer" "" none)

/-- A setting as a double. -/
def readDouble (s : Setting) : Except Refusal Float :=
  let expected := "a floating point"
  match s with
  | .scalar _ (.real x) => .ok x
  | .scalar _ (.whole n) => .ok (Float.ofInt n)
  | .scalar _ (.flag b) => .ok (if b then 1 else 0)
  | .scalar _ (.text t) =>
    let word := Text.lowercase t
    if yesWords.contains word then .ok 1
    else if noWords.contains word then .ok 0
    else match Decimal.readDouble? t with
      | some x => .ok x
      | none => refuse s (.text t) expected
  | .scalar _ .nothing => refuse s .unit expected
  | .list .. => refuse s .sequence expected
  | .table .. => refuse s .map expected

/-- A setting as a single. -/
def readSingle (s : Setting) : Except Refusal Float32 :=
  (readDouble s).map Float.toFloat32

/-- A setting as a text. -/
def readText (s : Setting) : Except Refusal String :=
  let expected := "a string"
  match s with
  | .scalar _ (.text t) => .ok t
  | .scalar _ (.flag b) => .ok (toString b)
  | .scalar _ (.whole n) => .ok (String.ofList (Json.integerChars n))
  | .scalar _ (.real x) => .ok (Decimal.Style.plain.write (.ofDouble x))
  | .scalar _ .nothing => refuse s .unit expected
  | .list .. => refuse s .sequence expected
  | .table .. => refuse s .map expected

/-- A setting as a text that may be missing. -/
def readOptionalText (s : Setting) : Except Refusal (Option String) :=
  match s with
  | .scalar _ .nothing => .ok none
  | s => (readText s).map some

/-! ### Sections -/

/-- A field of a section: its name, and how the section is changed by a setting for it. -/
structure Slot (σ : Type) where
  name : String
  read : Setting → σ → Except Refusal σ

/-- A field that is read in some way and then set. -/
def Slot.of {σ α : Type} (name : String) (read : Setting → Except Refusal α)
    (set : σ → α → σ) : Slot σ :=
  ⟨name, fun s r => (read s).map (set r)⟩

/-- Reads the members of a table into a section. -/
def readMembers {σ : Type} (slots : List (Slot σ)) (start : σ) :
    List (String × Setting) → Except Refusal σ
  | [] => .ok start
  | (name, s) :: rest =>
    match slots.find? fun slot => slot.name == name with
    | none => readMembers slots start rest
    | some slot =>
      match slot.read s start with
      | .ok r => readMembers slots r rest
      | .error e => .error (e.under name)

/-- Reads the items of a list into the fields of a section; the number of the first item is
`index`. -/
def readItems {σ : Type} (start : σ) (index : Nat) :
    List (Slot σ) → List Setting → Except Refusal σ
  | slot :: slots, s :: rest =>
    match slot.read s start with
    | .ok r => readItems r (index + 1) slots rest
    | .error e => .error (e.under s!"[{index}]")
  | _, _ => .ok start

/-- A single value where a section is expected, in words. -/
def Scalar.describe : Scalar → String
  | .nothing => "unit value"
  | .flag b => (Json.Found.bool b).describe
  | .whole n => (Json.Found.number (.integer n)).describe
  | .real x => s!"floating point `{Decimal.Style.pointed.write (.ofDouble x)}`"
  | .text s => (Json.Found.text s).describe

/-- Reads a section, starting from its defaults. -/
def readSection {σ : Type} (name : String) (slots : List (Slot σ)) (default : σ) :
    Setting → Except Refusal σ
  | .table _ ms => readMembers slots default ms
  | .list _ items => readItems default 0 slots items
  | .scalar _ v => .error (.section v.describe name)

end Colloquy.Settings
