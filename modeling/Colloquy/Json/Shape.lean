import Colloquy.Json.Fault

/-!
# Shapes of values

A `Shape` says what values a place in a record may hold: a text, a truth value, a number of some
width, a list, a record with named fields and so on.  One description serves three readers: the
reader of texts (`Shape.parse`), the check of a value that has already been read (`Shape.conform`,
here), and the schema that is shown to others.

A value that fits a shape is brought into a normal form by both readers: the fields of a record are
in the order of their declaration, and every field is there.
-/

namespace Colloquy.Json

/-- What happens when a field of a record is left out. -/
inductive Presence where
  /-- The field has to be there. -/
  | required
  /-- The field is null if a record with names leaves it out; a record without names may not. -/
  | nullable
  /-- The field has a value of its own if it is left out. -/
  | default (value : Json)

/-- The value of a field that a record with names leaves out. -/
def Presence.absent? : Presence → Option Json
  | .required => none
  | .nullable => some .null
  | .default value => some value

/-- The value of a field that a record without names leaves out at its end. -/
def Presence.missing? : Presence → Option Json
  | .default value => some value
  | _ => none

/-- A field of a record. -/
structure Field (σ : Type) where
  name : String
  presence : Presence
  shape : σ

/-- What values a place may hold. -/
inductive Shape where
  | text
  | flag
  /-- A whole number of so many bits; `label` is how the width is called. -/
  | natural (bits : Nat) (label : String)
  /-- A float in single precision. -/
  | single (label : String)
  | optional (shape : Shape)
  | list (item : Shape)
  /-- A map from texts to texts. -/
  | dictionary
  /-- One of some words. -/
  | choice (variants : List String)
  /-- A record; `label` is how it is called. -/
  | record (label : String) (fields : List (Field Shape))

/-- What a reader expected, in words. -/
def Shape.expectation : Shape → String
  | .text => "a string"
  | .flag => "a boolean"
  | .natural _ label => label
  | .single label => label
  | .optional shape => shape.expectation
  | .list _ => "a sequence"
  | .dictionary => "a map"
  | .choice _ => "string or map"
  | .record label _ => s!"struct {label}"

/-- What a reader of a record without names expected. -/
def recordLength (label : String) (count : Nat) : String :=
  s!"struct {label} with {count} " ++ (if count = 1 then "element" else "elements")

/-- What a value turned out to be. -/
def found : Json → Found
  | .null => .null
  | .bool b => .bool b
  | .number n => .number n
  | .text s => .text s
  | .array _ => .sequence
  | .object _ => .map

/-- The fields of a record in the order of their declaration, given those that were found. -/
def assemble (present : List (String × Json)) : List (Field Shape) →
    Except Cause (List (String × Json))
  | [] => .ok []
  | f :: fields =>
    match findValue? f.name present, f.presence.absent? with
    | some value, _ => (assemble present fields).map fun l => (f.name, value) :: l
    | none, some value => (assemble present fields).map fun l => (f.name, value) :: l
    | none, none => .error (.missingField f.name)

/-- A number as a number of some width. -/
def conformNatural (bits : Nat) (label : String) : Number → Except Cause Json
  | .integer n =>
    if 0 ≤ n && n < Nat.pow 2 bits then .ok (.number (.integer n))
    else .error (.invalidValue (.number (.integer n)) label)
  | n => .error (.invalidType (.number n) label)

/-- A number as a float in single precision. -/
def toSingle : Number → Json
  | .integer n =>
    .number (.single (if n < 0 then -(Float32.ofNat n.natAbs) else Float32.ofNat n.natAbs))
  | .double x => .number (.single x.toFloat32)
  | .single x => .number (.single x)

mutual

/-- A value as a value of a shape. -/
def Shape.conform : Shape → Json → Except Cause Json
  | .text, .text s => .ok (.text s)
  | .flag, .bool b => .ok (.bool b)
  | .natural bits label, .number n => conformNatural bits label n
  | .single _, .number n => .ok (toSingle n)
  | .optional _, .null => .ok .null
  | .optional shape, j => shape.conform j
  | .list item, .array items => (items.mapM item.conform).map .array
  | .dictionary, .object members => (members.mapM textMember).map .object
  | .choice variants, .text s =>
    if variants.contains s then .ok (.text s) else .error (.unknownVariant s variants)
  | .record label fields, .array items =>
    (conformTuple label fields.length items.length 0 fields items).map .object
  | .record _ fields, .object members => do
    let present ← members.mapM fun m => conformNamed fields m.1 m.2
    return .object (← assemble (present.filterMap id) fields)
  | shape, j => .error (.invalidType (found j) shape.expectation)
termination_by structural shape => shape

/-- The value of a member as a value of the field with its name, if there is one. -/
def conformNamed : List (Field Shape) → String → Json → Except Cause (Option (String × Json))
  | [], _, _ => .ok none
  | f :: fields, name, j =>
    if f.name = name then (conformField f j).map fun v => some (name, v)
    else conformNamed fields name j
termination_by structural l => l

/-- A value as a value of a field. -/
def conformField : Field Shape → Json → Except Cause Json
  | ⟨_, _, shape⟩, j => shape.conform j
termination_by structural f => f

/-- Values in the order of the fields, of which `index` have already been taken. -/
def conformTuple (label : String) (count length index : Nat) :
    List (Field Shape) → List Json → Except Cause (List (String × Json))
  | [], [] => .ok []
  | [], _ :: _ => .error (.invalidLength length "fewer elements in array")
  | f :: fields, [] =>
    match f.presence.missing? with
    | some value =>
      (conformTuple label count length (index + 1) fields []).map fun l => (f.name, value) :: l
    | none => .error (.invalidLength index (recordLength label count))
  | f :: fields, j :: items => do
    let value ← conformField f j
    let rest ← conformTuple label count length (index + 1) fields items
    return (f.name, value) :: rest
termination_by structural l => l

/-- A member with a text. -/
def textMember : String × Json → Except Cause (String × Json)
  | (name, .text s) => .ok (name, .text s)
  | (_, j) => .error (.invalidType (found j) "a string")

end

end Colloquy.Json
