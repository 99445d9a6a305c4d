import Colloquy.Json.ShapeReader

/-!
# Types with a JSON form

A type with a JSON form has a shape, a way to write its values, and a way to take a value of that
shape as one of its own.  `read` reads a text, `write` writes one.
-/

namespace Colloquy

/-- A type whose values have a JSON form. -/
class Wire (α : Type) where
  shape : Json.Shape
  encode : α → Json
  /-- A value in the normal form of the shape as a value of the type. -/
  decode? : Json → Option α

namespace Wire

variable {α : Type} [Wire α]

/-- The compact text of a value. -/
def write (a : α) : String :=
  (encode a).render

/-- Reads a text.  A value of the shape that is no value of the type counts as one of the wrong
type; the instances have none. -/
def read (text : String) : Except Json.Refusal α :=
  match (Wire.shape α).parse text with
  | .error r => .error r
  | .ok j =>
    match decode? j with
    | some a => .ok a
    | none => .error ⟨.invalidType (Json.found j) (Wire.shape α).expectation, 1, 0⟩

end Wire

namespace Json

/-- The entries of an object of texts. -/
def texts? : List (String × Json) → Option (List (String × String))
  | [] => some []
  | (name, .text s) :: rest => (texts? rest).map fun l => (name, s) :: l
  | _ => none

/-- An object of texts as a dictionary. -/
def dictionary? : Json → Option (Dictionary String)
  | .object members => (texts? members).map Dictionary.ofList
  | _ => none

/-- A text or null. -/
def optionalText? : Json → Option (Option String)
  | .null => some none
  | .text s => some (some s)
  | _ => none

/-- A text or null as a value. -/
def ofOptionalText : Option String → Json
  | none => .null
  | some s => .text s

end Json

end Colloquy
