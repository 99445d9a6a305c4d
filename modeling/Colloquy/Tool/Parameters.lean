import Colloquy.Tool.Basic

/-!
# Parameters of tools

The parameters of a tool are the fields of a record.  From their description come both the shape
that arguments are checked against and the schema that is shown to a provider, a JSON schema with
the titles, the defaults and the remarks on single parameters.
-/

namespace Colloquy.Tool

open Json (Shape Presence)

/-! ### Parameters -/

/-- A parameter of a tool. -/
structure Parameter where
  name : String
  presence : Presence
  shape : Shape
  /-- A remark for the provider. -/
  remark : Option String := none
  /-- A default that the provider is told. -/
  shownDefault : Option Json := none

/-- The parameters of a tool, under a title. -/
structure Parameters where
  title : String
  fields : List Parameter

/-- A parameter as a field of a record. -/
def Parameter.field (p : Parameter) : Json.Field Shape :=
  ⟨p.name, p.presence, p.shape⟩

/-- The shape of the arguments. -/
def Parameters.shape (ps : Parameters) : Shape :=
  .record ps.title (ps.fields.map Parameter.field)

/-- Checks the arguments of a call. -/
def Parameters.check (ps : Parameters) (tool : String) (arguments : Json) :
    Except Failure Json :=
  match ps.shape.conform arguments with
  | .ok j => .ok j
  | .error cause => .error { error := .invalidArguments tool cause.message }

/-! ### Schemas -/

/-- Whether a presence obliges a caller. -/
def isRequired : Presence → Bool
  | .required => true
  | _ => false

/-- The names of the required ones among some fields, in ascending order. -/
def requiredNames (fields : List (String × Presence)) : Json :=
  .ofTexts ((fields.filterMap fun f => if isRequired f.2 then some f.1 else none).mergeSort
    fun a b => decide (a ≤ b))

/-- The members of the schema of a shape. -/
def shapeSchema : Shape → List (String × Json)
  | .text => [("type", .text "string")]
  | .flag => [("type", .text "boolean")]
  | .natural .. => [("type", .text "integer")]
  | .single _ => [("type", .text "number")]
  | .optional .text => [("type", .ofTexts ["string", "null"])]
  | .optional shape => shapeSchema shape
  | .list item => [("items", .ofMembers (shapeSchema item)), ("type", .text "array")]
  | .dictionary => [("type", .text "object")]
  | .choice variants => [("enum", .ofTexts variants), ("type", .text "string")]
  | .record label _ => [("$ref", .text ("#/definitions/" ++ label))]

/-- The members of the schema of a record. -/
def recordSchema (fields : List (Json.Field Shape)) : List (String × Json) :=
  [("properties", .ofMembers (fields.map fun f => (f.name, .ofMembers (shapeSchema f.shape)))),
    ("required", requiredNames (fields.map fun f => (f.name, f.presence))),
    ("type", .text "object")]

/-- The definitions of the records that the items of a parameter refer to. -/
def definitionsOf (p : Parameter) : List (String × Json) :=
  match p.shape with
  | .list (.record label fields) => [(label, .ofMembers (recordSchema fields))]
  | _ => []

/-- The schema of a parameter. -/
def Parameter.schema (p : Parameter) : Json :=
  .ofMembers (shapeSchema p.shape ++
    (p.remark.toList.map fun s => ("description", Json.text s)) ++
    (p.shownDefault.toList.map fun j => ("default", j)))

/-- The schema of the arguments. -/
def Parameters.schema (ps : Parameters) : Json :=
  let definitions := ps.fields.flatMap definitionsOf
  .ofMembers ([("$schema", Json.text "http://json-schema.org/draft-07/schema#"),
    ("title", .text ps.title), ("type", .text "object"),
    ("properties", .ofMembers (ps.fields.map fun p => (p.name, p.schema))),
    ("required", requiredNames (ps.fields.map fun p => (p.name, p.presence)))] ++
    if definitions.isEmpty then [] else [("definitions", .ofMembers definitions)])

end Colloquy.Tool
