import Colloquy.Json.Reader
import Colloquy.Json.Shape

/-!
# Reading texts by shape

`Shape.parse` reads a whole text as a value of a shape.  The text is read only once and from the
front, so the first thing that is wrong is the one that is reported, be it the grammar or the shape.

Members of a record that the shape does not name are skipped.  A record may also be written as a
list of the values of its fields, and one of some words as an object with that word as its only
name and null as the value.
-/

namespace Colloquy.Json

/-- The text after the end of a record that turned out to be wrong: the closing character is read if
it is next. -/
def afterClose (close : Char) (cs : List Char) : List Char :=
  match skipSpace cs with
  | [] => []
  | c :: rest => if c = close then rest else c :: rest

/-- The fault of a value of the wrong type at the front of a text. -/
def wrongType (expected : String) (cs : List Char) : Fault :=
  match cs with
  | 'n' :: rest => word .null (readWord ['u', 'l', 'l'] rest)
  | 't' :: rest => word (.bool true) (readWord ['r', 'u', 'e'] rest)
  | 'f' :: rest => word (.bool false) (readWord ['a', 'l', 's', 'e'] rest)
  | '-' :: rest => number (readNumber true rest)
  | '"' :: rest =>
    match readText rest with
    | .ok (s, rest) => .before (.invalidType (.text (String.ofList s)) expected) rest
    | .error f => f
  | '[' :: rest => .before (.invalidType .sequence expected) ('[' :: rest)
  | '\x7b' :: rest => .before (.invalidType .map expected) ('\x7b' :: rest)
  | c :: rest =>
    if c.isDigit then number (readNumber false (c :: rest)) else .at .expectedValue (c :: rest)
  | [] => .at .expectedValue []
where
  /-- The fault of a word. -/
  word (found : Found) : Except Fault (List Char) → Fault
    | .ok rest => .before (.invalidType found expected) rest
    | .error f => f
  /-- The fault of a number. -/
  number : Except Fault (Number × List Char) → Fault
    | .ok (n, rest) => .before (.invalidType (.number n) expected) rest
    | .error f => f

/-- Reads a number for a place that may refuse it. -/
def readNumberAs (accept : Number → Except Cause Json) (expected : String) (cs : List Char) :
    Except Fault (Json × List Char) :=
  match cs with
  | [] => .error (.at .endInValue [])
  | c :: rest =>
    if c = '-' then check (readNumber true rest)
    else if c.isDigit then check (readNumber false (c :: rest))
    else .error (wrongType expected (c :: rest))
where
  /-- The number if it is accepted. -/
  check : Except Fault (Number × List Char) → Except Fault (Json × List Char)
    | .error f => .error f
    | .ok (n, rest) =>
      match accept n with
      | .ok j => .ok (j, rest)
      | .error cause => .error (.before cause rest)

/-- A text that has been read, if it is one of some words. -/
def knownVariant (variants : List String) (name : String) (rest : List Char) :
    Except Fault (String × List Char) :=
  if variants.contains name then .ok (name, rest)
  else .error (.before (.unknownVariant name variants) rest)

/-- Reads a text after its opening quote as one of some words. -/
def readVariant (variants : List String) (cs : List Char) :
    Except Fault (String × List Char) := do
  let (s, rest) ← readText cs
  knownVariant variants (String.ofList s) rest

/-- Reads one of some words that is written as an object, after the opening brace. -/
def readVariantObject (variants : List String) (cs : List Char) :
    Except Fault (String × List Char) := do
  let (name, rest) ← match ← nextName? true cs with
    | none => .error (.at .expectedValue (skipSpace cs))
    | some (name, rest) => knownVariant variants name rest
  let rest ← match skipSpace (← readColon rest) with
    | [] => .error (.at .endInValue [])
    | 'n' :: rest => readWord ['u', 'l', 'l'] rest
    | other => .error (wrongType "unit" other)
  match skipSpace rest with
  | [] => .error (.before .endInObject [])
  | '\x7d' :: rest => return (name, rest)
  | other => .error (.before .expectedValue other)

/-- Reads the members of a map from texts to texts up to its end and adds them to those already
read. -/
def readTexts (fuel : Nat) (first : Bool) (members : List (String × Json)) (cs : List Char) :
    Except Fault (List (String × Json) × List Char) :=
  match fuel with
  | 0 => .error (.before .tooDeep cs)
  | fuel + 1 => do
    match ← nextName? first cs with
    | none => return (members, cs)
    | some (name, rest) =>
      match skipSpace (← readColon rest) with
      | [] => .error (.at .endInValue [])
      | '"' :: rest =>
        let (s, rest) ← readText rest
        readTexts fuel false (insertEntry name (.text (String.ofList s)) members) rest
      | other => .error (wrongType "a string" other)

mutual

/-- Reads a value of a shape from the front of a text; `depth` is how deep it may still be
nested. -/
def Shape.read (fuel depth : Nat) (shape : Shape) (cs : List Char) :
    Except Fault (Json × List Char) :=
  match fuel with
  | 0 => .error (.before .tooDeep cs)
  | fuel + 1 =>
    match shape, skipSpace cs with
    -- Whether an optional value is there is told by its first character.
    | .optional shape, rest =>
      match rest with
      | 'n' :: more => do return (.null, ← readWord ['u', 'l', 'l'] more)
      | _ => shape.read fuel depth rest
    | _, [] => .error (.at .endInValue [])
    | .text, '"' :: rest => do
      let (s, rest) ← readText rest
      return (.text (String.ofList s), rest)
    | .flag, 't' :: rest => do return (.bool true, ← readWord ['r', 'u', 'e'] rest)
    | .flag, 'f' :: rest => do return (.bool false, ← readWord ['a', 'l', 's', 'e'] rest)
    | .natural bits label, rest => readNumberAs (conformNatural bits label) label rest
    | .single label, rest => readNumberAs (fun n => .ok (toSingle n)) label rest
    | .list item, '[' :: rest =>
      if depth ≤ 1 then .error (.at .tooDeep ('[' :: rest))
      else do
        let (items, rest) ← readShapes fuel (depth - 1) item true rest
        return (.array items, ← closeList rest)
    | .dictionary, '\x7b' :: rest =>
      if depth ≤ 1 then .error (.at .tooDeep ('\x7b' :: rest))
      else do
        let (members, rest) ← readTexts fuel true [] rest
        return (.object members, ← closeObject rest)
    | .choice variants, '"' :: rest => do
      let (name, rest) ← readVariant variants rest
      return (.text name, rest)
    | .choice variants, '\x7b' :: rest =>
      if depth ≤ 1 then .error (.at .tooDeep ('\x7b' :: rest))
      else do
        let (name, rest) ← readVariantObject variants rest
        return (.text name, rest)
    | .choice _, rest => .error (.at .expectedValue rest)
    | .record label fields, '[' :: rest =>
      if depth ≤ 1 then .error (.at .tooDeep ('[' :: rest))
      else do
        let (members, rest) ← readTuple fuel (depth - 1) label fields.length 0 fields rest
        return (.object members, ← closeList rest)
    | .record _ fields, '\x7b' :: rest =>
      if depth ≤ 1 then .error (.at .tooDeep ('\x7b' :: rest))
      else do
        let (present, rest) ← readFields fuel (depth - 1) fields true [] rest
        -- What is missing is reported at the end of the object.
        match assemble present fields with
        | .error cause => .error (.before cause (afterClose '\x7d' rest))
        | .ok members => return (.object members, ← closeObject rest)
    | shape, rest => .error (wrongType shape.expectation rest)
termination_by structural fuel

/-- Reads the items of a list of one shape up to its end. -/
def readShapes (fuel depth : Nat) (item : Shape) (first : Bool) (cs : List Char) :
    Except Fault (List Json × List Char) :=
  match fuel with
  | 0 => .error (.before .tooDeep cs)
  | fuel + 1 => do
    match ← nextItem? first cs with
    | none => return ([], cs)
    | some rest =>
      let (value, rest) ← item.read fuel depth rest
      let (values, rest) ← readShapes fuel depth item false rest
      return (value :: values, rest)
termination_by structural fuel

/-- Reads the members of a record up to its end; gives the fields that were found, the last one
first. -/
def readFields (fuel depth : Nat) (fields : List (Field Shape)) (first : Bool)
    (present : List (String × Json)) (cs : List Char) :
    Except Fault (List (String × Json) × List Char) :=
  match fuel with
  | 0 => .error (.before .tooDeep cs)
  | fuel + 1 => do
    match ← nextName? first cs with
    | none => return (present, cs)
    | some (name, rest) =>
      match fields.find? (·.name == name) with
      | none => readFields fuel depth fields false present (← skipValue fuel (← readColon rest))
      | some f =>
        if (findValue? name present).isSome then
          .error (.before (.duplicateField name) (afterClose '\x7d' rest))
        else
          let (value, rest) ← f.shape.read fuel depth (← readColon rest)
          readFields fuel depth fields false ((name, value) :: present) rest
termination_by structural fuel

/-- Reads a record that is written as a list, up to the end of its fields, of which `index` have
already been read. -/
def readTuple (fuel depth : Nat) (label : String) (count index : Nat)
    (fields : List (Field Shape)) (cs : List Char) :
    Except Fault (List (String × Json) × List Char) :=
  match fuel with
  | 0 => .error (.before .tooDeep cs)
  | fuel + 1 =>
    match fields with
    | [] => .ok ([], cs)
    | f :: fields => do
      match ← nextItem? (index == 0) cs with
      | none =>
        match f.presence.missing? with
        | none => .error (.before (.invalidLength index (recordLength label count))
            (afterClose ']' cs))
        | some value =>
          let (members, rest) ← readTuple fuel depth label count (index + 1) fields cs
          return ((f.name, value) :: members, rest)
      | some rest =>
        let (value, rest) ← f.shape.read fuel depth rest
        let (members, rest) ← readTuple fuel depth label count (index + 1) fields rest
        return ((f.name, value) :: members, rest)
termination_by structural fuel

end

/-- Reads a whole text as a value of a shape.  The number of steps counts the fields of a record
that may be read at the end of a list. -/
def Shape.parse (shape : Shape) (text : String) : Except Refusal Json :=
  (finish (shape.read (steps text.toList + 64) maxDepth text.toList)).mapError (·.place text)

end Colloquy.Json
