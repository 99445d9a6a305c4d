import Colloquy.Json5.Text

/-!
# JSON5 documents

Values of a JSON5 file and whole files.  Lists and objects may end in a comma.  Of members with one
name the last one stays.  `Document.read?` gives the members of a file that is an object, or nothing
if the text breaks a rule.

Every reader takes a bound on the number of steps; a step reads at least one character.
-/

namespace Colloquy.Json5

mutual

/-- Reads a value. -/
def readValue? (fuel : Nat) (cs : List Char) : Option (Json × List Char) :=
  match fuel with
  | 0 => none
  | fuel + 1 =>
    match cs with
    | 'n' :: 'u' :: 'l' :: 'l' :: rest => some (.null, rest)
    | 't' :: 'r' :: 'u' :: 'e' :: rest => some (.bool true, rest)
    | 'f' :: 'a' :: 'l' :: 's' :: 'e' :: rest => some (.bool false, rest)
    | '[' :: rest => (readItems? fuel (skip rest)).map fun x => (.array x.1, x.2)
    | '\x7b' :: rest => (readMembers? fuel [] (skip rest)).map fun x => (.object x.1, x.2)
    | c :: rest =>
      if c = '"' || c = '\'' then
        (readText? c rest (rest.length + 1)).map fun x => (.text (String.ofList x.1), x.2)
      else (readNumber? cs).map fun x => (.number x.1, x.2)
    | [] => none
termination_by structural fuel

/-- Reads the items of a list from the front of one, or the end of the list. -/
def readItems? (fuel : Nat) (cs : List Char) : Option (List Json × List Char) :=
  match fuel with
  | 0 => none
  | fuel + 1 =>
    match cs with
    | ']' :: rest => some ([], rest)
    | cs => do
      let (item, rest) ← readValue? fuel cs
      match skip rest with
      | ',' :: rest =>
        let (items, rest) ← readItems? fuel (skip rest)
        return (item :: items, rest)
      | ']' :: rest => return ([item], rest)
      | _ => none
termination_by structural fuel

/-- Reads the members of an object from the front of one, or the end of the object, and adds them to
those already read. -/
def readMembers? (fuel : Nat) (members : List (String × Json)) (cs : List Char) :
    Option (List (String × Json) × List Char) :=
  match fuel with
  | 0 => none
  | fuel + 1 =>
    match cs with
    | '\x7d' :: rest => some (members, rest)
    | cs => do
      let (name, rest) ← readName? cs
      match skip rest with
      | ':' :: rest =>
        let (value, rest) ← readValue? fuel (skip rest)
        let members := insertEntry name value members
        match skip rest with
        | ',' :: rest => readMembers? fuel members (skip rest)
        | '\x7d' :: rest => return (members, rest)
        | _ => none
      | _ => none
termination_by structural fuel

end

/-- Reads a whole document. -/
def Document.read? (s : String) : Option (List (String × Json)) := do
  let cs := s.toList
  let (value, rest) ← readValue? (2 * cs.length + 2) (skip cs)
  match value, skip rest with
  | .object members, [] => return members
  | _, _ => none

end Colloquy.Json5
