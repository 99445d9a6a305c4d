import Colloquy.Ron.Text

/-!
# RON documents

Values of a RON file and whole files.  A record lists its fields by name between parentheses, with
its own name before them or without; what has no names between its parentheses is a list.  A value
that may be missing is what it holds, or null.  `Document.read?` gives the members of a file that is
a record or a map, or nothing if the text breaks a rule.

Every reader takes a bound on the number of steps; a step reads at least one character.
-/

namespace Colloquy.Ron

/-- Whether a field begins here: a name and a colon. -/
def beginsField (cs : List Char) : Bool :=
  match readName? cs with
  | some (_, rest) => (skip rest).head? == some ':'
  | none => false

/-- The text after a closing character, which a comma may precede. -/
def close? (closing : Char) (cs : List Char) : Option (List Char) :=
  match skip cs with
  | ',' :: rest => expect? (skip rest)
  | rest => expect? rest
where
  /-- The text after the closing character. -/
  expect? : List Char → Option (List Char)
    | c :: rest => if c = closing then some rest else none
    | [] => none

mutual

/-- Reads a value. -/
def readValue? (fuel : Nat) (cs : List Char) : Option (Json × List Char) :=
  match fuel with
  | 0 => none
  | fuel + 1 =>
    if let some rest := readWord? "true" cs then some (.bool true, rest)
    else if let some rest := readWord? "false" cs then some (.bool false, rest)
    else if let some rest := readWord? "None" cs then some (.null, rest)
    else if let some rest := readWord? "inf" cs then some (.number (.double (1.0 / 0.0)), rest)
    else if let some rest := readWord? "-inf" cs then some (.number (.double (-(1.0 / 0.0))), rest)
    else if let some rest := readWord? "NaN" cs then some (.number (.double (0.0 / 0.0)), rest)
    else if let some rest := readWord? "Some" cs then
      match skip rest with
      | '(' :: rest => do
        let (value, rest) ← readValue? fuel (skip rest)
        return (value, ← close? ')' rest)
      | _ => none
    else if let some (_, rest) := readName? cs then
      match skip rest with
      | '(' :: more => readParts? fuel more
      | _ => some (.null, rest)
    else match cs with
      | '(' :: ')' :: rest => some (.null, rest)
      | '(' :: rest => readParts? fuel rest
      | '[' :: rest => (readItems? fuel ']' (skip rest)).map fun x => (.array x.1, x.2)
      | '\x7b' :: rest => (readMembers? fuel [] (skip rest)).map fun x => (.object x.1, x.2)
      | '"' :: rest =>
        (readText? rest (rest.length + 1)).map fun x => (.text (String.ofList x.1), x.2)
      | 'r' :: rest => (readRawText? rest).map fun x => (.text (String.ofList x.1), x.2)
      | c :: rest =>
        if c = '\'' then (readChar? rest).map fun x => (.text (String.singleton x.1), x.2)
        else (readNumber? cs).map fun x => (.number x.1, x.2)
      | [] => none
termination_by structural fuel

/-- Reads what stands between parentheses, after the opening one. -/
def readParts? (fuel : Nat) (cs : List Char) : Option (Json × List Char) :=
  match fuel with
  | 0 => none
  | fuel + 1 =>
    let cs := skip cs
    if beginsField cs then (readFields? fuel [] cs).map fun x => (.object x.1, x.2)
    else (readItems? fuel ')' cs).map fun x => (.array x.1, x.2)
termination_by structural fuel

/-- Reads items up to the closing character and past it. -/
def readItems? (fuel : Nat) (closing : Char) (cs : List Char) : Option (List Json × List Char) :=
  match fuel with
  | 0 => none
  | fuel + 1 =>
    if cs.head? == some closing then some ([], cs.drop 1)
    else do
      let (item, rest) ← readValue? fuel cs
      match skip rest with
      | ',' :: rest =>
        let (items, rest) ← readItems? fuel closing (skip rest)
        return (item :: items, rest)
      | rest => return ([item], ← close? closing rest)
termination_by structural fuel

/-- Reads the members of a map up to its end and adds them to those already read. -/
def readMembers? (fuel : Nat) (members : List (String × Json)) (cs : List Char) :
    Option (List (String × Json) × List Char) :=
  match fuel with
  | 0 => none
  | fuel + 1 =>
    match cs with
    | '\x7d' :: rest => some (members, rest)
    | cs => do
      match ← readValue? fuel cs with
      | (.text name, rest) => readMember? fuel '\x7d' members name rest
      | _ => none
termination_by structural fuel

/-- Reads the fields of a record up to its end and adds them to those already read. -/
def readFields? (fuel : Nat) (members : List (String × Json)) (cs : List Char) :
    Option (List (String × Json) × List Char) :=
  match fuel with
  | 0 => none
  | fuel + 1 =>
    match cs with
    | ')' :: rest => some (members, rest)
    | cs => do
      let (name, rest) ← readName? cs
      readMember? fuel ')' members name rest
termination_by structural fuel

/-- Reads what follows the name of a member, and the other members up to the closing character. -/
def readMember? (fuel : Nat) (closing : Char) (members : List (String × Json)) (name : String)
    (cs : List Char) : Option (List (String × Json) × List Char) :=
  match fuel with
  | 0 => none
  | fuel + 1 =>
    match skip cs with
    | ':' :: rest => do
      let (value, rest) ← readValue? fuel (skip rest)
      let members := insertEntry name value members
      match skip rest with
      | ',' :: rest =>
        if closing = ')' then readFields? fuel members (skip rest)
        else readMembers? fuel members (skip rest)
      | rest => return (members, ← close? closing rest)
    | _ => none
termination_by structural fuel

end

/-! ### Documents -/

/-- What a file may ask for at its beginning. -/
def extensions : List String := ["unwrap_newtypes", "implicit_some", "unwrap_variant_newtypes"]

/-- Reads the names of extensions up to the closing parenthesis, at most `fuel` of them. -/
def readExtensions? (cs : List Char) : Nat → Option (List Char)
  | 0 => none
  | fuel + 1 => do
    let (name, rest) ← readName? (skip cs)
    if extensions.contains name then
      match skip rest with
      | ',' :: rest => if (skip rest).head? == some ')' then close? ')' rest else
        readExtensions? rest fuel
      | rest => close? ')' rest
    else none

/-- Reads words with blanks between them. -/
def readAll? : List String → List Char → Option (List Char)
  | [], cs => some cs
  | word :: words, cs =>
    if word.toList.isPrefixOf cs then readAll? words (skip (cs.drop word.length)) else none

/-- The text after the attributes at its front, at most `fuel` of them. -/
def skipAttributes? (cs : List Char) : Nat → Option (List Char)
  | 0 => some cs
  | fuel + 1 =>
    if cs.head? == some '#' then do
      let rest ← readAll? ["#", "!", "[", "enable", "("] cs
      let rest ← readExtensions? rest (rest.length + 1)
      match skip rest with
      | ']' :: rest => skipAttributes? (skip rest) fuel
      | _ => none
    else some cs

/-- Reads a whole document. -/
def Document.read? (s : String) : Option (List (String × Json)) := do
  let cs ← skipAttributes? (skip s.toList) (s.toList.length + 1)
  let (value, rest) ← readValue? (3 * cs.length + 3) cs
  match value, skip rest with
  | .object members, [] => return members
  | _, _ => none

end Colloquy.Ron
