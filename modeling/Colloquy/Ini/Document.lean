import Colloquy.Json.Value
import Colloquy.Text.Blank
import Colloquy.Text.Hex

/-!
# INI documents

A document is a list of pairs of a key and a text, some of them below the header of a section.  A
key ends at the first equals sign or colon, wherever that is; a value ends with its line.  A comment
takes a line of its own and starts with its first character.  A backslash starts an escape
everywhere but in comments.

A value that starts with a quote goes on to the next such quote, over line ends, and then to the
end of that line.  Blanks around a value do not count, unless they are quoted.

Main statement: `Document.read?` gives the pairs as an object of texts, with an object for each
section.  A section that comes up again starts anew.
-/

namespace Colloquy.Ini

/-! ### Texts -/

/-- Reads the character of an escape, after its backslash; an escaped line end is nothing. -/
def readEscape? : List Char → Option (List Char × List Char)
  | [] => some (['\\'], [])
  | '0' :: cs => some (['\x00'], cs)
  | 'a' :: cs => some (['\x07'], cs)
  | 'b' :: cs => some (['\x08'], cs)
  | 't' :: cs => some (['\t'], cs)
  | 'r' :: cs => some (['\r'], cs)
  | 'n' :: cs => some (['\n'], cs)
  | '\n' :: cs => some ([], cs)
  | 'x' :: cs => (Text.readHexChar? 4 cs).map fun x => ([x.1], x.2)
  | c :: cs => some ([c], cs)

/-- Reads a text up to a character that stops it, which stays unread; whether the end of everything
stops it too is up to the caller. `fuel` bounds its characters. -/
def readUntil? (stops : Char → Bool) (endStops : Bool) (cs : List Char) :
    Nat → Option (List Char × List Char)
  | 0 => none
  | fuel + 1 =>
    match cs with
    | [] => if endStops then some ([], []) else none
    | c :: rest =>
      if stops c then some ([], c :: rest)
      else do
        let (piece, rest) ← if c = '\\' then readEscape? rest else some ([c], rest)
        let (s, rest) ← readUntil? stops endStops rest fuel
        return (piece ++ s, rest)

/-- Whether a character ends a line. -/
def isLineEnd (c : Char) : Bool :=
  c == '\n' || c == '\r'

/-- Whether a character stands between a key and its value. -/
def isSeparator (c : Char) : Bool :=
  c == '=' || c == ':'

/-- Reads a value from where it starts, or from where a quoted part of it has ended.  Blanks at its
end do not count, those at its front only after a quoted part; `fuel` bounds the quoted parts. -/
def readValueFrom? (first : Bool) (cs : List Char) : Nat → Option (List Char × List Char)
  | 0 => none
  | fuel + 1 =>
    match cs with
    | [] => some ([], [])
    | c :: rest =>
      if c = '"' || c = '\'' then do
        let (quoted, rest) ← readUntil? (· == c) false rest (rest.length + 1)
        let (more, rest) ← readValueFrom? false (rest.drop 1) fuel
        return (quoted ++ more, rest)
      else do
        let (s, rest) ← readUntil? isLineEnd true (c :: rest) (rest.length + 2)
        return (if first then Text.trimChars s else Text.trimEndChars s, rest)

/-- Reads a value, after the separator. -/
def readValue? (cs : List Char) : Option (String × List Char) :=
  let start := cs.dropWhile fun c => Text.isBlank c && !isLineEnd c
  (readValueFrom? true start (start.length + 1)).map fun x => (String.ofList x.1, x.2)

/-! ### Documents -/

/-- A document in the making. -/
structure Draft where
  members : List (String × Json) := []
  /-- The section that pairs are added to, if there was a header. -/
  current : Option String := none
  /-- The key whose value comes next. -/
  key : Option String := none

/-- The members of an object; whatever is none has no members. -/
def membersOf : Option Json → List (String × Json)
  | some (.object ms) => ms
  | _ => []

/-- Starts a section. -/
def Draft.openSection (d : Draft) (name : String) : Draft :=
  { d with members := insertEntry name (.object []) d.members, current := some name }

/-- Gives the key its value. -/
def Draft.addValue (d : Draft) (key value : String) : Draft :=
  let members := match d.current with
    | none => insertEntry key (.text value) d.members
    | some name =>
      let inner := insertEntry key (.text value) (membersOf (findValue? name d.members))
      insertEntry name (.object inner) d.members
  { d with members, key := none }

/-- Reads the next item of a document, which starts a line or not: a comment, a header, a key, or
the value of the last key. -/
def readItem? (fresh : Bool) (d : Draft) (cs : List Char) : Option (Draft × List Char) :=
  match cs with
  | [] => none
  | c :: rest =>
    if c = ';' || c = '#' then
      if fresh then some (d, rest.dropWhile (· != '\n')) else none
    else if c = '[' then do
      let (name, rest) ← readUntil? (· == ']') false rest (rest.length + 1)
      return (d.openSection (String.ofList (Text.trimChars name)), rest.drop 1)
    else if isSeparator c then do
      let key ← d.key.filter (!·.isEmpty)
      let (value, rest) ← readValue? rest
      return (d.addValue key value, rest)
    else do
      let (name, rest) ← readUntil? isSeparator false (c :: rest) (rest.length + 2)
      return ({ d with key := some (String.ofList (Text.trimChars name)) }, rest)

/-- Reads items up to the end of a text, at most `fuel` of them; `fresh` says whether the text
starts a line. -/
def readItems? (fresh : Bool) (d : Draft) (cs : List Char) : Nat → Option Draft
  | 0 => none
  | fuel + 1 =>
    let blanks := cs.takeWhile Text.isBlank
    let fresh := match blanks.getLast? with
      | some c => c == '\n'
      | none => fresh
    match cs.dropWhile Text.isBlank with
    | [] => some d
    | cs => do
      let (d, rest) ← readItem? fresh d cs
      readItems? false d rest fuel

/-- Reads a whole document. -/
def Document.read? (s : String) : Option (List (String × Json)) :=
  (readItems? true {} s.toList (s.toList.length + 1)).map (·.members)

end Colloquy.Ini
