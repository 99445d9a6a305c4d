import Colloquy.Text.Hex

/-!
# TOML texts

Blanks, line ends, comments and the four kinds of quoted texts of a TOML file, each read from the
front of a text.  A basic text knows escapes, a literal one does not; a text between three quotes
may hold line ends, of which one right at the beginning does not count.
-/

namespace Colloquy.Toml

/-! ### Between values -/

/-- Whether a character is a blank within a line. -/
def isSpace (c : Char) : Bool :=
  c == ' ' || c == '\t'

/-- The text after the blanks at its front. -/
def skipSpace (cs : List Char) : List Char :=
  cs.dropWhile isSpace

/-- The text after the line end at its front. -/
def readLineEnd? : List Char → Option (List Char)
  | '\n' :: cs => some cs
  | '\r' :: '\n' :: cs => some cs
  | _ => none

/-- Whether a character may stand anywhere inside a line: it is no control but for the tab. -/
def isPlain (c : Char) : Bool :=
  c == '\t' || (0x20 ≤ c.toNat && c.toNat != 0x7F)

/-- The text after the blanks and the comment at its front. -/
def skipComment (cs : List Char) : List Char :=
  match skipSpace cs with
  | '#' :: rest => rest.dropWhile isPlain
  | rest => rest

/-- The next line, if nothing but blanks and a comment is left on this one. -/
def nextLine? (cs : List Char) : Option (List Char) :=
  match skipComment cs with
  | [] => some []
  | rest => readLineEnd? rest

/-- The text after the blanks, comments and line ends at its front, at most `fuel` lines. -/
def skipLines (cs : List Char) : Nat → List Char
  | 0 => cs
  | fuel + 1 =>
    match readLineEnd? (skipComment cs) with
    | some rest => skipLines rest fuel
    | none => skipSpace cs

/-! ### Escapes -/

/-- The character of an escape, after its backslash. -/
def readEscape? : List Char → Option (Char × List Char)
  | 'b' :: cs => some ('\x08', cs)
  | 't' :: cs => some ('\t', cs)
  | 'n' :: cs => some ('\n', cs)
  | 'f' :: cs => some ('\x0c', cs)
  | 'r' :: cs => some ('\r', cs)
  | '"' :: cs => some ('"', cs)
  | '\\' :: cs => some ('\\', cs)
  | 'u' :: cs => Text.readHexChar? 4 cs
  | 'U' :: cs => Text.readHexChar? 8 cs
  | _ => none

/-! ### Quoted texts -/

/-- Reads a basic text after its opening quote; `fuel` bounds its characters. -/
def readBasic? (cs : List Char) : Nat → Option (List Char × List Char)
  | 0 => none
  | fuel + 1 =>
    match cs with
    | '"' :: rest => some ([], rest)
    | '\\' :: rest => do
      let (c, rest) ← readEscape? rest
      let (s, rest) ← readBasic? rest fuel
      return (c :: s, rest)
    | c :: rest =>
      if isPlain c then (readBasic? rest fuel).map fun x => (c :: x.1, x.2) else none
    | [] => none

/-- Reads a literal text after its opening quote. -/
def readLiteral? : List Char → Option (List Char × List Char)
  | [] => none
  | c :: rest =>
    if c = '\'' then some ([], rest)
    else if isPlain c then (readLiteral? rest).map fun x => (c :: x.1, x.2)
    else none

/-- The end of a text between three quotes, if it is here: up to two quotes right before it belong
to the text. -/
def readClosing? (quote : Char) (cs : List Char) : Option (List Char × List Char) :=
  let run := (cs.takeWhile (· == quote)).length
  if run < 3 then none
  else
    let kept := min (run - 3) 2
    some (List.replicate kept quote, cs.drop (kept + 3))

/-- The text after the blanks and line ends that follow a backslash at the end of a line. -/
def skipFold? (cs : List Char) : Option (List Char) :=
  (readLineEnd? (skipSpace cs)).map skip
where
  /-- Drops blanks and line ends. -/
  skip : List Char → List Char
    | '\r' :: '\n' :: cs => skip cs
    | c :: cs => if isSpace c || c == '\n' then skip cs else c :: cs
    | [] => []

/-- Reads a text of several lines after its opening quotes and a line end right behind them; `fuel`
bounds its characters.  In a basic text, a backslash starts an escape. -/
def readLong? (quote : Char) (basic : Bool) (cs : List Char) :
    Nat → Option (List Char × List Char)
  | 0 => none
  | fuel + 1 =>
    match readClosing? quote cs with
    | some found => some found
    | none =>
      match readLineEnd? cs with
      | some rest => (readLong? quote basic rest fuel).map fun x => ('\n' :: x.1, x.2)
      | none =>
        match cs with
        | [] => none
        | c :: rest =>
          if basic && c == '\\' then
            match skipFold? rest with
            | some rest => readLong? quote basic rest fuel
            | none => do
              let (c, rest) ← readEscape? rest
              let (s, rest) ← readLong? quote basic rest fuel
              return (c :: s, rest)
          else if isPlain c then
            (readLong? quote basic rest fuel).map fun x => (c :: x.1, x.2)
          else none

/-- The text after a line end right at its front. -/
def skipFirstLineEnd (cs : List Char) : List Char :=
  (readLineEnd? cs).getD cs

/-- Reads a quoted text of any kind. -/
def readQuoted? (cs : List Char) : Option (String × List Char) :=
  let fuel := cs.length + 1
  let read := match cs with
    | '"' :: '"' :: '"' :: rest => readLong? '"' true (skipFirstLineEnd rest) fuel
    | '"' :: rest => readBasic? rest fuel
    | '\'' :: '\'' :: '\'' :: rest => readLong? '\'' false (skipFirstLineEnd rest) fuel
    | '\'' :: rest => readLiteral? rest
    | _ => none
  read.map fun x => (String.ofList x.1, x.2)

/-! ### Keys -/

/-- Whether a character may stand in a key without quotes. -/
def isKeyChar (c : Char) : Bool :=
  c.isAlphanum || c == '_' || c == '-'

/-- Reads one part of a key. -/
def readKeyPart? (cs : List Char) : Option (String × List Char) :=
  match cs with
  | '"' :: rest => (readBasic? rest (cs.length + 1)).map fun x => (String.ofList x.1, x.2)
  | '\'' :: rest => (readLiteral? rest).map fun x => (String.ofList x.1, x.2)
  | _ =>
    let name := cs.takeWhile isKeyChar
    if name.isEmpty then none else some (String.ofList name, cs.dropWhile isKeyChar)

/-- Reads the parts of a key with the blanks around them and points between them; there may be at
most `fuel` parts. -/
def readKeyParts? (cs : List Char) : Nat → Option (List String × List Char)
  | 0 => none
  | fuel + 1 => do
    let (part, rest) ← readKeyPart? (skipSpace cs)
    match skipSpace rest with
    | '.' :: rest =>
      let (parts, rest) ← readKeyParts? rest fuel
      return (part :: parts, rest)
    | rest => return ([part], rest)

/-- A key has at most this many parts. -/
def maxKeyParts : Nat := 79

/-- Reads a key with the blanks around it. -/
def readKey? (cs : List Char) : Option (List String × List Char) :=
  readKeyParts? cs maxKeyParts

end Colloquy.Toml
