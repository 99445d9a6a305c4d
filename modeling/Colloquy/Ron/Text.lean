import Colloquy.Decimal.Reading
import Colloquy.Json.Value
import Colloquy.Text.Hex

/-!
# RON texts

Blanks, comments, names, quoted texts and numbers of a RON file, each read from the front of a text.
Comments in stars may hold such comments.  Texts between hash marks know no escapes.  Digits may be
set apart by underscores, and whole numbers may be written in three other bases.
-/

namespace Colloquy.Ron

/-! ### Between values -/

/-- Whether a character is a blank. -/
def isSpace (c : Char) : Bool :=
  c == ' ' || c == '\n' || c == '\t' || c == '\r'

/-- The text after the end of a comment in stars that is `depth` comments deep in another one. -/
def afterComment? (depth : Nat) : List Char → Option (List Char)
  | '*' :: '/' :: cs =>
    match depth with
    | 0 => some cs
    | depth + 1 => afterComment? depth cs
  | '/' :: '*' :: cs => afterComment? (depth + 1) cs
  | _ :: cs => afterComment? depth cs
  | [] => none

/-- The text after the blanks and comments at its front, at most `fuel` comments. -/
def skipBlanks (cs : List Char) : Nat → List Char
  | 0 => cs
  | fuel + 1 =>
    match cs.dropWhile isSpace with
    | '/' :: '/' :: rest => skipBlanks (rest.dropWhile (· != '\n')) fuel
    | '/' :: '*' :: rest =>
      match afterComment? 0 rest with
      | some rest => skipBlanks rest fuel
      | none => '/' :: '*' :: rest
    | rest => rest

/-- The text after the blanks and comments at its front. -/
def skip (cs : List Char) : List Char :=
  skipBlanks cs (cs.length + 1)

/-! ### Names -/

/-- Whether a character may begin a name. -/
def beginsName (c : Char) : Bool :=
  c.isAlpha || c == '_'

/-- Whether a character may go on with a name. -/
def isNameChar (c : Char) : Bool :=
  c.isAlphanum || c == '_'

/-- Whether a character may stand in a name that is marked as one. -/
def isMarkedNameChar (c : Char) : Bool :=
  isNameChar c || c == '.' || c == '+' || c == '-'

/-- The rest of a text after a word at its front, unless a longer name begins here. -/
def readWord? (word : String) (cs : List Char) : Option (List Char) :=
  let cut := word.toList
  if cut.isPrefixOf cs && !(cs.drop cut.length).head?.any isNameChar then some (cs.drop cut.length)
  else none

/-- Reads a name. -/
def readName? (cs : List Char) : Option (String × List Char) :=
  match cs with
  | 'r' :: '"' :: _ => none
  | 'r' :: '#' :: rest =>
    let name := rest.takeWhile isMarkedNameChar
    if name.isEmpty then none
    else some (String.ofList name, rest.dropWhile isMarkedNameChar)
  | c :: _ =>
    if beginsName c then some (String.ofList (cs.takeWhile isNameChar), cs.dropWhile isNameChar)
    else none
  | [] => none

/-! ### Texts -/

/-- Reads the number of a character up to its closing brace. -/
def readBraced? (cs : List Char) : Option (Char × List Char) := do
  let digits := cs.takeWhile Text.isHexDigit
  match cs.dropWhile Text.isHexDigit with
  | '\x7d' :: rest =>
    if digits.isEmpty || 6 < digits.length then none
    else return (← Text.charOf? (← Text.hexNumber? digits), rest)
  | _ => none

/-- Reads the character of an escape, after its backslash. -/
def readEscape? : List Char → Option (Char × List Char)
  | '"' :: cs => some ('"', cs)
  | '\\' :: cs => some ('\\', cs)
  | 'n' :: cs => some ('\n', cs)
  | 'r' :: cs => some ('\r', cs)
  | 't' :: cs => some ('\t', cs)
  | '0' :: cs => some ('\x00', cs)
  | 'x' :: cs => Text.readHexChar? 2 cs
  | 'u' :: '\x7b' :: cs => readBraced? cs
  | c :: cs => if c = '\'' then some ('\'', cs) else none
  | [] => none

/-- Reads a text after its opening quote; `fuel` bounds its characters. -/
def readText? (cs : List Char) : Nat → Option (List Char × List Char)
  | 0 => none
  | fuel + 1 =>
    match cs with
    | [] => none
    | '"' :: rest => some ([], rest)
    | c :: rest => do
      let (c, rest) ← if c = '\\' then readEscape? rest else some (c, rest)
      let (s, rest) ← readText? rest fuel
      return (c :: s, rest)

/-- Reads a text without escapes up to an ending. -/
def readUpTo? (ending : List Char) : List Char → Option (List Char × List Char)
  | [] => none
  | c :: cs =>
    if ending.isPrefixOf (c :: cs) then some ([], (c :: cs).drop ending.length)
    else (readUpTo? ending cs).map fun x => (c :: x.1, x.2)

/-- Reads a text between hash marks, after the letter in front of them. -/
def readRawText? (cs : List Char) : Option (List Char × List Char) :=
  let hashes := cs.takeWhile (· == '#')
  match cs.dropWhile (· == '#') with
  | '"' :: rest => readUpTo? ('"' :: hashes) rest
  | _ => none

/-- Reads a character after its opening quote. -/
def readChar? (cs : List Char) : Option (Char × List Char) := do
  let (c, rest) ← match cs with
    | [] => none
    | c :: rest => if c = '\\' then readEscape? rest else some (c, rest)
  match rest with
  | q :: rest => if q = '\'' then some (c, rest) else none
  | [] => none

/-! ### Numbers -/

/-- The base that a letter after a zero stands for. -/
def baseOf? (c : Char) : Option Nat :=
  if c = 'x' then some 16 else if c = 'o' then some 8 else if c = 'b' then some 2 else none

/-- A whole number of at most 64 bits; one without a sign that needs all of them is a float. -/
def wholeNumber? (signed : Bool) (n : Int) : Option Number :=
  if -(Nat.pow 2 63 : Int) ≤ n && n < Nat.pow 2 63 then some (.integer n)
  else if !signed && n < Nat.pow 2 64 then some (.double (Float.ofInt n))
  else none

/-- A number with the sign that stands before it, if there is one. -/
def applySign (sign : Option Char) (n : Nat) : Int :=
  if sign == some '-' then -(n : Int) else n

/-- A sign at the front of a text, and the rest. -/
def splitSign : List Char → Option Char × List Char
  | '+' :: cs => (some '+', cs)
  | '-' :: cs => (some '-', cs)
  | cs => (none, cs)

/-- The number that digits in a base spell. -/
def spelled? (base : Nat) (digits : List Char) : Option Nat := do
  let values ← digits.mapM Text.hexDigit?
  if digits.isEmpty || !values.all (· < base) then none
  else return values.foldl (fun n d => base * n + d) 0

/-- Whether a character may stand in a decimal number. -/
def isNumberChar (c : Char) : Bool :=
  c.isDigit || c == '_' || c == '.' || c == 'e' || c == 'E' || c == '+' || c == '-'

/-- Reads the digits of a number in a base, after the mark of the base. -/
def readInBase? (sign : Option Char) (base : Nat) (cs : List Char) : Option (Number × List Char) :=
  let isPart := fun c : Char => Text.isHexDigit c || c == '_'
  if cs.head? == some '_' then none
  else do
    let n ← spelled? base ((cs.takeWhile isPart).filter (· != '_'))
    return (← wholeNumber? sign.isSome (applySign sign n), cs.dropWhile isPart)

/-- Reads a decimal number after its sign.  A whole number that is out of range is a float. -/
def readDecimal? (sign : Option Char) (cs : List Char) : Option (Number × List Char) :=
  let digits := (cs.takeWhile isNumberChar).filter (· != '_')
  let whole := if digits.all Char.isDigit then
      wholeNumber? sign.isSome (applySign sign (Decimal.digitsValue digits))
    else none
  if cs.head? == some '_' || digits.isEmpty then none
  else do
    let n ← whole <|>
      (Decimal.readDouble? (String.ofList (sign.toList ++ digits))).map Number.double
    return (n, cs.dropWhile isNumberChar)

/-- Reads a number. -/
def readNumber? (cs : List Char) : Option (Number × List Char) :=
  let (sign, cs) := splitSign cs
  match cs with
  | '0' :: c :: rest =>
    match baseOf? c with
    | some base => readInBase? sign base rest
    | none => readDecimal? sign cs
  | _ => readDecimal? sign cs

end Colloquy.Ron
