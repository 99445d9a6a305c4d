import Colloquy.Decimal.Reading
import Colloquy.Json.Value
import Colloquy.Text.Hex
import Colloquy.Text.Letter

/-!
# JSON5 texts

Blanks, comments, quoted texts, names and numbers of a JSON5 file, each read from the front of a
text.  Texts have quotes of either kind and may go on over a line end that is escaped.  A name needs
no quotes if it is made of letters, digits and the like.  A number may have a sign, may be
hexadecimal without a sign, and may be an infinity or no number.
-/

namespace Colloquy.Json5

/-! ### Between values -/

/-- Whether a character ends a line. -/
def isLineEnd (c : Char) : Bool :=
  c == '\n' || c == '\r' || c == '\u2028' || c == '\u2029'

/-- Whether a character is a blank. -/
def isSpace (c : Char) : Bool :=
  let n := c.toNat
  n == 0x9 || n == 0xB || n == 0xC || n == 0x20 || n == 0xA0 || n == 0xFEFF || n == 0x1680 ||
    (0x2000 ≤ n && n ≤ 0x200A) || n == 0x202F || n == 0x205F || n == 0x3000 || isLineEnd c

/-- The text after the end of a comment in stars. -/
def afterComment? : List Char → Option (List Char)
  | '*' :: '/' :: cs => some cs
  | _ :: cs => afterComment? cs
  | [] => none

/-- The text after the blanks and comments at its front, at most `fuel` comments. -/
def skipBlanks (cs : List Char) : Nat → List Char
  | 0 => cs
  | fuel + 1 =>
    match cs.dropWhile isSpace with
    | '/' :: '/' :: rest => skipBlanks (rest.dropWhile fun c => !isLineEnd c) fuel
    | '/' :: '*' :: rest =>
      match afterComment? rest with
      | some rest => skipBlanks rest fuel
      | none => '/' :: '*' :: rest
    | rest => rest

/-- The text after the blanks and comments at its front. -/
def skip (cs : List Char) : List Char :=
  skipBlanks cs (cs.length + 1)

/-! ### Escapes -/

/-- Reads the character of an escape with four digits; a character beyond the first plane takes two
such escapes. -/
def readWide? (cs : List Char) : Option (Char × List Char) := do
  let (n, rest) ← Text.readHex? 4 cs
  if n < 0xD800 || 0xDBFF < n then return (← Text.charOf? n, rest)
  else match rest with
    | '\\' :: 'u' :: more => do
      let (m, rest) ← Text.readHex? 4 more
      if m < 0xDC00 || 0xDFFF < m then none
      else return (← Text.charOf? (0x10000 + 0x400 * (n - 0xD800) + (m - 0xDC00)), rest)
    | _ => none

/-- Reads the character of an escape, after its backslash; an escaped line end is nothing. -/
def readEscape? : List Char → Option (List Char × List Char)
  | [] => none
  | '\r' :: '\n' :: cs => some ([], cs)
  | 'b' :: cs => some (['\x08'], cs)
  | 'f' :: cs => some (['\x0c'], cs)
  | 'n' :: cs => some (['\n'], cs)
  | 'r' :: cs => some (['\r'], cs)
  | 't' :: cs => some (['\t'], cs)
  | 'v' :: cs => some (['\x0b'], cs)
  | '0' :: cs => some (['\x00'], cs)
  | 'x' :: cs => (Text.readHexChar? 2 cs).map fun x => ([x.1], x.2)
  | 'u' :: cs => (readWide? cs).map fun x => ([x.1], x.2)
  | c :: cs =>
    if isLineEnd c then some ([], cs) else if c.isDigit then none else some ([c], cs)

/-! ### Texts and names -/

/-- Reads a text after its opening quote; `fuel` bounds its characters. -/
def readText? (quote : Char) (cs : List Char) : Nat → Option (List Char × List Char)
  | 0 => none
  | fuel + 1 =>
    match cs with
    | [] => none
    | c :: rest =>
      if c = quote then some ([], rest)
      else if isLineEnd c then none
      else do
        let (piece, rest) ← if c = '\\' then readEscape? rest else some ([c], rest)
        let (s, rest) ← readText? quote rest fuel
        return (piece ++ s, rest)

/-- Whether a character may begin a name. -/
def beginsName (c : Char) : Bool :=
  c == '$' || c == '_' || Text.isLetter c

/-- Reads the characters of a name, at most `fuel` of them. -/
def readNameChars? (first : Bool) (cs : List Char) : Nat → Option (List Char × List Char)
  | 0 => none
  | fuel + 1 =>
    match cs with
    | '\\' :: 'u' :: rest => do
      let (c, rest) ← readWide? rest
      let (s, rest) ← readNameChars? false rest fuel
      return (c :: s, rest)
    | c :: rest =>
      if beginsName c || (!first && Text.isContinuation c) then do
        let (s, rest) ← readNameChars? false rest fuel
        return (c :: s, rest)
      else some ([], cs)
    | [] => some ([], [])

/-- Reads the name of a member, with quotes or without. -/
def readName? (cs : List Char) : Option (String × List Char) :=
  let fuel := cs.length + 1
  let read := match cs with
    | [] => none
    | c :: rest =>
      if c = '"' || c = '\'' then readText? c rest fuel
      else (readNameChars? true cs fuel).filter fun x => !x.1.isEmpty
  read.map fun x => (String.ofList x.1, x.2)

/-! ### Numbers -/

/-- A sign at the front of a text. -/
def splitSign : List Char → List Char × List Char
  | '+' :: cs => (['+'], cs)
  | '-' :: cs => (['-'], cs)
  | cs => ([], cs)

/-- The whole part of a decimal number: it has no zero in front of other digits. -/
def splitWhole : List Char → List Char × List Char
  | '0' :: cs => (['0'], cs)
  | cs => (cs.takeWhile Char.isDigit, cs.dropWhile Char.isDigit)

/-- The point of a decimal number with the digits after it; they may be missing if there are some
before it. -/
def splitFraction (whole : Bool) : List Char → List Char × List Char
  | '.' :: cs =>
    let digits := cs.takeWhile Char.isDigit
    if whole || !digits.isEmpty then ('.' :: digits, cs.dropWhile Char.isDigit)
    else ([], '.' :: cs)
  | cs => ([], cs)

/-- The power of ten of a decimal number, with its mark. -/
def splitPower : List Char → List Char × List Char
  | [] => ([], [])
  | c :: cs =>
    let (sign, rest) := splitSign cs
    let digits := rest.takeWhile Char.isDigit
    if (c = 'e' || c = 'E') && !digits.isEmpty then
      ('e' :: sign ++ digits, rest.dropWhile Char.isDigit)
    else ([], c :: cs)

/-- Whether an integer fits into 64 bits with a sign. -/
def fits (n : Int) : Bool :=
  -(Nat.pow 2 63 : Int) ≤ n && n < Nat.pow 2 63

/-- Reads a decimal number after its sign.  It is an integer if there is neither a point nor a power
of ten, and has to be in range in either case. -/
def readDecimal? (sign : List Char) (cs : List Char) : Option (Number × List Char) :=
  let (whole, rest) := splitWhole cs
  let (fraction, rest) := splitFraction (!whole.isEmpty) rest
  if whole.isEmpty && fraction.isEmpty then none
  else
    let (power, rest) := splitPower rest
    if fraction.isEmpty && power.isEmpty then do
      let n ← (Decimal.readInteger? (String.ofList (sign ++ whole))).filter fits
      return (.integer n, rest)
    else do
      let x ← Decimal.readDouble? (String.ofList (sign ++ whole ++ fraction ++ power))
      if x.isInf then none else return (.double x, rest)

/-- Reads a hexadecimal number after its mark; it has at most 32 bits. -/
def readHexadecimal? (cs : List Char) : Option (Number × List Char) := do
  let n ← Text.hexNumber? (cs.takeWhile Text.isHexDigit)
  if n < Nat.pow 2 32 then return (.integer n, cs.dropWhile Text.isHexDigit) else none

/-- Whether a hexadecimal number begins here. -/
def beginsHexadecimal : List Char → Bool
  | '0' :: x :: c :: _ => (x == 'x' || x == 'X') && Text.isHexDigit c
  | _ => false

/-- Reads a number.  Neither a hexadecimal number nor one in words has a plus sign. -/
def readNumber? (cs : List Char) : Option (Number × List Char) :=
  let (sign, rest) := splitSign cs
  let negative := sign == ['-']
  if beginsHexadecimal rest then
    if sign.isEmpty then readHexadecimal? (rest.drop 2) else none
  else match rest with
    | 'I' :: 'n' :: 'f' :: 'i' :: 'n' :: 'i' :: 't' :: 'y' :: more =>
      if sign == ['+'] then none
      else some (.double (if negative then -(1.0 / 0.0) else 1.0 / 0.0), more)
    | 'N' :: 'a' :: 'N' :: more => if sign == ['+'] then none else some (.double (0.0 / 0.0), more)
    | _ => readDecimal? sign rest

end Colloquy.Json5
