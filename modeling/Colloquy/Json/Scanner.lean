import Colloquy.Json.Fault
import Colloquy.Text.Hex

/-!
# Reading the tokens of a JSON text

The functions here read one token from the front of a text and return what is left of it: blanks,
the letters of a word, a number, a text between quotes, the separators of lists and objects.

A number is read as an integer if it has neither fraction nor power of ten and fits into 64 bits.
Any other number is a double.  Its digits are collected into a 64 bit significand; digits beyond
that are dropped and only count as powers of ten, and the significand is scaled by a table of
powers in floating point (`scaled`), so the last bit of the double can differ from the correctly
rounded value.
-/

namespace Colloquy.Json

/-! ### Blanks and words -/

/-- Whether a character is a blank between tokens. -/
def isSpace (c : Char) : Bool :=
  c == ' ' || c == '\n' || c == '\t' || c == '\r'

/-- The text after the blanks at its front. -/
def skipSpace (cs : List Char) : List Char :=
  cs.dropWhile isSpace

/-- The rest of a text after the letters of a word. -/
def readWord : List Char → List Char → Except Fault (List Char)
  | [], cs => .ok cs
  | _ :: _, [] => .error (.before .endInValue [])
  | w :: word, c :: cs =>
    if c = w then readWord word cs else .error (.at .expectedIdentifier (c :: cs))

/-! ### Numbers -/

/-- The largest significand. -/
def maxSignificand : Nat := Nat.pow 2 64 - 1

/-- Adds digits to a significand as long as it fits; gives the significand, how many digits were
added, and the text from the first digit that did not fit or from the first other character on. -/
def addDigits (significand count : Nat) : List Char → Nat × Nat × List Char
  | [] => (significand, count, [])
  | c :: cs =>
    if c.isDigit && 10 * significand + (c.toNat - 48) ≤ maxSignificand then
      addDigits (10 * significand + (c.toNat - 48)) (count + 1) cs
    else (significand, count, c :: cs)

/-- Ten to a power of at most 308. -/
def powerOfTen (n : Nat) : Float :=
  Float.ofScientific 1 false n

/-- A float times a power of ten; nothing if that is out of range.  Small powers are divided out in
steps, at most `fuel` of them. -/
def scaled (x : Float) (exponent : Int) : Nat → Option Float
  | 0 => some x
  | fuel + 1 =>
    if exponent.natAbs ≤ 308 then
      if 0 ≤ exponent then
        let y := x * powerOfTen exponent.natAbs
        if y.isInf then none else some y
      else some (x / powerOfTen exponent.natAbs)
    else if x == 0 then some x
    else if 0 ≤ exponent then none
    else scaled (x / powerOfTen 308) (exponent + 308) fuel

/-- The double of a significand and a power of ten, before the rest of the text. -/
def finishDouble (negative : Bool) (significand : Nat) (exponent : Int) (rest : List Char) :
    Except Fault (Number × List Char) :=
  match scaled (Float.ofNat significand) exponent 4 with
  | none => .error (.before .numberOutOfRange rest)
  | some x => .ok (.double (if negative then -x else x), rest)

/-- The greatest power of ten that is counted. -/
def maxPower : Nat := Nat.pow 2 31 - 1

/-- Reads the power of ten after its mark. -/
def readPower (negative : Bool) (significand : Nat) (exponent : Int) (cs : List Char) :
    Except Fault (Number × List Char) :=
  let (negativePower, cs) := match cs with
    | '+' :: rest => (false, rest)
    | '-' :: rest => (true, rest)
    | rest => (false, rest)
  match cs with
  | [] => .error (.before .endInValue [])
  | c :: rest =>
    if c.isDigit then
      let digits := (c :: rest).takeWhile Char.isDigit
      let after := rest.dropWhile Char.isDigit
      let power := digits.foldl (fun n d => 10 * n + (d.toNat - 48)) 0
      if power ≤ maxPower then
        let signed : Int := if negativePower then -(power : Int) else power
        let total : Int := max (-(Nat.pow 2 31 : Int)) (min maxPower (exponent + signed))
        finishDouble negative significand total after
      -- The power is too large to be counted: the number is too large, too, or it is zero.
      else if significand ≠ 0 && !negativePower then
        .error (.before .numberOutOfRange (afterOverflow 0 (c :: rest)))
      else .ok (.double (if negative then -0.0 else 0.0), after)
    else .error (.at .invalidNumber (c :: rest))
where
  /-- The text after the digit at which a power grows beyond what is counted. -/
  afterOverflow (power : Nat) : List Char → List Char
    | [] => []
    | d :: rest =>
      let next := 10 * power + (d.toNat - 48)
      if next ≤ maxPower then afterOverflow next rest else rest

/-- Reads the power of ten of a number, if there is one. -/
def finishNumber (negative : Bool) (significand : Nat) (exponent : Int) (cs : List Char) :
    Except Fault (Number × List Char) :=
  match cs with
  | c :: rest =>
    if c = 'e' || c = 'E' then readPower negative significand exponent rest
    else finishDouble negative significand exponent cs
  | [] => finishDouble negative significand exponent cs

/-- Reads the digits after the point. -/
def readFraction (negative : Bool) (significand : Nat) (exponent : Int) (cs : List Char) :
    Except Fault (Number × List Char) :=
  let (significand, count, rest) := addDigits significand 0 cs
  match rest with
  | c :: _ =>
    if c.isDigit then
      finishNumber negative significand (exponent - count) (rest.dropWhile Char.isDigit)
    else if count = 0 then .error (.at .invalidNumber rest)
    else finishNumber negative significand (exponent - count) rest
  | [] =>
    if count = 0 then .error (.before .endInValue [])
    else finishNumber negative significand (exponent - count) []

/-- Reads what follows the whole digits of a number. -/
def afterWhole (negative : Bool) (significand : Nat) (dropped : Nat) (cs : List Char) :
    Except Fault (Number × List Char) :=
  match cs with
  | '.' :: rest => readFraction negative significand dropped rest
  | 'e' :: rest => readPower negative significand dropped rest
  | 'E' :: rest => readPower negative significand dropped rest
  | rest =>
    if dropped ≠ 0 then finishDouble negative significand dropped rest
    else if negative then
      if significand = 0 || Nat.pow 2 63 < significand then
        .ok (.double (-(Float.ofNat significand)), rest)
      else .ok (.integer (-significand), rest)
    else .ok (.integer significand, rest)

/-- Reads a number after its sign. -/
def readNumber (negative : Bool) (cs : List Char) : Except Fault (Number × List Char) :=
  match cs with
  | [] => .error (.before .endInValue [])
  | c :: rest =>
    -- A zero in front of other digits is refused.
    if c = '0' then
      match rest with
      | d :: _ =>
        if d.isDigit then .error (.at .invalidNumber rest) else afterWhole negative 0 0 rest
      | [] => afterWhole negative 0 0 rest
    else if c.isDigit then
      let (significand, _, after) := addDigits 0 0 cs
      -- Digits beyond what is counted only scale the number.
      let more := after.takeWhile Char.isDigit
      afterWhole negative significand more.length (after.dropWhile Char.isDigit)
    else .error (.at .invalidNumber cs)

/-! ### Texts -/

/-- The value of four hexadecimal digits. -/
def hexValues? (a b c d : Char) : Option Nat :=
  Text.hexNumber? [a, b, c, d]

/-- The fault of an escape that should go on with four hexadecimal digits. -/
def hexFault (cs : List Char) : Fault :=
  if 4 ≤ byteSize cs then ⟨.invalidEscape, byteSize cs - 4⟩ else ⟨.endInText, 0⟩

/-- The character of a short escape. -/
def shortEscape? (c : Char) : Option Char :=
  if c = '"' || c = '\\' || c = '/' then some c
  else if c = 'b' then some '\x08'
  else if c = 'f' then some '\x0c'
  else if c = 'n' then some '\n'
  else if c = 'r' then some '\r'
  else if c = 't' then some '\t'
  else none

/-- The fault of a first half of a pair that no second half follows. -/
def pairFault : List Char → Fault
  | [] => .before .endInText []
  | '\\' :: [] => .before .endInText []
  | '\\' :: rest => .at .endOfHexEscape rest
  | rest => .at .endOfHexEscape rest

/-- Reads a text after its opening quote, up to and with the closing one. -/
def readText : List Char → Except Fault (List Char × List Char)
  | [] => .error (.before .endInText [])
  | '"' :: rest => .ok ([], rest)
  | '\\' :: 'u' :: a :: b :: c :: d :: rest =>
    match hexValues? a b c d with
    | none => .error (hexFault (a :: b :: c :: d :: rest))
    | some n =>
      if 0xDC00 ≤ n && n ≤ 0xDFFF then .error (.before .loneSurrogate rest)
      else if n < 0xD800 || 0xDBFF < n then push (Char.ofNat n) (readText rest)
      -- The first half of a pair: the second one has to follow.
      else match rest with
        | '\\' :: 'u' :: e :: f :: g :: h :: more =>
          match hexValues? e f g h with
          | none => .error (hexFault (e :: f :: g :: h :: more))
          | some m =>
            if m < 0xDC00 || 0xDFFF < m then .error (.before .loneSurrogate more)
            else push (Char.ofNat (0x10000 + 0x400 * (n - 0xD800) + (m - 0xDC00))) (readText more)
        | '\\' :: 'u' :: more => .error (hexFault more)
        | more => .error (pairFault more)
  | '\\' :: 'u' :: rest => .error (hexFault rest)
  | '\\' :: c :: rest =>
    match shortEscape? c with
    | some d => push d (readText rest)
    | none => .error (.at .invalidEscape (c :: rest))
  | '\\' :: [] => .error (.before .endInText [])
  | c :: rest =>
    if c.toNat < 0x20 then .error (.at .controlCharacter (c :: rest))
    else push c (readText rest)
where
  /-- A character in front of a text that is read after it. -/
  push (c : Char) : Except Fault (List Char × List Char) → Except Fault (List Char × List Char)
    | .ok (cs, rest) => .ok (c :: cs, rest)
    | .error f => .error f

/-- Skips a text after its opening quote; escapes are only checked for their form.  A control
character is refused before it is read. -/
def skipText : List Char → Except Fault (List Char)
  | [] => .error (.before .endInText [])
  | '"' :: rest => .ok rest
  | '\\' :: 'u' :: a :: b :: c :: d :: rest =>
    match hexValues? a b c d with
    | none => .error (hexFault (a :: b :: c :: d :: rest))
    | some _ => skipText rest
  | '\\' :: 'u' :: rest => .error (hexFault rest)
  | '\\' :: c :: rest =>
    match shortEscape? c with
    | some _ => skipText rest
    | none => .error (.at .invalidEscape (c :: rest))
  | '\\' :: [] => .error (.before .endInText [])
  | c :: rest =>
    if c.toNat < 0x20 then .error (.before .controlCharacter (c :: rest)) else skipText rest

/-! ### Lists and objects -/

/-- The text at the next item of a list, or nothing at its end, which stays in the text. -/
def nextItem? (first : Bool) (cs : List Char) : Except Fault (Option (List Char)) :=
  match skipSpace cs with
  | [] => .error (.at .endInList [])
  | ']' :: _ => .ok none
  | c :: rest =>
    if first then .ok (some (c :: rest))
    else if c = ',' then
      match skipSpace rest with
      | [] => .error (.at .endInValue [])
      | ']' :: more => .error (.at .trailingComma (']' :: more))
      | more => .ok (some more)
    else .error (.at .expectedListCommaOrEnd (c :: rest))

/-- The name of the next member of an object and the text after it, or nothing at the end of the
object, which stays in the text. -/
def nextName? (first : Bool) (cs : List Char) :
    Except Fault (Option (String × List Char)) :=
  match skipSpace cs with
  | [] => .error (.at .endInObject [])
  | '\x7d' :: _ => .ok none
  | c :: rest =>
    if first then
      if c = '"' then name rest else .error (.at .nameNotText (c :: rest))
    else if c = ',' then
      match skipSpace rest with
      | [] => .error (.at .endInValue [])
      | '"' :: more => name more
      | '\x7d' :: more => .error (.at .trailingComma ('\x7d' :: more))
      | more => .error (.at .nameNotText more)
    else .error (.at .expectedObjectCommaOrEnd (c :: rest))
where
  /-- A name after its opening quote. -/
  name (cs : List Char) : Except Fault (Option (String × List Char)) :=
    match readText cs with
    | .ok (s, rest) => .ok (some (String.ofList s, rest))
    | .error f => .error f

/-- The text after the colon of a member. -/
def readColon (cs : List Char) : Except Fault (List Char) :=
  match skipSpace cs with
  | [] => .error (.at .endInObject [])
  | ':' :: rest => .ok rest
  | rest => .error (.at .expectedColon rest)

/-- The text after the end of a list. -/
def closeList (cs : List Char) : Except Fault (List Char) :=
  match skipSpace cs with
  | [] => .error (.at .endInList [])
  | ']' :: rest => .ok rest
  | ',' :: rest =>
    match skipSpace rest with
    | ']' :: more => .error (.at .trailingComma (']' :: more))
    | more => .error (.at .trailingCharacters more)
  | rest => .error (.at .trailingCharacters rest)

/-- The text after the end of an object. -/
def closeObject (cs : List Char) : Except Fault (List Char) :=
  match skipSpace cs with
  | [] => .error (.at .endInObject [])
  | '\x7d' :: rest => .ok rest
  | ',' :: rest => .error (.at .trailingComma (',' :: rest))
  | rest => .error (.at .trailingCharacters rest)

end Colloquy.Json
