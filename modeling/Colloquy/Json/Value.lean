import Colloquy.Data.Dictionary
import Colloquy.Decimal.Shortest

/-!
# JSON values and their text

A JSON value, and the compact text of one: no blanks, members in the order in which the value holds
them.  Values that were read from a text hold the members of an object in ascending order of their
names, each name once.
-/

namespace Colloquy

/-- A number: an integer of at most 64 bits, with or without a sign, or a float in one of two
precisions. -/
inductive Number where
  | integer (n : Int)
  | double (x : Float)
  | single (x : Float32)
deriving DecidableEq

/-- A JSON value. -/
inductive Json where
  | null
  | bool (b : Bool)
  | number (n : Number)
  | text (s : String)
  | array (items : List Json)
  | object (members : List (String × Json))

namespace Json

instance : Inhabited Json := ⟨.null⟩

/-! ### Numbers -/

/-- Doubles are written without a power of ten where the first digit stands for at most `10 ^ 15`
and at least `10 ^ (-5)`; a whole number keeps a point and a zero. -/
def doubleStyle : Decimal.Style :=
  ⟨fun e => -5 ≤ e && e ≤ 15, true, "null", fun _ => "null"⟩

/-- Singles are written without a power of ten where the first digit stands for at most `10 ^ 12`
and at least `10 ^ (-6)`. -/
def singleStyle : Decimal.Style :=
  ⟨fun e => -6 ≤ e && e ≤ 12, true, "null", fun _ => "null"⟩

/-- The digits of an integer, after a minus sign if it is negative. -/
def integerChars (n : Int) : List Char :=
  if n < 0 then '-' :: Nat.toDigits 10 n.natAbs else Nat.toDigits 10 n.natAbs

/-- The text of a number. -/
def numberChars : Number → List Char
  | .integer n => integerChars n
  | .double x => (doubleStyle.write (Decimal.Binary.ofDouble x)).toList
  | .single x => (singleStyle.write (Decimal.Binary.ofSingle x)).toList

/-! ### Texts -/

/-- The lower case hexadecimal digit of a number below sixteen. -/
def hexDigit (n : Nat) : Char :=
  if n < 10 then Char.ofNat (48 + n) else Char.ofNat (87 + n)

/-- How a character is written inside a text: the quote, the backslash and the controls are
escaped. -/
def escapedChar (c : Char) : List Char :=
  if c = '"' then ['\\', '"']
  else if c = '\\' then ['\\', '\\']
  else if c = '\n' then ['\\', 'n']
  else if c = '\r' then ['\\', 'r']
  else if c = '\t' then ['\\', 't']
  else if c.toNat = 8 then ['\\', 'b']
  else if c.toNat = 12 then ['\\', 'f']
  else if c.toNat < 0x20 then
    ['\\', 'u', '0', '0', hexDigit (c.toNat / 16), hexDigit (c.toNat % 16)]
  else [c]

/-- A text between quotes. -/
def textChars (s : String) : List Char :=
  '"' :: s.toList.flatMap escapedChar ++ ['"']

/-! ### Values -/

mutual

/-- The compact text of a value. -/
def chars : Json → List Char
  | .null => ['n', 'u', 'l', 'l']
  | .bool true => ['t', 'r', 'u', 'e']
  | .bool false => ['f', 'a', 'l', 's', 'e']
  | .number n => numberChars n
  | .text s => textChars s
  | .array items => '[' :: itemsChars items ++ [']']
  | .object members => '\x7b' :: membersChars members ++ ['\x7d']
termination_by structural j => j

/-- Values with commas between them. -/
def itemsChars : List Json → List Char
  | [] => []
  | [j] => j.chars
  | j :: k :: rest => j.chars ++ ',' :: itemsChars (k :: rest)
termination_by structural l => l

/-- Members with commas between them. -/
def membersChars : List (String × Json) → List Char
  | [] => []
  | [m] => memberChars m
  | m :: n :: rest => memberChars m ++ ',' :: membersChars (n :: rest)
termination_by structural l => l

/-- A member: its name, a colon and its value. -/
def memberChars : String × Json → List Char
  | (name, j) => textChars name ++ ':' :: j.chars
termination_by structural m => m

end

/-- The compact text of a value. -/
def render (j : Json) : String :=
  String.ofList j.chars

/-- An object with its members put in order. -/
def ofMembers (members : List (String × Json)) : Json :=
  .object (members.foldl (fun l m => insertEntry m.1 m.2 l) [])

/-- An integer as a value. -/
def ofNat (n : Nat) : Json :=
  .number (.integer n)

/-- Texts as a value. -/
def ofTexts (l : List String) : Json :=
  .array (l.map .text)

/-- A dictionary of texts as a value. -/
def ofDictionary (d : Dictionary String) : Json :=
  .object (d.entries.map fun e => (e.1, .text e.2))

end Json

end Colloquy
