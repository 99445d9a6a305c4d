/-!
# Hexadecimal digits

Many notations write a character by its number in hexadecimal digits.  `hexNumber?` is the number
that digits spell, in either case of the letters; `readHexChar?` reads so many digits from the front
of a text and gives the character with that number.
-/

namespace Colloquy.Text

/-- The value of a hexadecimal digit. -/
def hexDigit? (c : Char) : Option Nat :=
  if c.isDigit then some (c.toNat - 48)
  else if 'a' ≤ c && c ≤ 'f' then some (c.toNat - 87)
  else if 'A' ≤ c && c ≤ 'F' then some (c.toNat - 55)
  else none

/-- Whether a character is a hexadecimal digit. -/
def isHexDigit (c : Char) : Bool :=
  (hexDigit? c).isSome

/-- The number that hexadecimal digits spell. -/
def hexNumber? (digits : List Char) : Option Nat :=
  (digits.mapM hexDigit?).map fun values => values.foldl (fun n d => 16 * n + d) 0

/-- The number at the front of a text that is written with exactly so many hexadecimal digits. -/
def readHex? (count : Nat) (cs : List Char) : Option (Nat × List Char) := do
  let n ← hexNumber? (cs.take count)
  if count ≤ cs.length then return (n, cs.drop count) else none

/-- The character with a number, if there is one. -/
def charOf? (n : Nat) : Option Char :=
  if Nat.isValidChar n then some (Char.ofNat n) else none

/-- Reads a character by its number in so many hexadecimal digits. -/
def readHexChar? (count : Nat) (cs : List Char) : Option (Char × List Char) := do
  let (n, rest) ← readHex? count cs
  return (← charOf? n, rest)

end Colloquy.Text
