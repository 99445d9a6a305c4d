/-!
# Reading decimals

`readDouble?` reads the text of a decimal number, with an optional sign, fraction and power of
ten, or one of the words for an infinity or for no number, and rounds it once, to the nearest
double.  Nothing may stand around the number.
-/

namespace Colloquy.Decimal

/-- An unsigned decimal: its digits without the point, and the power of ten they are multiplied
by. -/
structure Unsigned where
  digits : List Char
  exponent : Int

/-- The value of some decimal digits. -/
def digitsValue (cs : List Char) : Nat :=
  cs.foldl (fun n c => 10 * n + (c.toNat - '0'.toNat)) 0

/-- A sign in front of a text, and the text after it. -/
def splitSign : List Char → Bool × List Char
  | '-' :: rest => (true, rest)
  | '+' :: rest => (false, rest)
  | rest => (false, rest)

/-- The power of ten at the end of a number: nothing, or a mark with an optional sign and at least
one digit. -/
def readPower? : List Char → Option Int
  | [] => some 0
  | c :: rest =>
    if c = 'e' || c = 'E' then
      let (negative, digits) := splitSign rest
      if digits.isEmpty || !digits.all Char.isDigit then none
      else
        let n : Int := digitsValue digits
        some (if negative then -n else n)
    else none

/-- An unsigned decimal with nothing around it; there is a digit before or after the point. -/
def readUnsigned? (cs : List Char) : Option Unsigned :=
  let whole := cs.takeWhile Char.isDigit
  let afterWhole := cs.dropWhile Char.isDigit
  let (fraction, rest) := match afterWhole with
    | '.' :: more => (more.takeWhile Char.isDigit, more.dropWhile Char.isDigit)
    | other => ([], other)
  if whole.isEmpty && fraction.isEmpty then none
  else (readPower? rest).map fun power =>
    ⟨whole ++ fraction, power - fraction.length⟩

/-- The double nearest to an unsigned decimal.  Powers of ten that are beyond the range of doubles
whatever the digits say are not computed. -/
def Unsigned.toDouble (u : Unsigned) : Float :=
  let n := digitsValue u.digits
  if n = 0 then 0
  else if 400 < u.exponent + (Nat.toDigits 10 n).length then 1.0 / 0.0
  else if u.exponent + (Nat.toDigits 10 n).length < -400 then 0
  else if 0 ≤ u.exponent then Float.ofScientific (n * Nat.pow 10 u.exponent.toNat) false 0
  else Float.ofScientific n true (-u.exponent).toNat

/-- The double that a text stands for. -/
def readDouble? (s : String) : Option Float :=
  let (negative, cs) := splitSign s.toList
  let signed := fun x : Float => if negative then -x else x
  let word := String.ofList (cs.map Char.toLower)
  if word = "inf" || word = "infinity" then some (signed (1.0 / 0.0))
  else if word = "nan" then some (0.0 / 0.0)
  else (readUnsigned? cs).map fun u => signed u.toDouble

/-- The integer that a text stands for: an optional sign and at least one digit. -/
def readInteger? (s : String) : Option Int :=
  let (negative, digits) := splitSign s.toList
  if digits.isEmpty || !digits.all Char.isDigit then none
  else
    let n : Int := digitsValue digits
    some (if negative then -n else n)

end Colloquy.Decimal
