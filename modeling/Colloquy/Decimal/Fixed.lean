import Colloquy.Decimal.Binary

/-!
# Decimals with a fixed number of places

`fixed places x` writes a float with exactly `places` digits after the point.  The float is taken
exactly, and a value half way between two neighbours goes to the even one.
-/

namespace Colloquy.Decimal

/-- Digits padded with zeros in front to a width. -/
def padDigits (width n : Nat) : List Char :=
  let text := Nat.toDigits 10 n
  List.replicate (width - text.length) '0' ++ text

/-- A whole number of units of `10 ^ (-places)` as text, for at least one place. -/
def writeUnits (places units : Nat) : String :=
  String.ofList (Nat.toDigits 10 (units / Nat.pow 10 places) ++
    '.' :: padDigits places (units % Nat.pow 10 places))

/-- A float with a fixed number of places. -/
def fixed (places : Nat) (x : Float) : String :=
  match Binary.ofDouble x with
  | .nan => "NaN"
  | .infinite negative => if negative then "-inf" else "inf"
  | .finite negative mantissa exponent _ =>
    let (numerator, denominator) := fractionOf mantissa exponent
    (if negative then "-" else "") ++
      writeUnits places (roundHalfEven (numerator * Nat.pow 10 places) denominator)

end Colloquy.Decimal
