import Colloquy.Decimal.Binary

/-!
# The shortest decimal text of a floating point number

Of the decimals that read back as a given float, `shortest` takes one with the fewest digits, and
of those the nearest to the float.  It tests, for one digit, two digits and so on, the two
neighbours of the float on that decimal grid; a grid has a point in the interval of reals that
round to the float exactly when one of these two neighbours lies in it.

How the digits are written down is a matter of a `Style`: where positional notation ends and
whether a whole number keeps a fraction.
-/

namespace Colloquy.Decimal

/-! ### The digits -/

/-- A positive decimal `digits · 10 ^ exponent`. -/
structure Scientific where
  digits : Nat
  exponent : Int
deriving Repr, DecidableEq

/-- A real interval with a point in it, all on one denominator. -/
structure Rounding where
  low : Nat
  value : Nat
  high : Nat
  denominator : Nat
  /-- Whether the ends of the interval belong to it. -/
  closed : Bool
deriving Repr, DecidableEq

/-- The reals that round to `mantissa · 2 ^ exponent`. -/
def Rounding.of (mantissa : Nat) (exponent : Int) (boundary : Bool) : Rounding :=
  let (numerator, denominator) := fractionOf 1 exponent
  { low := (4 * mantissa - (if boundary then 1 else 2)) * numerator
    value := 4 * mantissa * numerator
    high := (4 * mantissa + 2) * numerator
    denominator := 4 * denominator
    closed := mantissa % 2 == 0 }

/-- The interval with everything multiplied by `10 ^ (-k)`. -/
def Rounding.shift (r : Rounding) (k : Int) : Rounding :=
  if 0 ≤ k then { r with denominator := r.denominator * Nat.pow 10 k.toNat }
  else
    let factor := Nat.pow 10 (-k).toNat
    { r with low := r.low * factor, value := r.value * factor, high := r.high * factor }

/-- Whether a whole number lies in the interval. -/
def Rounding.holds (r : Rounding) (n : Nat) : Bool :=
  let at_ := n * r.denominator
  if r.closed then r.low ≤ at_ && at_ ≤ r.high else r.low < at_ && at_ < r.high

/-- The whole number in the interval that is nearest to its point, if one of the two neighbours of
the point lies in it; of two equally near ones the even one. -/
def Rounding.nearest? (r : Rounding) : Option Nat :=
  let below := r.value / r.denominator
  let above := below + 1
  let toBelow := r.value - below * r.denominator
  let toAbove := above * r.denominator - r.value
  match r.holds below && below != 0, r.holds above with
  | true, true =>
    if toBelow < toAbove then some below
    else if toAbove < toBelow then some above
    else if below % 2 = 0 then some below else some above
  | true, false => some below
  | false, true => some above
  | false, false => none

/-- How often a fraction below one has to be multiplied by ten to reach one, at most `fuel`
times. -/
def leadingZeros (numerator denominator : Nat) : Nat → Nat
  | 0 => 0
  | fuel + 1 =>
    if denominator ≤ numerator then 0 else leadingZeros (numerator * 10) denominator fuel + 1

/-- The least `k` with the fraction below `10 ^ k`. -/
def magnitude (numerator denominator : Nat) : Int :=
  if denominator ≤ numerator then (Nat.toDigits 10 (numerator / denominator)).length
  else 1 - leadingZeros numerator denominator 400

/-- Trailing zeros moved into the exponent, at most `fuel` of them. -/
def Scientific.strip (d : Scientific) : Nat → Scientific
  | 0 => d
  | fuel + 1 =>
    if d.digits % 10 = 0 && d.digits != 0 then
      Scientific.strip ⟨d.digits / 10, d.exponent + 1⟩ fuel
    else d

/-- The first grid with a point in the interval, from `count` digits on. -/
def Rounding.search (r : Rounding) (top : Int) (count : Nat) : Nat → Scientific
  | 0 => ⟨roundHalfEven (r.shift (top - count)).value (r.shift (top - count)).denominator,
      top - count⟩
  | fuel + 1 =>
    match (r.shift (top - count)).nearest? with
    | some n => ⟨n, top - count⟩
    | none => r.search top (count + 1) fuel

/-- The fewest digits that read back as `mantissa · 2 ^ exponent`, for a positive mantissa. -/
def shortest (mantissa : Nat) (exponent : Int) (boundary : Bool) : Scientific :=
  let r := Rounding.of mantissa exponent boundary
  let top := magnitude r.value r.denominator
  (r.search top 1 17).strip 20

/-! ### Writing them -/

/-- How a decimal is written down. -/
structure Style where
  /-- The exponents of the first digit for which no power of ten is written. -/
  positional : Int → Bool
  /-- Whether a whole number is followed by a point and a zero. -/
  keepsPoint : Bool
  nan : String
  /-- The text of an infinity, negative or positive. -/
  infinity : Bool → String

/-- Digits without sign, in the style. -/
def Style.digits (style : Style) (d : Scientific) : String :=
  let text := Nat.toDigits 10 d.digits
  let first : Int := d.exponent + text.length - 1
  if style.positional first then
    if 0 ≤ d.exponent then
      String.ofList (text ++ List.replicate d.exponent.toNat '0' ++
        (if style.keepsPoint then ['.', '0'] else []))
    -- The point falls among the digits.
    else if 0 ≤ first then
      String.ofList (text.take (first.toNat + 1) ++ '.' :: text.drop (first.toNat + 1))
    else
      String.ofList ('0' :: '.' :: List.replicate (-first - 1).toNat '0' ++ text)
  else
    let head := text.take 1
    let tail := text.drop 1
    let fraction := if tail.isEmpty then [] else '.' :: tail
    let sign := if first < 0 then '-' else '+'
    String.ofList (head ++ fraction ++ 'e' :: sign :: Nat.toDigits 10 first.natAbs)

/-- The text of a number in the style. -/
def Style.write (style : Style) : Binary → String
  | .nan => style.nan
  | .infinite negative => style.infinity negative
  | .finite negative 0 _ _ =>
    (if negative then "-0" else "0") ++ (if style.keepsPoint then ".0" else "")
  | .finite negative mantissa exponent boundary =>
    (if negative then "-" else "") ++ style.digits (shortest mantissa exponent boundary)

/-- Digits only, however many zeros that takes. -/
def Style.plain : Style :=
  ⟨fun _ => true, false, "NaN", fun negative => if negative then "-inf" else "inf"⟩

/-- Digits only, with a point and a zero after a whole number. -/
def Style.pointed : Style :=
  { Style.plain with keepsPoint := true }

end Colloquy.Decimal
