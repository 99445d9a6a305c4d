import Colloquy.Decimal.Binary
import Colloquy.Retry.Duration

/-!
# Exponential backoff

The time to wait before the `n`-th retry is `min longest (initial · factor ^ (n - 1))`, times a
multiplier near one.  The formula is written once, for any type with the operations of `Quantity`:
doubles, in which waiting times are computed, and the rationals, in which nothing is rounded but
the final number of nanoseconds.

Powers are taken by repeated squaring (`power`), which fixes the rounding of the doubles.
-/

namespace Colloquy.Retry

/-! ### Quantities -/

/-- What a backoff computes with. -/
class Quantity (α : Type) where
  ofNat : Nat → α
  mul : α → α → α
  /-- The larger one of two, or the only one that is a number. -/
  max : α → α → α
  /-- The smaller one of two, or the only one that is a number. -/
  min : α → α → α
  /-- The milliseconds of a duration. -/
  millis : Duration → α
  isFinite : α → Bool
  /-- Whether so many milliseconds are too long to be counted in nanoseconds with 64 bits. -/
  isTooLong : α → Bool
  /-- The nanoseconds of some milliseconds, to the nearest one, a half going up. -/
  nanoseconds : α → Nat

/-- The larger of two doubles, or the one that is a number. -/
def floatMax (a b : Float) : Float :=
  if a.isNaN then b else if b.isNaN then a else if a < b then b else a

/-- The smaller of two doubles, or the one that is a number. -/
def floatMin (a b : Float) : Float :=
  if a.isNaN then b else if b.isNaN then a else if b < a then b else a

/-- A nonnegative finite double to the nearest whole number, a half going up. -/
def floatRound (x : Float) : Nat :=
  match Decimal.Binary.ofDouble x with
  | .finite false mantissa exponent _ =>
    let (numerator, denominator) := Decimal.fractionOf mantissa exponent
    Decimal.roundHalfUp numerator denominator
  | _ => 0

/-- The longest time that 64 bits of nanoseconds hold. -/
def maxNanoseconds : Nat := Nat.pow 2 64 - 1

instance : Quantity Float where
  ofNat n := Float.ofNat n
  mul a b := a * b
  max := floatMax
  min := floatMin
  millis d := (Float.ofNat d.wholeSeconds + Float.ofNat d.nanosOfSecond / 1e9) * 1000
  isFinite x := x.isFinite
  isTooLong x := Float.ofNat maxNanoseconds / 1000000 ≤ x
  nanoseconds x := min maxNanoseconds (floatRound (x * 1000000))

instance : Quantity Rat where
  ofNat n := n
  mul a b := a * b
  max a b := if a < b then b else a
  min a b := if b < a then b else a
  millis d := (d.nanoseconds : Rat) / 1000000
  isFinite _ := true
  isTooLong x := decide ((maxNanoseconds : Rat) / 1000000 ≤ x)
  nanoseconds x := (x * 1000000 + 1 / 2).floor.toNat

/-! ### The formula -/

/-- `base ^ n` by repeated squaring, times `result`. -/
def powerFrom {α : Type} [Quantity α] (result base : α) (n : Nat) : α :=
  if h : n = 0 then result
  else
    let result := if n % 2 = 1 then Quantity.mul result base else result
    if n / 2 = 0 then result else powerFrom result (Quantity.mul base base) (n / 2)
termination_by n
decreasing_by omega

/-- `base ^ n` by repeated squaring. -/
def power {α : Type} [Quantity α] (base : α) (n : Nat) : α :=
  powerFrom (Quantity.ofNat 1) base n

/-- The largest exponent that is used. -/
def maxExponent : Nat := Nat.pow 2 31 - 1

/-- The time to wait before a retry, the first of which is number one, when the undisturbed time is
multiplied by `multiplier`.  Before the first call there is no wait.  A time that cannot be counted
is replaced by the longest one that was asked for. -/
def backoff {α : Type} [Quantity α] (initial longest : Duration) (factor : α) (attempt : Nat)
    (multiplier : α) : Duration :=
  if attempt = 0 then .zero
  else
    let zero : α := Quantity.ofNat 0
    let base := Quantity.mul (Quantity.millis initial)
      (power (Quantity.max factor zero) (min (attempt - 1) maxExponent))
    let capped := if Quantity.isFinite base then Quantity.min base (Quantity.millis longest)
      else Quantity.millis longest
    let delay := Quantity.max (Quantity.mul capped (Quantity.max multiplier zero)) zero
    if !Quantity.isFinite delay || Quantity.isTooLong delay then longest
    else ⟨Quantity.nanoseconds delay⟩

end Colloquy.Retry
