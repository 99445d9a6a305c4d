/-!
# Binary floating point as integers

A finite binary floating point number is `m · 2 ^ e` for a natural number `m` and an integer `e`.
`Binary.ofDouble` and `Binary.ofSingle` take the bits of a number apart; everything that has to be
exact about a float (its decimal text, its rounding to a whole number) is computed from `m` and
`e` by integer arithmetic.
-/

namespace Colloquy.Decimal

/-- The widths of a binary interchange format. -/
structure Format where
  fractionBits : Nat
  exponentBits : Nat
deriving Repr, DecidableEq

/-- The format of 64 bits. -/
def Format.double : Format := ⟨52, 11⟩

/-- The format of 32 bits. -/
def Format.single : Format := ⟨23, 8⟩

/-- What the bits of a floating point number stand for.  In a finite number, `boundary` says that
the next smaller number is nearer than the next larger one. -/
inductive Binary where
  | nan
  | infinite (negative : Bool)
  | finite (negative : Bool) (mantissa : Nat) (exponent : Int) (boundary : Bool)
deriving Repr, DecidableEq

/-- The number that a bit pattern stands for in a format. -/
def Format.decode (f : Format) (bits : Nat) : Binary :=
  let negative := bits / Nat.pow 2 (f.fractionBits + f.exponentBits) % 2 == 1
  let fraction := bits % Nat.pow 2 f.fractionBits
  let field := bits / Nat.pow 2 f.fractionBits % Nat.pow 2 f.exponentBits
  let bias : Int := Nat.pow 2 (f.exponentBits - 1) - 1 + f.fractionBits
  if field = Nat.pow 2 f.exponentBits - 1 then
    if fraction = 0 then .infinite negative else .nan
  else if field = 0 then .finite negative fraction (1 - bias) false
  else .finite negative (Nat.pow 2 f.fractionBits + fraction) (field - bias)
    (fraction == 0 && field != 1)

/-- A double taken apart. -/
def Binary.ofDouble (x : Float) : Binary :=
  Format.double.decode x.toBits.toNat

/-- A single taken apart. -/
def Binary.ofSingle (x : Float32) : Binary :=
  Format.single.decode x.toBits.toNat

/-- The magnitude of a finite number as a fraction, numerator and denominator. -/
def fractionOf (mantissa : Nat) (exponent : Int) : Nat × Nat :=
  if 0 ≤ exponent then (mantissa * Nat.pow 2 exponent.toNat, 1)
  else (mantissa, Nat.pow 2 (-exponent).toNat)

/-- A fraction to the nearest whole number, a half going up. -/
def roundHalfUp (numerator denominator : Nat) : Nat :=
  (2 * numerator + denominator) / (2 * denominator)

/-- A fraction to the nearest whole number, a half going to the even neighbour. -/
def roundHalfEven (numerator denominator : Nat) : Nat :=
  let below := numerator / denominator
  let rest := 2 * (numerator % denominator)
  if rest < denominator then below
  else if denominator < rest then below + 1
  else if below % 2 = 0 then below else below + 1

end Colloquy.Decimal
