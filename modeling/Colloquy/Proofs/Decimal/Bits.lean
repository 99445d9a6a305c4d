import Colloquy.Proofs.Decimal.Rounding

/-!
# The bits of doubles

The bits of a double are its sign, its exponent and its mantissa without the first bit, which is
told by the exponent.  So they are one number that grows with the double (`toNat_pack`), and taking
them apart gives the double back.

* `unpack_pack`: a double is read from its bits;
* `decodes_ofDouble`: what a float is, told from what its bits are taken for.
-/

namespace Colloquy.Decimal

open Float.Model (UnpackedFloat)
open Float.Model.UnpackedFloat

/-! ### Packing -/

section

variable {m : Nat} {e : Int}

/-- The bits for the exponent of a double. -/
def exponentField (m : Nat) (e : Int) : Nat :=
  if 2 ^ 52 ≤ m then (e + 1075).toNat else 0

theorem exponentField_lt (h : IsDouble m e) : exponentField m e < 2047 := by
  have hhigh := h.high
  rw [exponentField]
  split_ifs <;> omega

theorem pack_eq (h : IsDouble m e) (sign : Sign) :
    UnpackedFloat.pack .binary64 (.finite sign m e h.pos) =
      packComponents .binary64 sign (BitVec.ofNat 11 (exponentField m e)) (BitVec.ofNat 52 m) := by
  have hfield : (e + 1023 + 52).toNat = (e + 1075).toNat := by omega
  have hlow := h.low
  have hhigh := h.high
  have hlt := h.lt
  have hpos := h.pos
  rw [exponentField]
  change (if 2 ^ 11 ≤ (e + 1023 + 52).toNat + 1 then _ else
    if m.log2 + 1 = 53 then packComponents .binary64 sign (BitVec.ofNat 11 (e + 1023 + 52).toNat) _
    else packComponents .binary64 sign 0#11 _) = _
  rw [if_neg (by omega), hfield]
  by_cases hnormal : 2 ^ 52 ≤ m
  · have hlog : m.log2 = 52 := (Nat.log2_eq_iff hpos.ne').mpr ⟨hnormal, hlt⟩
    rw [if_pos hnormal, if_pos (by omega)]
  · have hlog : m.log2 < 52 := (Nat.log2_lt hpos.ne').mpr (Nat.lt_of_not_le hnormal)
    rw [if_neg hnormal, if_neg (by omega)]

/-- **A double is read from its bits.** -/
theorem unpack_pack (h : IsDouble m e) (sign : Sign) :
    UnpackedFloat.unpack .binary64 (UnpackedFloat.pack .binary64 (.finite sign m e h.pos)) =
      .finite sign m e h.pos := by
  have hfield := exponentField_lt h
  have hlow := h.low
  have hlt := h.lt
  have hpos := h.pos
  have hbias : Float.Model.Format.binary64.exponentBias = 1023 := rfl
  -- The exponent field fits its eleven bits, and it is not that of infinity.
  have htoNat : (BitVec.ofNat 11 (exponentField m e)).toNat = exponentField m e := by
    rw [BitVec.toNat_ofNat, Nat.mod_eq_of_lt (by omega)]
  have hones : BitVec.ofNat 11 (exponentField m e) ≠ -1#11 := by
    intro heq
    have hmax := congrArg BitVec.toNat heq
    rw [htoNat] at hmax
    exact absurd hmax (by simp; omega)
  have hzero : BitVec.ofNat 11 (exponentField m e) = 0#11 ↔ exponentField m e = 0 := by
    rw [← BitVec.toNat_inj, htoNat]
    rfl
  rw [pack_eq h]
  simp only [UnpackedFloat.unpack, unpackMantissa_packComponents, unpackExponent_packComponents,
    unpackSign_packComponents, Sign.ofBitVec_toBitVec, hones, if_false, hzero, htoNat]
  by_cases hnormal : 2 ^ 52 ≤ m
  · -- A normal double: the leading one is left out of the field and put back.
    have hfield' : exponentField m e = (e + 1075).toNat := if_pos hnormal
    have hmantissa : (1#1 ++ BitVec.ofNat 52 m).toNat = m := by
      rw [BitVec.toNat_append, ← Nat.shiftLeft_add_eq_or_of_lt (BitVec.isLt _),
        BitVec.toNat_ofNat, Nat.shiftLeft_eq]
      simp only [BitVec.toNat_ofNat]
      omega
    rw [if_neg (by omega)]
    simp only [hmantissa, hfield', hbias]
    congr 1
    omega
  · -- A subnormal one: all of the significand is in the field.
    have hfield' : exponentField m e = 0 := if_neg hnormal
    have hmantissa : (BitVec.ofNat 52 m).toNat = m := by
      rw [BitVec.toNat_ofNat, Nat.mod_eq_of_lt (Nat.lt_of_not_le hnormal)]
    have hne : BitVec.ofNat 52 m ≠ 0#52 := by
      intro heq
      rw [heq] at hmantissa
      exact hpos.ne hmantissa
    have he : e = -1074 := h.normal.resolve_left hnormal
    rw [if_pos hfield', dif_neg hne]
    simp only [hmantissa, hfield', hbias]
    congr 1
    omega

/-! ### Bits as numbers -/

theorem toNat_packComponents (sign : Sign) (E : BitVec 11) (M : BitVec 52) :
    (packComponents .binary64 sign E M).toNat =
      sign.toBitVec.toNat * 2 ^ 63 + E.toNat * 2 ^ 52 + M.toNat := by
  change ((sign.toBitVec ++ E) ++ M).toNat = _
  rw [BitVec.toNat_append, BitVec.toNat_append, ← Nat.shiftLeft_add_eq_or_of_lt E.isLt,
    ← Nat.shiftLeft_add_eq_or_of_lt M.isLt, Nat.shiftLeft_eq, Nat.shiftLeft_eq]
  omega

/-- The bits of a double as a number. -/
theorem toNat_pack (h : IsDouble m e) (sign : Sign) :
    (UnpackedFloat.pack .binary64 (.finite sign m e h.pos)).toNat =
      sign.toBitVec.toNat * 2 ^ 63 + (e + 1074).toNat * 2 ^ 52 + m := by
  have hfield := exponentField_lt h
  have hlow := h.low
  have hlt := h.lt
  rw [pack_eq h, toNat_packComponents, BitVec.toNat_ofNat, BitVec.toNat_ofNat,
    Nat.mod_eq_of_lt (by omega : exponentField m e < 2 ^ 11), exponentField]
  by_cases hnormal : 2 ^ 52 ≤ m
  · rw [if_pos hnormal]
    omega
  · have he : e = -1074 := h.normal.resolve_left hnormal
    rw [if_neg hnormal]
    omega

end

/-! ### Floats -/

theorem float_ext {x y : Float} (h : x.toBits.toNat = y.toBits.toNat) : x = y :=
  Float.toBits_inj.mp (UInt64.toNat_inj.mp h)

/-- The sign that a minus sign stands for. -/
def signOf (negative : Bool) : Sign :=
  if negative then .negative else .positive

/-- A number with or without a minus sign. -/
def signed (negative : Bool) (x : Float) : Float :=
  if negative then -x else x

/-- A positive double as a float. -/
def doubleOf {m : Nat} {e : Int} (h : IsDouble m e) : Float :=
  .ofModel (.pack (.finite .positive m e h.pos))

theorem signed_doubleOf {m : Nat} {e : Int} (h : IsDouble m e) (negative : Bool) :
    signed negative (doubleOf h) = .ofModel (.pack (.finite (signOf negative) m e h.pos)) := by
  cases negative with
  | false => rfl
  | true =>
    change Float.ofModel (.pack (UnpackedFloat.unpack .binary64
      (UnpackedFloat.pack .binary64 (.finite .positive m e h.pos))).neg) = _
    rw [unpack_pack h]
    rfl

theorem toNat_signed_doubleOf {m : Nat} {e : Int} (h : IsDouble m e) (negative : Bool) :
    (signed negative (doubleOf h)).toBits.toNat =
      negative.toNat * 2 ^ 63 + (e + 1074).toNat * 2 ^ 52 + m := by
  rw [signed_doubleOf]
  change (UnpackedFloat.pack .binary64 (.finite (signOf negative) m e h.pos)).toNat = _
  rw [toNat_pack h]
  cases negative <;> rfl

/-! ### Taking floats apart -/

/-- What a float is, and what its bits are taken for. -/
inductive Decodes : Float → Binary → Prop where
  | nan : Decodes (0.0 / 0.0) .nan
  | infinite (negative : Bool) : Decodes (signed negative (1.0 / 0.0)) (.infinite negative)
  | zero (negative : Bool) : Decodes (signed negative 0) (.finite negative 0 (-1074) false)
  | finite (negative : Bool) {m : Nat} {e : Int} (h : IsDouble m e) :
      Decodes (signed negative (doubleOf h))
        (.finite negative m e (decide (m = 2 ^ 52 ∧ e ≠ -1074)))

theorem decode_double (bits : Nat) :
    Format.double.decode bits =
      if bits / 2 ^ 52 % 2 ^ 11 = 2047 then
        if bits % 2 ^ 52 = 0 then .infinite (bits / 2 ^ 63 % 2 == 1) else .nan
      else if bits / 2 ^ 52 % 2 ^ 11 = 0 then
        .finite (bits / 2 ^ 63 % 2 == 1) (bits % 2 ^ 52) (-1074) false
      else
        .finite (bits / 2 ^ 63 % 2 == 1) (2 ^ 52 + bits % 2 ^ 52)
          ((bits / 2 ^ 52 % 2 ^ 11 : Nat) - 1075)
          (bits % 2 ^ 52 == 0 && bits / 2 ^ 52 % 2 ^ 11 != 1) := rfl

/-- The first bit as a sign. -/
theorem toNat_firstBit (bits : Nat) : (bits / 2 ^ 63 % 2 == 1).toNat = bits / 2 ^ 63 % 2 := by
  rcases Nat.mod_two_eq_zero_or_one (bits / 2 ^ 63) with h | h <;> rw [h] <;> rfl

theorem toNat_unpackExponent (bits : BitVec 64) :
    (@unpackExponent .binary64 bits).toNat = bits.toNat / 2 ^ 52 % 2 ^ 11 := by
  simp only [unpackExponent, BitVec.toNat_cast, BitVec.extractLsb_toNat,
    Nat.shiftRight_eq_div_pow]

theorem toNat_unpackMantissa (bits : BitVec 64) :
    (@unpackMantissa .binary64 bits).toNat = bits.toNat % 2 ^ 52 := by
  simp only [unpackMantissa, BitVec.toNat_cast, BitVec.extractLsb_toNat,
    Nat.shiftRight_zero]

/-- There is one bit pattern only for what is no number. -/
theorem eq_nan {x : Float} (hfield : x.toBits.toNat / 2 ^ 52 % 2 ^ 11 = 2047)
    (hfraction : x.toBits.toNat % 2 ^ 52 ≠ 0) : x = 0.0 / 0.0 := by
  have hexponent : @unpackExponent .binary64 x.toBits.toBitVec = -1#11 := by
    rw [← BitVec.toNat_inj]
    exact (toNat_unpackExponent _).trans hfield
  have hmantissa : @unpackMantissa .binary64 x.toBits.toBitVec ≠ 0#52 := by
    rw [Ne, ← BitVec.toNat_inj]
    exact fun heq => hfraction ((toNat_unpackMantissa _).symm.trans heq)
  have hbits := x.toModel.valid.eq_packedNaN hexponent hmantissa
  refine float_ext ((congrArg BitVec.toNat hbits).trans ?_)
  decide +kernel

theorem decodes_ofDouble (x : Float) : Decodes x (.ofDouble x) := by
  have hlt : x.toBits.toNat < 2 ^ 64 := x.toBits.toNat_lt
  -- The bits of the special doubles, which are closed terms.
  have hinfinite : ∀ negative : Bool, (signed negative (1.0 / 0.0)).toBits.toNat =
      negative.toNat * 2 ^ 63 + 2047 * 2 ^ 52 := by decide +kernel
  have hzero : ∀ negative : Bool, (signed negative 0).toBits.toNat = negative.toNat * 2 ^ 63 := by
    decide +kernel
  have hnan := @eq_nan x
  have hext : ∀ y : Float, x.toBits.toNat = y.toBits.toNat → x = y := fun _ => float_ext
  rw [Binary.ofDouble, decode_double]
  generalize x.toBits.toNat = bits at *
  have hsign := toNat_firstBit bits
  generalize (bits / 2 ^ 63 % 2 == 1) = negative at *
  split_ifs with hfield hfraction hfield'
  · -- The largest field without a fraction: infinity.
    rw [hext (signed negative (1.0 / 0.0)) (by rw [hinfinite]; omega)]
    exact .infinite negative
  · rw [hnan hfield hfraction]
    exact .nan
  · -- The least field: zero or a subnormal double.
    by_cases hfraction : bits % 2 ^ 52 = 0
    · rw [hext (signed negative 0) (by rw [hzero]; omega), hfraction]
      exact .zero negative
    · have hd : IsDouble (bits % 2 ^ 52) (-1074) :=
        ⟨Nat.pos_of_ne_zero hfraction, by omega, le_rfl, by decide, .inr rfl⟩
      rw [hext (signed negative (doubleOf hd)) (by rw [toNat_signed_doubleOf]; omega)]
      have hboundary : decide (bits % 2 ^ 52 = 2 ^ 52 ∧ (-1074 : Int) ≠ -1074) = false :=
        decide_eq_false fun h => h.2 rfl
      exact hboundary ▸ .finite negative hd
  · -- Any other field: a normal double, with its leading one.
    have hd : IsDouble (2 ^ 52 + bits % 2 ^ 52) ((bits / 2 ^ 52 % 2 ^ 11 : Nat) - 1075) :=
      ⟨by omega, by omega, by omega, by omega, .inl (by omega)⟩
    rw [hext (signed negative (doubleOf hd)) (by rw [toNat_signed_doubleOf]; omega)]
    have hboundary : (bits % 2 ^ 52 == 0 && bits / 2 ^ 52 % 2 ^ 11 != 1) =
        decide (2 ^ 52 + bits % 2 ^ 52 = 2 ^ 52 ∧
          ((bits / 2 ^ 52 % 2 ^ 11 : Nat) : Int) - 1075 ≠ -1074) := by
      rw [Bool.eq_iff_iff, decide_eq_true_iff]
      simp only [Bool.and_eq_true, beq_iff_eq, bne_iff_ne]
      omega
    exact hboundary ▸ .finite negative hd

end Colloquy.Decimal
