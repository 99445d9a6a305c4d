import Colloquy.Decimal.Reading
import Colloquy.Proofs.Decimal.Bits

/-!
# Decimals read as doubles

A decimal is read as the double to which it rounds.  Small decimals are quotients of two doubles,
with a table of the powers of ten; large ones are rounded from the whole numbers themselves.

* `ofScientific_eq`: quotients by powers of ten;
* `Unsigned.toDouble_eq`: decimals with their powers of ten, however large.
-/

namespace Colloquy.Decimal

open Float.Model (UnpackedFloat)
open Float.Model.UnpackedFloat

/-! ### Whole numbers as doubles -/

/-- The mantissa of a whole number, and of its products with powers of two. -/
def normalMantissa (n : Nat) : Nat :=
  n * 2 ^ (52 - n.log2)

/-- The exponent of the product of a whole number and a power of two. -/
def normalExponent (n k : Nat) : Int :=
  k - (52 - n.log2 : Nat)

section

variable {m m₁ m₂ n k : Nat} {e e₁ e₂ : Int} {q : ℚ}

theorem isDouble_normal (hpos : 0 < n) (hlt : n < 2 ^ 53) (hk : k ≤ 971) :
    IsDouble (normalMantissa n) (normalExponent n k) := by
  have hlog : n.log2 < 53 := (Nat.log2_lt hpos.ne').mpr hlt
  have hsplit : n.log2 + (52 - n.log2) = 52 := by omega
  have hlow : 2 ^ 52 ≤ normalMantissa n := by
    calc 2 ^ 52 = 2 ^ n.log2 * 2 ^ (52 - n.log2) := by rw [← pow_add, hsplit]
      _ ≤ normalMantissa n := Nat.mul_le_mul_right _ (Nat.log2_self_le hpos.ne')
  have hhigh : normalMantissa n < 2 ^ 53 := by
    calc normalMantissa n < 2 ^ (n.log2 + 1) * 2 ^ (52 - n.log2) :=
          Nat.mul_lt_mul_of_pos_right Nat.lt_log2_self (by positivity)
      _ = 2 ^ 53 := by rw [← pow_add, Nat.add_right_comm, hsplit]
  refine ⟨by omega, hhigh, ?_, ?_, .inl hlow⟩ <;> rw [normalExponent] <;> omega

theorem normal_eq (n k : Nat) :
    (normalMantissa n : ℚ) * 2 ^ normalExponent n k = n * 2 ^ k := by
  rw [normalMantissa, normalExponent, zpow_sub₀ (by norm_num), zpow_natCast, zpow_natCast]
  push_cast
  field_simp

theorem toFloat_eq (h : IsDouble m e) (hn : (n : ℚ) = m * 2 ^ e) (hlt : n < 2 ^ 64) :
    n.toUInt64.toFloat = doubleOf h := by
  have htoNat : n.toUInt64.toNat = n := by
    change n % 2 ^ 64 = n
    exact Nat.mod_eq_of_lt hlt
  change Float.ofModel (.pack (ofNat .binary64 n.toUInt64.toNat)) = _
  rw [htoNat, ofNat_eq h hn]
  rfl

/-- A table of the powers of ten that are doubles. -/
theorem powersOfTen_toBits : ∀ k : Fin 23,
    (Float.exactlyRepresentablePowersOfTen[k.val]).toBits.toNat =
      (normalExponent (5 ^ k.val) k.val + 1074).toNat * 2 ^ 52 + normalMantissa (5 ^ k.val) := by
  decide +kernel

theorem exists_powersOfTen (hk : k < 23) :
    ∃ h : IsDouble (normalMantissa (5 ^ k)) (normalExponent (5 ^ k) k),
      Float.exactlyRepresentablePowersOfTen[k] = doubleOf h := by
  have hlt : 5 ^ k < 2 ^ 53 := by
    calc 5 ^ k ≤ 5 ^ 22 := Nat.pow_le_pow_right (by norm_num) (by omega)
      _ < 2 ^ 53 := by norm_num
  have h := isDouble_normal (by positivity) hlt (by omega : k ≤ 971)
  refine ⟨h, float_ext ((powersOfTen_toBits ⟨k, hk⟩).trans ?_)⟩
  exact ((toNat_signed_doubleOf h false).trans (by simp)).symm

theorem power_eq (k : Nat) :
    (normalMantissa (5 ^ k) : ℚ) * 2 ^ normalExponent (5 ^ k) k = 10 ^ k := by
  rw [normal_eq]
  push_cast
  rw [← mul_pow]
  norm_num

theorem toFloat_normal (hpos : 0 < n) (hlt : n < 2 ^ 53) :
    ∃ h : IsDouble (normalMantissa n) (normalExponent n 0), n.toUInt64.toFloat = doubleOf h := by
  have h := isDouble_normal hpos hlt (by omega : 0 ≤ 971)
  refine ⟨h, toFloat_eq h ?_ (by omega)⟩
  rw [normal_eq, pow_zero, mul_one]

/-! ### Products and quotients -/

theorem doubleOf_mul (h₁ : IsDouble m₁ e₁) (h₂ : IsDouble m₂ e₂) (h : IsDouble m e)
    (hq : RoundsTo m e ((m₁ * m₂ : Nat) * 2 ^ (e₁ + e₂)))
    (hE : ∀ s, IsScale s ((m₁ * m₂ : Nat) * 2 ^ (e₁ + e₂)) → e₁ + e₂ ≤ s) :
    doubleOf h₁ * doubleOf h₂ = doubleOf h := by
  change Float.ofModel (.pack (mul .binary64
    (UnpackedFloat.unpack .binary64 (UnpackedFloat.pack .binary64 _))
    (UnpackedFloat.unpack .binary64 (UnpackedFloat.pack .binary64 _)))) = _
  rw [unpack_pack h₁, unpack_pack h₂, mul_eq h h₁.pos h₂.pos hq hE]
  rfl

theorem doubleOf_div (h₁ : IsDouble m₁ e₁) (h₂ : IsDouble m₂ e₂) (h : IsDouble m e)
    (hq : RoundsTo m e (m₁ * 2 ^ e₁ / (m₂ * 2 ^ e₂))) : doubleOf h₁ / doubleOf h₂ = doubleOf h := by
  change Float.ofModel (.pack (div .binary64
    (UnpackedFloat.unpack .binary64 (UnpackedFloat.pack .binary64 _))
    (UnpackedFloat.unpack .binary64 (UnpackedFloat.pack .binary64 _)))) = _
  rw [unpack_pack h₁, unpack_pack h₂, div_eq h h₁.pos h₂.pos hq]
  rfl

/-! ### Bounds -/

/-- What rounds to a double is not below half of the least one. -/
theorem RoundsTo.ge (h : RoundsTo m e q) (hd : IsDouble m e) : (2 : ℚ) ^ (-1075 : Int) ≤ q := by
  have hm : (1 : ℚ) ≤ m := by exact_mod_cast hd.pos
  have hgap : gapBelow m e ≤ 2 := by
    rw [gapBelow]
    split_ifs <;> norm_num
  have hlow := h.low
  have hhalf : (2 : ℚ) ^ (-1 : Int) ≤ q / 2 ^ e := by
    rw [zpow_neg_one]
    linarith
  calc (2 : ℚ) ^ (-1075 : Int) ≤ 2 ^ (-1 + e) :=
        zpow_le_zpow_right₀ (by norm_num) (by have hlow := hd.low; omega)
    _ = 2 ^ (-1 : Int) * 2 ^ e := zpow_add₀ (by norm_num) _ _
    _ ≤ q := (le_div_iff₀ (by positivity)).mp hhalf

/-- What rounds to a double is not too large for one. -/
theorem RoundsTo.lt (h : RoundsTo m e q) (hd : IsDouble m e) : q < (2 : ℚ) ^ (1024 : Int) := by
  have hm : (m : ℚ) + 1 ≤ 2 ^ 53 := by exact_mod_cast hd.lt
  have hhigh := h.high
  have hlt : q / 2 ^ e < (2 : ℚ) ^ (53 : Int) := by
    have hpow : (2 : ℚ) ^ (53 : Int) = 2 ^ 53 := rfl
    rw [hpow]
    linarith
  calc q < 2 ^ (53 : Int) * 2 ^ e := (div_lt_iff₀ (by positivity)).mp hlt
    _ = 2 ^ (53 + e) := (zpow_add₀ (by norm_num) _ _).symm
    _ ≤ 2 ^ (1024 : Int) := zpow_le_zpow_right₀ (by norm_num) (by have hhigh := hd.high; omega)

/-! ### Quotients by powers of ten -/

/-- What rounds to a double has not too large a denominator. -/
theorem RoundsTo.exponent_le (h : RoundsTo m e (n / 10 ^ k)) (hd : IsDouble m e) :
    k ≤ n.log2 + 1075 := by
  have hlog : (n : ℚ) < 2 ^ (n.log2 + 1) := by exact_mod_cast Nat.lt_log2_self
  have hpow : (2 : ℚ) ^ k ≤ 10 ^ k := pow_le_pow_left₀ (by norm_num) (by norm_num) k
  have hlt : (2 : ℚ) ^ (-1075 : Int) < 2 ^ ((n.log2 + 1 : Nat) - k : Int) := by
    calc (2 : ℚ) ^ (-1075 : Int) ≤ n / 10 ^ k := h.ge hd
      _ ≤ n / 2 ^ k := div_le_div_of_nonneg_left (by positivity) (by positivity) hpow
      _ < 2 ^ (n.log2 + 1) / 2 ^ k := div_lt_div_of_pos_right hlog (by positivity)
      _ = 2 ^ ((n.log2 + 1 : Nat) - k : Int) := by
          rw [zpow_sub₀ (by norm_num), zpow_natCast, zpow_natCast]
  have hexponent := (zpow_lt_zpow_iff_right₀ (by norm_num)).mp hlt
  omega

theorem unpacked_ofScientific (hd : IsDouble m e) (hn : 0 < n) (hq : RoundsTo m e (n / 10 ^ k)) :
    UnpackedFloat.ofScientific .binary64 n (-k) = .finite .positive m e hd.pos := by
  have hexponent := hq.exponent_le hd
  have hten : (-(-k : Int)).toNat = k := by omega
  rw [UnpackedFloat.ofScientific, dif_neg hn.ne',
    if_neg (by change ¬(2 : Int) ^ 11 < -(k : Int); omega),
    if_neg (by change ¬(-(k : Int) < -((2 : Int) ^ 11 + n.log2)); omega)]
  -- Without a fraction it is a product, otherwise a quotient.
  rcases Nat.eq_zero_or_pos k with rfl | hk
  · have hvalue : ((n <<< 53 * 10 ^ (-(-(0 : Nat) : Int)).toNat : Nat) : ℚ) *
        2 ^ (-(53 : Nat) + 0 : Int) = n / 10 ^ 0 := by
      rw [hten, Nat.shiftLeft_eq, add_zero, zpow_neg, zpow_natCast]
      push_cast
      field_simp
      norm_num
    have hone : (1 : ℚ) ≤ n / 10 ^ 0 := by
      rw [pow_zero, div_one]
      exact_mod_cast hn
    rw [if_pos (by simp)]
    exact mul_eq hd (by rw [Nat.shiftLeft_eq]; positivity) (by positivity) (hvalue ▸ hq)
      fun s hs => le_trans (by decide) (hs.neg_le (hvalue ▸ hone))
  · have hvalue : (n : ℚ) * 2 ^ (0 : Int) / ((10 ^ (-(-k : Int)).toNat : Nat) * 2 ^ (0 : Int)) =
        n / 10 ^ k := by
      rw [hten, zpow_zero, mul_one, mul_one]
      push_cast
      rfl
    rw [if_neg (by omega)]
    exact div_eq hd hn (by positivity) (hvalue ▸ hq)

/-- **Quotients by powers of ten** are read as the doubles to which they round. -/
theorem ofScientific_eq (hd : IsDouble m e) (hn : 0 < n) (hq : RoundsTo m e (n / 10 ^ k)) :
    Float.ofScientific n true k = doubleOf hd := by
  rw [Float.ofScientific]
  by_cases hsmall : n < 2 ^ 53 ∧ k ≤ 22
  · obtain ⟨h₁, hfloat⟩ := toFloat_normal hn hsmall.1
    obtain ⟨h₂, hpower⟩ := exists_powersOfTen (Nat.lt_succ_of_le hsmall.2)
    simp only [dif_pos hsmall, if_true, hfloat]
    refine (congrArg (doubleOf h₁ / ·) hpower).trans (doubleOf_div h₁ h₂ hd ?_)
    rwa [normal_eq, power_eq, pow_zero, mul_one]
  · simp only [dif_neg hsmall, if_true, Int.negOfNat_eq]
    change Float.ofModel (.pack (UnpackedFloat.ofScientific .binary64 n (-k))) = _
    rw [unpacked_ofScientific hd hn hq]
    rfl

/-- **Whole numbers** are read as the doubles to which they round. -/
theorem ofScientific_whole (hd : IsDouble m e) (hn : 0 < n) (hq : RoundsTo m e n) :
    Float.ofScientific n false 0 = doubleOf hd := by
  rw [Float.ofScientific]
  by_cases hsmall : n < 2 ^ 53 ∧ 0 ≤ 22
  · -- A small number is exact as a double, and it is multiplied by one.
    obtain ⟨h₁, hfloat⟩ := toFloat_normal hn hsmall.1
    obtain ⟨h₂, hpower⟩ := exists_powersOfTen (Nat.succ_pos 22)
    have hvalue : ((normalMantissa n * normalMantissa (5 ^ 0) : Nat) : ℚ) *
        2 ^ (normalExponent n 0 + normalExponent (5 ^ 0) 0) = n := by
      rw [zpow_add₀ (by norm_num), Nat.cast_mul, mul_mul_mul_comm, normal_eq, power_eq, pow_zero,
        pow_zero, mul_one, mul_one]
    have hone : (1 : ℚ) ≤ n := by exact_mod_cast hn
    simp only [dif_pos hsmall, Bool.false_eq_true, if_false, hfloat]
    refine (congrArg (doubleOf h₁ * ·) hpower).trans
      (doubleOf_mul h₁ h₂ hd (hvalue ▸ hq) fun s hs => ?_)
    have hscale := hs.neg_le (hvalue ▸ hone)
    have hexponent : normalExponent (5 ^ 0) 0 = -52 := by decide
    have hnormal : normalExponent n 0 ≤ 0 := by
      rw [normalExponent]
      omega
    omega
  · have hq' : RoundsTo m e (n / 10 ^ 0) := by rwa [pow_zero, div_one]
    simp only [dif_neg hsmall, Bool.false_eq_true, if_false]
    change Float.ofModel (.pack (UnpackedFloat.ofScientific .binary64 n (-(0 : Nat)))) = _
    rw [unpacked_ofScientific hd hn hq']
    rfl

/-! ### Decimals -/

theorem lt_pow_length (n : Nat) : n < 10 ^ (Nat.toDigits 10 n).length :=
  (Nat.length_toDigits_le_iff (by decide) Nat.length_toDigits_pos).mp le_rfl

theorem pow_length_le (hn : 0 < n) : 10 ^ ((Nat.toDigits 10 n).length - 1) ≤ n := by
  rcases Nat.eq_zero_or_pos ((Nat.toDigits 10 n).length - 1) with hzero | hpos
  · rw [hzero]
    exact hn
  · by_contra hlt
    have hle := (Nat.length_toDigits_le_iff (by decide) hpos).mpr (Nat.lt_of_not_le hlt)
    omega

theorem two_zpow_le_ten {j k : Nat} (h : j ≤ 3 * k) : (2 : ℚ) ^ (j : Int) ≤ 10 ^ (k : Int) := by
  rw [zpow_natCast, zpow_natCast]
  calc (2 : ℚ) ^ j ≤ 2 ^ (3 * k) := pow_le_pow_right₀ (by norm_num) h
    _ = (2 ^ 3) ^ k := pow_mul 2 3 k
    _ ≤ 10 ^ k := pow_le_pow_left₀ (by norm_num) (by norm_num) k

/-- The powers of ten beyond which decimals are not doubles whatever their digits are. -/
theorem RoundsTo.bounds {E : Int} (h : RoundsTo m e (n * 10 ^ E)) (hd : IsDouble m e)
    (hn : 0 < n) :
    -400 ≤ E + (Nat.toDigits 10 n).length ∧ E + (Nat.toDigits 10 n).length ≤ 400 := by
  have hpos := Nat.length_toDigits_pos (b := 10) (n := n)
  generalize hlength : (Nat.toDigits 10 n).length = length at hpos
  have hten : ∀ k : Nat, (10 : ℚ) ^ (k : Int) * 10 ^ E = 10 ^ (E + k) := fun k => by
    rw [← zpow_add₀ (by norm_num), add_comm]
  -- The value lies between half the least double and the least power of two that is too large.
  have hlow : (10 : ℚ) ^ (-401 : Int) < 10 ^ (E + length) := by
    calc (10 : ℚ) ^ (-401 : Int) ≤ 2 ^ (-1075 : Int) := by
          rw [zpow_neg, zpow_neg]
          exact inv_anti₀ (by positivity) (two_zpow_le_ten (j := 1075) (k := 401) (by norm_num))
      _ ≤ n * 10 ^ E := h.ge hd
      _ < 10 ^ (length : Int) * 10 ^ E := by
          refine mul_lt_mul_of_pos_right ?_ (by positivity)
          rw [zpow_natCast]
          exact_mod_cast hlength ▸ lt_pow_length n
      _ = 10 ^ (E + length) := hten length
  have hhigh : (10 : ℚ) ^ (E + (length - 1 : Nat)) < 10 ^ (400 : Int) := by
    calc (10 : ℚ) ^ (E + (length - 1 : Nat)) = 10 ^ ((length - 1 : Nat) : Int) * 10 ^ E :=
          (hten _).symm
      _ ≤ n * 10 ^ E := by
          refine mul_le_mul_of_nonneg_right ?_ (by positivity)
          rw [zpow_natCast]
          exact_mod_cast hlength ▸ pow_length_le hn
      _ < 2 ^ (1024 : Int) := h.lt hd
      _ ≤ 10 ^ (400 : Int) := two_zpow_le_ten (j := 1024) (k := 400) (by norm_num)
  have hlow' := (zpow_lt_zpow_iff_right₀ (by norm_num)).mp hlow
  have hhigh' := (zpow_lt_zpow_iff_right₀ (by norm_num)).mp hhigh
  omega

/-- **Decimals** are read as the doubles to which they round. -/
theorem Unsigned.toDouble_eq (u : Unsigned) (hd : IsDouble m e) (hn : 0 < digitsValue u.digits)
    (hq : RoundsTo m e (digitsValue u.digits * 10 ^ u.exponent)) : u.toDouble = doubleOf hd := by
  obtain ⟨hlow, hhigh⟩ := hq.bounds hd hn
  rw [toDouble]
  simp only [if_neg hn.ne', if_neg (not_lt.mpr hlow), if_neg (not_lt.mpr hhigh)]
  split_ifs with hexponent
  · refine ofScientific_whole hd (Nat.mul_pos hn (Nat.pow_pos (by decide))) ?_
    have hten : (10 : ℚ) ^ u.exponent = (Nat.pow 10 u.exponent.toNat : Nat) := by
      calc (10 : ℚ) ^ u.exponent = 10 ^ (u.exponent.toNat : Int) := by
            rw [Int.toNat_of_nonneg hexponent]
        _ = (Nat.pow 10 u.exponent.toNat : Nat) := by
            rw [zpow_natCast, Nat.pow_eq, Nat.cast_pow, Nat.cast_ofNat]
    rwa [Nat.cast_mul, ← hten]
  · refine ofScientific_eq hd hn ?_
    have hten : (10 : ℚ) ^ u.exponent = (10 ^ (-u.exponent).toNat)⁻¹ := by
      rw [← zpow_natCast, ← zpow_neg, Int.toNat_of_nonneg (by omega), neg_neg]
    rwa [div_eq_mul_inv, ← hten]

end

end Colloquy.Decimal
