import Colloquy.Decimal.Binary
import Mathlib

/-!
# Rounding to doubles

A positive double is `m · 2 ^ e` for a mantissa of at most 53 bits (`IsDouble`), and the rationals
that round to it make up an interval (`RoundsTo`).  Arithmetic on doubles takes a mantissa with two
more bits for what comes after it, moves it to the place that the rational asks for (`IsScale`) and
rounds it there; once more, if it has got too long.

* `RoundsTo.cases`: the scale of a rational, and its mantissa there;
* `Describes.shiftRight`: moving a mantissa keeps what it says;
* `roundWithAccuracy_eq`: a mantissa that tells a rational is rounded to the double to which the
  rational rounds;
* `ofNat_eq`, `mul_eq`, `div_eq`: whole numbers, products and quotients are rounded so.
-/

namespace Colloquy.Decimal

open Float.Model (UnpackedFloat totalExponent)
open Float.Model.UnpackedFloat

/-! ### Doubles -/

/-- A mantissa and an exponent as a positive double has them. -/
structure IsDouble (m : Nat) (e : Int) : Prop where
  pos : 0 < m
  lt : m < 2 ^ 53
  low : -1074 ≤ e
  high : e ≤ 971
  normal : 2 ^ 52 ≤ m ∨ e = -1074

/-- The way to the middle between a double and the next smaller one, in fourths of a unit. -/
def gapBelow (m : Nat) (e : Int) : ℚ :=
  if m = 2 ^ 52 ∧ e ≠ -1074 then 1 else 2

/-- A rational lies between the middles to the next doubles; or on one of them, if the mantissa is
even. -/
structure RoundsTo (m : Nat) (e : Int) (q : ℚ) : Prop where
  low : 4 * m - gapBelow m e ≤ 4 * (q / 2 ^ e)
  high : 4 * (q / 2 ^ e) ≤ 4 * m + 2
  even : 4 * (q / 2 ^ e) = 4 * m - gapBelow m e ∨ 4 * (q / 2 ^ e) = 4 * m + 2 → m % 2 = 0

/-- A whole number is nearest to a rational; of two that are equally near, it is the even one. -/
structure IsNearest (n : Nat) (t : ℚ) : Prop where
  low : 2 * n - 1 ≤ 2 * t
  high : 2 * t ≤ 2 * n + 1
  even : 2 * t = 2 * n - 1 ∨ 2 * t = 2 * n + 1 → n % 2 = 0

/-- The exponent that a double near a rational has. -/
structure IsScale (s : Int) (q : ℚ) : Prop where
  low : -1074 ≤ s
  lt : q / 2 ^ s < 2 ^ 53
  normal : s = -1074 ∨ 2 ^ 52 ≤ q / 2 ^ s

section

variable {m n : Nat} {e s : Int} {q t : ℚ}

theorem div_zpow_eq (q : ℚ) (e s : Int) : q / 2 ^ s = q / 2 ^ e * 2 ^ (e - s) := by
  have hsplit : (2 : ℚ) ^ e = 2 ^ (e - s) * 2 ^ s := by
    rw [← zpow_add₀ (by norm_num), sub_add_cancel]
  rw [hsplit, div_mul_eq_mul_div, mul_comm q, mul_div_mul_left _ _ (by positivity)]

theorem IsNearest.unique (h : IsNearest m t) (h' : IsNearest n t) : m = n := by
  -- Of two different ones, the larger would be the smaller one and one more, and both even.
  have hle : ∀ {m n : Nat}, IsNearest m t → IsNearest n t → n ≤ m := by
    intro m n h h'
    by_contra hlt
    have hstep : (m : ℚ) + 1 ≤ n := by exact_mod_cast Nat.lt_of_not_le hlt
    have hlow := h'.low
    have hhigh := h.high
    have heq : (n : ℚ) = m + 1 := by linarith
    have hm := h.even (.inr (by linarith))
    have hn := h'.even (.inl (by linarith))
    have heq' : n = m + 1 := by exact_mod_cast heq
    omega
  exact Nat.le_antisymm (hle h' h) (hle h h')

/-- **The scale of a rational** that rounds to a double, and its mantissa there.  If the rational
is below a power of two, this is the next smaller scale. -/
theorem RoundsTo.cases (h : RoundsTo m e q) (hd : IsDouble m e) :
    (IsScale e q ∧ IsNearest m (q / 2 ^ e)) ∨
      (m = 2 ^ 52 ∧ IsScale (e - 1) q ∧ IsNearest (2 ^ 53) (q / 2 ^ (e - 1))) := by
  have hm : (m : ℚ) + 1 ≤ 2 ^ 53 := by exact_mod_cast hd.lt
  have hgap : gapBelow m e ≤ 2 := by
    rw [gapBelow]
    split_ifs <;> norm_num
  have hlow := h.low
  have hhigh := h.high
  -- The scale is that of the double, unless the value lies just below a power of two:
  -- then the scale is finer, and the value rounds up to that power.
  by_cases hscale : 2 ^ 52 ≤ q / 2 ^ e ∨ e = -1074
  · refine .inl ⟨⟨hd.low, by linarith, hscale.symm⟩, ⟨by linarith, by linarith, ?_⟩⟩
    rintro (heq | heq)
    · exact h.even (.inl (by linarith))
    · exact h.even (.inr (by linarith))
  · obtain ⟨hsmall, he⟩ := not_or.mp hscale
    have hnormal : 2 ^ 52 ≤ m := hd.normal.resolve_right he
    have hm : m = 2 ^ 52 := by
      by_contra hne
      have hstep : (2 : ℚ) ^ 52 + 1 ≤ m := by
        exact_mod_cast Nat.lt_of_le_of_ne hnormal (Ne.symm hne)
      linarith
    have hone : gapBelow m e = 1 := if_pos ⟨hm, he⟩
    have hdouble : q / 2 ^ (e - 1) = 2 * (q / 2 ^ e) := by
      rw [div_zpow_eq q e (e - 1), sub_sub_cancel, zpow_one, mul_comm]
    have hlow' := hd.low
    rw [hone, hm] at hlow
    push_cast at hlow
    refine .inr ⟨hm, ⟨by omega, ?_, .inr ?_⟩, ⟨?_, ?_, fun _ => rfl⟩⟩ <;> rw [hdouble] <;>
      push_cast <;> linarith

/-- A double has the scale of its exponent. -/
theorem IsDouble.isScale (h : IsDouble m e) : IsScale e (m * 2 ^ e) := by
  have hpow : (2 : ℚ) ^ e ≠ 0 := by positivity
  refine ⟨h.low, ?_, ?_⟩
  · rw [mul_div_cancel_right₀ _ hpow]
    exact_mod_cast h.lt
  · rw [mul_div_cancel_right₀ _ hpow]
    exact h.normal.symm.imp id fun hm => by exact_mod_cast hm

theorem RoundsTo.self (m : Nat) (e : Int) : RoundsTo m e (m * 2 ^ e) := by
  have hpow : (2 : ℚ) ^ e ≠ 0 := by positivity
  have hgap : 0 < gapBelow m e := by
    rw [gapBelow]
    split_ifs <;> norm_num
  refine ⟨?_, ?_, ?_⟩ <;> rw [mul_div_cancel_right₀ _ hpow]
  · linarith
  · linarith
  · rintro (heq | heq) <;> linarith

end

/-! ### Mantissas -/

/-- A mantissa and the bit after it, as a number of halves. -/
def halves (x : ExtendedMantissa) : Nat :=
  2 * x.mantissa + x.roundBit.toNat

/-- A mantissa with two more bits tells a rational: up to a half, and whether there is more. -/
structure Describes (x : ExtendedMantissa) (t : ℚ) : Prop where
  exact : x.stickyBit = false → 2 * t = halves x
  above : x.stickyBit = true → halves x < 2 * t
  below : 2 * t < halves x + 1

section

variable {x : ExtendedMantissa} {t : ℚ}

theorem Describes.le (h : Describes x t) : halves x ≤ 2 * t := by
  cases hsticky : x.stickyBit with
  | false => exact (h.exact hsticky).ge
  | true => exact (h.above hsticky).le

theorem Describes.mantissa_le (h : Describes x t) : x.mantissa ≤ t := by
  have hle := h.le
  have hbit : (2 * x.mantissa : ℚ) ≤ halves x := by
    rw [halves]
    push_cast
    linarith [Nat.cast_nonneg (α := ℚ) x.roundBit.toNat]
  linarith

theorem Describes.lt_mantissa (h : Describes x t) : t < x.mantissa + 1 := by
  have hlt := h.below
  have hbit : (halves x : ℚ) ≤ 2 * x.mantissa + 1 := by
    exact_mod_cast Nat.add_le_add_left (Bool.toNat_le x.roundBit) _
  linarith

/-- Moving a mantissa by one place keeps what it tells. -/
theorem Describes.shiftRightOne (h : Describes x t) : Describes x.shiftRightOne (t / 2) := by
  -- The bit that is shifted out becomes the round bit, and that one is kept in the sticky bit.
  have hhalves : halves x.shiftRightOne = x.mantissa := by
    have hmod := Nat.mod_two_eq_zero_or_one x.mantissa
    simp only [halves, ExtendedMantissa.shiftRightOne]
    rcases hmod with hmod | hmod <;> simp only [hmod] <;> simp <;> omega
  have hsticky : x.shiftRightOne.stickyBit = (x.roundBit || x.stickyBit) := rfl
  have htwice : 2 * (t / 2) = t := by ring
  refine ⟨fun hbits => ?_, fun hbits => ?_, ?_⟩ <;> rw [htwice, hhalves]
  · rw [hsticky, Bool.or_eq_false_iff] at hbits
    have hexact := h.exact hbits.2
    rw [halves, hbits.1] at hexact
    push_cast [Bool.toNat_false] at hexact
    linarith
  · rw [hsticky, Bool.or_eq_true_iff] at hbits
    refine lt_of_le_of_ne h.mantissa_le fun heq => ?_
    have hle := h.le
    -- The value is above the halves by one of the two bits.
    cases hround : x.roundBit with
    | true =>
      rw [halves, hround] at hle
      push_cast [Bool.toNat_true] at hle
      linarith
    | false =>
      have habove := h.above (hbits.resolve_left (by simp [hround]))
      rw [halves, hround] at habove
      push_cast [Bool.toNat_false] at habove
      linarith
  · exact h.lt_mantissa

/-- Moving a mantissa by any number of places keeps what it tells. -/
theorem Describes.shiftRight (h : Describes x t) (n : Nat) :
    Describes (x >>> n) (t / 2 ^ n) := by
  change Describes (n.repeat ExtendedMantissa.shiftRightOne x) _
  induction n with
  | zero =>
    rw [pow_zero, div_one]
    exact h
  | succ n ih =>
    rw [pow_succ, ← div_div]
    exact ih.shiftRightOne

/-- The rounded mantissa is nearest to what it tells. -/
theorem Describes.isNearest (h : Describes x t) : IsNearest x.roundedMantissa t := by
  obtain ⟨m, round, sticky⟩ := x
  have hexact := h.exact
  have habove := h.above
  have hbelow := h.below
  simp only [halves] at hexact habove hbelow
  cases round <;> cases sticky <;> simp at hexact habove hbelow
  · change IsNearest m t
    exact ⟨by linarith, by linarith, by rintro (heq | heq) <;> linarith⟩
  · change IsNearest m t
    exact ⟨by linarith, by linarith, by rintro (heq | heq) <;> linarith⟩
  · change IsNearest (m + m % 2) t
    rcases Nat.mod_two_eq_zero_or_one m with hmod | hmod <;> rw [hmod]
    · exact ⟨by push_cast; linarith, by push_cast; linarith, fun _ => hmod⟩
    · exact ⟨by push_cast; linarith, by push_cast; linarith, fun _ => by omega⟩
  · change IsNearest (m + 1) t
    exact ⟨by push_cast; linarith, by push_cast; linarith, by
      push_cast; rintro (heq | heq) <;> linarith⟩

end

/-! ### Rounding -/

section

variable {m M : Nat} {e E s : Int} {q : ℚ} {accuracy : Accuracy} {sign : Sign}

theorem mantissa_ofMantissaAndAccuracy (m : Nat) (accuracy : Accuracy) :
    (ExtendedMantissa.ofMantissaAndAccuracy m accuracy).mantissa = m := by
  rcases accuracy with _ | _ | _ | _ <;> rfl

theorem describes_exact (m : Nat) :
    Describes (ExtendedMantissa.ofMantissaAndAccuracy m .exact) m := by
  refine ⟨fun _ => ?_, nofun, ?_⟩ <;>
    simp [halves, ExtendedMantissa.ofMantissaAndAccuracy]

/-- The scale that arithmetic takes for a mantissa is the one of the rational that it tells. -/
theorem targetExponent_eq
    (h : Describes (ExtendedMantissa.ofMantissaAndAccuracy M accuracy) (q / 2 ^ E))
    (hs : IsScale s q) (hE : E ≤ s) :
    Float.Model.Format.binary64.targetExponent (totalExponent M E) = s := by
  change max ((M.log2 : Int) + 1 + E - 53) (-1074) = s
  have hlow := h.mantissa_le
  have hhigh := h.lt_mantissa
  have hscale := hs.low
  have hlt := hs.lt
  have hnormal := hs.normal
  rw [mantissa_ofMantissaAndAccuracy] at hlow hhigh
  rw [div_zpow_eq q E s] at hlt hnormal
  have hpow : (0 : ℚ) < 2 ^ (E - s) := by positivity
  rcases Nat.eq_zero_or_pos M with rfl | hpos
  · -- A significand of zero stands for a value below one unit, so the scale is the least one.
    have hle : (2 : ℚ) ^ (E - s) ≤ 1 := zpow_le_one_of_nonpos₀ (by norm_num) (by omega)
    have hmin : s = -1074 := by
      refine hnormal.resolve_right fun hlarge => ?_
      push_cast at hhigh
      nlinarith
    rw [Nat.log2_zero]
    omega
  · -- The logarithm is bounded from both sides, which pins the scale.
    have hlog : (2 : ℚ) ^ (M.log2 : Int) ≤ M := by
      rw [zpow_natCast]
      exact_mod_cast Nat.log2_self_le hpos.ne'
    have hlog' : (M : ℚ) + 1 ≤ 2 ^ ((M.log2 : Int) + 1) := by
      have hnat : M + 1 ≤ 2 ^ (M.log2 + 1) := Nat.lt_log2_self
      exact_mod_cast hnat
    have hupper : (M.log2 : Int) + (E - s) < 53 := by
      have hlt' : (2 : ℚ) ^ ((M.log2 : Int) + (E - s)) < 2 ^ (53 : Int) := by
        rw [zpow_add₀ (by norm_num)]
        calc (2 : ℚ) ^ (M.log2 : Int) * 2 ^ (E - s) ≤ q / 2 ^ E * 2 ^ (E - s) :=
              mul_le_mul_of_nonneg_right (hlog.trans hlow) hpow.le
          _ < 2 ^ (53 : Int) := hlt
      exact (zpow_lt_zpow_iff_right₀ (by norm_num)).mp hlt'
    have hlower : s = -1074 ∨ (52 : Int) < (M.log2 : Int) + 1 + (E - s) := by
      refine hnormal.imp id fun hlarge => ?_
      have hlt' : (2 : ℚ) ^ (52 : Int) < 2 ^ ((M.log2 : Int) + 1 + (E - s)) := by
        rw [zpow_add₀ (by norm_num) ((M.log2 : Int) + 1)]
        calc (2 : ℚ) ^ (52 : Int) ≤ q / 2 ^ E * 2 ^ (E - s) := hlarge
          _ < 2 ^ ((M.log2 : Int) + 1) * 2 ^ (E - s) :=
              mul_lt_mul_of_pos_right (hhigh.trans_le hlog') hpow
      exact (zpow_lt_zpow_iff_right₀ (by norm_num)).mp hlt'
    omega

/-- A mantissa that tells a rational is moved to the scale of the rational. -/
theorem exists_shiftToTargetExponent
    (h : Describes (ExtendedMantissa.ofMantissaAndAccuracy M accuracy) (q / 2 ^ E))
    (hs : IsScale s q) (hE : E ≤ s) :
    ∃ x, shiftToTargetExponent .binary64 M E accuracy = (x, s) ∧ Describes x (q / 2 ^ s) := by
  have hamount : E + ((s - E).toNat : Int) = s := by omega
  have hpow : q / 2 ^ E / 2 ^ (s - E).toNat = q / 2 ^ s := by
    rw [div_div, ← zpow_natCast, ← zpow_add₀ (by norm_num), hamount]
  refine ⟨_, ?_, hpow ▸ h.shiftRight (s - E).toNat⟩
  rw [shiftToTargetExponent, targetExponent_eq h hs hE, shiftToExponent, hamount]

/-- A mantissa that is a double at a smaller scale is moved to the scale of the double. -/
theorem exists_shiftToTargetExponent_exact (hd : IsDouble m e) (hs : s ≤ e)
    (hq : (M : ℚ) * 2 ^ s = m * 2 ^ e) :
    ∃ x, shiftToTargetExponent .binary64 M s .exact = (x, e) ∧ x.mantissa = m := by
  have hdescribes : Describes (ExtendedMantissa.ofMantissaAndAccuracy M .exact)
      (m * 2 ^ e / 2 ^ s) := by
    rw [← hq, mul_div_cancel_right₀ _ (by positivity)]
    exact describes_exact M
  obtain ⟨x, hx, h⟩ := exists_shiftToTargetExponent hdescribes hd.isScale hs
  rw [mul_div_cancel_right₀ _ (by positivity)] at h
  have hle : x.mantissa ≤ m := by exact_mod_cast h.mantissa_le
  have hlt : m < x.mantissa + 1 := by exact_mod_cast h.lt_mantissa
  exact ⟨x, hx, by omega⟩

/-- **A mantissa** that tells a rational is rounded to the double to which the rational rounds. -/
theorem roundWithAccuracy_eq (hd : IsDouble m e) (hq : RoundsTo m e q)
    (h : Describes (ExtendedMantissa.ofMantissaAndAccuracy M accuracy) (q / 2 ^ E))
    (hE : ∀ s, IsScale s q → E ≤ s) :
    roundWithAccuracy .binary64 sign M E accuracy = .finite sign m e hd.pos := by
  -- The mantissa is rounded at the scale of the rational; it may have got too long there.
  obtain ⟨x, s, hshift, hs, hvalue⟩ : ∃ x s,
      shiftToTargetExponent .binary64 M E accuracy = (x, s) ∧ s ≤ e ∧
        (x.roundedMantissa : ℚ) * 2 ^ s = m * 2 ^ e := by
    rcases hq.cases hd with ⟨hscale, hnearest⟩ | ⟨rfl, hscale, hnearest⟩
    · obtain ⟨x, hshift, hx⟩ := exists_shiftToTargetExponent h hscale (hE e hscale)
      exact ⟨x, e, hshift, le_rfl, by rw [hx.isNearest.unique hnearest]⟩
    · obtain ⟨x, hshift, hx⟩ := exists_shiftToTargetExponent h hscale (hE _ hscale)
      refine ⟨x, e - 1, hshift, by omega, ?_⟩
      rw [hx.isNearest.unique hnearest, zpow_sub_one₀ (by norm_num)]
      push_cast
      ring
  obtain ⟨y, hshift', hy⟩ := exists_shiftToTargetExponent_exact hd hs hvalue
  have hpos := hd.pos
  simp only [roundWithAccuracy, hshift, hshift', hy, hpos.ne', dif_neg, not_false_eq_true]

/-! ### Whole numbers, products and quotients -/

variable {m₁ m₂ : Nat} {e₁ e₂ : Int} {sign₁ sign₂ : Sign}

theorem two_zpow_le (hpos : 0 < m) (e : Int) :
    (2 : ℚ) ^ (totalExponent m e - 1) ≤ m * 2 ^ e := by
  have hsplit : totalExponent m e - 1 = (m.log2 : Int) + e := by
    rw [totalExponent]
    omega
  rw [hsplit, zpow_add₀ (by norm_num), zpow_natCast]
  exact mul_le_mul_of_nonneg_right (by exact_mod_cast Nat.log2_self_le hpos.ne') (by positivity)

theorem lt_two_zpow (m : Nat) (e : Int) : (m : ℚ) * 2 ^ e < 2 ^ totalExponent m e := by
  have hlog : m < 2 ^ (m.log2 + 1) := Nat.lt_log2_self
  have hlog' : (m : ℚ) < 2 ^ ((m.log2 : Int) + 1) := by exact_mod_cast hlog
  rw [totalExponent, zpow_add₀ (by norm_num)]
  exact mul_lt_mul_of_pos_right hlog' (by positivity)

/-- The scale that arithmetic takes for a power of two is at most the one of a rational that is
not below it. -/
theorem IsScale.targetExponent_le (h : IsScale s q) {k : Int} (hq : 2 ^ (k - 1) ≤ q) :
    Float.Model.Format.binary64.targetExponent k ≤ s := by
  change max (k - 53) (-1074) ≤ s
  have hlt : (2 : ℚ) ^ (k - 1) < 2 ^ (53 + s) := by
    rw [zpow_add₀ (by norm_num)]
    exact hq.trans_lt ((div_lt_iff₀ (by positivity)).mp h.lt)
  have hexponent := (zpow_lt_zpow_iff_right₀ (by norm_num)).mp hlt
  have hlow := h.low
  omega

/-- A rational that is not below one has the scale of one at least. -/
theorem IsScale.neg_le (h : IsScale s q) (hq : 1 ≤ q) : -52 ≤ s :=
  h.targetExponent_le (k := 1) (by simpa using hq)

/-- **Whole numbers** that a double can have are rounded to this double. -/
theorem ofNat_eq (hd : IsDouble m e) (hM : (M : ℚ) = m * 2 ^ e) :
    ofNat .binary64 M = .finite .positive m e hd.pos := by
  have hpos : 0 < M := by
    have hm : (0 : ℚ) < m := by exact_mod_cast hd.pos
    have hpos : (0 : ℚ) < M := by
      rw [hM]
      positivity
    exact_mod_cast hpos
  have hcompare : compare (M : Int) 0 = .gt := Int.compare_eq_gt.mpr (by exact_mod_cast hpos)
  simp only [ofNat, ofInt, UnpackedFloat.normalize, hcompare, Int.toNat_natCast, UnpackedFloat.round,
    decreaseExponent, zero_sub]
  generalize hk : Float.Model.Format.binary64.targetExponent (totalExponent M 0) = k
  have hq : (((M <<< (-k).toNat : Nat) : ℚ) * 2 ^ (-((-k).toNat : Int))) = m * 2 ^ e := by
    rw [Nat.shiftLeft_eq, zpow_neg, zpow_natCast, ← hM]
    push_cast
    field_simp
  refine roundWithAccuracy_eq hd (.self m e) ?_ fun s hs => ?_
  · rw [← hq, mul_div_cancel_right₀ _ (by positivity)]
    exact describes_exact _
  · have hle : k ≤ s := by
      refine hk ▸ hs.targetExponent_le ((two_zpow_le hpos 0).trans ?_)
      rw [hM, zpow_zero, mul_one]
    omega

/-- **Products** are rounded to the double to which they round, if there are bits enough. -/
theorem mul_eq (hd : IsDouble m e) (h₁ : 0 < m₁) (h₂ : 0 < m₂)
    (hq : RoundsTo m e ((m₁ * m₂ : Nat) * 2 ^ (e₁ + e₂)))
    (hE : ∀ s, IsScale s ((m₁ * m₂ : Nat) * 2 ^ (e₁ + e₂)) → e₁ + e₂ ≤ s) :
    mul .binary64 (.finite sign₁ m₁ e₁ h₁) (.finite sign₂ m₂ e₂ h₂) =
      .finite (sign₁ * sign₂) m e hd.pos := by
  refine roundWithAccuracy_eq hd hq ?_ hE
  rw [mul_div_cancel_right₀ _ (by positivity)]
  exact describes_exact (m₁ * m₂)

/-- A quotient with what is left over tells a fraction. -/
theorem describes_fraction (a : Nat) {b : Nat} (hb : 0 < b) :
    Describes (ExtendedMantissa.ofMantissaAndAccuracy (a / b) (accuracyOfFraction (a % b) b))
      ((a : ℚ) / b) := by
  have hdenominator : (0 : ℚ) < b := by exact_mod_cast hb
  -- The quotient is its whole part and a rest below one.
  have hsplit : (a : ℚ) / b = (a / b : Nat) + (a % b : Nat) / (b : ℚ) := by
    have hdivision : (b : ℚ) * (a / b : Nat) + (a % b : Nat) = a := by
      exact_mod_cast Nat.div_add_mod a b
    rw [← hdivision, add_div, mul_div_cancel_left₀ _ hdenominator.ne']
  have hrest : (a % b : Nat) / (b : ℚ) < 1 := by
    rw [div_lt_one hdenominator]
    exact_mod_cast Nat.mod_lt a hb
  rw [accuracyOfFraction]
  split_ifs with hzero
  · rw [hsplit, hzero]
    simpa using describes_exact (a / b)
  · have hpos : 0 < (a % b : Nat) / (b : ℚ) :=
      div_pos (by exact_mod_cast Nat.pos_of_ne_zero hzero) hdenominator
    have htwice : 2 * ((a % b : Nat) / (b : ℚ)) = (2 * (a % b) : Nat) / (b : ℚ) := by
      push_cast
      ring
    rw [hsplit]
    -- The rest lies below, at or above one half.
    rcases hcompare : compare (2 * (a % b)) b with _ | _ | _
    · have hlt : ((2 * (a % b) : Nat) : ℚ) / b < 1 := by
        rw [div_lt_one hdenominator]
        exact_mod_cast Nat.compare_eq_lt.mp hcompare
      refine ⟨nofun, fun _ => ?_, ?_⟩ <;>
        simp [halves, ExtendedMantissa.ofMantissaAndAccuracy] <;> linarith
    · have heq : ((2 * (a % b) : Nat) : ℚ) / b = 1 := by
        rw [Nat.compare_eq_eq.mp hcompare, div_self hdenominator.ne']
      refine ⟨fun _ => ?_, nofun, ?_⟩ <;>
        simp [halves, ExtendedMantissa.ofMantissaAndAccuracy] <;> linarith
    · have hgt : 1 < ((2 * (a % b) : Nat) : ℚ) / b := by
        rw [one_lt_div hdenominator]
        exact_mod_cast Nat.compare_eq_gt.mp hcompare
      refine ⟨nofun, fun _ => ?_, ?_⟩ <;>
        simp [halves, ExtendedMantissa.ofMantissaAndAccuracy] <;> linarith

theorem two_zpow_le_div (h₁ : 0 < m₁) (h₂ : 0 < m₂) (e₁ e₂ : Int) :
    (2 : ℚ) ^ (totalExponent m₁ e₁ - totalExponent m₂ e₂ - 1) ≤ m₁ * 2 ^ e₁ / (m₂ * 2 ^ e₂) := by
  have hdenominator : (0 : ℚ) < m₂ * 2 ^ e₂ := by
    have hpos : (0 : ℚ) < m₂ := by exact_mod_cast h₂
    positivity
  have hsplit : totalExponent m₁ e₁ - totalExponent m₂ e₂ - 1 =
      totalExponent m₁ e₁ - 1 - totalExponent m₂ e₂ := by omega
  rw [le_div_iff₀ hdenominator, hsplit, zpow_sub₀ (by norm_num), div_mul_eq_mul_div,
    div_le_iff₀ (by positivity)]
  exact mul_le_mul (two_zpow_le h₁ e₁) (lt_two_zpow m₂ e₂).le hdenominator.le (by positivity)

/-- **Quotients** are rounded to the double to which they round. -/
theorem div_eq (hd : IsDouble m e) (h₁ : 0 < m₁) (h₂ : 0 < m₂)
    (hq : RoundsTo m e (m₁ * 2 ^ e₁ / (m₂ * 2 ^ e₂))) :
    div .binary64 (.finite sign₁ m₁ e₁ h₁) (.finite sign₂ m₂ e₂ h₂) =
      .finite (sign₁ / sign₂) m e hd.pos := by
  simp only [div, divCore]
  generalize hE : min (e₁ - e₂) _ = E
  have hE₁ : E ≤ e₁ - e₂ := hE ▸ min_le_left _ _
  refine roundWithAccuracy_eq hd hq ?_ fun s hs =>
    (hE ▸ min_le_right _ _).trans (hs.targetExponent_le (two_zpow_le_div h₁ h₂ e₁ e₂))
  have hfraction : (m₁ * 2 ^ e₁ / (m₂ * 2 ^ e₂)) / 2 ^ E =
      ((m₁ <<< (e₁ - e₂ - E).toNat : Nat) : ℚ) / m₂ := by
    have hshift : (2 : ℚ) ^ e₁ = 2 ^ (e₁ - e₂ - E).toNat * 2 ^ e₂ * 2 ^ E := by
      rw [← zpow_natCast, ← zpow_add₀ (by norm_num), ← zpow_add₀ (by norm_num)]
      congr 1
      omega
    rw [Nat.shiftLeft_eq, hshift]
    push_cast
    have h₂' : (m₂ : ℚ) ≠ 0 := by exact_mod_cast h₂.ne'
    field_simp
  rw [hfraction]
  exact describes_fraction _ h₂

end

end Colloquy.Decimal
