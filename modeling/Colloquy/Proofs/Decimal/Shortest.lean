import Colloquy.Decimal.Shortest
import Colloquy.Proofs.Decimal.Scientific

/-!
# The shortest decimal of a double

The search for a short decimal looks at the two neighbours of a double on the grids of one digit,
two digits and so on.  Whatever it takes rounds to the double, and it takes something on the grid of
seventeen digits at the latest, as that is finer than the doubles are.

* `Rounding.IsOf.holds_iff`: whole numbers in the interval of a double;
* `Rounding.exists_nearest?`: on a fine grid a neighbour is in the interval;
* `shortest_roundsTo`: the decimal rounds to the double.
-/

namespace Colloquy.Decimal

/-! ### Intervals -/

/-- An interval is the one of a double, on the grid of a power of ten. -/
structure Rounding.IsOf (r : Rounding) (m : Nat) (e k : Int) : Prop where
  pos : 0 < r.denominator
  low : 4 * (r.low : ℚ) = (4 * m - gapBelow m e) * (2 ^ e / 10 ^ k) * r.denominator
  value : (r.value : ℚ) = m * (2 ^ e / 10 ^ k) * r.denominator
  high : 4 * (r.high : ℚ) = (4 * m + 2) * (2 ^ e / 10 ^ k) * r.denominator
  closed : r.closed = (m % 2 == 0)

section

variable {m n : Nat} {e k : Int} {r : Rounding}

theorem fractionOf_one (e : Int) :
    0 < (fractionOf 1 e).2 ∧ ((fractionOf 1 e).1 : ℚ) = 2 ^ e * (fractionOf 1 e).2 := by
  rw [fractionOf]
  split_ifs with he
  · refine ⟨Nat.one_pos, ?_⟩
    have hpow : (2 : ℚ) ^ e = 2 ^ e.toNat := by
      rw [← zpow_natCast, Int.toNat_of_nonneg he]
    simp [hpow]
  · have hpow : (2 : ℚ) ^ e = (2 ^ (-e).toNat)⁻¹ := by
      rw [← zpow_natCast, ← zpow_neg, Int.toNat_of_nonneg (by omega), neg_neg]
    refine ⟨Nat.pow_pos (by decide), ?_⟩
    simp [hpow]

theorem Rounding.isOf_of (hd : IsDouble m e) :
    (Rounding.of m e (decide (m = 2 ^ 52 ∧ e ≠ -1074))).IsOf m e 0 := by
  obtain ⟨hpos, hnumerator⟩ := fractionOf_one e
  have hgap : ((4 * m - (if decide (m = 2 ^ 52 ∧ e ≠ -1074) then 1 else 2) : Nat) : ℚ) =
      4 * m - gapBelow m e := by
    have hm := hd.pos
    by_cases hboundary : m = 2 ^ 52 ∧ e ≠ -1074
    · rw [gapBelow, decide_eq_true hboundary, if_pos rfl, if_pos hboundary,
        Nat.cast_sub (by omega)]
      simp
    · rw [gapBelow, decide_eq_false hboundary, if_neg Bool.false_ne_true, if_neg hboundary,
        Nat.cast_sub (by omega)]
      simp
  refine ⟨Nat.mul_pos (by decide) hpos, ?_, ?_, ?_, rfl⟩ <;>
    simp only [Rounding.of, Nat.cast_mul, hgap, hnumerator, zpow_zero, div_one, Nat.cast_add,
      Nat.cast_ofNat] <;> ring

theorem Rounding.IsOf.shift (h : r.IsOf m e 0) (k : Int) : (r.shift k).IsOf m e k := by
  obtain ⟨hpos, hlow, hvalue, hhigh, hclosed⟩ := h
  rw [zpow_zero, div_one] at hlow hvalue hhigh
  rw [Rounding.shift]
  split_ifs with hk
  · have hpow : (10 : ℚ) ^ k = 10 ^ k.toNat := by
      rw [← zpow_natCast, Int.toNat_of_nonneg hk]
    have hten : (10 : ℚ) ^ k.toNat ≠ 0 := by positivity
    refine ⟨Nat.mul_pos hpos (Nat.pow_pos (by decide)), ?_, ?_, ?_, hclosed⟩ <;>
      simp only [hlow, hvalue, hhigh, hpow, Nat.cast_mul, Nat.pow_eq, Nat.cast_pow,
        Nat.cast_ofNat] <;> field_simp
  · have hpow : (10 : ℚ) ^ k = (10 ^ (-k).toNat)⁻¹ := by
      rw [← zpow_natCast, ← zpow_neg, Int.toNat_of_nonneg (by omega), neg_neg]
    refine ⟨hpos, ?_, ?_, ?_, hclosed⟩ <;>
      simp only [← mul_assoc, hlow, hvalue, hhigh, hpow, Nat.cast_mul, Nat.pow_eq, Nat.cast_pow,
        Nat.cast_ofNat, div_inv_eq_mul] <;> ring

/-- Numbers over the same denominator, in fourths of a unit. -/
theorem le_iff_of_scaled {a b D : Nat} {c c' u : ℚ} (hD : 0 < D) (hu : 0 < u)
    (ha : 4 * (a : ℚ) = c * u * D) (hb : 4 * (b : ℚ) = c' * u * D) : a ≤ b ↔ c ≤ c' := by
  have hD' : (0 : ℚ) < D := by exact_mod_cast hD
  rw [← Nat.cast_le (α := ℚ), ← mul_le_mul_iff_right₀ (by norm_num : (0 : ℚ) < 4), ha, hb,
    mul_assoc, mul_assoc, mul_le_mul_iff_left₀ (by positivity)]

/-- **Whole numbers in the interval** of a double are those that round to the double. -/
theorem Rounding.IsOf.holds_iff (h : r.IsOf m e k) (n : Nat) :
    r.holds n = true ↔ RoundsTo m e (n * 10 ^ k) := by
  have hunit : (0 : ℚ) < 2 ^ e / 10 ^ k := by positivity
  have hscaled : 4 * ((n * r.denominator : Nat) : ℚ) =
      4 * ((n : ℚ) * 10 ^ k / 2 ^ e) * (2 ^ e / 10 ^ k) * r.denominator := by
    rw [Nat.cast_mul]
    field_simp
  -- Both bounds are compared as whole numbers, scaled by the same factor.
  have hlow := le_iff_of_scaled h.pos hunit h.low hscaled
  have hlow' := le_iff_of_scaled h.pos hunit hscaled h.low
  have hhigh := le_iff_of_scaled h.pos hunit hscaled h.high
  have hhigh' := le_iff_of_scaled h.pos hunit h.high hscaled
  rw [Rounding.holds, h.closed]
  -- Even significands win ties, so the bounds count for them and do not count for odd ones.
  rcases Nat.mod_two_eq_zero_or_one m with hparity | hparity
  · simp only [hparity, beq_self_eq_true, if_true, Bool.and_eq_true, decide_eq_true_eq, hlow,
      hhigh]
    exact ⟨fun ⟨hlow, hhigh⟩ => ⟨hlow, hhigh, fun _ => hparity⟩, fun h => ⟨h.low, h.high⟩⟩
  · have hodd : (m % 2 == 0) = false := by rw [hparity]; rfl
    simp only [hodd, Bool.false_eq_true, if_false, Bool.and_eq_true, decide_eq_true_eq,
      ← not_le, hlow', hhigh']
    constructor
    · rintro ⟨hlow, hhigh⟩
      exact ⟨(not_le.mp hlow).le, (not_le.mp hhigh).le, fun heq =>
        absurd heq (not_or.mpr ⟨(not_le.mp hlow).ne', (not_le.mp hhigh).ne⟩)⟩
    · intro h
      have hne := not_or.mp fun heq => absurd (h.even heq) (by omega)
      exact ⟨not_le.mpr (lt_of_le_of_ne h.low (Ne.symm hne.1)),
        not_le.mpr (lt_of_le_of_ne h.high hne.2)⟩

/-! ### Neighbours -/

/-- What is taken lies in the interval. -/
theorem Rounding.holds_of_nearest? (h : r.nearest? = some n) : r.holds n = true ∧ 0 < n := by
  have hbelow : ∀ {below : Nat}, (r.holds below && below != 0) = true →
      r.holds below = true ∧ 0 < below := fun {below} h => by
    rw [Bool.and_eq_true, bne_iff_ne] at h
    exact ⟨h.1, Nat.pos_of_ne_zero h.2⟩
  simp only [nearest?] at h
  split at h
  · next h₁ h₂ =>
    split_ifs at h <;> obtain rfl := Option.some.inj h
    · exact hbelow h₁
    · exact ⟨h₂, Nat.succ_pos _⟩
    · exact hbelow h₁
    · exact ⟨h₂, Nat.succ_pos _⟩
  · next h₁ _ =>
    obtain rfl := Option.some.inj h
    exact hbelow h₁
  · next _ h₂ =>
    obtain rfl := Option.some.inj h
    exact ⟨h₂, Nat.succ_pos _⟩
  · cases h

theorem Rounding.isSome_nearest? (h : (r.holds (r.value / r.denominator) = true ∧
      r.value / r.denominator ≠ 0) ∨ r.holds (r.value / r.denominator + 1) = true) :
    ∃ n, r.nearest? = some n := by
  rw [← Option.isSome_iff_exists]
  simp only [nearest?]
  rw [← bne_iff_ne, ← Bool.and_eq_true] at h
  split
  · split_ifs <;> rfl
  · rfl
  · rfl
  · next h₁ h₂ =>
    rw [h₁, h₂] at h
    cases h <;> contradiction

/-- A whole number near to a double on a grid that is fine enough rounds to the double. -/
theorem roundsTo_of_near (hd : IsDouble m e) (hfine : (10 : ℚ) ^ 16 ≤ m * (2 ^ e / 10 ^ k))
    (hlow : (m : ℚ) * (2 ^ e / 10 ^ k) - 1 / 2 ≤ n)
    (hhigh : (n : ℚ) ≤ m * (2 ^ e / 10 ^ k) + 1 / 2) :
    RoundsTo m e (n * 10 ^ k) := by
  have hquotient : (n : ℚ) * 10 ^ k / 2 ^ e = n / (2 ^ e / 10 ^ k) := by
    field_simp
  have hunit : (0 : ℚ) < 2 ^ e / 10 ^ k := by positivity
  generalize (2 : ℚ) ^ e / 10 ^ k = u at *
  have hm : (m : ℚ) + 1 ≤ 2 ^ 53 := by exact_mod_cast hd.lt
  -- The unit of the double is more than one of the last digit, and a gap more than two.
  have hone : 1 < u := by
    by_contra hle
    nlinarith
  have hgap : 2 < gapBelow m e * u := by
    rw [gapBelow]
    split_ifs with hboundary
    · rw [hboundary.1] at hfine
      push_cast at hfine
      linarith
    · linarith
  have hlow' : 4 * m - gapBelow m e < 4 * (n / u) := by
    rw [← mul_div_assoc, lt_div_iff₀ hunit]
    linarith
  have hhigh' : 4 * ((n : ℚ) / u) < 4 * m + 2 := by
    rw [← mul_div_assoc, div_lt_iff₀ hunit]
    linarith
  rw [← hquotient] at hlow' hhigh'
  exact ⟨hlow'.le, hhigh'.le, fun heq =>
    absurd heq (not_or.mpr ⟨hlow'.ne', hhigh'.ne⟩)⟩

/-- One of the neighbours on a grid that is fine enough is in the interval. -/
theorem Rounding.exists_nearest? (h : r.IsOf m e k) (hd : IsDouble m e)
    (hfine : (10 : ℚ) ^ 16 ≤ m * (2 ^ e / 10 ^ k)) : ∃ n, r.nearest? = some n := by
  have hdenominator : (0 : ℚ) < r.denominator := by exact_mod_cast h.pos
  have hvalue : (m : ℚ) * (2 ^ e / 10 ^ k) = r.value / r.denominator := by
    rw [h.value, mul_div_cancel_right₀ _ hdenominator.ne']
  have hbelow : ((r.value / r.denominator : Nat) : ℚ) ≤ m * (2 ^ e / 10 ^ k) := by
    rw [hvalue, le_div_iff₀ hdenominator]
    exact_mod_cast Nat.div_mul_le_self _ _
  have habove : (m : ℚ) * (2 ^ e / 10 ^ k) < (r.value / r.denominator : Nat) + 1 := by
    rw [hvalue, div_lt_iff₀ hdenominator]
    exact_mod_cast (Nat.div_lt_iff_lt_mul h.pos).mp (Nat.lt_succ_self _)
  refine isSome_nearest? ?_
  rw [h.holds_iff, h.holds_iff]
  by_cases hnear : (m : ℚ) * (2 ^ e / 10 ^ k) - 1 / 2 ≤ (r.value / r.denominator : Nat)
  · refine .inl ⟨roundsTo_of_near hd hfine hnear (by linarith), ?_⟩
    intro hzero
    rw [hzero] at habove
    push_cast at habove
    linarith
  · refine .inr (roundsTo_of_near hd hfine ?_ ?_) <;> push_cast <;> linarith

/-! ### The search -/

theorem le_mul_leadingZeros {numerator denominator : Nat} (fuel : Nat)
    (h : denominator ≤ numerator * 10 ^ fuel) :
    denominator ≤ numerator * 10 ^ leadingZeros numerator denominator fuel := by
  induction fuel generalizing numerator with
  | zero => exact h
  | succ fuel ih =>
    rw [leadingZeros]
    split_ifs with hle
    · rwa [pow_zero, mul_one]
    · have hten : ∀ k, numerator * 10 ^ (k + 1) = numerator * 10 * 10 ^ k := fun k => by
        rw [pow_succ', mul_assoc]
      rw [hten] at h ⊢
      exact ih h

/-- A fraction that is not too small has the first digit that its magnitude tells. -/
theorem zpow_magnitude_le {numerator denominator : Nat} (hpos : 0 < denominator)
    (h : denominator ≤ numerator * 10 ^ 400) :
    (10 : ℚ) ^ (magnitude numerator denominator - 1) ≤ numerator / denominator := by
  have hpos' : (0 : ℚ) < denominator := by exact_mod_cast hpos
  rw [magnitude, le_div_iff₀ hpos']
  split_ifs with hle
  · have hquotient : 0 < numerator / denominator := Nat.div_pos hle hpos
    have hlength := Nat.length_toDigits_pos (b := 10) (n := numerator / denominator)
    have hexponent : ((Nat.toDigits 10 (numerator / denominator)).length : Int) - 1 =
        ((Nat.toDigits 10 (numerator / denominator)).length - 1 : Nat) := by omega
    rw [hexponent, zpow_natCast]
    have hmul := Nat.mul_le_mul_right denominator (pow_length_le hquotient)
    exact_mod_cast hmul.trans (Nat.div_mul_le_self _ _)
  · have hzeros : (denominator : ℚ) ≤ numerator * 10 ^ leadingZeros numerator denominator 400 := by
      exact_mod_cast le_mul_leadingZeros 400 h
    have hexponent : (1 : Int) - leadingZeros numerator denominator 400 - 1 =
        -(leadingZeros numerator denominator 400 : Int) := by omega
    rw [hexponent, zpow_neg, zpow_natCast, inv_mul_le_iff₀ (by positivity), mul_comm]
    exact hzeros

/-- The search takes a neighbour that is in the interval, if there is one with seventeen digits. -/
theorem Rounding.exists_search {top : Int} (h : ∃ n, (r.shift (top - 17)).nearest? = some n)
    {count fuel : Nat} (hcount : count ≤ 17) (hfuel : count + fuel = 18) :
    ∃ d, r.search top count fuel = d ∧ (r.shift d.exponent).nearest? = some d.digits := by
  induction fuel generalizing count with
  | zero => omega
  | succ fuel ih =>
    rw [search]
    cases hnearest : (r.shift (top - count)).nearest? with
    | some n => exact ⟨_, rfl, hnearest⟩
    | none =>
      have hne : count ≠ 17 := by
        rintro rfl
        obtain ⟨n, hn⟩ := h
        exact absurd (hn.symm.trans hnearest) (by simp)
      exact ih (by omega) (by omega)

/-- Zeros that are moved into the exponent leave the decimal as it is. -/
theorem Scientific.strip_eq (d : Scientific) (hd : 0 < d.digits) (fuel : Nat) :
    0 < (d.strip fuel).digits ∧
      ((d.strip fuel).digits : ℚ) * 10 ^ (d.strip fuel).exponent = d.digits * 10 ^ d.exponent := by
  induction fuel generalizing d with
  | zero => exact ⟨hd, rfl⟩
  | succ fuel ih =>
    rw [strip]
    split_ifs with hzero
    · rw [Bool.and_eq_true, decide_eq_true_iff] at hzero
      have hdigits : d.digits = d.digits / 10 * 10 := by omega
      obtain ⟨hpos, heq⟩ := ih ⟨d.digits / 10, d.exponent + 1⟩ (by change 0 < d.digits / 10; omega)
      refine ⟨hpos, heq.trans ?_⟩
      rw [zpow_add_one₀ (by norm_num), mul_comm (10 ^ d.exponent) (10 : ℚ), ← mul_assoc]
      congr 1
      exact_mod_cast hdigits.symm
    · exact ⟨hd, rfl⟩

/-- The grid of seventeen digits is fine enough for every double. -/
theorem Rounding.IsOf.fine (h : r.IsOf m e 0) (hd : IsDouble m e) :
    (10 : ℚ) ^ 16 ≤ m * (2 ^ e / 10 ^ (magnitude r.value r.denominator - 17)) := by
  have hdenominator : (0 : ℚ) < r.denominator := by exact_mod_cast h.pos
  have hvalue : (r.value : ℚ) / r.denominator = m * 2 ^ e := by
    rw [h.value, mul_div_cancel_right₀ _ hdenominator.ne', zpow_zero, div_one]
  -- No double is so small that the search for its magnitude ends early.
  have hsmall : r.denominator ≤ r.value * 10 ^ 400 := by
    have hm : (1 : ℚ) ≤ m := by exact_mod_cast hd.pos
    have hmin : (10 : ℚ) ^ (-400 : Int) ≤ r.value / r.denominator := by
      calc (10 : ℚ) ^ (-400 : Int) ≤ 2 ^ (-1074 : Int) := by
            rw [zpow_neg, zpow_neg]
            exact inv_anti₀ (by positivity) (two_zpow_le_ten (j := 1074) (k := 400) (by norm_num))
        _ ≤ 2 ^ e := zpow_le_zpow_right₀ (by norm_num) hd.low
        _ ≤ m * 2 ^ e := le_mul_of_one_le_left (by positivity) hm
        _ = r.value / r.denominator := hvalue.symm
    rw [le_div_iff₀ hdenominator, zpow_neg, inv_mul_le_iff₀ (by positivity), mul_comm] at hmin
    exact_mod_cast hmin
  have hmagnitude := zpow_magnitude_le h.pos hsmall
  rw [hvalue] at hmagnitude
  generalize magnitude r.value r.denominator = top at hmagnitude
  have hsplit : (10 : ℚ) ^ (top - 1) = 10 ^ 16 * 10 ^ (top - 17) := by
    rw [← zpow_natCast, ← zpow_add₀ (by norm_num)]
    congr 1
    push_cast
    ring
  rw [← mul_div_assoc, le_div_iff₀ (by positivity), ← hsplit]
  exact hmagnitude

/-- **The shortest decimal of a double rounds to it.** -/
theorem shortest_roundsTo (hd : IsDouble m e) {d : Scientific}
    (h : shortest m e (decide (m = 2 ^ 52 ∧ e ≠ -1074)) = d) :
    0 < d.digits ∧ RoundsTo m e (d.digits * 10 ^ d.exponent) := by
  have hof := Rounding.isOf_of hd
  simp only [shortest] at h
  generalize Rounding.of m e (decide (m = 2 ^ 52 ∧ e ≠ -1074)) = r at hof h
  obtain ⟨found, hfound, hnearest⟩ := Rounding.exists_search
    (Rounding.exists_nearest? (hof.shift _) hd (hof.fine hd)) (by decide : 1 ≤ 17)
    (rfl : 1 + 17 = 18)
  obtain ⟨hholds, hpos⟩ := Rounding.holds_of_nearest? hnearest
  obtain ⟨hpos', heq⟩ := found.strip_eq hpos 20
  rw [hfound] at h
  subst h
  exact ⟨hpos', heq ▸ ((hof.shift _).holds_iff _).mp hholds⟩

end

end Colloquy.Decimal
