import Colloquy.Retry.Backoff
import Mathlib.Algebra.Order.Ring.Pow
import Mathlib.Algebra.Order.Round
import Mathlib.Data.Rat.Floor
import Mathlib.Tactic.Linarith
import Mathlib.Tactic.NormNum
import Mathlib.Tactic.Ring

/-!
# How long the waits are

The waits in exact arithmetic: quantities are rationals, so nothing is rounded but the final number
of nanoseconds.  A wait is told by the nanoseconds of the undisturbed one, which grows by the factor
with every attempt until it meets the longest wait (`grown`).

* `power_eq`: repeated squaring gives powers;
* `backoff_eq`: a wait is the undisturbed one times the multiplier, rounded to the nearest
  nanosecond, or the longest one if that cannot be counted with 64 bits;
* `backoff_bounds`: between which waits a disturbed wait lies, for factors from one on, and that
  undisturbed waits never get shorter.

The exponent stops growing at `maxExponent`, which makes a difference if the factor is so close to
one that the waits still grow then (`late_wait_lt`).
-/

namespace Colloquy.Retry

variable {initial longest : Duration} {factor multiplier low high : Rat} {attempt : Nat}

/-! ### Powers -/

/-- What is left to multiply is a power of the base at every step. -/
theorem powerFrom_eq (result base : Rat) (n : Nat) :
    powerFrom result base n = result * base ^ n := by
  induction n using Nat.strong_induction_on generalizing result base with
  | h n ih =>
    rw [powerFrom]
    split_ifs with hzero hodd hhalf hhalf
    · rw [hzero, pow_zero, mul_one]
    · have hn : n = 1 := by omega
      rw [hn, pow_one]
      rfl
    · have hn : n = 2 * (n / 2) + 1 := by omega
      rw [ih (n / 2) (by omega)]
      change result * base * (base * base) ^ (n / 2) = result * base ^ n
      conv_rhs => rw [hn, pow_succ, pow_mul, pow_two]
      ring
    · omega
    · have hn : n = 2 * (n / 2) := by omega
      rw [ih (n / 2) (by omega)]
      change result * (base * base) ^ (n / 2) = result * base ^ n
      conv_rhs => rw [hn, pow_mul, pow_two]

theorem power_eq (base : Rat) (n : Nat) : power base n = base ^ n := by
  rw [power, powerFrom_eq]
  change ((1 : Nat) : Rat) * base ^ n = base ^ n
  rw [Nat.cast_one, one_mul]

/-! ### Rounding -/

/-- Rounding keeps the order. -/
theorem round_mono (h : low ≤ high) : round low ≤ round high := by
  rw [round_eq, round_eq]
  exact Int.floor_mono (by linarith)

/-- The nanoseconds of so many milliseconds are counted to the nearest one. -/
theorem nanoseconds_eq {x : Rat} (hx : 0 ≤ x) :
    ((Quantity.nanoseconds (x / 1000000) : Nat) : Int) = round x := by
  have hmillis : x / 1000000 * 1000000 = x := div_mul_cancel₀ x (by norm_num)
  have hhalf : 0 ≤ x + 1 / 2 := by linarith
  change ((⌊x / 1000000 * 1000000 + 1 / 2⌋.toNat : Nat) : Int) = round x
  rw [hmillis, round_eq]
  exact Int.toNat_of_nonneg (Int.floor_nonneg.mpr hhalf)

/-! ### The formula -/

/-- The nanoseconds of the first wait times a power of the factor, but no more than the longest
wait. -/
def grown (initial longest : Duration) (factor : Rat) (exponent : Nat) : Rat :=
  min longest.nanoseconds (initial.nanoseconds * factor ^ exponent)

theorem grown_nonneg (hf : 0 ≤ factor) (exponent : Nat) :
    0 ≤ grown initial longest factor exponent :=
  le_min (Nat.cast_nonneg _) (mul_nonneg (Nat.cast_nonneg _) (pow_nonneg hf _))

theorem grown_le (initial longest : Duration) (factor : Rat) (exponent : Nat) :
    grown initial longest factor exponent ≤ longest.nanoseconds :=
  min_le_left ..

/-- What grows never gets smaller. -/
theorem grown_mono (hf : 1 ≤ factor) {exponent later : Nat} (h : exponent ≤ later) :
    grown initial longest factor exponent ≤ grown initial longest factor later := by
  have hpow : factor ^ exponent ≤ factor ^ later := pow_le_pow_right₀ hf h
  exact min_le_min_left _ (mul_le_mul_of_nonneg_left hpow (Nat.cast_nonneg _))

/-- The nanoseconds of the wait before an attempt if its multiplier is one. -/
def undisturbed (initial longest : Duration) (factor : Rat) (attempt : Nat) : Rat :=
  grown initial longest factor (min (attempt - 1) maxExponent)

theorem undisturbed_nonneg (hf : 0 ≤ factor) (attempt : Nat) :
    0 ≤ undisturbed initial longest factor attempt :=
  grown_nonneg hf _

theorem undisturbed_le (initial longest : Duration) (factor : Rat) (attempt : Nat) :
    undisturbed initial longest factor attempt ≤ longest.nanoseconds :=
  grown_le ..

theorem undisturbed_mono (hf : 1 ≤ factor) {later : Nat} (h : attempt ≤ later) :
    undisturbed initial longest factor attempt ≤ undisturbed initial longest factor later :=
  grown_mono hf (min_le_min_right _ (Nat.sub_le_sub_right h 1))

theorem max_eq (a b : Rat) : Quantity.max a b = max a b :=
  (max_def_lt a b).symm

theorem min_eq (a b : Rat) : Quantity.min a b = min b a :=
  (min_def_lt b a).symm

/-- The milliseconds of the undisturbed wait. -/
theorem millis_undisturbed (hf : 0 ≤ factor) :
    Quantity.min (Quantity.mul (Quantity.millis initial)
        (power (Quantity.max factor (Quantity.ofNat 0)) (min (attempt - 1) maxExponent)))
      (Quantity.millis longest) =
      undisturbed initial longest factor attempt / 1000000 := by
  rw [min_eq, max_eq, power_eq]
  change min ((longest.nanoseconds : Rat) / 1000000)
    (initial.nanoseconds / 1000000 *
      max factor ((0 : Nat) : Rat) ^ min (attempt - 1) maxExponent) = _
  rw [Nat.cast_zero, max_eq_left hf, undisturbed, grown, div_mul_eq_mul_div]
  exact min_div_div_right (by norm_num) ..

/-- **A wait**: the undisturbed one times the multiplier, to the nearest nanosecond, or the longest
one if there are more nanoseconds than can be counted. -/
theorem backoff_eq (hattempt : attempt ≠ 0) (hf : 0 ≤ factor) (hm : 0 ≤ multiplier) :
    backoff initial longest factor attempt multiplier =
      let wait := undisturbed initial longest factor attempt * multiplier
      if maxNanoseconds ≤ wait then longest else ⟨(round wait).toNat⟩ := by
  set wait := undisturbed initial longest factor attempt * multiplier with hwait
  have hnonneg : 0 ≤ wait := mul_nonneg (grown_nonneg hf _) hm
  -- The delay of the formula, in milliseconds.
  have hdelay : Quantity.max (Quantity.mul (undisturbed initial longest factor attempt /
      1000000) (Quantity.max multiplier (Quantity.ofNat 0))) (Quantity.ofNat 0) =
      wait / 1000000 := by
    rw [max_eq, max_eq]
    change max (_ * max multiplier ((0 : Nat) : Rat)) ((0 : Nat) : Rat) = _
    rw [Nat.cast_zero, max_eq_left hm, div_mul_eq_mul_div, ← hwait]
    exact max_eq_left (div_nonneg hnonneg (by norm_num))
  have hlong : Quantity.isTooLong (wait / 1000000) = decide ((maxNanoseconds : Rat) ≤ wait) :=
    decide_eq_decide.mpr (div_le_div_iff_of_pos_right (by norm_num))
  have hfinite : ∀ x : Rat, Quantity.isFinite x = true := fun _ => rfl
  rw [backoff, if_neg hattempt]
  simp only [hfinite, if_true, Bool.not_true, Bool.false_or]
  rw [millis_undisturbed hf, hdelay, hlong]
  simp only [decide_eq_true_eq]
  split_ifs with h
  · rfl
  · rw [← nanoseconds_eq hnonneg, Int.toNat_natCast]

/-- A wait that can be counted is the undisturbed one times the multiplier. -/
theorem nanoseconds_backoff (hattempt : attempt ≠ 0) (hf : 0 ≤ factor) (hm : 0 ≤ multiplier)
    (h : undisturbed initial longest factor attempt * multiplier < maxNanoseconds) :
    ((backoff initial longest factor attempt multiplier).nanoseconds : Int) =
      round (undisturbed initial longest factor attempt * multiplier) := by
  have hwait : 0 ≤ undisturbed initial longest factor attempt * multiplier :=
    mul_nonneg (undisturbed_nonneg hf _) hm
  rw [backoff_eq hattempt hf hm]
  dsimp only
  rw [if_neg (not_le.mpr h)]
  refine Int.toNat_of_nonneg ?_
  rw [← round_zero (α := Rat)]
  exact round_mono hwait

/-- A wait that cannot be counted is the longest one. -/
theorem backoff_of_le (hattempt : attempt ≠ 0) (hf : 0 ≤ factor) (hm : 0 ≤ multiplier)
    (h : maxNanoseconds ≤ undisturbed initial longest factor attempt * multiplier) :
    backoff initial longest factor attempt multiplier = longest := by
  rw [backoff_eq hattempt hf hm]
  exact if_pos h

/-! ### Bounds -/

/-- A wait is no shorter than the undisturbed one times a number below the multiplier. -/
theorem le_backoff (hattempt : attempt ≠ 0) (hf : 0 ≤ factor) (hlow : 0 ≤ low)
    (hone : low ≤ 1) (hm : low ≤ multiplier) :
    round (undisturbed initial longest factor attempt * low) ≤
      (backoff initial longest factor attempt multiplier).nanoseconds := by
  have hgrown : 0 ≤ undisturbed initial longest factor attempt := undisturbed_nonneg hf _
  rcases lt_or_ge (undisturbed initial longest factor attempt * multiplier) maxNanoseconds
    with h | h
  · rw [nanoseconds_backoff hattempt hf (hlow.trans hm) h]
    exact round_mono (mul_le_mul_of_nonneg_left hm hgrown)
  · -- The longest wait is a whole number of nanoseconds.
    rw [backoff_of_le hattempt hf (hlow.trans hm) h, ← round_natCast (α := Rat)]
    exact round_mono ((mul_le_of_le_one_right hgrown hone).trans (undisturbed_le ..))

/-- A wait is no longer than the longest one times a number above the multiplier. -/
theorem backoff_le (hattempt : attempt ≠ 0) (hf : 0 ≤ factor) (hm : 0 ≤ multiplier)
    (hhigh : multiplier ≤ high) (hone : 1 ≤ high) :
    ((backoff initial longest factor attempt multiplier).nanoseconds : Int) ≤
      round (longest.nanoseconds * high) := by
  have hlongest : (0 : Rat) ≤ longest.nanoseconds := Nat.cast_nonneg _
  rcases lt_or_ge (undisturbed initial longest factor attempt * multiplier) maxNanoseconds
    with h | h
  · rw [nanoseconds_backoff hattempt hf hm h]
    exact round_mono (mul_le_mul (undisturbed_le ..) hhigh hm hlongest)
  · rw [backoff_of_le hattempt hf hm h, ← round_natCast (α := Rat)]
    exact round_mono (le_mul_of_one_le_right hlongest hone)

/-- Undisturbed waits are no longer than the longest one. -/
theorem backoff_one_le (hf : 0 ≤ factor) (attempt : Nat) :
    backoff initial longest factor attempt 1 ≤ longest := by
  by_cases hattempt : attempt = 0
  · rw [backoff, if_pos hattempt]
    exact Nat.zero_le _
  · have h : ((backoff initial longest factor attempt 1).nanoseconds : Int) ≤
        round (longest.nanoseconds * 1 : Rat) :=
      backoff_le hattempt hf zero_le_one le_rfl le_rfl
    rw [mul_one, round_natCast] at h
    exact Int.ofNat_le.mp h

/-- Undisturbed waits never get shorter. -/
theorem backoff_one_mono (hf : 1 ≤ factor) {later : Nat} (h : attempt ≤ later) :
    backoff initial longest factor attempt 1 ≤ backoff initial longest factor later 1 := by
  have hf₀ : 0 ≤ factor := zero_le_one.trans hf
  by_cases hattempt : attempt = 0
  · rw [backoff, if_pos hattempt]
    exact Nat.zero_le _
  have hlater : later ≠ 0 := by omega
  rcases lt_or_ge (undisturbed initial longest factor later * 1) maxNanoseconds
    with hcounted | hlong
  · have hgrown : undisturbed initial longest factor attempt * 1 ≤
        undisturbed initial longest factor later * 1 :=
      mul_le_mul_of_nonneg_right (undisturbed_mono hf h) zero_le_one
    have hround := round_mono hgrown
    rw [← nanoseconds_backoff hattempt hf₀ zero_le_one (hgrown.trans_lt hcounted),
      ← nanoseconds_backoff hlater hf₀ zero_le_one hcounted] at hround
    exact Int.ofNat_le.mp hround
  · rw [backoff_of_le hlater hf₀ zero_le_one hlong]
    exact backoff_one_le hf₀ attempt

/-- **The bounds of a wait**, for a factor from one on, whatever the first and the longest wait are.
Let `j` be the jitter, put between zero and one, and `cap` the undisturbed wait: the first one times
a power of the factor, whose exponent grows with the attempts up to the largest one that is used, or
the longest wait if that is less.

* Before the first call there is no wait.
* A wait with a multiplier between `1 - j` and `1 + j` lies between the undisturbed one times
  `1 - j` and the longest one times `1 + j`, both rounded to whole nanoseconds.  It is the
  undisturbed one times the multiplier, rounded, which then is counted with 64 bits; or else that
  would be too long to be counted, and the wait is the longest one.
* With the multiplier one, waits that can be counted are the undisturbed ones, rounded; no wait is
  shorter than one before it, and none is longer than the longest one. -/
theorem backoff_bounds (initial longest : Duration) (jitter : Rat) (hf : 1 ≤ factor) :
    let j := max 0 (min jitter 1)
    let cap := undisturbed initial longest factor
    let wait := backoff initial longest factor
    (∀ attempt, cap attempt = min (longest.nanoseconds : Rat)
      (initial.nanoseconds * factor ^ min (attempt - 1) (2 ^ 31 - 1))) ∧
    (∀ m, wait 0 m = .zero) ∧
    (∀ attempt m, 1 ≤ attempt → 1 - j ≤ m → m ≤ 1 + j →
      round (cap attempt * (1 - j)) ≤ (wait attempt m).nanoseconds ∧
      (wait attempt m).nanoseconds ≤ round (longest.nanoseconds * (1 + j)) ∧
      (cap attempt * m < maxNanoseconds →
        (wait attempt m).nanoseconds = round (cap attempt * m) ∧
        (wait attempt m).nanoseconds ≤ maxNanoseconds) ∧
      (maxNanoseconds ≤ cap attempt * m → wait attempt m = longest)) ∧
    (∀ attempt, 1 ≤ attempt → cap attempt < maxNanoseconds →
      (wait attempt 1).nanoseconds = round (cap attempt)) ∧
    (∀ attempt later, attempt ≤ later → wait attempt 1 ≤ wait later 1) ∧
    ∀ attempt, wait attempt 1 ≤ longest := by
  intro j cap wait
  have hf₀ : 0 ≤ factor := zero_le_one.trans hf
  have hj₀ : 0 ≤ j := le_max_left ..
  have hj₁ : j ≤ 1 := max_le zero_le_one (min_le_right ..)
  refine ⟨fun attempt => ?_, fun m => if_pos rfl, fun attempt m hattempt hlow hhigh => ?_,
    fun attempt hattempt h => ?_, fun _ _ h => backoff_one_mono hf h, backoff_one_le hf₀⟩
  · have hmax : maxExponent = 2 ^ 31 - 1 := rfl
    rw [← hmax]
    rfl
  · have hne : attempt ≠ 0 := by omega
    -- The jitter is at most one, so what a wait is multiplied by is not negative.
    have hm : 0 ≤ m := by linarith
    refine ⟨le_backoff hne hf₀ (by linarith) (by linarith) hlow,
      backoff_le hne hf₀ hm hhigh (by linarith), fun h => ?_, backoff_of_le hne hf₀ hm⟩
    have hwait := nanoseconds_backoff hne hf₀ hm h
    refine ⟨hwait, Int.ofNat_le.mp ?_⟩
    rw [hwait, ← round_natCast (α := Rat) maxNanoseconds]
    exact round_mono h.le
  · have hne : attempt ≠ 0 := by omega
    have hwait : ((wait attempt 1).nanoseconds : Int) = round (cap attempt * 1) :=
      nanoseconds_backoff hne hf₀ zero_le_one (by rwa [mul_one])
    rwa [mul_one] at hwait

/-- The waits that policies ask for if they are not told otherwise: the third one is four seconds,
give or take a tenth. -/
theorem usual_backoff_bounds :
    let wait := backoff (.ofMillis 1000) (.ofMillis 30000) (2 : Rat)
    (1 : Rat) ≤ 2 ∧ (wait 3 1).nanoseconds = 4000000000 ∧
    3600000000 ≤ (wait 3 (21 / 20)).nanoseconds ∧ wait 3 1 ≤ wait 7 1 ∧
    (wait 7 (11 / 10)).nanoseconds ≤ 33000000000 := by
  intro wait
  have hfactor : (1 : Rat) ≤ 2 := by norm_num
  obtain ⟨hcap, -, hwait, hone, hmono, -⟩ :=
    backoff_bounds (.ofMillis 1000) (.ofMillis 30000) (1 / 10) hfactor
  have hjitter : max 0 (min (1 / 10 : Rat) 1) = 1 / 10 := by norm_num
  have hthird : undisturbed (.ofMillis 1000) (.ofMillis 30000) (2 : Rat) 3 = 4000000000 := by
    rw [hcap 3]
    norm_num [Duration.ofMillis]
  rw [hjitter] at hwait
  obtain ⟨hlow, -⟩ := hwait 3 (21 / 20) (by norm_num) (by norm_num) (by norm_num)
  obtain ⟨-, hhigh, -⟩ := hwait 7 (11 / 10) (by norm_num) (by norm_num) (by norm_num)
  have hcounted := hone 3 (by norm_num) (by rw [hthird]; norm_num [maxNanoseconds])
  have hround : round ((4000000000 : Rat) * (1 - 1 / 10)) = 3600000000 := by norm_num
  have hround' : round (((Duration.ofMillis 30000).nanoseconds : Rat) * (1 + 1 / 10)) =
      33000000000 := by
    norm_num [Duration.ofMillis]
  have hround'' : round (4000000000 : Rat) = 4000000000 := by norm_num
  rw [hthird, hround] at hlow
  rw [hround'] at hhigh
  rw [hthird, hround''] at hcounted
  exact ⟨hfactor, Int.ofNat_inj.mp hcounted, Int.ofNat_le.mp hlow, hmono 3 7 (by norm_num),
    Int.ofNat_le.mp hhigh⟩

/-! ### Late attempts -/

/-- A number little more than one has small powers. -/
theorem one_add_pow_le {x : Rat} {n : Nat} (hx : 0 ≤ x) (hx' : x ≤ 1) (hn : n * x ≤ 1 / 4) :
    (1 + x) ^ n ≤ 4 / 3 := by
  have hbernoulli : 1 + n * -x ≤ (1 + -x) ^ n := one_add_mul_le_pow (by linarith) n
  have hless : 3 / 4 ≤ (1 - x) ^ n := by
    rw [sub_eq_add_neg]
    linarith
  have hsquare : 0 ≤ (1 + x) * (1 - x) := mul_nonneg (by linarith) (by linarith)
  have hsquare' : (1 + x) * (1 - x) ≤ 1 := by nlinarith
  have hproduct : (1 + x) ^ n * (3 / 4) ≤ 1 := calc
    (1 + x) ^ n * (3 / 4) ≤ (1 + x) ^ n * (1 - x) ^ n :=
      mul_le_mul_of_nonneg_left hless (pow_nonneg (by linarith) n)
    _ = ((1 + x) * (1 - x)) ^ n := (mul_pow ..).symm
    _ ≤ 1 := pow_le_one₀ hsquare hsquare'
  linarith

/-- A wait that grows by little for long enough is the longest one. -/
theorem grown_eq_longest {x : Rat} {n : Nat} (hx : 0 ≤ x)
    (h : (longest.nanoseconds : Rat) ≤ initial.nanoseconds * (1 + n * x)) :
    grown initial longest (1 + x) n = longest.nanoseconds := by
  have hbernoulli : 1 + n * x ≤ (1 + x) ^ n := one_add_mul_le_pow (by linarith) n
  exact min_eq_left (h.trans (mul_le_mul_of_nonneg_left hbernoulli (Nat.cast_nonneg _)))

/-- A wait that has grown by little is little more than the first one. -/
theorem grown_le_first {x : Rat} {n : Nat} (hx : 0 ≤ x) (hx' : x ≤ 1) (hn : n * x ≤ 1 / 4) :
    grown initial longest (1 + x) n ≤ initial.nanoseconds * (4 / 3) :=
  (min_le_right ..).trans
    (mul_le_mul_of_nonneg_left (one_add_pow_le hx hx' hn) (Nat.cast_nonneg _))

/-- After so many attempts that the exponent does not grow any more, a wait is shorter than the
first one times the power of the factor that the number of the attempt would ask for, or the longest
one if that is less. -/
theorem late_wait_lt :
    let cap := grown (.ofMillis 1000) (.ofMillis 1450) (1 + 1 / 2 ^ 33) (4294967295 - 1)
    cap = 1450000000 ∧
    ((backoff (.ofMillis 1000) (.ofMillis 1450) (1 + 1 / 2 ^ 33 : Rat) 4294967295 1).nanoseconds :
      Int) < round (cap * (1 - 0)) := by
  intro cap
  have hx : (0 : Rat) ≤ 1 / 2 ^ 33 := by norm_num
  have hx' : (1 / 2 ^ 33 : Rat) ≤ 1 := by norm_num
  have hfactor : (0 : Rat) ≤ 1 + 1 / 2 ^ 33 := by norm_num
  have hcap : cap = 1450000000 := by
    rw [show cap = _ from grown_eq_longest hx (by norm_num [Duration.ofMillis])]
    norm_num [Duration.ofMillis]
  -- The exponent stops at the largest 32-bit number, about half way to the last attempt.
  have hexponent : min (4294967295 - 1) maxExponent = 2147483647 := by decide
  -- Up to there the wait has grown by a third at most.
  have hwait : undisturbed (.ofMillis 1000) (.ofMillis 1450) (1 + 1 / 2 ^ 33) 4294967295 * 1 ≤
      4000000000 / 3 := by
    rw [undisturbed, hexponent, mul_one]
    refine (grown_le_first hx hx' (by norm_num)).trans ?_
    norm_num [Duration.ofMillis]
  have hcounted : (4000000000 / 3 : Rat) < maxNanoseconds := by norm_num [maxNanoseconds]
  have hround : round (4000000000 / 3 : Rat) = 1333333333 := by norm_num
  have hround' : round (1450000000 * (1 - 0) : Rat) = 1450000000 := by norm_num
  have hless := round_mono hwait
  refine ⟨hcap, ?_⟩
  rw [hcap, hround', nanoseconds_backoff (by decide) hfactor zero_le_one
    (hwait.trans_lt hcounted)]
  rw [hround] at hless
  exact hless.trans_lt (by decide)

end Colloquy.Retry
