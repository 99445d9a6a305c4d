import Colloquy.Decimal.Reading
import Colloquy.Decimal.Shortest
import Mathlib.Algebra.Order.Field.Power
import Mathlib.Algebra.Order.Field.Rat
import Mathlib.Data.List.TakeWhile
import Mathlib.Tactic.NormNum
import Mathlib.Tactic.Positivity
import Mathlib.Tactic.Ring
import Mathlib.Tactic.SplitIfs

/-!
# Numerals read back

A decimal without a power of ten is written with its digits only, and perhaps a point among them.

* `Numeral`: such texts, and what they are read as;
* `exists_numeral`: decimals are written so, whatever their power of ten;
* `readInteger?_toString`, `Numeral.toString_of_readInteger?`: whole numbers and their texts.
-/

namespace Colloquy.Decimal

/-! ### Digits -/

section

variable {n : Nat} {c : Char} {cs : List Char}

theorem isDigit_of_mem_toDigits (h : c ∈ Nat.toDigits 10 n) : c.isDigit = true :=
  Nat.isDigit_of_mem_toDigits (by decide) (by decide) h

theorem digitsValue_toDigits (n : Nat) : digitsValue (Nat.toDigits 10 n) = n :=
  Nat.ofDigitChars_ten_toDigits

/-- Zeros after a number multiply it by powers of ten. -/
theorem toDigits_mul_pow (hn : 0 < n) (k : Nat) :
    Nat.toDigits 10 (n * 10 ^ k) = Nat.toDigits 10 n ++ List.replicate k '0' := by
  induction k with
  | zero => simp
  | succ k ih =>
    have hzero : Nat.toDigits 10 (10 * (n * 10 ^ k) + 0) = Nat.toDigits 10 (n * 10 ^ k) ++ ['0'] :=
      (Nat.toDigits_append_toDigits (by decide) (by positivity) (by decide)).symm
    have hsplit : n * 10 ^ (k + 1) = 10 * (n * 10 ^ k) + 0 := by ring
    rw [hsplit, hzero, ih, List.append_assoc, List.replicate_succ']

/-- Zeros in front of a number mean nothing. -/
theorem digitsValue_zeros (k : Nat) (cs : List Char) :
    digitsValue (List.replicate k '0' ++ cs) = digitsValue cs := by
  change Nat.ofDigitChars 10 (List.replicate k '0' ++ cs) 0 = Nat.ofDigitChars 10 cs 0
  rw [Nat.ofDigitChars_append, Nat.ofDigitChars_replicate_zero, Nat.mul_zero]

theorem splitSign_of_isDigit (h : ∀ c ∈ cs.head?, c.isDigit = true) :
    splitSign cs = (false, cs) := by
  cases cs with
  | nil => rfl
  | cons c cs =>
    have hc := h c rfl
    have hminus : c ≠ '-' := by
      rintro rfl
      exact absurd hc (by decide)
    have hplus : c ≠ '+' := by
      rintro rfl
      exact absurd hc (by decide)
    rw [splitSign]
    · exact fun rest heq => hminus (List.cons.inj heq).1
    · exact fun rest heq => hplus (List.cons.inj heq).1

/-! ### Signs -/

/-- A text with or without a minus sign. -/
def signedText (negative : Bool) (cs : List Char) : String :=
  (if negative then "-" else "") ++ String.ofList cs

theorem toList_signedText (negative : Bool) (cs : List Char) :
    (signedText negative cs).toList = if negative then '-' :: cs else cs := by
  cases negative <;> simp [signedText]

theorem splitSign_signedText (h : ∀ c ∈ cs.head?, c.isDigit = true) (negative : Bool) :
    splitSign (signedText negative cs).toList = (negative, cs) := by
  rw [toList_signedText]
  cases negative with
  | true => rfl
  | false => exact splitSign_of_isDigit h

/-! ### Whole numbers -/

theorem toString_eq (n : Int) :
    toString n = signedText (decide (n < 0)) (Nat.toDigits 10 n.natAbs) := by
  rw [← String.toList_inj, toList_signedText]
  cases n with
  | ofNat n => simp [toString, Int.repr]
  | negSucc n => simp [toString, Int.repr]

theorem readInteger?_signedText (negative : Bool) (n : Nat) :
    readInteger? (signedText negative (Nat.toDigits 10 n)) =
      some (if negative then -(n : Int) else n) := by
  have hhead : ∀ c ∈ (Nat.toDigits 10 n).head?, c.isDigit = true := fun c hc =>
    isDigit_of_mem_toDigits (List.mem_of_head? hc)
  have hall : (Nat.toDigits 10 n).all Char.isDigit = true :=
    List.all_eq_true.mpr fun c => isDigit_of_mem_toDigits
  have hempty : (Nat.toDigits 10 n).isEmpty = false :=
    List.isEmpty_eq_false_iff.mpr Nat.toDigits_ne_nil
  rw [readInteger?, splitSign_signedText hhead]
  simp only [hempty, hall, digitsValue_toDigits]
  rfl

/-- **Whole numbers** are read back. -/
theorem readInteger?_toString (n : Int) : readInteger? (toString n) = some n := by
  rw [toString_eq, readInteger?_signedText]
  congr 1
  simp only [decide_eq_true_eq]
  omega

end

/-! ### Numerals -/

/-- The texts of decimals without a sign and a power of ten, and what they are read as. -/
inductive Numeral : List Char → Unsigned → Prop where
  | whole (n : Nat) : Numeral (Nat.toDigits 10 n) ⟨Nat.toDigits 10 n, 0⟩
  | point {whole fraction : List Char} (hwhole : whole ≠ [])
      (hdigits : ∀ c ∈ whole ++ fraction, c.isDigit = true) :
      Numeral (whole ++ '.' :: fraction) ⟨whole ++ fraction, -fraction.length⟩

section

variable {cs : List Char} {u : Unsigned}

theorem Numeral.ne_nil (h : Numeral cs u) : cs ≠ [] := by
  cases h with
  | whole n => exact Nat.toDigits_ne_nil
  | point hwhole hdigits => exact List.append_ne_nil_of_left_ne_nil hwhole _

theorem Numeral.isDigit_head (h : Numeral cs u) : ∀ c ∈ cs.head?, c.isDigit = true := by
  cases h with
  | whole n => exact fun c hc => isDigit_of_mem_toDigits (List.mem_of_head? hc)
  | @point whole fraction hwhole hdigits =>
    obtain ⟨c, rest, rfl⟩ := List.exists_cons_of_ne_nil hwhole
    exact fun d hd => hdigits d (Option.some.inj hd ▸ List.mem_cons_self)

theorem Numeral.isDigit_or (h : Numeral cs u) : ∀ c ∈ cs, c.isDigit = true ∨ c = '.' := by
  cases h with
  | whole n => exact fun c hc => .inl (isDigit_of_mem_toDigits hc)
  | point hwhole hdigits =>
    intro c hc
    rcases List.mem_append.mp hc with hc | hc
    · exact .inl (hdigits c (List.mem_append_left _ hc))
    · rcases List.mem_cons.mp hc with rfl | hc
      · exact .inr rfl
      · exact .inl (hdigits c (List.mem_append_right _ hc))

/-- **Numerals** are read as what they are written for. -/
theorem Numeral.readUnsigned?_eq (h : Numeral cs u) : readUnsigned? cs = some u := by
  rw [readUnsigned?]
  cases h with
  -- The digits are all there is.
  | whole n =>
    have hdigits : ∀ c ∈ Nat.toDigits 10 n, c.isDigit = true := fun c => isDigit_of_mem_toDigits
    have hempty : (Nat.toDigits 10 n).isEmpty = false :=
      List.isEmpty_eq_false_iff.mpr Nat.toDigits_ne_nil
    have htake : (Nat.toDigits 10 n).takeWhile Char.isDigit = Nat.toDigits 10 n :=
      List.takeWhile_eq_self_iff.mpr hdigits
    have hdrop : (Nat.toDigits 10 n).dropWhile Char.isDigit = [] :=
      List.dropWhile_eq_nil_iff.mpr hdigits
    simp [htake, hdrop, hempty, readPower?]
  | @point whole fraction hwhole hdigits =>
    -- The digits before the point end at the point, and those after it at the end.
    have hleft : ∀ c ∈ whole, c.isDigit = true := fun c hc =>
      hdigits c (List.mem_append_left _ hc)
    have hright : ∀ c ∈ fraction, c.isDigit = true := fun c hc =>
      hdigits c (List.mem_append_right _ hc)
    have htake : (whole ++ '.' :: fraction).takeWhile Char.isDigit = whole := by
      rw [List.takeWhile_append_of_pos hleft]
      exact List.append_nil whole
    have hdrop : (whole ++ '.' :: fraction).dropWhile Char.isDigit = '.' :: fraction :=
      List.dropWhile_append_of_pos hleft
    have htake' : fraction.takeWhile Char.isDigit = fraction :=
      List.takeWhile_eq_self_iff.mpr hright
    have hdrop' : fraction.dropWhile Char.isDigit = [] := List.dropWhile_eq_nil_iff.mpr hright
    simp [htake, hdrop, htake', hdrop', hwhole, readPower?]

/-- A numeral for a positive number that is read as a whole number is the text of that number. -/
theorem Numeral.toString_of_readInteger? (h : Numeral cs u) (hpos : 0 < digitsValue u.digits)
    {negative : Bool} {n : Int} (hread : readInteger? (signedText negative cs) = some n) :
    toString n = signedText negative cs := by
  cases h with
  | whole k =>
    rw [digitsValue_toDigits] at hpos
    rw [readInteger?_signedText] at hread
    obtain rfl := Option.some.inj hread
    have hsign : decide ((if negative then -(k : Int) else k) < 0) = negative := by
      cases negative <;> simp [hpos]
    have habs : (if negative then -(k : Int) else k).natAbs = k := by
      cases negative <;> simp
    rw [toString_eq, hsign, habs]
  | @point whole fraction hwhole hdigits =>
    have hpoint : (whole ++ '.' :: fraction).all Char.isDigit = false :=
      List.all_eq_false.mpr ⟨'.', by simp, by decide⟩
    rw [readInteger?, splitSign_signedText (point hwhole hdigits).isDigit_head] at hread
    simp [hpoint] at hread

/-- **Decimals** are written as numerals, whatever their power of ten. -/
theorem exists_numeral (d : Scientific) (hd : 0 < d.digits) :
    ∃ cs u, Style.plain.digits d = String.ofList cs ∧ Numeral cs u ∧
      (digitsValue u.digits : ℚ) * 10 ^ u.exponent = d.digits * 10 ^ d.exponent := by
  have hdigits : ∀ c ∈ Nat.toDigits 10 d.digits, c.isDigit = true := fun c =>
    isDigit_of_mem_toDigits
  have hlength := Nat.length_toDigits_pos (b := 10) (n := d.digits)
  have hvalue := digitsValue_toDigits d.digits
  simp only [Style.digits, Style.plain, if_true, Bool.false_eq_true, if_false, List.append_nil]
  split_ifs with hexponent hfirst
  · -- zeros take the place of the power of ten
    rw [← toDigits_mul_pow hd]
    refine ⟨_, _, rfl, .whole _, ?_⟩
    have hten : (10 : ℚ) ^ d.exponent = (10 ^ d.exponent.toNat : Nat) := by
      rw [← Int.toNat_of_nonneg hexponent, zpow_natCast, Int.toNat_natCast, Nat.cast_pow,
        Nat.cast_ofNat]
    rw [digitsValue_toDigits, zpow_zero, mul_one, Nat.cast_mul, hten]
  · -- the point is among the digits
    generalize Nat.toDigits 10 d.digits = text at *
    refine ⟨_, _, rfl, .point ?_ ?_, ?_⟩
    · exact List.ne_nil_of_length_pos (by rw [List.length_take]; omega)
    · rwa [List.take_append_drop]
    · have hcount : -((text.drop ((d.exponent + text.length - 1).toNat + 1)).length : Int) =
          d.exponent := by
        rw [List.length_drop]
        omega
      simp only [List.take_append_drop, hvalue, hcount]
  · -- the point and zeros are in front of the digits
    generalize Nat.toDigits 10 d.digits = text at *
    generalize hzeros : (-(d.exponent + text.length - 1) - 1).toNat = zeros
    have hsplit : ['0'] ++ (List.replicate zeros '0' ++ text) =
        List.replicate (zeros + 1) '0' ++ text := rfl
    refine ⟨['0'] ++ '.' :: (List.replicate zeros '0' ++ text), _, rfl,
      .point (List.cons_ne_nil _ _) ?_, ?_⟩
    · rw [hsplit]
      intro c hc
      rcases List.mem_append.mp hc with hc | hc
      · rw [List.eq_of_mem_replicate hc]
        rfl
      · exact hdigits c hc
    · have hcount : -((List.replicate zeros '0' ++ text).length : Int) = d.exponent := by
        rw [List.length_append, List.length_replicate]
        omega
      simp only [hsplit, digitsValue_zeros, hvalue, hcount]

end

end Colloquy.Decimal
