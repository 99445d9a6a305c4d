import Colloquy.Json.Scanner
import Colloquy.Json.Value
import Mathlib.Data.List.Basic
import Mathlib.Tactic.IntervalCases
import Mathlib.Tactic.SplitIfs

/-!
# Tokens read back

The tokens of a text are read back as what they were written for, whatever comes after them.

* `readText_written`: texts, whatever characters they hold;
* `readNumber_written`: integers without a sign, if no digit, point or power of ten comes next.
-/

namespace Colloquy.Json

/-! ### Texts -/

/-- Controls are written with two hexadecimal digits. -/
theorem hexValues?_control :
    ∀ n < 32, hexValues? '0' '0' (hexDigit (n / 16)) (hexDigit (n % 16)) = some n := by
  decide

/-- A character is read back, be it escaped or not. -/
theorem readText_escapedChar (c : Char) (tail : List Char) :
    readText (escapedChar c ++ tail) = readText.push c (readText tail) := by
  unfold escapedChar
  split_ifs with hquote hslash hn hr ht hb hf hcontrol
  -- Seven characters have escapes of their own.
  · subst hquote
    rfl
  · subst hslash
    rfl
  · subst hn
    rfl
  · subst hr
    rfl
  · subst ht
    rfl
  · obtain rfl : c = '\x08' := Char.toNat_inj.mp hb
    rfl
  · obtain rfl : c = '\x0c' := Char.toNat_inj.mp hf
    rfl
  -- Other control characters are written by their number, which stands for no surrogate.
  · have hread : readText ('\\' :: 'u' :: '0' :: '0' :: hexDigit (c.toNat / 16) ::
        hexDigit (c.toNat % 16) :: tail) = readText.push (Char.ofNat c.toNat) (readText tail) := by
      rw [readText, hexValues?_control _ hcontrol]
      have hlow : ¬(0xDC00 ≤ c.toNat ∧ c.toNat ≤ 0xDFFF) := by omega
      have hplain : c.toNat < 0xD800 := by omega
      simp [hlow, hplain]
    rw [Char.ofNat_toNat] at hread
    exact hread
  · rw [List.singleton_append, readText]
    · exact if_neg hcontrol
    · exact fun h => hquote h
    all_goals intros; exact hslash ‹_›

theorem readText_written (s rest : List Char) :
    readText (s.flatMap escapedChar ++ '"' :: rest) = .ok (s, rest) := by
  induction s with
  | nil => rfl
  | cons c s ih =>
    rw [List.flatMap_cons, List.append_assoc, readText_escapedChar, ih]
    rfl

/-! ### Numbers -/

/-- What may come after a number: nothing that would belong to it. -/
def EndsNumber (rest : List Char) : Prop :=
  ∀ c ∈ rest.head?, c.isDigit = false ∧ c ≠ '.' ∧ c ≠ 'e' ∧ c ≠ 'E'

theorem le_ofDigitChars (cs : List Char) (n : Nat) : n ≤ Nat.ofDigitChars 10 cs n := by
  induction cs generalizing n with
  | nil => exact Nat.le_refl n
  | cons c cs ih =>
    rw [Nat.ofDigitChars_cons]
    exact Nat.le_trans (by omega) (ih _)

/-- Digits are added as long as the number fits. -/
theorem addDigits_digits {cs rest : List Char} (hdigits : ∀ c ∈ cs, c.isDigit = true)
    (hrest : ∀ c ∈ rest.head?, c.isDigit = false) (n count : Nat)
    (hfits : Nat.ofDigitChars 10 cs n ≤ maxSignificand) :
    addDigits n count (cs ++ rest) = (Nat.ofDigitChars 10 cs n, count + cs.length, rest) := by
  induction cs generalizing n count with
  | nil =>
    cases rest with
    | nil => rfl
    | cons c rest =>
      rw [List.nil_append, addDigits, hrest c rfl]
      rfl
  | cons c cs ih =>
    obtain ⟨hc, hcs⟩ := List.forall_mem_cons.mp hdigits
    rw [Nat.ofDigitChars_cons] at hfits ⊢
    have hnext : 10 * n + (c.toNat - 48) ≤ maxSignificand :=
      Nat.le_trans (le_ofDigitChars cs _) hfits
    have hmore : addDigits (10 * n + (c.toNat - 48)) (count + 1) (cs ++ rest) = _ :=
      ih hcs _ _ hfits
    rw [List.cons_append, addDigits, hc, decide_eq_true hnext, Bool.and_true, if_pos rfl, hmore,
      List.length_cons, Nat.add_assoc, Nat.add_comm 1]
    rfl

/-- Only zero starts with a zero. -/
theorem head?_toDigits {n : Nat} (hn : 0 < n) : (Nat.toDigits 10 n).head? ≠ some '0' := by
  induction n using Nat.strongRecOn with
  | _ n ih =>
    by_cases hlt : n < 10
    · rw [Nat.toDigits_of_lt_base hlt]
      interval_cases n <;> decide
    · rw [Nat.toDigits_of_base_le (by decide) (by omega),
        List.head?_append_of_ne_nil _ Nat.toDigits_ne_nil]
      exact ih (n / 10) (by omega) (by omega)

/-- A natural number is read back. -/
theorem readNumber_written {n : Nat} (hn : n ≤ maxSignificand) {rest : List Char}
    (hrest : EndsNumber rest) :
    readNumber false (Nat.toDigits 10 n ++ rest) = .ok (.integer n, rest) := by
  -- What comes after the digits goes on with no part of a number.
  have hafter : afterWhole false n 0 rest = .ok (.integer n, rest) := by
    cases rest with
    | nil => rfl
    | cons c rest =>
      obtain ⟨-, hpoint, hsmall, hlarge⟩ := hrest c rfl
      rw [afterWhole]
      · rfl
      · intro _ h
        exact hpoint (List.cons.inj h).1
      · intro _ h
        exact hsmall (List.cons.inj h).1
      · intro _ h
        exact hlarge (List.cons.inj h).1
  have hnodigit : ∀ c ∈ rest.head?, c.isDigit = false := fun c hc => (hrest c hc).1
  have hdigit : ∀ c ∈ Nat.toDigits 10 n, c.isDigit = true := fun c hc =>
    Nat.isDigit_of_mem_toDigits (by decide) (by decide) hc
  rcases Nat.eq_zero_or_pos n with rfl | hpos
  · rw [Nat.toDigits_of_lt_base (by decide)]
    -- Zero stands alone: it may not be followed by digits.
    cases rest with
    | nil => exact hafter
    | cons c rest =>
      have hc := hnodigit c rfl
      simp only [List.cons_append, List.nil_append, readNumber]
      rw [if_pos (by decide), hc]
      exact hafter
  · -- Others start with another digit than zero, and all of their digits are read in one go.
    have hread : addDigits 0 0 (Nat.toDigits 10 n ++ rest)
        = (n, 0 + (Nat.toDigits 10 n).length, rest) := by
      have hvalue : Nat.ofDigitChars 10 (Nat.toDigits 10 n) 0 = n :=
        Nat.ofDigitChars_ten_toDigits
      rw [addDigits_digits hdigit hnodigit 0 0 (by rwa [hvalue]), hvalue]
    have htake : rest.takeWhile Char.isDigit = [] := by
      cases rest with
      | nil => rfl
      | cons c rest => rw [List.takeWhile_cons, hnodigit c rfl]; rfl
    have hdrop : rest.dropWhile Char.isDigit = rest := by
      cases rest with
      | nil => rfl
      | cons c rest => rw [List.dropWhile_cons, hnodigit c rfl]; rfl
    have hhead := head?_toDigits hpos
    cases hdigits : Nat.toDigits 10 n with
    | nil => exact absurd hdigits Nat.toDigits_ne_nil
    | cons d ds =>
      have hd : d.isDigit = true := hdigit d (by simp [hdigits])
      rw [hdigits, List.head?_cons] at hhead
      rw [hdigits] at hread
      rw [List.cons_append] at hread ⊢
      have hne : d ≠ '0' := fun h => hhead (congrArg some h)
      simp only [readNumber, hne, hd, hread, if_false, if_true, htake, hdrop]
      exact hafter

end Colloquy.Json
