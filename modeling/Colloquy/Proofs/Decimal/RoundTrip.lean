import Colloquy.Proofs.Decimal.Numerals
import Colloquy.Proofs.Decimal.Shortest

/-!
# Doubles read back

The plain decimal text of a double is read as the same double.

* `written_write`: what texts doubles have;
* `readDouble?_write`: they are read back.
-/

namespace Colloquy.Decimal

section

variable {cs : List Char} {u : Unsigned}

theorem toLower_of_isDigit {c : Char} (h : c.isDigit = true) : c.toLower = c := by
  have hle : c.val ≤ '9'.val := by
    rw [Char.isDigit, Bool.and_eq_true] at h
    exact of_decide_eq_true h.2
  have hsmall : ¬ 'A'.val ≤ c.val := fun hge => absurd (UInt32.le_trans hge hle) (by decide)
  exact dif_neg fun hupper => hsmall hupper.1

/-- A text with a digit first is not a word. -/
theorem ofList_toLower_ne (hne : cs ≠ []) (hdigit : ∀ c ∈ cs.head?, c.isDigit = true)
    {word : String} (hword : word.toList.head?.any Char.isDigit = false) :
    String.ofList (cs.map Char.toLower) ≠ word := by
  rintro rfl
  obtain ⟨c, rest, rfl⟩ := List.exists_cons_of_ne_nil hne
  have hc := hdigit c rfl
  have hfirst : (String.ofList ((c :: rest).map Char.toLower)).toList.head? = some c := by
    rw [String.toList_ofList, List.map_cons, List.head?_cons, toLower_of_isDigit hc]
  rw [hfirst] at hword
  exact absurd (hc.symm.trans hword) (by decide)

/-- **Numerals** are read as the doubles nearest to them. -/
theorem Numeral.readDouble?_eq (h : Numeral cs u) (negative : Bool) :
    readDouble? (signedText negative cs) = some (signed negative u.toDouble) := by
  have hword : ∀ word : String, word.toList.head?.any Char.isDigit = false →
      String.ofList (cs.map Char.toLower) ≠ word := fun _ =>
    ofList_toLower_ne h.ne_nil h.isDigit_head
  rw [readDouble?, splitSign_signedText h.isDigit_head]
  simp only [hword "inf" (by decide), hword "infinity" (by decide), hword "nan" (by decide),
    decide_false, Bool.or_false, Bool.false_eq_true, if_false, h.readUnsigned?_eq]
  rfl

end

/-- What texts doubles have. -/
inductive Written : Float → String → Prop where
  | nan : Written (0.0 / 0.0) "NaN"
  | infinite (negative : Bool) :
      Written (signed negative (1.0 / 0.0)) (if negative then "-inf" else "inf")
  | zero (negative : Bool) : Written (signed negative 0) (signedText negative ['0'])
  | finite (negative : Bool) {cs : List Char} {u : Unsigned} (h : Numeral cs u)
      (hpos : 0 < digitsValue u.digits) :
      Written (signed negative u.toDouble) (signedText negative cs)

theorem written_write (x : Float) : Written x (Style.plain.write (.ofDouble x)) := by
  have hdecodes := decodes_ofDouble x
  generalize Binary.ofDouble x = b at hdecodes
  cases hdecodes with
  | nan => exact .nan
  | infinite negative => exact .infinite negative
  | zero negative =>
    cases negative
    · exact .zero false
    · exact .zero true
  | @finite negative m e hd =>
    obtain ⟨hdigits, hrounds⟩ := shortest_roundsTo hd rfl
    obtain ⟨cs, u, htext, hnumeral, hvalue⟩ := exists_numeral _ hdigits
    have hpos : 0 < digitsValue u.digits := by
      refine Nat.pos_of_ne_zero fun hzero => ?_
      rw [hzero, Nat.cast_zero, zero_mul] at hvalue
      exact absurd hvalue (ne_of_lt (by positivity))
    have hdouble : u.toDouble = doubleOf hd := u.toDouble_eq hd hpos (hvalue ▸ hrounds)
    rw [← hdouble, Style.write, htext]
    · exact .finite negative hnumeral hpos
    · exact hd.pos.ne'

/-- **Doubles are read back** from their plain decimal texts. -/
theorem readDouble?_write (x : Float) :
    readDouble? (Style.plain.write (.ofDouble x)) = some x := by
  have hwritten := written_write x
  generalize Style.plain.write (.ofDouble x) = text at hwritten
  cases hwritten with
  | nan => decide +kernel
  | infinite negative | zero negative => cases negative <;> decide +kernel
  | finite negative h hpos => exact h.readDouble?_eq negative

end Colloquy.Decimal
