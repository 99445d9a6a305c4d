/-!
# Blank characters

`isBlank` is the `White_Space` property of Unicode: the characters that separate words and that
`trim` takes off both ends of a text.  `isBlankText` says that nothing but blanks is there, which
is the same as that trimming leaves nothing (`trimChars_eq_nil_iff`).
-/

namespace Colloquy.Text

/-! ### The property -/

/-- Whether a character has the `White_Space` property of Unicode. -/
def isBlank (c : Char) : Bool :=
  let n := c.toNat
  (0x9 ≤ n && n ≤ 0xD) || n == 0x20 || n == 0x85 || n == 0xA0 || n == 0x1680 ||
    (0x2000 ≤ n && n ≤ 0x200A) || n == 0x2028 || n == 0x2029 || n == 0x202F || n == 0x205F ||
    n == 0x3000

/-- Every blank of ASCII that the core library knows is one. -/
theorem isBlank_of_isWhitespace {c : Char} (h : c.isWhitespace = true) : isBlank c = true := by
  simp only [Char.isWhitespace, Bool.or_eq_true, decide_eq_true_eq] at h
  rcases h with ((rfl | rfl) | rfl) | rfl <;> rfl

/-! ### Trimming -/

/-- The characters up to the last one that is not blank. -/
def trimEndChars (cs : List Char) : List Char :=
  (cs.reverse.dropWhile isBlank).reverse

/-- The characters between the first and the last one that is not blank. -/
def trimChars (cs : List Char) : List Char :=
  trimEndChars (cs.dropWhile isBlank)

/-- A text without the blanks at its two ends. -/
def trim (s : String) : String :=
  String.ofList (trimChars s.toList)

/-- Whether a text is empty or holds blanks only. -/
def isBlankText (s : String) : Bool :=
  s.toList.all isBlank

/-- Dropping blanks leaves nothing exactly when there is nothing but blanks. -/
theorem dropWhile_isBlank_eq_nil_iff (cs : List Char) :
    cs.dropWhile isBlank = [] ↔ cs.all isBlank = true := by
  induction cs with
  | nil => simp
  | cons c cs ih => cases h : isBlank c <;> simp [h, ih]

/-- What is left after dropping blanks starts with a character that is none. -/
theorem head_dropWhile_isBlank {cs : List Char} {c : Char} {rest : List Char}
    (h : cs.dropWhile isBlank = c :: rest) : isBlank c = false := by
  induction cs with
  | nil => simp at h
  | cons d cs ih =>
    cases hd : isBlank d with
    | true => rw [List.dropWhile_cons, hd] at h; exact ih h
    | false =>
      rw [List.dropWhile_cons, hd] at h
      simp only [Bool.false_eq_true, if_false, List.cons.injEq] at h
      exact h.1 ▸ hd

/-- Trimming leaves nothing exactly when there is nothing but blanks. -/
theorem trimChars_eq_nil_iff (cs : List Char) : trimChars cs = [] ↔ cs.all isBlank = true := by
  rw [trimChars, trimEndChars, List.reverse_eq_nil_iff, dropWhile_isBlank_eq_nil_iff,
    List.all_reverse, ← dropWhile_isBlank_eq_nil_iff cs]
  constructor
  · intro h
    match hd : cs.dropWhile isBlank with
    | [] => rfl
    | c :: rest =>
      rw [hd, List.all_cons, head_dropWhile_isBlank hd] at h
      simp at h
  · intro h
    simp [h]

/-- Blanks that have been dropped need not be dropped again. -/
theorem dropWhile_isBlank_dropWhile (cs : List Char) :
    (cs.dropWhile isBlank).dropWhile isBlank = cs.dropWhile isBlank := by
  cases h : cs.dropWhile isBlank with
  | nil => rfl
  | cons c rest => simp [head_dropWhile_isBlank h]

/-- Trimming leaves no blank at the front. -/
theorem dropWhile_isBlank_trimChars (cs : List Char) :
    (trimChars cs).dropWhile isBlank = trimChars cs := by
  cases h : trimChars cs with
  | nil => rfl
  | cons c rest =>
    obtain ⟨dropped, hd⟩ : trimChars cs <+: cs.dropWhile isBlank :=
      List.reverse_suffix.1 (by
        rw [trimChars, trimEndChars, List.reverse_reverse]
        exact List.dropWhile_suffix _)
    rw [h] at hd
    simp [head_dropWhile_isBlank hd.symm]

/-- A text that has been trimmed need not be trimmed again. -/
theorem trim_trim (s : String) : trim (trim s) = trim s := by
  rw [trim, trim, String.toList_ofList, trimChars, dropWhile_isBlank_trimChars]
  rw [trimEndChars, trimChars, trimEndChars, List.reverse_reverse, dropWhile_isBlank_dropWhile]

end Colloquy.Text
