import Colloquy.Display.Preview
import Mathlib.Data.List.TakeWhile
import Mathlib.Tactic.SplitIfs

/-!
# What a preview shows

A preview counts characters, but a text is cut at offsets in bytes, and an offset may well be inside
a character.  `checkedPreview?` is the preview by offsets, where each cut is looked at whether it is
between two characters.

* `cut?_eq_some_iff`: at which offsets a text can be cut, and into what;
* `checkedPreview?_eq`: previews are never cut inside a character;
* `preview_of_lt`: what is shown of a long text, and what is not;
* `preview_shows`: the previews of all texts.
-/

namespace Colloquy.Display

variable {content : String}

/-! ### Offsets in bytes -/

/-- A text cut in two at an offset in bytes, unless the offset is inside a character or beyond the
end. -/
def cut? (s : String) (offset : Nat) : Option (String × String) :=
  if h : String.Pos.Raw.IsValid s ⟨offset⟩ then
    some ((s.sliceTo ⟨⟨offset⟩, h⟩).copy, (s.sliceFrom ⟨⟨offset⟩, h⟩).copy)
  else none

/-- The offset in bytes of the character with a number, if there are so many characters. -/
def offsetOf? (s : String) (n : Nat) : Option Nat :=
  if n < s.length then some (String.ofList (s.toList.take n)).utf8ByteSize else none

/-- The offset in bytes of the first line feed, if there is one. -/
def lineFeed? (s : String) : Option Nat :=
  if s.toList.contains '\n' then some (String.ofList (s.toList.takeWhile (· ≠ '\n'))).utf8ByteSize
  else none

/-- The preview of a text by offsets in bytes.  There is none if the text would have to be cut
inside a character. -/
def checkedPreview? (content : String) : Option String :=
  if content.length ≤ previewLimit then some content
  else do
    let limit := (offsetOf? content previewLimit).getD content.utf8ByteSize
    let (_, rest) ← cut? content limit
    let cutoff := ((lineFeed? rest).map (limit + ·)).getD limit
    let (shown, _) ← cut? content cutoff
    return shown ++ continuation

/-- A text can be cut at the sizes of its beginnings. -/
theorem cut?_eq_some_iff {s before after : String} {offset : Nat} :
    cut? s offset = some (before, after) ↔ s = before ++ after ∧ before.utf8ByteSize = offset := by
  constructor
  · intro h
    rw [cut?] at h
    split_ifs at h with hvalid
    obtain ⟨rfl, rfl⟩ := Prod.mk.inj (Option.some.inj h)
    have hsplits := String.Pos.splits (⟨⟨offset⟩, hvalid⟩ : s.Pos)
    exact ⟨hsplits.eq_append, congrArg String.Pos.Raw.byteIdx hsplits.offset_eq_rawEndPos.symm⟩
  · rintro ⟨rfl, rfl⟩
    have hvalid : String.Pos.Raw.IsValid (before ++ after) ⟨before.utf8ByteSize⟩ :=
      String.Pos.Raw.isValid_iff_exists_append.mpr ⟨before, after, rfl, rfl⟩
    have hsplits : String.Pos.Splits (⟨⟨before.utf8ByteSize⟩, hvalid⟩ : (before ++ after).Pos)
        before after := ⟨rfl, rfl⟩
    rw [cut?, dif_pos hvalid, hsplits.copy_sliceTo_eq, hsplits.copy_sliceFrom_eq]

example : cut? "aéb" 2 = none := by decide +kernel

/-! ### The line at the limit -/

/-- The characters before the next line feed; none if there is no line feed. -/
def openLine (rest : List Char) : List Char :=
  if rest.contains '\n' then rest.takeWhile (· ≠ '\n') else []

/-- An open line has no line feed in it, and if there is one later, it is the next character. -/
theorem openLine_append (rest : List Char) :
    ∃ hidden, rest = openLine rest ++ hidden ∧ '\n' ∉ openLine rest ∧
      ('\n' ∈ rest → hidden.head? = some '\n') ∧ ('\n' ∉ rest → openLine rest = []) := by
  by_cases h : '\n' ∈ rest
  · have hopen : openLine rest = rest.takeWhile (· ≠ '\n') := if_pos (List.contains_iff_mem.mpr h)
    refine ⟨rest.dropWhile (· ≠ '\n'), ?_, ?_, fun _ => ?_, absurd h⟩
    · rw [hopen, List.takeWhile_append_dropWhile]
    · rw [hopen]
      exact fun hmem => by simpa using List.mem_takeWhile_imp hmem
    · have hne : rest.dropWhile (· ≠ '\n') ≠ [] := by
        rw [Ne, List.dropWhile_eq_nil_iff]
        exact fun hall => by simpa using hall '\n' h
      rw [List.head?_eq_some_head hne]
      simpa using List.head_dropWhile_not (· ≠ '\n') hne
  · have hopen : openLine rest = [] := if_neg fun hc => h (List.contains_iff_mem.mp hc)
    exact ⟨rest, by rw [hopen, List.nil_append], by rw [hopen]; exact List.not_mem_nil,
      fun hmem => absurd hmem h, fun _ => hopen⟩

/-- Up to the first line feed, or up to where one starts to look if there is none. -/
theorem getD_lineFeed? (limit : Nat) (rest : List Char) :
    ((lineFeed? (String.ofList rest)).map (limit + ·)).getD limit =
      limit + (String.ofList (openLine rest)).utf8ByteSize := by
  rw [lineFeed?, openLine, String.toList_ofList]
  split_ifs <;> rfl

/-! ### Previews -/

theorem preview_of_le (h : content.length ≤ previewLimit) : preview content = content :=
  if_pos (String.length_toList.trans_le h)

theorem preview_eq (h : previewLimit < content.length) :
    preview content = String.ofList (content.toList.take previewLimit ++
      openLine (content.toList.drop previewLimit)) ++ continuation :=
  if_neg (String.length_toList.trans_gt h).not_ge

/-- **A preview is never cut inside a character.** -/
theorem checkedPreview?_eq (content : String) :
    checkedPreview? content = some (preview content) := by
  by_cases h : content.length ≤ previewLimit
  · rw [checkedPreview?, if_pos h, preview_of_le h]
  have hlong := Nat.lt_of_not_le h
  set start := content.toList.take previewLimit with hstart
  set rest := content.toList.drop previewLimit with hrest
  obtain ⟨hidden, hhidden, -⟩ := openLine_append rest
  have hcontent : content = String.ofList (start ++ rest) := by
    rw [hstart, hrest, List.take_append_drop, String.ofList_toList]
  have hlimit : (offsetOf? content previewLimit).getD content.utf8ByteSize =
      (String.ofList start).utf8ByteSize := by
    rw [offsetOf?, if_pos hlong, Option.getD_some]
  -- Both offsets are those of whole characters, so the text can be cut there.
  have hcut : cut? content (String.ofList start).utf8ByteSize =
      some (String.ofList start, String.ofList rest) :=
    cut?_eq_some_iff.mpr ⟨hcontent.trans String.ofList_append, rfl⟩
  have hshown : cut? content ((String.ofList start).utf8ByteSize +
      (String.ofList (openLine rest)).utf8ByteSize) =
        some (String.ofList (start ++ openLine rest), String.ofList hidden) := by
    refine cut?_eq_some_iff.mpr ⟨?_, ?_⟩
    · rw [← String.ofList_append, List.append_assoc, ← hhidden, ← hcontent]
    · rw [String.ofList_append, String.utf8ByteSize_append]
  rw [checkedPreview?, if_neg h, preview_eq hlong, ← hstart, ← hrest]
  simp only [hlimit, hcut, getD_lineFeed?, hshown, Option.bind_eq_bind, Option.bind_some,
    Option.pure_def]

/-- **The preview of a long text** is a beginning of it and a remark that it goes on. -/
theorem preview_of_lt (h : previewLimit < content.length) :
    ∃ shown hidden : String, content = shown ++ hidden ∧ preview content = shown ++ continuation ∧
      previewLimit ≤ shown.length ∧ '\n' ∉ shown.toList.drop previewLimit ∧
      ('\n' ∈ content.toList.drop previewLimit → hidden.toList.head? = some '\n') ∧
      ('\n' ∉ content.toList.drop previewLimit → shown.length = previewLimit) := by
  set start := content.toList.take previewLimit with hstart
  set rest := content.toList.drop previewLimit with hrest
  obtain ⟨hidden, hhidden, hopen, hfeed, hnone⟩ := openLine_append rest
  have hlength : start.length = previewLimit := by
    rw [hstart, List.length_take, String.length_toList, min_eq_left h.le]
  refine ⟨String.ofList (start ++ openLine rest), String.ofList hidden, ?_, preview_eq h, ?_, ?_,
    fun hmem => ?_, fun hmem => ?_⟩
  · rw [← String.ofList_append, List.append_assoc, ← hhidden, hstart, hrest,
      List.take_append_drop, String.ofList_toList]
  · rw [String.length_ofList, List.length_append, hlength]
    exact Nat.le_add_right ..
  · rwa [String.toList_ofList, ← hlength, List.drop_left]
  · rw [String.toList_ofList, hfeed hmem]
  · rw [hnone hmem, List.append_nil, String.length_ofList, hlength]

/-- **The previews of all texts**, whatever characters they are made of.

* No text is cut inside a character.
* A text of at most 300 characters is shown as it is.
* Of a longer text a beginning of at least 300 characters is shown, and a remark that it goes on.
  From character 300 on, counted from zero, nothing that is shown is a line feed.  If there is a
  line feed from there on in the text, the beginning ends right before one; otherwise it has exactly
  300 characters. -/
theorem preview_shows (content : String) :
    checkedPreview? content = some (preview content) ∧
    (content.length ≤ 300 → preview content = content) ∧
    (300 < content.length → ∃ shown hidden : String, content = shown ++ hidden ∧
      preview content = shown ++ "\n... (file continues)" ∧ 300 ≤ shown.length ∧
      '\n' ∉ shown.toList.drop 300 ∧
      ('\n' ∈ content.toList.drop 300 → hidden.toList.head? = some '\n') ∧
      ('\n' ∉ content.toList.drop 300 → shown.length = 300)) :=
  ⟨checkedPreview?_eq content, preview_of_le, preview_of_lt⟩

end Colloquy.Display
