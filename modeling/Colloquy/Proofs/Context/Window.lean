import Colloquy.Context.Excerpt
import Mathlib.Algebra.Order.Ring.Nat
import Mathlib.Tactic.SplitIfs

/-!
# Windows of a file

A snippet shows some lines of a file around the cursor.  A cursor beyond the end is taken for the
last line, and one before the beginning for the first.

* `Snippet.Frames`: what a window around a line is;
* `checkedWindow?_eq`: windows of all files that a machine can hold are computed without an overflow
  and without an index out of range;
* `snippet_frames`: what is shown of a file that can be read.
-/

namespace Colloquy.Context

open Files Text

variable {file content : String} {lines : List String} {center size : Nat} {s : Snippet}

/-! ### Machine words -/

/-- A sum, if it fits in 64 bits. -/
def sum? (a b : Nat) : Option Nat :=
  if a + b < 2 ^ 64 then some (a + b) else none

/-- What is in a list from one place to another, if these are places in the list. -/
def slice? {α : Type} (xs : List α) (start stop : Nat) : Option (List α) :=
  if start ≤ stop ∧ stop ≤ xs.length then some ((xs.take stop).drop start) else none

theorem sum?_eq {a b : Nat} (h : a + b < 2 ^ 64) : sum? a b = some (a + b) :=
  if_pos h

theorem slice?_eq {α : Type} {xs : List α} {start stop : Nat} (h : start ≤ stop)
    (h' : stop ≤ xs.length) : slice? xs start stop = some ((xs.take stop).drop start) :=
  if_pos ⟨h, h'⟩

/-- A window where every sum is looked at whether it fits, and every index whether it is in range;
there is none if one is not.  Differences stop at zero, so they need no look. -/
def checkedWindow? (file : String) (lines : List String) (center size : Nat) :
    Option (Option Snippet) :=
  if lines.isEmpty || size = 0 then some none
  else do
    let start := windowStart lines.length center size
    let stop := min (← sum? start size) lines.length
    let shown ← slice? lines start stop
    let firstLine ← sum? start 1
    return some { file, content := joinLines shown, firstLine, lastLine := stop }

/-! ### The window -/

/-- The line that a cursor is taken to be in. -/
def cursorIn (lines : List String) (center : Nat) : Nat :=
  max 1 (min center lines.length)

/-- A snippet is a window of at most `size` lines around the cursor. -/
structure Snippet.Frames (s : Snippet) (lines : List String) (center size : Nat) : Prop where
  first_pos : 1 ≤ s.firstLine
  first_le : s.firstLine ≤ cursorIn lines center
  le_last : cursorIn lines center ≤ s.lastLine
  last_le : s.lastLine ≤ lines.length
  size_le : s.lastLine + 1 - s.firstLine ≤ size
  /-- The content are the lines from the first to the last, no matter what is before and after. -/
  content_eq : ∃ before shown after, lines = before ++ shown ++ after ∧
    before.length + 1 = s.firstLine ∧ before.length + shown.length = s.lastLine ∧
    s.content = joinLines shown
  /-- No line is given away near the beginning, nor if there are enough lines after the cursor. -/
  full : cursorIn lines center ≤ size / 2 ∨
    size - size / 2 - 1 ≤ lines.length - cursorIn lines center →
    s.lastLine + 1 - s.firstLine = min size lines.length

/-- Where a window starts: before the cursor, and no more than a window before it. -/
theorem windowStart_lt (center : Nat) (hlines : lines ≠ []) (hsize : size ≠ 0) :
    windowStart lines.length center size < cursorIn lines center ∧
      cursorIn lines center ≤ windowStart lines.length center size + size := by
  have hlength := List.length_pos_iff.mpr hlines
  unfold windowStart cursorIn
  split_ifs <;> omega

theorem cursorIn_le (center : Nat) (hlines : lines ≠ []) :
    cursorIn lines center ≤ lines.length := by
  have hlength := List.length_pos_iff.mpr hlines
  unfold cursorIn
  omega

/-- A window that starts at the beginning, or that has enough lines after the cursor, is full. -/
theorem windowStart_full (hlines : lines ≠ [])
    (h : cursorIn lines center ≤ size / 2 ∨
      size - size / 2 - 1 ≤ lines.length - cursorIn lines center) :
    min (windowStart lines.length center size + size) lines.length -
      windowStart lines.length center size = min size lines.length := by
  have hlength := List.length_pos_iff.mpr hlines
  revert h
  unfold windowStart cursorIn
  split_ifs <;> omega

/-- No line stands for the first line. -/
theorem windowStart_max (count center size : Nat) :
    windowStart count (max center 1) size = windowStart count center size := by
  unfold windowStart
  split_ifs <;> omega

theorem window_max (file : String) (lines : List String) (center size : Nat) :
    window file lines (max center 1) size = window file lines center size := by
  rw [window, window, windowStart_max]

theorem window_eq_none_iff : window file lines center size = none ↔ lines = [] ∨ size = 0 := by
  rw [window]
  split_ifs with h <;> simpa using h

/-- A list is what comes before a part of it, the part, and what comes after it. -/
theorem eq_append_slice {α : Type} {xs : List α} {start stop : Nat} (h : start ≤ stop) :
    xs = xs.take start ++ (xs.take stop).drop start ++ xs.drop stop := by
  have htake : xs.take start = (xs.take stop).take start := by
    rw [List.take_take, min_eq_left h]
  rw [htake, List.take_append_drop, List.take_append_drop]

theorem frames_of_window (h : window file lines center size = some s) :
    s.file = file ∧ s.Frames lines center size := by
  rw [window] at h
  split_ifs at h with hnone
  simp only [List.isEmpty_iff, Bool.or_eq_true, decide_eq_true_eq, not_or] at hnone
  obtain ⟨hlines, hsize⟩ := hnone
  cases h
  -- The window starts at or before the cursor and ends after it.
  obtain ⟨hbefore, hafter⟩ := windowStart_lt center hlines hsize
  have hcursor := cursorIn_le center hlines
  set start := windowStart lines.length center size
  set stop := min (start + size) lines.length with hstop
  refine ⟨rfl, ?_⟩
  constructor
  case first_pos => exact Nat.succ_pos start
  case first_le => exact hbefore
  case le_last => exact le_min hafter hcursor
  case last_le => exact min_le_right ..
  case size_le => dsimp only; omega
  case content_eq =>
    exact ⟨lines.take start, (lines.take stop).drop start, lines.drop stop,
      eq_append_slice (by omega), by rw [List.length_take]; dsimp only; omega,
      by rw [List.length_drop, List.length_take, List.length_take]; dsimp only; omega, rfl⟩
  case full =>
    intro h
    have h := windowStart_full hlines h
    dsimp only
    omega

/-- **A window is computed safely** if the file has fewer than `2 ^ 63` lines, whatever the cursor
is: all sums fit in 64 bits, and all indices are in range. -/
theorem checkedWindow?_eq (hlines : lines.length < 2 ^ 63) (hsize : size < 2 ^ 64) :
    checkedWindow? file lines center size = some (window file lines center size) := by
  rw [checkedWindow?, window]
  split_ifs with hnone
  · rfl
  simp only [List.isEmpty_iff, Bool.or_eq_true, decide_eq_true_eq, not_or] at hnone
  obtain ⟨hne, hsize₀⟩ := hnone
  obtain ⟨hbefore, hafter⟩ := windowStart_lt center hne hsize₀
  have hcursor := cursorIn_le center hne
  set start := windowStart lines.length center size with hstart
  have hsum : start + size < 2 ^ 64 := by
    rw [hstart, windowStart]
    split_ifs <;> omega
  have hfirst : start + 1 < 2 ^ 64 := by omega
  have hslice : start ≤ min (start + size) lines.length := by omega
  have hslice' : min (start + size) lines.length ≤ lines.length := by omega
  simp only [sum?_eq hsum, sum?_eq hfirst, slice?_eq hslice hslice', Option.bind_eq_bind,
    Option.bind_some, Option.pure_def]

/-- **What is shown of a file** that can be read, wherever the cursor is: a window around the line
that the cursor is taken to be in.

* It makes no difference if a cursor before the beginning is put into the first line.
* If the file has fewer than `2 ^ 63` lines and the size fits in 64 bits, all sums on the way to the
  window fit in 64 bits, and all indices are in range.
* Nothing is shown exactly if the file has no lines or the window has none. -/
theorem snippet_frames {root : Workspace.Root} {d : Disk} (h : root.read d file = .ok content)
    (center size : Nat) :
    ∃ result, snippet root d file center size = .ok result ∧
      snippet root d file (max center 1) size = .ok result ∧
      ((Text.lines content).length < 2 ^ 63 → size < 2 ^ 64 →
        checkedWindow? file (Text.lines content) center size = some result) ∧
      (result = none ↔ Text.lines content = [] ∨ size = 0) ∧
      ∀ s, result = some s → s.file = file ∧ s.Frames (Text.lines content) center size := by
  have hsnippet : ∀ center, snippet root d file center size =
      .ok (window file (Text.lines content) center size) := by
    intro center
    rw [snippet, h]
    rfl
  refine ⟨window file (Text.lines content) center size, hsnippet center, ?_,
    checkedWindow?_eq, window_eq_none_iff, fun s => frames_of_window⟩
  rw [hsnippet, window_max]

/-- A workspace with one file of five lines. -/
def fiveLines : Disk :=
  ⟨[(["ws"], .directory), (["ws", "f.txt"], .file "a\nb\nc\nd\ne".toUTF8)]⟩

/-- A cursor beyond the end: the window is cut off at the last line. -/
theorem fiveLines_frames :
    let root := Workspace.Root.open fiveLines ["ws"]
    let tail : Snippet := ⟨"f.txt", "d\ne", 4, 5⟩
    root.read fiveLines "f.txt" = .ok "a\nb\nc\nd\ne" ∧
    snippet root fiveLines "f.txt" 9 3 = .ok (some tail) ∧
    tail.Frames (Text.lines "a\nb\nc\nd\ne") 9 3 ∧
    checkedWindow? "f.txt" (Text.lines "a\nb\nc\nd\ne") 9 3 = some (some tail) := by
  intro root tail
  have hread : root.read fiveLines "f.txt" = .ok "a\nb\nc\nd\ne" := by decide +kernel
  have htail : snippet root fiveLines "f.txt" 9 3 = .ok (some tail) := by decide +kernel
  have hcount : (Text.lines "a\nb\nc\nd\ne").length < 2 ^ 63 := by decide +kernel
  obtain ⟨result, hresult, -, hchecked, -, hframes⟩ := snippet_frames hread 9 3
  obtain rfl : some tail = result := Except.ok.inj (htail.symm.trans hresult)
  exact ⟨hread, htail, (hframes tail rfl).2, hchecked hcount (by decide)⟩

end Colloquy.Context
