import Colloquy.Proofs.Context.Window
import Mathlib.Data.List.Basic

/-!
# What is gathered for a prompt

The context of a prompt has limits: on the number of snippets, on the lines of each, and on the
number of other files.

* `length_lines_joinLines_le`: lines that are joined are no more lines than they were;
* `addVisible_eq`: the snippets of open files, as many as there is room for;
* `gather_limited`: what is gathered and how much.

The limit on snippets is looked at before an open file is added, but not before the current file is.
So if there may be no snippets at all, there is one nevertheless (`one_too_many`).
-/

namespace Colloquy.Text

/-! ### Lines that are joined -/

variable {α : Type} [DecidableEq α]

theorem length_cutAfter_le (stop : α) (as : List α) :
    (cutAfter stop as).length ≤ as.count stop + 1 := by
  induction as with
  | nil => exact Nat.zero_le _
  | cons a as ih =>
    rw [cutAfter]
    split_ifs with ha
    · rw [ha, List.count_cons_self, List.length_cons]
      omega
    · rw [List.count_cons_of_ne ha]
      split
      · simp
      · next h =>
        rw [h] at ih
        exact ih

/-- Only at its end does a piece have what it is cut after. -/
theorem notMem_dropLast_of_cutAfter {stop : α} {as piece : List α}
    (h : piece ∈ cutAfter stop as) : stop ∉ piece.dropLast := by
  induction as generalizing piece with
  | nil => cases h
  | cons a as ih =>
    rw [cutAfter] at h
    split_ifs at h with ha
    · rcases List.mem_cons.mp h with rfl | h
      · simp
      · exact ih h
    · split at h
      · rw [List.mem_singleton.mp h]
        simp
      · next first rest hcut =>
        rcases List.mem_cons.mp h with rfl | h
        · have hfirst : stop ∉ first.dropLast := ih (by rw [hcut]; exact List.mem_cons_self ..)
          cases first with
          | nil => simp
          | cons b bs =>
            rw [List.dropLast_cons_cons, List.mem_cons, not_or]
            exact ⟨Ne.symm ha, hfirst⟩
        · exact ih (by rw [hcut]; exact List.mem_cons_of_mem _ h)

theorem notMem_withoutLineEnd {feed ret : α} {piece : List α} (h : feed ∉ piece.dropLast) :
    feed ∉ withoutLineEnd feed ret piece := by
  obtain ⟨rev, rfl⟩ : ∃ rev, piece = rev.reverse := ⟨piece.reverse, piece.reverse_reverse.symm⟩
  rw [withoutLineEnd, List.reverse_reverse]
  match rev with
  | [] => exact List.not_mem_nil
  | [a] =>
    dsimp only
    split_ifs with ha
    · exact List.not_mem_nil
    · simpa using Ne.symm ha
  | a :: b :: rest =>
    rw [List.reverse_cons, List.dropLast_concat] at h
    simp only [List.mem_reverse, List.mem_cons, not_or] at h
    dsimp only
    split_ifs with ha hb
    · simpa using h.2
    · simpa using h.symm
    · simpa using ⟨h.2, h.1, Ne.symm ha⟩

/-- There is no line feed in a line. -/
theorem newline_notMem_of_mem_lines {s line : String} (h : line ∈ lines s) :
    '\n' ∉ line.toList := by
  obtain ⟨piece, hpiece, rfl⟩ := List.mem_map.mp h
  rw [String.toList_ofList]
  exact notMem_withoutLineEnd (notMem_dropLast_of_cutAfter hpiece)

theorem count_intercalate_le {sep : α} {parts : List (List α)} (h : ∀ part ∈ parts, sep ∉ part) :
    ([sep].intercalate parts).count sep ≤ parts.length - 1 := by
  induction parts with
  | nil => exact Nat.zero_le _
  | cons part parts ih =>
    have hpart : part.count sep = 0 := List.count_eq_zero.mpr (h part (List.mem_cons_self ..))
    have hrest := ih fun p hp => h p (List.mem_cons_of_mem _ hp)
    cases parts with
    | nil =>
      rw [List.intercalate_singleton, hpart]
      exact Nat.zero_le _
    | cons next parts =>
      rw [List.intercalate_cons_cons, List.count_append, List.count_append, hpart,
        List.count_singleton_self, List.length_cons]
      rw [List.length_cons] at hrest ⊢
      omega

/-- Lines that are joined are no more lines than they were. -/
theorem length_lines_joinLines_le {parts : List String}
    (h : ∀ part ∈ parts, '\n' ∉ part.toList) :
    (lines (joinLines parts)).length ≤ parts.length := by
  cases parts with
  | nil => exact Nat.le_refl _
  | cons part parts =>
    have hsep : "\n".toList = ['\n'] := rfl
    rw [lines, List.length_map, joinLines, String.toList_intercalate, hsep]
    refine (length_cutAfter_le ..).trans (Nat.succ_le_succ ?_)
    have hcount : (['\n'].intercalate ((part :: parts).map String.toList)).count '\n' ≤
        ((part :: parts).map String.toList).length - 1 := by
      refine count_intercalate_le fun p hp => ?_
      obtain ⟨x, hx, rfl⟩ := List.mem_map.mp hp
      exact h x hx
    rwa [List.length_map] at hcount

end Colloquy.Text

namespace Colloquy.Context

open Files

variable {root : Workspace.Root} {d : Disk} {focus : Focus} {limits : Limits} {g : Gathered}
  {s : Snippet} {content : String}

/-! ### Snippets -/

/-- A window of some lines, none of which has a line feed in it, has no more lines than its size. -/
theorem Snippet.Frames.length_le {center size : Nat}
    (h : s.Frames (Text.lines content) center size) : (Text.lines s.content).length ≤ size := by
  obtain ⟨before, shown, after, hlines, hfirst, hlast, hshown⟩ := h.content_eq
  have hsize := h.size_le
  have hfeed : ∀ line ∈ shown, '\n' ∉ line.toList := by
    intro line hline
    refine Text.newline_notMem_of_mem_lines (s := content) ?_
    rw [hlines]
    exact List.mem_append_left _ (List.mem_append_right _ hline)
  have hcount := Text.length_lines_joinLines_le hfeed
  rw [hshown]
  omega

/-- What is shown of a file has no more lines than it may have. -/
theorem length_le_of_snippet {file : String} {center size : Nat}
    (h : snippet root d file center size = .ok (some s)) : s.file = file ∧
      s.lastLine + 1 - s.firstLine ≤ size ∧ (Text.lines s.content).length ≤ size := by
  rw [snippet] at h
  cases hread : root.read d file with
  | error e =>
    rw [hread] at h
    cases h
  | ok content =>
    rw [hread] at h
    obtain ⟨hfile, hframes⟩ := frames_of_window (Except.ok.inj h)
    exact ⟨hfile, hframes.size_le, hframes.length_le⟩

/-! ### Open files -/

/-- What is shown of an open file; nothing if it is the current one, cannot be read or is empty. -/
def visibleSnippet? (root : Workspace.Root) (d : Disk) (current : String) (size : Nat)
    (file : String) : Option Snippet :=
  if file = current then none
  else match snippet root d file 0 size with
    | .ok shown => shown
    | .error _ => none

/-- **The snippets of open files** are added in their order, as many as there is room for. -/
theorem addVisible_eq (root : Workspace.Root) (d : Disk) (current : String) (limits : Limits)
    (snippets : List Snippet) (files : List String) :
    addVisible root d current limits snippets files = snippets ++
      (files.filterMap (visibleSnippet? root d current limits.snippetLines)).take
        (limits.snippets - snippets.length) := by
  induction files generalizing snippets with
  | nil => simp [addVisible]
  | cons file files ih =>
    rw [addVisible]
    split_ifs with hfull hcurrent
    · rw [Nat.sub_eq_zero_of_le hfull, List.take_zero, List.append_nil]
    · have hnone : visibleSnippet? root d current limits.snippetLines file = none :=
        if_pos hcurrent
      rw [ih, List.filterMap_cons_none hnone]
    · have hfile : visibleSnippet? root d current limits.snippetLines file =
          match snippet root d file 0 limits.snippetLines with
          | .ok shown => shown
          | .error _ => none := if_neg hcurrent
      rcases hsnippet : snippet root d file 0 limits.snippetLines with e | (_ | s) <;>
        rw [hsnippet] at hfile
      case error => rw [ih, List.filterMap_cons_none hfile, List.append_nil]
      case ok.none => rw [ih, List.filterMap_cons_none hfile, List.append_nil]
      case ok.some =>
        -- One snippet more, and room for one less.
        have hroom : limits.snippets - snippets.length =
            limits.snippets - (snippets.length + 1) + 1 := by omega
        rw [ih, List.filterMap_cons_some hfile, hroom, List.take_succ_cons, List.length_append,
          List.append_assoc]
        rfl

/-! ### Gathering -/

/-- There is at most one snippet of the current file. -/
theorem currentSnippet_eq_ok {current : List Snippet}
    (h : currentSnippet root d focus limits = .ok current) :
    current.length ≤ 1 ∧ ∀ s ∈ current, s.file = focus.file ∧
      s.lastLine + 1 - s.firstLine ≤ limits.snippetLines ∧
      (Text.lines s.content).length ≤ limits.snippetLines := by
  rw [currentSnippet] at h
  split_ifs at h with hempty
  · cases h
    exact ⟨Nat.zero_le _, fun s hs => absurd hs List.not_mem_nil⟩
  · cases hsnippet : snippet root d focus.file (max focus.line 1) limits.snippetLines with
    | error e =>
      rw [hsnippet] at h
      cases h
    | ok shown =>
      rw [hsnippet] at h
      cases h
      refine ⟨Option.length_toList_le, fun s hs => ?_⟩
      obtain rfl : shown = some s := Option.mem_toList.mp hs
      exact length_le_of_snippet hsnippet

/-- Context is gathered unless there is a current file that cannot be read or the workspace cannot be
listed. -/
theorem exists_gather_iff (root : Workspace.Root) (focus : Focus) (limits : Limits) (d : Disk) :
    (∃ g, gather root focus limits d = .ok g) ↔
      (focus.file = "" ∨ ∃ content, root.read d focus.file = .ok content) ∧
        ∃ files, root.list d = .ok files := by
  have hcurrent : (∃ g, gather root focus limits d = .ok g) ↔
      (∃ current, currentSnippet root d focus limits = .ok current) ∧
        ∃ files, root.list d = .ok files := by
    rw [gather]
    cases currentSnippet root d focus limits with
    | error e => simp
    | ok current => cases root.list d <;> simp
  rw [hcurrent, currentSnippet, snippet]
  refine and_congr_left' ?_
  split_ifs with hempty
  · simp [String.isEmpty_iff.mp hempty]
  · have hfile : focus.file ≠ "" := fun h => hempty (String.isEmpty_iff.mpr h)
    cases root.read d focus.file with
    | error e => simp [hfile, Except.map]
    | ok content => simp [Except.map]

/-- Context that has been gathered starts with the current file and ends with what is listed. -/
theorem exists_current_of_gather (h : gather root focus limits d = .ok g) :
    ∃ current files, currentSnippet root d focus limits = .ok current ∧
      root.list d = .ok files ∧
      g.snippets = addVisible root d focus.file limits current focus.visible ∧
      g.related = (files.filter (· != focus.file)).take limits.relatedFiles := by
  rw [gather] at h
  cases hcurrent : currentSnippet root d focus limits with
  | error e =>
    rw [hcurrent] at h
    cases h
  | ok current =>
    cases hlist : root.list d with
    | error e =>
      rw [hcurrent, hlist] at h
      cases h
    | ok files =>
      rw [hcurrent, hlist] at h
      cases h
      exact ⟨current, files, rfl, rfl, rfl, rfl⟩

/-- Every snippet keeps to the limit on lines. -/
theorem length_le_of_mem_addVisible {current : String} {snippets : List Snippet}
    {files : List String}
    (h : ∀ s ∈ snippets, s.lastLine + 1 - s.firstLine ≤ limits.snippetLines ∧
      (Text.lines s.content).length ≤ limits.snippetLines)
    (hs : s ∈ addVisible root d current limits snippets files) :
    s.lastLine + 1 - s.firstLine ≤ limits.snippetLines ∧
      (Text.lines s.content).length ≤ limits.snippetLines := by
  rw [addVisible_eq] at hs
  rcases List.mem_append.mp hs with hs | hs
  · exact h s hs
  · obtain ⟨file, -, hfile⟩ := List.mem_filterMap.mp (List.mem_of_mem_take hs)
    rw [visibleSnippet?] at hfile
    split_ifs at hfile
    split at hfile
    · next shown hsnippet =>
      subst hfile
      exact (length_le_of_snippet hsnippet).2
    · cases hfile

/-- **The limits of a context.**  Context is gathered unless there is a current file that cannot be
read or the workspace cannot be listed, and then there is

* no snippet with more lines than there may be;
* first the snippet of the current file, if that has one, and then those of the open files in their
  order, without the current file and those that cannot be read or are empty, as many as there is
  room for;
* no more snippets than there may be, unless there may be none and there is one of the current file,
  which then is the only one;
* of the other files in the workspace, in their order, as many as there may be.

The current file is not among the other files, whether it is there or not. -/
theorem gather_limited (root : Workspace.Root) (focus : Focus) (limits : Limits) (d : Disk) :
    ((∃ g, gather root focus limits d = .ok g) ↔
      (focus.file = "" ∨ ∃ content, root.read d focus.file = .ok content) ∧
        ∃ files, root.list d = .ok files) ∧
    ∀ g, gather root focus limits d = .ok g →
      (∀ s ∈ g.snippets, s.lastLine + 1 - s.firstLine ≤ limits.snippetLines ∧
        (Text.lines s.content).length ≤ limits.snippetLines) ∧
      (∃ current, currentSnippet root d focus limits = .ok current ∧ current.length ≤ 1 ∧
        (∀ s ∈ current, s.file = focus.file) ∧
        g.snippets = current ++
          (focus.visible.filterMap (visibleSnippet? root d focus.file limits.snippetLines)).take
            (limits.snippets - current.length) ∧
        (g.snippets.length ≤ limits.snippets ↔ limits.snippets ≠ 0 ∨ current = [])) ∧
      g.related.length ≤ limits.relatedFiles ∧ focus.file ∉ g.related ∧
      ∃ files, root.list d = .ok files ∧
        g.related = (files.filter (· != focus.file)).take limits.relatedFiles ∧
        g.related.Sublist files := by
  refine ⟨exists_gather_iff root focus limits d, fun g hg => ?_⟩
  obtain ⟨current, files, hcurrent, hlist, hsnippets, hrelated⟩ := exists_current_of_gather hg
  obtain ⟨hone, hshown⟩ := currentSnippet_eq_ok hcurrent
  refine ⟨fun s hs => ?_, ⟨current, hcurrent, hone, fun s hs => (hshown s hs).1, ?_, ?_⟩,
    ?_, ?_, files, hlist, hrelated, ?_⟩
  · rw [hsnippets] at hs
    exact length_le_of_mem_addVisible (fun s hs => (hshown s hs).2) hs
  · rw [hsnippets, addVisible_eq]
  · rw [hsnippets, addVisible_eq, List.length_append, List.length_take,
      ← List.length_eq_zero_iff]
    omega
  · rw [hrelated]
    exact List.length_take_le ..
  · rw [hrelated]
    intro hmem
    have hne := (List.mem_filter.mp (List.mem_of_mem_take hmem)).2
    simp at hne
  · rw [hrelated]
    exact (List.take_sublist ..).trans List.filter_sublist

/-- A workspace with a file of five lines, one of one line and an empty one. -/
def threeFiles : Disk :=
  ⟨[(["ws"], .directory), (["ws", "f.txt"], .file "a\nb\nc\nd\ne".toUTF8),
    (["ws", "g.txt"], .file "x\n".toUTF8), (["ws", "empty.txt"], .file "".toUTF8)]⟩

/-- Of the open files one is missing, one is the current file, one is empty, and one is open twice,
for which there is no room. -/
theorem threeFiles_limited :
    let root := Workspace.Root.open threeFiles ["ws"]
    let focus : Focus :=
      { file := "f.txt", line := 9,
        visible := ["gone.txt", "f.txt", "empty.txt", "g.txt", "g.txt"] }
    ∃ g, gather root focus ⟨2, 3, 1⟩ threeFiles = .ok g ∧
      g.snippets = [⟨"f.txt", "d\ne", 4, 5⟩, ⟨"g.txt", "x", 1, 1⟩] ∧
      (∀ s ∈ g.snippets, (Text.lines s.content).length ≤ 3) ∧
      g.related.length ≤ 1 ∧ "f.txt" ∉ g.related ∧
      ∃ files, root.list threeFiles = .ok files ∧ g.related.Sublist files := by
  intro root focus
  obtain ⟨hgathers, hlimits⟩ := gather_limited root focus ⟨2, 3, 1⟩ threeFiles
  have hread : root.read threeFiles "f.txt" = .ok "a\nb\nc\nd\ne" := by decide +kernel
  have hlisted : (root.list threeFiles).isOk = true := by decide +kernel
  obtain ⟨files, hfiles⟩ : ∃ files, root.list threeFiles = .ok files := by
    cases hlist : root.list threeFiles with
    | error e =>
      rw [hlist] at hlisted
      cases hlisted
    | ok files => exact ⟨files, rfl⟩
  obtain ⟨g, hg⟩ := hgathers.mpr ⟨.inr ⟨_, hread⟩, files, hfiles⟩
  have hshown : (gather root focus ⟨2, 3, 1⟩ threeFiles).map (·.snippets) =
      .ok [⟨"f.txt", "d\ne", 4, 5⟩, ⟨"g.txt", "x", 1, 1⟩] := by decide +kernel
  rw [hg] at hshown
  obtain ⟨hlines, -, hfew, hcurrent, names, hnames, -, hsub⟩ := hlimits g hg
  exact ⟨g, hg, Except.ok.inj hshown, fun s hs => (hlines s hs).2, hfew, hcurrent, names, hnames,
    hsub⟩

/-- There may be no snippets, and there is one. -/
theorem one_too_many :
    let root := Workspace.Root.open fiveLines ["ws"]
    (gather root { file := "f.txt", line := 1 } { snippets := 0 } fiveLines).map
      (·.snippets.length) = .ok 1 := by
  decide +kernel

end Colloquy.Context
