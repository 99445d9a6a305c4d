import Colloquy.Proofs.Data.Attempts
import Colloquy.Proofs.Files.Change
import Colloquy.Workspace.Basic

/-!
# What the walk of a listing comes to

A listing walks down from the root, directory by directory, and leaves out links and hidden names on
its way.  What it gives does not depend on the order in which it goes: it is what is `shown`, the
files below the root on whose ways no name is hidden.

* `mem_entriesIn_iff`: what is in a directory;
* `Root.mem_visit_iff`, `Root.nodup_visit`: the walk meets every file that is to be shown, and once;
* `Root.visit_perm_shown`: so it gives what is shown;
* `Root.accepted_of_visit`, `Root.exists_of_visit_error`: it fails exactly if the path of a directory
  that it comes to is refused.
-/

namespace Colloquy.Workspace

open Files Files.Disk

variable {r : Root} {d : Disk} {c l top way way' rest : Location} {ways : List Location}
  {name : String} {e : Entry} {depth : Nat}

/-! ### Directories -/

theorem below?_eq_some (h : below? top l = some way) : l = top ++ way := by
  induction top generalizing l with
  | nil => exact Option.some.inj h
  | cons a as ih =>
    cases l with
    | nil => cases h
    | cons b bs =>
      rw [below?] at h
      split_ifs at h with hab
      rw [hab, ih h]
      rfl

theorem below?_append (c way : Location) : below? c (c ++ way) = some way := by
  induction c with
  | nil => rfl
  | cons a as ih => rw [List.cons_append, below?, if_pos rfl, ih]

/-- Where an entry of a directory is. -/
theorem eq_concat_of_entry {x : Location × Entry}
    (h : (match below? l x.1 with
      | some [name] => some (name, x.2)
      | _ => none) = some (name, e)) : x = (l ++ [name], e) := by
  split at h
  · next name' hbelow =>
    cases h
    rw [← below?_eq_some hbelow]
  · cases h

/-- **What is in a directory**: the entries at its location with one more name. -/
theorem mem_entriesIn_iff (hd : d.WellFormed) :
    (name, e) ∈ entriesIn d l ↔ d.find? (l ++ [name]) = some e := by
  rw [entriesIn, List.mem_filterMap]
  constructor
  · rintro ⟨x, hmem, hentry⟩
    rw [eq_concat_of_entry hentry] at hmem
    exact hd.find?_of_mem hmem
  · intro hfound
    exact ⟨_, mem_of_find? (by simp) hfound, by rw [below?_append]⟩

/-- No two entries of a directory have the same name. -/
theorem entriesIn_pairwise (hd : d.WellFormed) (l : Location) :
    (entriesIn d l).Pairwise fun x y => x.1 ≠ y.1 := by
  have hdistinct : d.entries.Pairwise fun x y => x.1 ≠ y.1 := List.pairwise_map.mp hd.distinct
  refine hdistinct.filterMap _ fun x y hxy x' hx y' hy hname => hxy ?_
  rw [eq_concat_of_entry hx, eq_concat_of_entry hy, hname]

/-! ### The walk -/

section

variable {visit : Location → Except Error (List Location)}

/-- What is found through an entry: the entry itself, or what is found in it. -/
theorem mem_of_meet (h : meet visit way (name, e) = .ok ways) : way' ∈ ways ↔
    isHiddenName name = false ∧ ((∃ bytes, e = .file bytes) ∧ way' = way ++ [name] ∨
      e = .directory ∧ ∃ found, visit (way ++ [name]) = .ok found ∧ way' ∈ found) := by
  rw [meet] at h
  cases hhidden : isHiddenName name with
  | true =>
    rw [hhidden] at h
    cases h
    simp
  | false =>
    rw [hhidden, if_neg Bool.false_ne_true] at h
    cases e with
    | file bytes =>
      cases h
      simp
    | link target =>
      cases h
      simp
    | directory =>
      have hvisit : visit (way ++ [name]) = .ok ways := h
      simp [hvisit]

/-- Only a directory that is gone into can be in the way. -/
theorem meet_eq_error {cause : Error} (h : meet visit way (name, e) = .error cause) :
    isHiddenName name = false ∧ e = .directory ∧ visit (way ++ [name]) = .error cause := by
  rw [meet] at h
  split_ifs at h with hhidden
  cases e with
  | file bytes => cases h
  | link target => cases h
  | directory => exact ⟨(Bool.not_eq_true _).mp hhidden, rfl, h⟩

end

/-- A walk that goes well has opened its directory and met all that is in it. -/
theorem Root.visit_eq_ok (h : r.visit d top (depth + 1) way = .ok ways) :
    refusal? (r.front ++ way) = none ∧ ∃ found,
      (entriesIn d (top ++ way)).mapM (meet (r.visit d top depth) way) = .ok found ∧
      ways = found.flatten := by
  rw [Root.visit] at h
  split at h
  · cases h
  · next haccepted =>
    cases hfound : (entriesIn d (top ++ way)).mapM (meet (r.visit d top depth) way) with
    | error e =>
      rw [hfound] at h
      cases h
    | ok found =>
      rw [hfound] at h
      exact ⟨haccepted, found, rfl, (Except.ok.inj h).symm⟩

/-- **What the walk meets**: every file below its directory, if there is no hidden name on the way
to it from there. -/
theorem Root.mem_visit_iff (hd : d.WellFormed) (h : r.visit d top depth way = .ok ways) :
    way' ∈ ways ↔ ∃ rest, rest ≠ [] ∧ way' = way ++ rest ∧
      (∃ bytes, d.find? (top ++ way') = some (.file bytes)) ∧
      ∀ name ∈ rest, isHiddenName name = false := by
  induction depth generalizing way ways with
  | zero => cases h
  | succ depth ih =>
    obtain ⟨-, found, hfound, rfl⟩ := Root.visit_eq_ok h
    rw [mem_flatten_iff hfound]
    constructor
    · rintro ⟨⟨name, e⟩, hmem, ways, hmeet, hway⟩
      obtain ⟨hvisible, ⟨⟨bytes, rfl⟩, rfl⟩ | ⟨rfl, ways', hvisit, hway⟩⟩ :=
        (mem_of_meet hmeet).mp hway
      · refine ⟨[name], List.cons_ne_nil _ _, rfl, ⟨bytes, ?_⟩, by simpa using hvisible⟩
        rw [← List.append_assoc]
        exact (mem_entriesIn_iff hd).mp hmem
      · obtain ⟨rest, -, rfl, hfile, hrest⟩ := (ih hvisit).mp hway
        exact ⟨name :: rest, List.cons_ne_nil _ _, (List.append_cons ..).symm, hfile,
          List.forall_mem_cons.mpr ⟨hvisible, hrest⟩⟩
    · rintro ⟨rest, hne, rfl, ⟨bytes, hfile⟩, hvisible⟩
      obtain ⟨name, rest, rfl⟩ := List.exists_cons_of_ne_nil hne
      obtain ⟨hname, hrest⟩ := List.forall_mem_cons.mp hvisible
      have hall := exists_mapM_iff.mp ⟨_, hfound⟩
      -- The first name on the way is that of the file, or of a directory that the walk goes into.
      by_cases hnil : rest = []
      · subst hnil
        rw [← List.append_assoc] at hfile
        have hmem := (mem_entriesIn_iff hd).mpr hfile
        obtain ⟨ways, hways⟩ := hall _ hmem
        exact ⟨_, hmem, ways, hways, (mem_of_meet hways).mpr ⟨hname, .inl ⟨⟨bytes, rfl⟩, rfl⟩⟩⟩
      · have hdir : d.find? (top ++ way ++ [name]) = some .directory := by
          refine hd.directory hnil ?_
          rw [List.append_assoc, List.append_assoc, List.singleton_append, hfile]
          rfl
        have hmem := (mem_entriesIn_iff hd).mpr hdir
        obtain ⟨ways, hways⟩ := hall _ hmem
        have hvisit : r.visit d top depth (way ++ [name]) = .ok ways := by
          rw [meet, hname, if_neg Bool.false_ne_true] at hways
          exact hways
        refine ⟨_, hmem, ways, hways, (mem_of_meet hways).mpr ⟨hname, .inr ⟨rfl, ways, hvisit, ?_⟩⟩⟩
        exact (ih hvisit).mpr ⟨rest, hnil, List.append_cons .., ⟨bytes, hfile⟩, hrest⟩

/-- The walk meets no file twice. -/
theorem Root.nodup_visit (hd : d.WellFormed) (h : r.visit d top depth way = .ok ways) :
    ways.Nodup := by
  induction depth generalizing way ways with
  | zero => cases h
  | succ depth ih =>
    obtain ⟨-, found, hfound, rfl⟩ := Root.visit_eq_ok h
    -- What is found through an entry goes on from its name.
    have hbelow : ∀ x ways way', meet (r.visit d top depth) way x = .ok ways → way' ∈ ways →
        way ++ [x.1] <+: way' := by
      rintro ⟨name, e⟩ ways way' hmeet hway
      obtain ⟨-, ⟨-, rfl⟩ | ⟨-, ways', hvisit, hway⟩⟩ := (mem_of_meet hmeet).mp hway
      · exact List.prefix_rfl
      · obtain ⟨rest, -, rfl, -⟩ := (Root.mem_visit_iff hd hvisit).mp hway
        exact List.prefix_append ..
    refine nodup_flatten hfound ?_ ?_
    · rintro ⟨name, e⟩ - ways hmeet
      rw [meet] at hmeet
      split_ifs at hmeet with hhidden
      · cases hmeet
        exact List.nodup_nil
      · cases e with
        | file bytes =>
          cases hmeet
          exact List.nodup_singleton _
        | link target =>
          cases hmeet
          exact List.nodup_nil
        | directory => exact ih hmeet
    · refine (entriesIn_pairwise hd _).imp fun {x y} hxy ways ways' hways hways' way' hx hy => ?_
      have hsame := List.prefix_of_prefix_length_le (hbelow x ways way' hways hx)
        (hbelow y ways' way' hways' hy) (by simp)
      have hsame := hsame.eq_of_length (by simp)
      exact hxy (List.singleton_injective (List.append_cancel_left hsame))

/-! ### What is shown -/

/-- The files of a disk below a location that a listing shows, each by its way from there. -/
def shown (d : Disk) (top : Location) : List Location :=
  d.entries.filterMap fun e =>
    if e.2.isFile then (below? top e.1).filter fun way => !way.any isHiddenName else none

/-- A file below a location is shown unless there is a hidden name on its way. -/
theorem mem_shown_iff (hd : d.WellFormed) : way ∈ shown d c ↔
    (∃ bytes, d.find? (c ++ way) = some (.file bytes)) ∧
      ∀ name ∈ way, isHiddenName name = false := by
  rw [shown, List.mem_filterMap]
  constructor
  · rintro ⟨⟨l, e⟩, hmem, hshown⟩
    dsimp only at hshown
    split_ifs at hshown with hfile
    obtain ⟨hbelow, hvisible⟩ := Option.filter_eq_some_iff.mp hshown
    obtain rfl := below?_eq_some hbelow
    refine ⟨?_, by simpa using hvisible⟩
    cases e with
    | file bytes => exact ⟨bytes, hd.find?_of_mem hmem⟩
    | link target => cases hfile
    | directory => cases hfile
  · rintro ⟨⟨bytes, hfile⟩, hvisible⟩
    -- An entry that is found is among the entries, at the location asked for.
    refine ⟨_, mem_of_find? (ne_nil_of_file hfile) hfile, ?_⟩
    have hshow : (!way.any isHiddenName) = true := by simpa using hvisible
    simp [Entry.isFile, below?_append, hshow]

/-- No way is shown twice. -/
theorem nodup_shown (hd : d.WellFormed) (c : Location) : (shown d c).Nodup := by
  have hdistinct : d.entries.Pairwise fun x y => x.1 ≠ y.1 := List.pairwise_map.mp hd.distinct
  have hway : ∀ (x : Location × Entry) way, (if x.2.isFile then
      (below? c x.1).filter fun way => !way.any isHiddenName else none) = some way →
      x.1 = c ++ way := by
    intro x way hx
    split_ifs at hx
    exact below?_eq_some (Option.filter_eq_some_iff.mp hx).1
  refine hdistinct.filterMap _ fun x y hxy way hx way' hy heq => ?_
  rw [hway x way hx, hway y way' hy, heq] at hxy
  exact hxy rfl

/-- **The walk gives what is shown**, from a directory down. -/
theorem Root.visit_perm_shown (hd : d.WellFormed) (hdir : d.find? top = some .directory)
    (h : r.visit d top depth [] = .ok ways) : ways.Perm (shown d top) := by
  rw [List.perm_ext_iff_of_nodup (Root.nodup_visit hd h) (nodup_shown hd top)]
  intro way
  rw [Root.mem_visit_iff hd h, mem_shown_iff hd]
  constructor
  · rintro ⟨rest, -, rfl, hfile, hvisible⟩
    exact ⟨hfile, hvisible⟩
  · rintro ⟨⟨bytes, hfile⟩, hvisible⟩
    refine ⟨way, ?_, rfl, ⟨bytes, hfile⟩, hvisible⟩
    rintro rfl
    rw [List.append_nil, hdir] at hfile
    cases hfile

/-- All that is listed are regular files. -/
theorem Root.file_of_waysFrom (hd : d.WellFormed) (h : r.waysFrom d c = .ok ways)
    (hway : way ∈ ways) : ∃ bytes, d.find? (c ++ way) = some (.file bytes) := by
  rw [Root.waysFrom] at h
  split at h
  · obtain ⟨rest, -, rfl, hfile, -⟩ := (Root.mem_visit_iff hd h).mp hway
    exact hfile
  · next bytes hfile =>
    cases h
    split_ifs at hway
    · cases hway
    · rw [List.mem_singleton.mp hway, List.append_nil]
      exact ⟨bytes, hfile⟩
  · cases h
    cases hway

/-! ### Directories that cannot be opened -/

/-- A walk that goes well has opened every directory that it has come to. -/
theorem Root.accepted_of_visit (hd : d.WellFormed) (h : r.visit d top depth way = .ok ways)
    (hdir : d.find? (top ++ (way ++ rest)) = some .directory)
    (hvisible : ∀ name ∈ rest, isHiddenName name = false) :
    refusal? (r.front ++ (way ++ rest)) = none := by
  induction depth generalizing way ways rest with
  | zero => cases h
  | succ depth ih =>
    obtain ⟨haccepted, found, hfound, rfl⟩ := Root.visit_eq_ok h
    cases rest with
    | nil => rwa [List.append_nil]
    | cons name rest =>
      obtain ⟨hname, hrest⟩ := List.forall_mem_cons.mp hvisible
      rw [List.append_cons] at hdir ⊢
      -- What the directory lies below is a directory, too, so the walk goes on into it.
      have hthere : d.find? (top ++ way ++ [name]) = some .directory := by
        rw [← List.append_assoc, ← List.append_assoc] at hdir
        by_cases hnil : rest = []
        · rwa [hnil, List.append_nil] at hdir
        · exact hd.directory hnil (by rw [hdir]; rfl)
      obtain ⟨ways, hways⟩ :=
        exists_mapM_iff.mp ⟨_, hfound⟩ _ ((mem_entriesIn_iff hd).mpr hthere)
      rw [meet, hname, if_neg Bool.false_ne_true] at hways
      exact ih hways hdir hrest

/-- **A walk that fails** has come to a directory whose path is refused.  The bound on the depth is
never what ends it: a path has a byte for every name. -/
theorem Root.exists_of_visit_error {cause : Error} (hd : d.WellFormed) (hdepth : 0 < depth)
    (hbound : maxPath < depth + way.length) (hdir : d.find? (top ++ way) = some .directory)
    (h : r.visit d top depth way = .error cause) :
    ∃ rest why, d.find? (top ++ (way ++ rest)) = some .directory ∧
      (∀ name ∈ rest, isHiddenName name = false) ∧
      refusal? (r.front ++ (way ++ rest)) = some why ∧ cause = r.unopened (way ++ rest) why := by
  -- The depth never runs out: a path of more than `maxPath` parts is refused before that.
  induction depth generalizing way with
  | zero => exact absurd hdepth (Nat.lt_irrefl 0)
  | succ depth ih =>
    rw [Root.visit] at h
    split at h
    · next why hrefused =>
      refine ⟨[], why, ?_, by simp, ?_, ?_⟩
      · rwa [List.append_nil]
      · rwa [List.append_nil]
      · rw [List.append_nil, ← Except.error.inj h]
    · next haccepted =>
      have hlength := length_lt_maxPath haccepted
      rw [List.length_append] at hlength
      cases hfound : (entriesIn d (top ++ way)).mapM (meet (r.visit d top depth) way) with
      | ok found =>
        rw [hfound] at h
        cases h
      | error e =>
        rw [hfound] at h
        cases h
        -- Only the visit of a directory that is shown can fail, and that fails further down.
        obtain ⟨⟨name, e⟩, hmem, hmeet⟩ := exists_of_mapM_error hfound
        obtain ⟨hname, rfl, hvisit⟩ := meet_eq_error hmeet
        have hnext : d.find? (top ++ (way ++ [name])) = some .directory := by
          rw [← List.append_assoc]
          exact (mem_entriesIn_iff hd).mp hmem
        obtain ⟨rest, why, hrest, hvisible, hrefused, hcause⟩ :=
          ih (by omega) (by rw [List.length_append, List.length_singleton]; omega) hnext hvisit
        rw [← List.append_cons] at hrest hrefused hcause
        exact ⟨name :: rest, why, hrest, List.forall_mem_cons.mpr ⟨hname, hvisible⟩, hrefused,
          hcause⟩

end Colloquy.Workspace
