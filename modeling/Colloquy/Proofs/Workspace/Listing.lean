import Colloquy.Proofs.Workspace.Saving
import Mathlib.Data.List.Nodup

/-!
# What a listing shows

A listing names the regular files below the root that are not hidden, each by its way down from the
root, joined with slashes.

* `join_inj`: ways without slashes in their names are not mixed up by joining them;
* `Root.exists_list_iff`, `Root.exists_of_list_error`: when listing goes well, and why it fails;
* `Root.list_eq`, `Root.mem_list_iff`: what is listed;
* `Root.list_ascending`: nothing is listed twice, and all is in ascending order.
-/

namespace Colloquy.Workspace

open Files Files.Disk

variable {r : Root} {d : Disk} {c l way way' : Location} {text : String} {names : List String}

/-! ### Ways as texts -/

/-- The names of a way in one text, with slashes between them. -/
def join (way : Location) : String :=
  "/".intercalate way

/-- A way that can be read back from its text: there is no slash in its names. -/
def Plain (way : Location) : Prop :=
  ∀ name ∈ way, '/' ∉ name.toList

instance (way : Location) : Decidable (Plain way) :=
  inferInstanceAs (Decidable (∀ name ∈ way, '/' ∉ name.toList))

/-- The names of a way, split off from its text. -/
theorem splitOn_join (h : Plain way) (hne : way ≠ []) :
    (join way).toList.splitOn '/' = way.map String.toList := by
  have hslash : "/".toList = ['/'] := rfl
  rw [join, String.toList_intercalate, hslash, List.splitOn_intercalate]
  · intro name hname
    obtain ⟨x, hx, rfl⟩ := List.mem_map.mp hname
    exact h x hx
  · simpa using hne

/-- Different ways are joined to different texts. -/
theorem join_inj (h : Plain way) (h' : Plain way') (hne : way ≠ []) (hne' : way' ≠ [])
    (hjoin : join way = join way') : way = way' := by
  have hnames : way.map String.toList = way'.map String.toList := by
    rw [← splitOn_join h hne, ← splitOn_join h' hne', hjoin]
  exact List.map_injective_iff.mpr (fun _ _ => String.toList_inj.mp) hnames

/-! ### Listings -/

theorem sorted_mergeSort (texts : List String) :
    (texts.mergeSort fun a b => decide (a ≤ b)).Pairwise fun a b => decide (a ≤ b) = true := by
  refine List.pairwise_mergeSort (fun a b c hab hbc => ?_) (fun a b => ?_) _
  · rw [decide_eq_true_eq] at *
    exact String.le_trans hab hbc
  · rw [Bool.or_eq_true, decide_eq_true_eq, decide_eq_true_eq]
    exact String.le_total a b

/-- Texts are sorted alike, whatever their order was before. -/
theorem mergeSort_eq_of_perm {texts texts' : List String} (h : texts.Perm texts') :
    (texts.mergeSort fun a b => decide (a ≤ b)) = texts'.mergeSort fun a b => decide (a ≤ b) := by
  refine List.Perm.eq_of_pairwise ?_ (sorted_mergeSort texts) (sorted_mergeSort texts') ?_
  · intro a b _ _ hab hba
    exact String.le_antisymm (of_decide_eq_true hab) (of_decide_eq_true hba)
  · exact (List.mergeSort_perm ..).trans (h.trans (List.mergeSort_perm ..).symm)

/-- All directories that a listing comes to can be opened: their paths are not refused. -/
def Root.Opens (r : Root) (d : Disk) (c : Location) : Prop :=
  ∀ way, d.find? (c ++ way) = some .directory → (∀ name ∈ way, isHiddenName name = false) →
    refusal? (r.front ++ way) = none

theorem Root.list_unnamed (hr : r.unnamed = true) (d : Disk) : r.list d = .ok [] := by
  rw [Root.list, hr, if_pos rfl]

/-- A root that leads nowhere has an empty listing. -/
theorem Root.list_of_missing (h : ∀ c, d.locate r.path ≠ .ok c) : r.list d = .ok [] := by
  rw [Root.list]
  cases hroot : d.locate r.path with
  | ok c => exact absurd hroot (h c)
  | error e => exact ite_self _

section

variable (hd : d.WellFormed) (hr : r.unnamed = false) (hc : d.locate r.path = .ok c)
  (hdir : d.find? c = some .directory)

include hr hc hdir

theorem Root.list_of_directory : r.list d =
    (r.visit d c (maxPath + 1) []).map fun ways =>
      (ways.map join).mergeSort fun a b => decide (a ≤ b) := by
  rw [Root.list, hr, if_neg Bool.false_ne_true, hc]
  dsimp only
  rw [Root.waysFrom, hdir]
  rfl

include hd

/-- **A listing that fails** has come to a directory that cannot be opened. -/
theorem Root.exists_of_list_error {e : Error} (h : r.list d = .error e) :
    ∃ way why, d.find? (c ++ way) = some .directory ∧
      (∀ name ∈ way, isHiddenName name = false) ∧ refusal? (r.front ++ way) = some why ∧
      e = r.unopened way why := by
  rw [Root.list_of_directory hr hc hdir] at h
  cases hvisit : r.visit d c (maxPath + 1) [] with
  | ok ways =>
    rw [hvisit] at h
    cases h
  | error e' =>
    rw [hvisit] at h
    cases h
    exact Root.exists_of_visit_error hd (Nat.succ_pos _) (Nat.lt_succ_self _)
      (by rwa [List.append_nil]) hvisit

/-- A listing that goes well has opened all that it has come to, and gives what is shown. -/
theorem Root.list_eq_ok (h : r.list d = .ok names) :
    r.Opens d c ∧ names = ((shown d c).map join).mergeSort fun a b => decide (a ≤ b) := by
  rw [Root.list_of_directory hr hc hdir] at h
  cases hvisit : r.visit d c (maxPath + 1) [] with
  | error e =>
    rw [hvisit] at h
    cases h
  | ok ways =>
    rw [hvisit] at h
    rw [← Except.ok.inj h]
    refine ⟨fun way hway hvisible => Root.accepted_of_visit hd hvisit hway hvisible, ?_⟩
    exact mergeSort_eq_of_perm ((Root.visit_perm_shown hd hdir hvisit).map join)

/-- **Listing goes well** exactly if all directories that it comes to can be opened. -/
theorem Root.exists_list_iff : (∃ names, r.list d = .ok names) ↔ r.Opens d c := by
  constructor
  · rintro ⟨names, h⟩
    exact (Root.list_eq_ok hd hr hc hdir h).1
  · intro hopen
    cases h : r.list d with
    | ok names => exact ⟨names, rfl⟩
    | error e =>
      obtain ⟨way, why, hway, hvisible, hrefused, -⟩ :=
        Root.exists_of_list_error hd hr hc hdir h
      rw [hopen way hway hvisible] at hrefused
      cases hrefused

/-- What is listed if all directories can be opened. -/
theorem Root.list_eq (hopen : r.Opens d c) :
    r.list d = .ok (((shown d c).map join).mergeSort fun a b => decide (a ≤ b)) := by
  obtain ⟨names, h⟩ := (Root.exists_list_iff hd hr hc hdir).mpr hopen
  rw [h, (Root.list_eq_ok hd hr hc hdir h).2]

/-- What is listed: the files below the root that are not hidden, by their ways. -/
theorem Root.mem_list_iff (h : r.list d = .ok names) : text ∈ names ↔
    ∃ way, text = join way ∧ (∃ bytes, d.find? (c ++ way) = some (.file bytes)) ∧
      ∀ name ∈ way, isHiddenName name = false := by
  rw [(Root.list_eq_ok hd hr hc hdir h).2, List.mem_mergeSort, List.mem_map]
  constructor
  · rintro ⟨way, hway, rfl⟩
    exact ⟨way, rfl, (mem_shown_iff hd).mp hway⟩
  · rintro ⟨way, rfl, hway⟩
    exact ⟨way, (mem_shown_iff hd).mpr hway, rfl⟩

/-- A listing is in strictly ascending order, if no name below the root has a slash in it. -/
theorem Root.list_ascending (h : r.list d = .ok names)
    (hplain : ∀ way bytes, d.find? (c ++ way) = some (.file bytes) → Plain way) :
    names.Pairwise (· < ·) := by
  rw [(Root.list_eq_ok hd hr hc hdir h).2]
  -- Different files have different ways, and the ways have different texts.
  have hshown : ∀ way ∈ shown d c, Plain way ∧ way ≠ [] := by
    intro way hway
    obtain ⟨⟨bytes, hfile⟩, -⟩ := (mem_shown_iff hd).mp hway
    refine ⟨hplain way bytes hfile, ?_⟩
    rintro rfl
    rw [List.append_nil, hdir] at hfile
    cases hfile
  have hnodup : ((shown d c).map join).Nodup := by
    refine (nodup_shown hd c).map_on fun way hway way' hway' hjoin => ?_
    obtain ⟨hplain, hne⟩ := hshown way hway
    obtain ⟨hplain', hne'⟩ := hshown way' hway'
    exact join_inj hplain hplain' hne hne' hjoin
  have hnodup' := (List.mergeSort_perm ((shown d c).map join)
    fun a b => decide (a ≤ b)).nodup_iff.mpr hnodup
  refine ((sorted_mergeSort _).and hnodup').imp fun {a b} hab => ?_
  obtain ⟨hle, hne⟩ := hab
  by_contra hlt
  exact hne (String.le_antisymm (of_decide_eq_true hle) (String.not_lt.mp hlt))

end

end Colloquy.Workspace
