import Colloquy.Files.Change
import Mathlib.Data.List.Infix
import Mathlib.Data.List.TakeWhile
import Mathlib.Tactic.SplitIfs
import Mathlib.Tactic.ByContra

/-!
# Parts of paths

What a path looks like from its end: its last name, the paths above it, and which of its prefixes
the file system takes if it takes the whole.

* `upwards_append`: the paths above a path are those that end in what is appended to a prefix of it,
  and then those above the prefix;
* `ancestors_append`: the same for a path that goes on with a name, from the path itself upwards;
* `refusal?_of_sublist`: a path that is not refused may leave out parts, so it has no prefix that is
  refused (`refusal?_of_append`).
-/

namespace Colloquy.Files

/-! ### Names -/

/-- Whether a part is the name of an entry. -/
def IsName (part : String) : Prop :=
  isHere part = false ∧ part ≠ ".."

theorem namesOf_append (p q : List String) : namesOf (p ++ q) = namesOf p ++ namesOf q :=
  List.filter_append ..

theorem namesOf_eq_nil_iff {p : List String} :
    namesOf p = [] ↔ ∀ part ∈ p, isHere part = true := by
  simp [namesOf, List.filter_eq_nil_iff]

theorem namesOf_cons_here {part : String} (h : isHere part = true) (p : List String) :
    namesOf (part :: p) = namesOf p := by
  simp [namesOf, h]

theorem namesOf_cons_name {part : String} (h : isHere part = false) (p : List String) :
    namesOf (part :: p) = part :: namesOf p := by
  simp [namesOf, h]

theorem namesOf_reverse (p : List String) : namesOf p.reverse = (namesOf p).reverse :=
  List.filter_reverse ..

/-- The first names of a path are those of a part of it. -/
theorem exists_of_prefix_namesOf {p z : List String} (h : z <+: namesOf p) :
    ∃ q, q <+: p ∧ namesOf q = z := by
  induction p generalizing z with
  | nil => exact ⟨[], List.nil_prefix, (List.prefix_nil.mp h).symm⟩
  | cons part p ih =>
    cases hpart : isHere part with
    | true =>
      rw [namesOf_cons_here hpart] at h
      obtain ⟨q, hq, rfl⟩ := ih h
      exact ⟨part :: q, List.cons_prefix_cons.mpr ⟨rfl, hq⟩, namesOf_cons_here hpart q⟩
    | false =>
      rw [namesOf_cons_name hpart] at h
      cases z with
      | nil => exact ⟨[], List.nil_prefix, rfl⟩
      | cons name z =>
        obtain ⟨rfl, hz⟩ := List.cons_prefix_cons.mp h
        obtain ⟨q, hq, rfl⟩ := ih hz
        exact ⟨name :: q, List.cons_prefix_cons.mpr ⟨rfl, hq⟩, namesOf_cons_name hpart q⟩

/-- A path that has a name is some parts, its last name, and what stands for nothing. -/
theorem exists_last_name {p : List String} (h : namesOf p ≠ []) :
    ∃ q name rest, p = q ++ name :: rest ∧ isHere name = false ∧ namesOf rest = [] := by
  induction p with
  | nil => exact absurd rfl h
  | cons part p ih =>
    by_cases hp : namesOf p = []
    · refine ⟨[], part, p, rfl, ?_, hp⟩
      by_contra hpart
      rw [namesOf_cons_here ((Bool.not_eq_false _).mp hpart)] at h
      exact h hp
    · obtain ⟨q, name, rest, rfl, hname, hrest⟩ := ih hp
      exact ⟨part :: q, name, rest, rfl, hname, hrest⟩

/-- A path up to its last name, and what comes after that. -/
theorem upTo_append_after (p : List String) :
    (p.reverse.dropWhile isHere).reverse ++ (p.reverse.takeWhile isHere).reverse = p := by
  rw [← List.reverse_append, List.takeWhile_append_dropWhile, List.reverse_reverse]

theorem namesOf_after (p : List String) : namesOf (p.reverse.takeWhile isHere).reverse = [] := by
  rw [namesOf_reverse, List.reverse_eq_nil_iff, namesOf_eq_nil_iff]
  exact fun part hpart => List.mem_takeWhile_imp hpart

theorem namesOf_upTo (p : List String) :
    namesOf (p.reverse.dropWhile isHere).reverse = namesOf p := by
  conv_rhs => rw [← upTo_append_after p, namesOf_append, namesOf_after, List.append_nil]

/-! ### The paths above a path -/

theorem upwards_eq_cons (p : List String) :
    ∃ above, upwards p = (p.dropWhile isHere).reverse :: above := by
  induction p with
  | nil => exact ⟨[], rfl⟩
  | cons part p ih =>
    cases hpart : isHere part with
    | true => simpa only [upwards, hpart, if_true, List.dropWhile_cons_of_pos] using ih
    | false => exact ⟨upwards p, by simp [upwards, hpart]⟩

/-- The paths above a path that goes on from another one: those that go on themselves, and those
above the other one. -/
theorem upwards_append (u v : List String) :
    ∃ lower, upwards (u ++ v) = lower ++ upwards v ∧
      (∀ p ∈ lower, ∃ z, z ≠ [] ∧ z <+: u.reverse ∧ p = v.reverse ++ z) ∧
      (namesOf u ≠ [] → lower ≠ []) := by
  induction u with
  | nil => exact ⟨[], rfl, fun _ h => absurd h List.not_mem_nil, fun h => absurd rfl h⟩
  | cons part u ih =>
    obtain ⟨lower, heq, hlower, hne⟩ := ih
    have hgrow : ∀ p ∈ lower, ∃ z, z ≠ [] ∧ z <+: (part :: u).reverse ∧ p = v.reverse ++ z := by
      intro p hp
      obtain ⟨z, hz, halong, rfl⟩ := hlower p hp
      exact ⟨z, hz, List.reverse_cons ▸ halong.trans (List.prefix_append ..), rfl⟩
    cases hpart : isHere part with
    | true =>
      refine ⟨lower, ?_, hgrow, fun h => hne (namesOf_cons_here hpart u ▸ h)⟩
      rw [List.cons_append, upwards, if_pos hpart, heq]
    | false =>
      refine ⟨(part :: (u ++ v)).reverse :: lower, ?_, ?_, fun _ => List.cons_ne_nil _ _⟩
      · rw [List.cons_append, upwards, if_neg (by rw [hpart]; decide), heq, List.cons_append]
      · intro p hp
        rcases List.mem_cons.mp hp with rfl | hp
        · refine ⟨(part :: u).reverse, by simp, List.prefix_rfl, ?_⟩
          rw [← List.reverse_append, List.cons_append]
        · exact hgrow p hp

/-- Let a path go on with a name.  The paths above its end are those that go on so, too, and then
what it goes on from, up to the last name. -/
theorem ancestors_append {b s : List String} {x : String} (hx : isHere x = false) :
    ∃ lower above, ancestors (b ++ x :: s) =
        ((b ++ x :: s) :: lower) ++ (b.reverse.dropWhile isHere).reverse :: above ∧
      ∀ p ∈ (b ++ x :: s) :: lower, ∃ z, p = b ++ x :: z := by
  obtain ⟨lower, hlower, hbelow, hne⟩ := upwards_append (x :: s).reverse b.reverse
  obtain ⟨above, habove⟩ := upwards_eq_cons b.reverse
  have hnames : namesOf (x :: s).reverse ≠ [] := by
    rw [namesOf_reverse, namesOf_cons_name hx]
    simp
  obtain ⟨first, lower, rfl⟩ := List.exists_cons_of_ne_nil (hne hnames)
  refine ⟨lower, above, ?_, fun p hp => ?_⟩
  · rw [ancestors, List.reverse_append, hlower, habove]
    rfl
  · rcases List.mem_cons.mp hp with rfl | hp
    · exact ⟨s, rfl⟩
    · obtain ⟨z, hz, halong, rfl⟩ := hbelow p (List.mem_cons_of_mem _ hp)
      rw [List.reverse_reverse] at halong ⊢
      obtain ⟨y, z, rfl⟩ := List.exists_cons_of_ne_nil hz
      obtain ⟨rfl, -⟩ := List.cons_prefix_cons.mp halong
      exact ⟨z, rfl⟩

theorem upwards_here {u : List String} (hu : namesOf u = []) (v : List String) :
    upwards (u ++ v) = upwards v := by
  rw [namesOf_eq_nil_iff] at hu
  induction u with
  | nil => rfl
  | cons part u ih =>
    rw [List.cons_append, upwards, if_pos (hu part (List.mem_cons_self ..))]
    exact ih fun x hx => hu x (List.mem_cons_of_mem _ hx)

/-- Above a path are its part before the last name and the paths above that. -/
theorem tail_ancestors {q rest : List String} {name : String} (hname : isHere name = false)
    (hrest : namesOf rest = []) : (ancestors (q ++ name :: rest)).tail = upwards q.reverse := by
  have hrest' : namesOf rest.reverse = [] := by rw [namesOf_reverse, hrest, List.reverse_nil]
  have hreverse : (q ++ name :: rest).reverse = rest.reverse ++ name :: q.reverse := by simp
  rw [ancestors, List.tail_cons, hreverse, upwards_here hrest', upwards,
    if_neg (by rw [hname]; decide), List.tail_cons]

/-- Nothing is above a path without a name. -/
theorem tail_ancestors_of_namesOf {p : List String} (h : namesOf p = []) :
    (ancestors p).tail = [] := by
  have hreverse : namesOf p.reverse = [] := by rw [namesOf_reverse, h, List.reverse_nil]
  rw [ancestors, List.tail_cons, ← List.append_nil p.reverse, upwards_here hreverse]
  rfl

/-! ### Paths that are refused -/

theorem pathSize_append (p q : List String) : pathSize (p ++ q) = pathSize p + pathSize q := by
  have hstart : ∀ (q : List String) (n : Nat),
      q.foldl (fun n part => n + part.utf8ByteSize + 1) n = n + pathSize q := by
    intro q
    induction q with
    | nil => intro n; rfl
    | cons part q ih =>
      intro n
      have hcons : pathSize (part :: q) = 0 + part.utf8ByteSize + 1 + pathSize q := by
        rw [← ih]
        rfl
      rw [List.foldl_cons, ih, hcons]
      omega
  rw [pathSize, List.foldl_append, hstart]
  rfl

theorem refusal?_eq_none_iff {p : List String} :
    refusal? p = none ↔ (∀ part ∈ p, '\x00' ∉ part.toList) ∧ pathSize p < maxPath := by
  simp only [refusal?]
  split_ifs with hnul hsize
  · simp only [List.any_eq_true, List.contains_iff_mem] at hnul
    obtain ⟨part, hpart, hmem⟩ := hnul
    simp only [false_iff]
    exact fun h => h.1 part hpart hmem
  · simp only [false_iff]
    exact fun h => absurd h.2 (Nat.not_lt.mpr hsize)
  · simp only [List.any_eq_true, List.contains_iff_mem, not_exists, not_and] at hnul
    exact ⟨fun _ => ⟨hnul, Nat.lt_of_not_le hsize⟩, fun _ => rfl⟩

theorem refusal?_ne_noSuchFile (p : List String) : refusal? p ≠ some .noSuchFile := by
  unfold refusal?
  split_ifs <;> simp

theorem pathSize_cons (part : String) (p : List String) :
    pathSize (part :: p) = part.utf8ByteSize + 1 + pathSize p := by
  have hpart : pathSize [part] = part.utf8ByteSize + 1 := by simp [pathSize]
  rw [← hpart, ← pathSize_append]
  rfl

theorem pathSize_replicate (n : Nat) (part : String) :
    pathSize (List.replicate n part) = n * (part.utf8ByteSize + 1) := by
  induction n with
  | zero => rw [Nat.zero_mul]; rfl
  | succ n ih =>
    rw [List.replicate_succ, pathSize_cons, ih, Nat.succ_mul, Nat.add_comm]

/-- A path has a byte for every part. -/
theorem length_le_pathSize (p : List String) : p.length ≤ pathSize p := by
  induction p with
  | nil => exact Nat.le_refl 0
  | cons part p ih =>
    rw [pathSize_cons, List.length_cons]
    omega

/-- A path that is not refused has fewer parts than it may have bytes. -/
theorem length_lt_maxPath {p : List String} (h : refusal? p = none) : p.length < maxPath :=
  (length_le_pathSize p).trans_lt (refusal?_eq_none_iff.mp h).2

theorem pathSize_le_of_sublist {p q : List String} (h : p.Sublist q) :
    pathSize p ≤ pathSize q := by
  induction h with
  | slnil => exact Nat.le_refl _
  | cons part _ ih =>
    rw [pathSize_cons]
    exact ih.trans (Nat.le_add_left ..)
  | cons_cons part _ ih =>
    rw [pathSize_cons, pathSize_cons]
    exact Nat.add_le_add_left ih _

/-- A path that is not refused may leave out parts. -/
theorem refusal?_of_sublist {p q : List String} (hsub : p.Sublist q) (h : refusal? q = none) :
    refusal? p = none := by
  rw [refusal?_eq_none_iff] at h ⊢
  obtain ⟨hnul, hsize⟩ := h
  exact ⟨fun part hpart => hnul part (hsub.subset hpart),
    (pathSize_le_of_sublist hsub).trans_lt hsize⟩

/-- What is before the end of a path that is not refused is not refused. -/
theorem refusal?_of_append {p q : List String} (h : refusal? (p ++ q) = none) :
    refusal? p = none :=
  refusal?_of_sublist (List.sublist_append_left p q) h

/-- Nor is it with a slash in place of what comes next. -/
theorem refusal?_slash {p q : List String} {part : String} (h : refusal? (p ++ part :: q) = none) :
    refusal? (p ++ [""]) = none := by
  rw [refusal?_eq_none_iff] at h ⊢
  obtain ⟨hnul, hsize⟩ := h
  rw [pathSize_append] at hsize ⊢
  have hpart : pathSize [""] ≤ pathSize (part :: q) := by
    have hslash : pathSize [""] = 1 := rfl
    rw [hslash, pathSize_cons]
    omega
  refine ⟨fun x hx => ?_, by omega⟩
  rcases List.mem_append.mp hx with hx | hx
  · exact hnul x (List.mem_append_left _ hx)
  · rw [List.mem_singleton.mp hx]
    exact List.not_mem_nil

end Colloquy.Files
