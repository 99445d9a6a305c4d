import Mathlib.Data.List.Nodup

/-!
# What comes up first, and what comes last

Where things are put in by their names, a name has its place from when it comes up first, and what
is there under it may be from when it came up last.

* `FirstsOf`: the elements of a list, in the order in which they come up first;
* `FirstsOf.foldl`: the names in a container into which things are put one after the other, if a
  name that is new goes to the end and one that is known stays;
* `findRev?_concat`: the last thing that passes a test, after one more thing.
-/

namespace Colloquy

variable {α β σ : Type}

/-! ### First places -/

/-- A list has the elements of another one, and they are in the order in which they come up there
first. -/
structure FirstsOf [DecidableEq α] (firsts l : List α) : Prop where
  mem_iff : ∀ a, a ∈ firsts ↔ a ∈ l
  ordered : firsts.Pairwise fun a b => l.idxOf a < l.idxOf b

namespace FirstsOf

variable [DecidableEq α] {firsts l : List α} {a b c : α}

theorem nil : FirstsOf ([] : List α) [] :=
  ⟨fun _ => Iff.rfl, .nil⟩

/-- Nothing comes up first twice. -/
theorem nodup (h : FirstsOf firsts l) : firsts.Nodup :=
  h.ordered.imp fun hlt heq => by
    rw [heq] at hlt
    omega

/-- What comes up first stays first, whatever comes later. -/
theorem idxOf_lt_append (hb : b ∈ l) (hc : c ∈ l) (h : l.idxOf b < l.idxOf c) (l' : List α) :
    (l ++ l').idxOf b < (l ++ l').idxOf c := by
  rw [List.idxOf_append_of_mem hb, List.idxOf_append_of_mem hc]
  exact h

/-- What is new comes after everything else. -/
theorem idxOf_lt_new (hb : b ∈ l) (ha : a ∉ l) : (l ++ [a]).idxOf b < (l ++ [a]).idxOf a := by
  have hlt : l.idxOf b < l.length := List.idxOf_lt_length_of_mem hb
  rw [List.idxOf_append_of_mem hb, List.idxOf_append_of_notMem ha]
  omega

/-- One more element goes to the end if it is new. -/
theorem snoc (h : FirstsOf firsts l) (a : α) :
    FirstsOf (if a ∈ firsts then firsts else firsts ++ [a]) (l ++ [a]) := by
  have hkept : firsts.Pairwise fun b c => (l ++ [a]).idxOf b < (l ++ [a]).idxOf c :=
    h.ordered.imp_of_mem fun hb hc hlt =>
      idxOf_lt_append ((h.mem_iff _).mp hb) ((h.mem_iff _).mp hc) hlt [a]
  by_cases ha : a ∈ firsts
  · rw [if_pos ha]
    refine ⟨fun b => ?_, hkept⟩
    rw [List.mem_append, List.mem_singleton, ← h.mem_iff b]
    constructor
    · exact Or.inl
    · rintro (hb | rfl)
      · exact hb
      · exact ha
  · rw [if_neg ha]
    have hnew : a ∉ l := fun hmem => ha ((h.mem_iff a).mpr hmem)
    refine ⟨fun b => ?_, ?_⟩
    · rw [List.mem_append, List.mem_append, h.mem_iff b]
    · refine List.pairwise_append.mpr ⟨hkept, List.pairwise_singleton .., ?_⟩
      intro b hb c hc
      rw [List.mem_singleton.mp hc]
      exact idxOf_lt_new ((h.mem_iff b).mp hb) hnew

/-- **Names in a container** into which things are put one after the other. -/
theorem foldl (namesOf : σ → List α) {nameOf : β → α} {put : σ → β → σ}
    (hput : ∀ s b, namesOf (put s b) =
      if nameOf b ∈ namesOf s then namesOf s else namesOf s ++ [nameOf b])
    {s : σ} (h : FirstsOf (namesOf s) l) (bs : List β) :
    FirstsOf (namesOf (bs.foldl put s)) (l ++ bs.map nameOf) := by
  induction bs generalizing s l with
  | nil => simpa using h
  | cons b bs ih =>
    have hone : FirstsOf (namesOf (put s b)) (l ++ [nameOf b]) := by
      rw [hput]
      exact h.snoc (nameOf b)
    have hall := ih hone
    rwa [List.append_assoc, List.singleton_append, ← List.map_cons] at hall

end FirstsOf

/-! ### Last things -/

theorem findRev?_concat (p : β → Bool) (l : List β) (b : β) :
    (l ++ [b]).findRev? p = if p b then some b else l.findRev? p := by
  rw [List.findRev?_eq_find?_reverse, List.findRev?_eq_find?_reverse, List.reverse_concat,
    List.find?_cons]
  cases p b <;> rfl

/-- There is a last thing that passes a test just if anything does. -/
theorem findRev?_eq_none_iff {p : β → Bool} {l : List β} :
    l.findRev? p = none ↔ ∀ b ∈ l, p b = false := by
  rw [List.findRev?_eq_find?_reverse, List.find?_eq_none]
  simp only [List.mem_reverse, Bool.not_eq_true]

end Colloquy
