import Mathlib.Data.List.Forall2
import Mathlib.Data.List.Nodup

/-!
# Attempts

Something that may fail is tried with the elements of a list, one after the other, and ends with the
first failure.

* `mapM_eq_ok_iff`, `exists_mapM_iff`: all goes well if it goes well with each element;
* `exists_of_mapM_error`: a failure is that of one of the elements;
* `mem_flatten_iff`, `nodup_flatten`: what all results come to, if they are lists themselves.
-/

namespace Colloquy

variable {ε α β : Type} {f : α → Except ε β} {l : List α}

/-- All attempts go well with these results. -/
theorem mapM_eq_ok_iff {l' : List β} :
    l.mapM f = .ok l' ↔ List.Forall₂ (fun a b => f a = .ok b) l l' := by
  induction l generalizing l' with
  | nil =>
    rw [List.mapM_nil, List.forall₂_nil_left_iff]
    exact ⟨fun h => (Except.ok.inj h).symm, fun h => h ▸ rfl⟩
  | cons a rest ih =>
    rw [List.mapM_cons]
    -- The attempts go from left to right, and the first failure is that of the whole list.
    cases hf : f a with
    | error e =>
      refine ⟨fun h => (by cases h), fun h => ?_⟩
      cases h with
      | cons hb _ =>
        rw [hf] at hb
        cases hb
    | ok b =>
      cases hm : rest.mapM f with
      | error e =>
        refine ⟨fun h => (by cases h), fun h => ?_⟩
        cases h with
        | cons _ hrest =>
          rw [ih.mpr hrest] at hm
          cases hm
      | ok bs =>
        constructor
        · intro h
          obtain rfl := Except.ok.inj h
          exact .cons hf (ih.mp hm)
        · rintro (_ | ⟨hb, hrest⟩)
          rw [hf] at hb
          rw [ih.mpr hrest] at hm
          rw [← Except.ok.inj hb, ← Except.ok.inj hm]
          rfl

/-- All attempts go well if each of them does. -/
theorem exists_mapM_iff :
    (∃ l', l.mapM f = .ok l') ↔ ∀ a ∈ l, ∃ b, f a = .ok b := by
  simp only [mapM_eq_ok_iff]
  induction l with
  | nil => exact ⟨fun _ => nofun, fun _ => ⟨[], .nil⟩⟩
  | cons a rest ih =>
    rw [List.forall_mem_cons, ← ih]
    constructor
    · rintro ⟨_, _ | ⟨hb, hrest⟩⟩
      exact ⟨⟨_, hb⟩, _, hrest⟩
    · rintro ⟨⟨b, hb⟩, l', hrest⟩
      exact ⟨b :: l', .cons hb hrest⟩

/-- A failure is that of one of the attempts. -/
theorem exists_of_mapM_error {e : ε} (h : l.mapM f = .error e) : ∃ a ∈ l, f a = .error e := by
  induction l with
  | nil => cases h
  | cons a rest ih =>
    rw [List.mapM_cons] at h
    cases hf : f a with
    | error e' =>
      rw [hf] at h
      cases h
      exact ⟨a, List.mem_cons_self .., hf⟩
    | ok b =>
      cases hrest : rest.mapM f with
      | error e' =>
        rw [hf, hrest] at h
        cases h
        obtain ⟨a', ha', hf'⟩ := ih hrest
        exact ⟨a', List.mem_cons_of_mem _ ha', hf'⟩
      | ok bs =>
        rw [hf, hrest] at h
        cases h

/-! ### Lists as results -/

variable {g : α → Except ε (List β)} {ls : List (List β)} {b : β}

/-- What is in one of the results is what one of the attempts has given. -/
theorem mem_flatten_iff (h : l.mapM g = .ok ls) :
    b ∈ ls.flatten ↔ ∃ a ∈ l, ∃ bs, g a = .ok bs ∧ b ∈ bs := by
  rw [mapM_eq_ok_iff] at h
  induction h with
  | nil => simp
  | cons hbs hrest ih =>
    rw [List.flatten_cons, List.mem_append, ih, List.exists_mem_cons_iff]
    refine or_congr_left ⟨fun hb => ⟨_, hbs, hb⟩, ?_⟩
    rintro ⟨bs, hbs', hb⟩
    rwa [Except.ok.inj (hbs.symm.trans hbs')]

/-- Nothing is given twice if no attempt gives anything twice and no two give the same. -/
theorem nodup_flatten (h : l.mapM g = .ok ls)
    (hnodup : ∀ a ∈ l, ∀ bs, g a = .ok bs → bs.Nodup)
    (happart : l.Pairwise fun a a' => ∀ bs bs', g a = .ok bs → g a' = .ok bs' → bs.Disjoint bs') :
    ls.flatten.Nodup := by
  have hls := mapM_eq_ok_iff.mp h
  clear h
  induction hls with
  | nil => exact List.nodup_nil
  | @cons a bs rest bss hbs hrest ih =>
    obtain ⟨hfirst, happart⟩ := List.pairwise_cons.mp happart
    rw [List.flatten_cons, List.nodup_append']
    refine ⟨hnodup a (List.mem_cons_self ..) bs hbs,
      ih (fun a' ha' => hnodup a' (List.mem_cons_of_mem _ ha')) happart, fun b hb hb' => ?_⟩
    obtain ⟨a', ha', bs', hbs', hmem⟩ := (mem_flatten_iff (mapM_eq_ok_iff.mpr hrest)).mp hb'
    exact hfirst a' ha' bs bs' hbs hbs' hb hmem

end Colloquy
