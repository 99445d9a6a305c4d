import Colloquy.Data.Dictionary
import Mathlib.Data.List.Nodup

/-!
# Look-ups in lists of entries

What a look-up finds in a list of entries, whatever their order is.

* `findValue?_eq_none_iff`: nothing is found under a key that no entry has;
* `findValue?_eq_some_iff_of_nodup`: where each key is there once, a look-up finds just the
  entries, so that their order does not matter (`findValue?_reverse`);
* `mem_ofList_iff`: the entries of a dictionary are the last ones under their keys;
* `mem_keys_iff`: the keys of a dictionary are those under which something is found;
* `find?_name`: things with different names are found by their names.
-/

namespace Colloquy

variable {α : Type}

theorem findValue?_append (key : String) (l l' : List (String × α)) :
    findValue? key (l ++ l') = (findValue? key l).or (findValue? key l') := by
  rw [findValue?, findValue?, findValue?, List.find?_append]
  cases l.find? fun e => e.1 == key <;> rfl

theorem findValue?_eq_none_iff {key : String} {l : List (String × α)} :
    findValue? key l = none ↔ key ∉ l.map Prod.fst := by
  rw [findValue?, Option.map_eq_none_iff, List.find?_eq_none, List.mem_map]
  constructor
  · rintro h ⟨e, he, rfl⟩
    exact h e he (beq_self_eq_true _)
  · exact fun h e he hkey => h ⟨e, he, eq_of_beq hkey⟩

theorem mem_of_findValue? {key : String} {value : α} {l : List (String × α)}
    (h : findValue? key l = some value) : (key, value) ∈ l := by
  obtain ⟨e, he, rfl⟩ := Option.map_eq_some_iff.mp h
  have hkey : e.1 = key := by simpa using List.find?_some he
  rw [← hkey]
  exact List.mem_of_find?_eq_some he

/-- Where each key is there once, a look-up finds just the entries. -/
theorem findValue?_eq_some_iff_of_nodup {key : String} {value : α}
    {l : List (String × α)} (h : (l.map Prod.fst).Nodup) :
    findValue? key l = some value ↔ (key, value) ∈ l := by
  induction l with
  | nil => simp [findValue?]
  | cons e rest ih =>
    rw [List.map_cons, List.nodup_cons] at h
    by_cases hkey : e.1 = key
    · have hrest : (key, value) ∉ rest := fun hmem =>
        h.1 (hkey ▸ List.mem_map_of_mem (f := Prod.fst) hmem)
      simp [findValue?, hkey, hrest, Prod.ext_iff, eq_comm]
    · have hne : (key, value) ≠ e := fun he => hkey (he ▸ rfl)
      have hkey' : (e.1 == key) = false := by simpa using hkey
      rw [List.mem_cons, or_iff_right hne, ← ih h.2]
      simp [findValue?, hkey']

theorem nodup_of_ascending {l : List (String × α)} (h : l.Pairwise fun a b => a.1 < b.1) :
    (l.map Prod.fst).Nodup := by
  rw [List.Nodup, List.pairwise_map]
  refine h.imp fun hlt heq => ?_
  rw [heq] at hlt
  exact String.lt_irrefl _ hlt

theorem findValue?_cons_of_ne {e : String × α} {key : String} (h : e.1 ≠ key)
    (l : List (String × α)) : findValue? key (e :: l) = findValue? key l := by
  rw [findValue?, findValue?, List.find?_cons, beq_eq_false_iff_ne.mpr h]

theorem findValue?_reverse {l : List (String × α)} (h : (l.map Prod.fst).Nodup)
    (key : String) : findValue? key l.reverse = findValue? key l := by
  have hreverse : (l.reverse.map Prod.fst).Nodup := by
    rwa [List.map_reverse, List.nodup_reverse]
  ext value
  rw [findValue?_eq_some_iff_of_nodup hreverse, findValue?_eq_some_iff_of_nodup h,
    List.mem_reverse]

/-! ### Dictionaries -/

/-- Of several entries that are put in, the last one under a key counts. -/
theorem find?_insertMany (d : Dictionary α) (l : List (String × α)) (key : String) :
    (d.insertMany l).find? key = (findValue? key l.reverse).or (d.find? key) := by
  induction l generalizing d with
  | nil => rfl
  | cons e l ih =>
    have hone : (d.insert e.1 e.2).find? key = (findValue? key [e]).or (d.find? key) := by
      rw [Dictionary.find?_insert, findValue?]
      by_cases hkey : e.1 = key <;> simp [hkey]
    change ((d.insert e.1 e.2).insertMany l).find? key = _
    rw [ih, hone, List.reverse_cons, findValue?_append, Option.or_assoc]

theorem find?_ofList (l : List (String × α)) (key : String) :
    (Dictionary.ofList l).find? key = findValue? key l.reverse :=
  (find?_insertMany .empty l key).trans Option.or_none

theorem mem_ofList_iff {l : List (String × α)} {e : String × α} :
    e ∈ (Dictionary.ofList l).entries ↔ findValue? e.1 l.reverse = some e.2 := by
  rw [← find?_ofList, Dictionary.find?_eq_some_iff]

/-- A dictionary has no entries but those that it is made of. -/
theorem mem_of_mem_ofList {l : List (String × α)} {e : String × α}
    (h : e ∈ (Dictionary.ofList l).entries) : e ∈ l :=
  List.mem_reverse.mp (mem_of_findValue? (mem_ofList_iff.mp h))

/-- A dictionary has an entry under each key that it is made of. -/
theorem exists_mem_ofList {l : List (String × α)} {key : String} (h : key ∈ l.map Prod.fst) :
    ∃ value, (key, value) ∈ (Dictionary.ofList l).entries := by
  have hfind : findValue? key l.reverse ≠ none := fun hnone =>
    findValue?_eq_none_iff.mp hnone (by rwa [List.map_reverse, List.mem_reverse])
  obtain ⟨value, hvalue⟩ := Option.ne_none_iff_exists'.mp hfind
  exact ⟨value, mem_ofList_iff.mpr hvalue⟩

/-- The keys are those under which something is found. -/
theorem mem_keys_iff {d : Dictionary α} {key : String} :
    key ∈ d.keys ↔ ∃ value, d.find? key = some value := by
  rw [← Option.ne_none_iff_exists', Dictionary.find?, Ne, findValue?_eq_none_iff, not_not]
  rfl

/-- One more entry in front adds this entry at most. -/
theorem mem_ofList_cons {l : List (String × α)} {a e : String × α}
    (h : e ∈ (Dictionary.ofList (a :: l)).entries) :
    e = a ∨ e ∈ (Dictionary.ofList l).entries := by
  rw [mem_ofList_iff, List.reverse_cons, findValue?_append, Option.or_eq_some_iff] at h
  rcases h with h | ⟨-, h⟩
  · exact .inr (mem_ofList_iff.mpr h)
  · exact .inl (List.mem_singleton.mp (mem_of_findValue? h))

/-! ### Things with names -/

section

variable {β : Type*} (nameOf : β → String) {a b : β} {l : List β}

theorem name_ne (ha : nameOf a ∉ l.map nameOf) (hb : b ∈ l) : nameOf a ≠ nameOf b := by
  intro heq
  rw [heq] at ha
  exact ha (List.mem_map_of_mem hb)

/-- Things with different names are found by their names. -/
theorem find?_name (h : (l.map nameOf).Nodup) (ha : a ∈ l) :
    l.find? (fun b => nameOf b == nameOf a) = some a := by
  induction l with
  | nil => exact absurd ha List.not_mem_nil
  | cons b l ih =>
    obtain ⟨hb, h⟩ := List.nodup_cons.mp h
    rcases List.mem_cons.mp ha with rfl | ha
    · rw [List.find?_cons, beq_self_eq_true]
    · rw [List.find?_cons, beq_eq_false_iff_ne.mpr (name_ne nameOf hb ha)]
      exact ih h ha

end

end Colloquy
