/-!
# Dictionaries

A dictionary is a finite map from texts to values that is kept in ascending order of its keys.
The order is part of the type, so two dictionaries with the same entries are equal, and writing
one out gives its keys in order.

Main statements: `find?_insert` says what an insertion does to every look-up,
`find?_eq_some_iff` that look-ups find just the entries, `entries_insert_of_lt` that inserting
entries in ascending order appends them.
-/

namespace Colloquy

/-! ### Ascending lists of entries -/

/-- Puts an entry at its place in an ascending list; an entry with the same key is replaced. -/
def insertEntry {α : Type} (key : String) (value : α) :
    List (String × α) → List (String × α)
  | [] => [(key, value)]
  | (k, v) :: rest =>
    if key < k then (key, value) :: (k, v) :: rest
    else if k < key then (k, v) :: insertEntry key value rest
    else (key, value) :: rest

/-- The entries of `insertEntry` are the new one and some of the old ones. -/
theorem mem_insertEntry {α : Type} {key : String} {value : α} {l : List (String × α)}
    {e : String × α} (h : e ∈ insertEntry key value l) : e = (key, value) ∨ e ∈ l := by
  induction l with
  | nil => simpa [insertEntry] using h
  | cons x rest ih =>
    rw [insertEntry] at h
    split at h
    · simpa using h
    · split at h
      · rcases List.mem_cons.1 h with h | h
        · exact .inr (by simp [h])
        · rcases ih h with h | h
          · exact .inl h
          · exact .inr (by simp [h])
      · rcases List.mem_cons.1 h with h | h
        · exact .inl h
        · exact .inr (by simp [h])

/-- Insertion keeps a list ascending. -/
theorem pairwise_insertEntry {α : Type} (key : String) (value : α) {l : List (String × α)}
    (h : l.Pairwise fun a b => a.1 < b.1) :
    (insertEntry key value l).Pairwise fun a b => a.1 < b.1 := by
  induction l with
  | nil => simp [insertEntry]
  | cons x rest ih =>
    have hx := List.pairwise_cons.1 h
    rw [insertEntry]
    split
    · next hk =>
      refine List.pairwise_cons.2 ⟨?_, h⟩
      intro e he
      rcases List.mem_cons.1 he with rfl | he
      · exact hk
      · exact String.lt_trans hk (hx.1 e he)
    · split
      · next hk =>
        refine List.pairwise_cons.2 ⟨?_, ih hx.2⟩
        intro e he
        rcases mem_insertEntry he with rfl | he
        · exact hk
        · exact hx.1 e he
      · next h₁ h₂ =>
        have hxk : x.1 = key := String.le_antisymm (String.not_lt.1 h₁) (String.not_lt.1 h₂)
        refine List.pairwise_cons.2 ⟨?_, hx.2⟩
        intro e he
        exact hxk ▸ hx.1 e he

/-- The value under a key in a list of entries. -/
def findValue? {α : Type} (key : String) (l : List (String × α)) : Option α :=
  (l.find? fun e => e.1 == key).map Prod.snd

/-- A look-up after an insertion. -/
theorem findValue?_insertEntry {α : Type} (key other : String) (value : α)
    {l : List (String × α)} (h : l.Pairwise fun a b => a.1 < b.1) :
    findValue? other (insertEntry key value l) =
      if key = other then some value else findValue? other l := by
  induction l with
  | nil => by_cases hk : key = other <;> simp [findValue?, insertEntry, hk]
  | cons x rest ih =>
    have hx := List.pairwise_cons.1 h
    have ih := ih hx.2
    rw [insertEntry]
    split
    · by_cases hk : key = other <;> simp [findValue?, hk]
    · split
      · next hlt =>
        by_cases hxo : x.1 = other
        · have hne : key ≠ other := by
            rintro rfl
            exact String.lt_irrefl _ (hxo ▸ hlt)
          simp [findValue?, hxo, hne]
        · have hxo' : (x.1 == other) = false := by simpa using hxo
          simp only [findValue?, List.find?_cons, hxo'] at ih ⊢
          exact ih
      · next h₁ h₂ =>
        have hxk : x.1 = key := String.le_antisymm (String.not_lt.1 h₁) (String.not_lt.1 h₂)
        by_cases hk : key = other
        · simp [findValue?, hk]
        · have hxo : (x.1 == other) = false := by simpa [hxk] using hk
          have hko : (key == other) = false := by simpa using hk
          simp [findValue?, hxo, hk]

/-- A look-up finds just the entries of an ascending list. -/
theorem findValue?_eq_some_iff {α : Type} {key : String} {value : α} {l : List (String × α)}
    (h : l.Pairwise fun a b => a.1 < b.1) : findValue? key l = some value ↔ (key, value) ∈ l := by
  induction l with
  | nil => simp [findValue?]
  | cons x rest ih =>
    have hx := List.pairwise_cons.1 h
    have ih := ih hx.2
    by_cases hk : x.1 = key
    · have hrest : (key, value) ∉ rest := fun hmem =>
        String.lt_irrefl key (hk ▸ hx.1 (key, value) hmem)
      simp [findValue?, hk, hrest, Prod.ext_iff, eq_comm]
    · have hk' : (x.1 == key) = false := by simpa using hk
      have hne : (key, value) ≠ x := fun he => hk (he ▸ rfl)
      rw [List.mem_cons, or_iff_right hne, ← ih]
      simp [findValue?, hk']

/-- A key above all others goes to the end. -/
theorem insertEntry_eq_append {α : Type} {key : String} {value : α} {l : List (String × α)}
    (h : ∀ e ∈ l, e.1 < key) : insertEntry key value l = l ++ [(key, value)] := by
  induction l with
  | nil => rfl
  | cons x rest ih =>
    have hx : x.1 < key := h x (by simp)
    have hnot : ¬ key < x.1 := fun hk => String.lt_irrefl _ (String.lt_trans hx hk)
    simp [insertEntry, hnot, hx, ih fun e he => h e (by simp [he])]

/-! ### Dictionaries -/

/-- A finite map from texts to values, in ascending order of the keys. -/
structure Dictionary (α : Type) where
  entries : List (String × α)
  ascending : entries.Pairwise fun a b => a.1 < b.1

namespace Dictionary

variable {α β : Type}

@[ext]
theorem ext {d e : Dictionary α} (h : d.entries = e.entries) : d = e := by
  cases d; cases e; cases h; rfl

instance [DecidableEq α] : DecidableEq (Dictionary α) := fun d e =>
  if h : d.entries = e.entries then isTrue (ext h)
  else isFalse fun he => h (he ▸ rfl)

instance [Repr α] : Repr (Dictionary α) := ⟨fun d n => reprPrec d.entries n⟩

/-- No entries. -/
def empty : Dictionary α := ⟨[], .nil⟩

instance : EmptyCollection (Dictionary α) := ⟨empty⟩

instance : Inhabited (Dictionary α) := ⟨empty⟩

/-- The value under a key. -/
def find? (d : Dictionary α) (key : String) : Option α :=
  findValue? key d.entries

/-- Whether there is a value under a key. -/
def contains (d : Dictionary α) (key : String) : Bool :=
  (d.find? key).isSome

/-- Sets the value under a key. -/
def insert (d : Dictionary α) (key : String) (value : α) : Dictionary α :=
  ⟨insertEntry key value d.entries, pairwise_insertEntry key value d.ascending⟩

/-- The keys in ascending order. -/
def keys (d : Dictionary α) : List String :=
  d.entries.map Prod.fst

/-- Entries put in one after the other, so that the last one under a key stays. -/
def insertMany (d : Dictionary α) (l : List (String × α)) : Dictionary α :=
  l.foldl (fun d e => d.insert e.1 e.2) d

/-- The dictionary of some entries; the last one under a key counts. -/
def ofList (l : List (String × α)) : Dictionary α :=
  empty.insertMany l

/-- A look-up after an insertion. -/
theorem find?_insert (d : Dictionary α) (key other : String) (value : α) :
    (d.insert key value).find? other = if key = other then some value else d.find? other :=
  findValue?_insertEntry key other value d.ascending

@[simp]
theorem find?_insert_self (d : Dictionary α) (key : String) (value : α) :
    (d.insert key value).find? key = some value := by
  simp [find?_insert]

/-- A look-up finds just the entries. -/
theorem find?_eq_some_iff {d : Dictionary α} {key : String} {value : α} :
    d.find? key = some value ↔ (key, value) ∈ d.entries :=
  findValue?_eq_some_iff d.ascending

@[simp]
theorem find?_empty (key : String) : (empty : Dictionary α).find? key = none := rfl

/-- An entry under a key above all others goes to the end. -/
theorem entries_insert_of_lt {d : Dictionary α} {key : String} {value : α}
    (h : ∀ e ∈ d.entries, e.1 < key) :
    (d.insert key value).entries = d.entries ++ [(key, value)] :=
  insertEntry_eq_append h

/-- Inserting entries in ascending order above all others appends them. -/
theorem entries_insertMany {d : Dictionary α} {l : List (String × α)}
    (hl : l.Pairwise fun a b => a.1 < b.1) (h : ∀ e ∈ d.entries, ∀ f ∈ l, e.1 < f.1) :
    (d.insertMany l).entries = d.entries ++ l := by
  induction l generalizing d with
  | nil => simp [insertMany]
  | cons x rest ih =>
    have hx := List.pairwise_cons.1 hl
    have hins : (d.insert x.1 x.2).entries = d.entries ++ [x] :=
      entries_insert_of_lt fun e he => h e he x (by simp)
    have := ih (d := d.insert x.1 x.2) hx.2 (by
      intro e he f hf
      rw [hins] at he
      rcases List.mem_append.1 he with he | he
      · exact h e he f (by simp [hf])
      · rw [List.mem_singleton.1 he]
        exact hx.1 f hf)
    rw [insertMany, List.foldl_cons]
    rw [insertMany] at this
    rw [this, hins]
    simp

/-- A dictionary is rebuilt from its entries. -/
theorem ofList_entries (d : Dictionary α) : ofList d.entries = d := by
  apply ext
  rw [ofList, entries_insertMany d.ascending (by simp [empty])]
  simp [empty]

end Dictionary

end Colloquy
