/-!
# Disks

A disk maps locations to entries: regular files, symbolic links and directories.  A location is the
list of names on the way from the top to an entry, none of which is a link; the top itself is a
directory.  Every entry lies in a directory (`Disk.WellFormed`).

What an update does is said by one lemma for each of `put` and `remove`: which entry is found where
afterwards.
-/

namespace Colloquy.Files

/-- The names on the way from the top to an entry. -/
abbrev Location := List String

/-- What can be at a location. -/
inductive Entry where
  | file (content : ByteArray)
  | link (target : String)
  | directory

/-- Two entries are compared by their contents or their targets. -/
instance : DecidableEq Entry
  | .file a, .file b =>
    match ByteArray.instDecidableEq a b with
    | isTrue h => isTrue (by rw [h])
    | isFalse h => isFalse fun e => h (Entry.file.inj e)
  | .link a, .link b =>
    if h : a = b then isTrue (by rw [h]) else isFalse fun e => h (Entry.link.inj e)
  | .directory, .directory => isTrue rfl
  | .file _, .link _ => isFalse nofun
  | .file _, .directory => isFalse nofun
  | .link _, .file _ => isFalse nofun
  | .link _, .directory => isFalse nofun
  | .directory, .file _ => isFalse nofun
  | .directory, .link _ => isFalse nofun

/-- Whether an entry is a regular file. -/
def Entry.isFile : Entry → Bool
  | file _ => true
  | _ => false

/-- All entries of a file system, each at its location. -/
structure Disk where
  entries : List (Location × Entry)
deriving DecidableEq

namespace Disk

/-- Nothing but the top. -/
def empty : Disk := ⟨[]⟩

instance : Inhabited Disk := ⟨empty⟩

/-- The entry at a location. -/
def find? (d : Disk) (l : Location) : Option Entry :=
  if l = [] then some .directory else (d.entries.find? fun e => e.1 == l).map Prod.snd

/-- The entries after one of them is set. -/
def putEntry (l : Location) (e : Entry) : List (Location × Entry) → List (Location × Entry)
  | [] => [(l, e)]
  | x :: rest => if x.1 = l then (l, e) :: rest else x :: putEntry l e rest

/-- Sets the entry at a location other than the top. -/
def put (d : Disk) (l : Location) (e : Entry) : Disk :=
  if l = [] then d else ⟨putEntry l e d.entries⟩

/-- Removes the entry at a location and everything below it. -/
def remove (d : Disk) (l : Location) : Disk :=
  ⟨d.entries.filter fun e => !l.isPrefixOf e.1⟩

/-- Every entry lies in a directory, no location has two entries, and the top has none. -/
structure WellFormed (d : Disk) : Prop where
  parent : ∀ l, l ≠ [] → (d.find? l).isSome → d.find? l.dropLast = some .directory
  distinct : (d.entries.map Prod.fst).Nodup
  top : [] ∉ d.entries.map Prod.fst

theorem find?_putEntry (l m : Location) (e : Entry) (es : List (Location × Entry)) :
    ((putEntry l e es).find? fun x => x.1 == m).map Prod.snd =
      if l = m then some e else (es.find? fun x => x.1 == m).map Prod.snd := by
  induction es with
  | nil => by_cases h : l = m <;> simp [putEntry, h]
  | cons x rest ih =>
    rw [putEntry]
    split
    · next hx =>
      by_cases h : l = m
      · simp [h]
      · have hxm : (x.1 == m) = false := by simpa [hx] using h
        simp [h, hxm]
    · next hx =>
      by_cases hxm : x.1 = m
      · have h : l ≠ m := fun h => hx (hxm.trans h.symm)
        simp [hxm, h]
      · have hxm' : (x.1 == m) = false := by simpa using hxm
        simp [hxm', ih]

/-- Setting an entry changes that entry alone. -/
theorem find?_put {d : Disk} {l m : Location} {e : Entry} (hl : l ≠ []) :
    (d.put l e).find? m = if l = m then some e else d.find? m := by
  rw [put, if_neg hl]
  by_cases hm : m = []
  · subst hm
    simp [find?, hl]
  · simp only [find?, if_neg hm, find?_putEntry]

/-- Removing an entry takes away what is below it and nothing else. -/
theorem find?_remove {d : Disk} {l m : Location} (hm : m ≠ []) :
    (d.remove l).find? m = if l.isPrefixOf m then none else d.find? m := by
  simp only [find?, if_neg hm, remove]
  cases hp : l.isPrefixOf m with
  | true =>
    rw [if_pos rfl, Option.map_eq_none_iff, List.find?_eq_none]
    intro x hx
    rw [List.mem_filter] at hx
    intro hxm
    rw [eq_of_beq hxm] at hx
    simp [hp] at hx
  | false =>
    rw [if_neg (by simp)]
    congr 1
    rw [List.find?_filter]
    congr 1
    funext x
    cases hxm : x.1 == m with
    | true => simp [eq_of_beq hxm, hp]
    | false => simp

end Disk

end Colloquy.Files
