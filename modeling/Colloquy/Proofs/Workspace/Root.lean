import Colloquy.Proofs.Files.Change
import Colloquy.Workspace.Basic
import Mathlib.Data.List.TakeWhile

/-!
# The root of a workspace

A name is resolved before anything is done with its path: of the path and those above it, up to the
root, the first one that exists is looked at.  What that look is good for is said by two lemmas, one
for each way in which the path can go on.

* `Root.confines_entry`: if there is an entry at the path, it is below the root;
* `Root.confines_vacant`: if a name of the path is missing in a directory, that directory is below
  the root, unless the root itself is missing.

Both are about names that are taken (`Root.Admits`) by roots that were given a name themselves: a
root that was not confines nothing (`Root.confines_unnamed`).
-/

namespace Colloquy.Workspace

open Files Files.Disk

variable {r : Root} {d d' : Disk} {n : Name} {base l m : Location} {b s z : List String}
  {part x : String}

/-! ### Names -/

/-- What can be said of a name that has been read. -/
structure Name.Proper (n : Name) : Prop where
  up : ".." ∉ n.parts ++ n.ending.parts
  nonempty : n.parts ++ n.ending.parts ≠ []
  ending : namesOf n.ending.parts = []
  /-- The parts end in a name, if there are any. -/
  last : n.parts ≠ [] → ∃ init name, n.parts = init ++ [name] ∧ IsName name

theorem splitPath_ne_nil (s : String) : splitPath s ≠ [] := by
  have hsplit : ∀ cs, splitPath.split cs ≠ [] := by
    intro cs
    cases cs with
    | nil => exact List.cons_ne_nil _ _
    | cons c cs =>
      rw [splitPath.split]
      split
      · exact List.cons_ne_nil _ _
      · split <;> exact List.cons_ne_nil _ _
  exact fun h => hsplit _ (List.map_eq_nil_iff.mp h)

theorem Name.proper_of_parts {parts : List String} (hne : parts ≠ []) (hup : ".." ∉ parts) :
    Name.Proper ⟨(parts.reverse.dropWhile isHere).reverse,
      ⟨(parts.reverse.takeWhile isHere).reverse⟩⟩ := by
  refine ⟨?_, ?_, namesOf_after parts, fun hne => ?_⟩
  · rwa [upTo_append_after]
  · rwa [upTo_append_after]
  · cases hdrop : parts.reverse.dropWhile isHere with
    | nil => exact absurd (by rw [hdrop]; rfl) hne
    | cons name above =>
      refine ⟨above.reverse, name, List.reverse_cons, ?_, ?_⟩
      · have hhead := List.head_dropWhile_not isHere
          (l := parts.reverse) (by rw [hdrop]; exact List.cons_ne_nil _ _)
        simpa only [hdrop, List.head_cons] using hhead
      · rintro rfl
        refine hup (List.mem_reverse.mp ((List.dropWhile_sublist isHere).subset ?_))
        rw [hdrop]
        exact List.mem_cons_self ..

theorem Name.proper_of_read? {s : String} (h : Name.read? s = some n) : n.Proper := by
  rw [Name.read?] at h
  split at h
  · cases h
  next hnot =>
  simp only [Bool.or_eq_true, not_or, List.contains_iff_mem] at hnot
  exact Option.some.inj h ▸ Name.proper_of_parts (splitPath_ne_nil _) hnot.2

/-! ### Where the root is -/

theorem Root.path_eq (r : Root) : r.path = r.front ∨ r.path = r.front ++ [""] := by
  rw [Root.front]
  split_ifs with h
  · right
    obtain ⟨init, hinit⟩ := List.getLast?_eq_some_iff.mp h
    rw [hinit, List.dropLast_concat]
  · exact .inl rfl

theorem Root.front_along (r : Root) : r.front <+: r.path := by
  rcases r.path_eq with h | h
  · rw [h]
  · rw [h]
    exact List.prefix_append ..

theorem Root.namesOf_front (r : Root) : namesOf r.front = namesOf r.path := by
  rcases r.path_eq with h | h
  · rw [h]
  · rw [h, namesOf_append]
    exact (List.append_nil _).symm

/-- The front of a root leads where the root is. -/
theorem Root.reaches_front (hl : d.locate r.path = .ok l) : d.Reaches r.front l := by
  obtain ⟨-, hreach⟩ := locate_eq_ok_iff.mp hl
  rcases r.path_eq with hfront | hfront
  · rwa [hfront] at hreach
  · rw [hfront] at hreach
    obtain ⟨m, hm, ⟨k, hway⟩, -⟩ := hreach.split
    rwa [hway.eq_of_namesOf rfl]

/-- The root is where its front leads, if a path goes on from there. -/
theorem Root.locate_of_front (hm : d.Reaches r.front m) (hdir : d.find? m = some .directory)
    (hpath : refusal? (r.front ++ part :: s) = none) : d.locate r.path = .ok m := by
  rw [locate_eq_ok_iff]
  rcases r.path_eq with h | h
  · rw [h]
    exact ⟨refusal?_of_append hpath, hm⟩
  · rw [h]
    exact ⟨refusal?_slash hpath, hm.append (.here hdir rfl (.stop m))⟩

/-- The root is there if a path leads somewhere that goes on from it. -/
theorem Root.exists_locate (hl : d.Reaches (r.front ++ part :: s) l)
    (hpath : refusal? (r.front ++ part :: s) = none) : ∃ c, d.locate r.path = .ok c := by
  obtain ⟨c, hc, -, hdir⟩ := hl.split
  exact ⟨c, Root.locate_of_front hc (hdir (List.cons_ne_nil _ _)) hpath⟩

/-- If a path breaks off before it has come to the root, the root is missing. -/
theorem Root.not_locate (hb : BreaksOff d b x base) (hfront : r.front = b ++ x :: s) :
    ∀ c, d.locate r.path ≠ .ok c := by
  obtain ⟨t, ht⟩ := r.front_along
  rw [hfront, List.append_assoc, List.cons_append] at ht
  exact fun c => ht ▸ hb.not_locate

theorem Root.real_of_locate (hr : r.unnamed = false) (h : d.locate r.path = .ok l) :
    r.real d = l := by
  rw [Root.real, hr, h]
  rfl

theorem Root.unnamed_open (d : Disk) (path : List String) :
    (Root.open d path).unnamed = false := by
  rw [Root.open]
  split <;> rfl

theorem up_notMem_of_locate {path : List String} {d : Disk} {l : Location}
    (h : d.locate path = .ok l) : ".." ∉ l := by
  obtain ⟨-, k, -, hway⟩ := locate_eq_ok_iff.mp h
  exact fun hmem => (hway.isName (by simp) _ hmem).2 rfl

/-- An opened root goes up nowhere if its path does not. -/
theorem Root.open_up {path : List String} (d : Disk) (hup : ".." ∉ path) :
    ".." ∉ (Root.open d path).path := by
  rw [Root.open]
  split
  · next l h => exact up_notMem_of_locate h
  · exact hup

/-- An opened root goes up nowhere if its path leads somewhere. -/
theorem Root.open_up_of_locate {path : List String} {d : Disk} {l : Location}
    (h : d.locate path = .ok l) : ".." ∉ (Root.open d path).path := by
  rw [Root.open, h]
  exact up_notMem_of_locate h

/-! ### What resolving is good for -/

/-- A name is taken on a disk, for a root that was given a name itself. -/
structure Root.Admits (r : Root) (d : Disk) (n : Name) : Prop where
  named : r.unnamed = false
  proper : n.Proper
  confines : r.confines d n = true

theorem Root.admits_of_resolve (hr : r.unnamed = false) {name : String}
    (h : r.resolve d name = .ok n) : r.Admits d n := by
  rw [Root.resolve] at h
  split at h
  · cases h
  · next n' hread =>
    split_ifs at h with hconfines
    cases h
    exact ⟨hr, Name.proper_of_read? hread, hconfines⟩

theorem Root.startsPath_iff (hr : r.unnamed = false) {p : List String} :
    r.startsPath p = true ↔ namesOf r.path <+: namesOf p := by
  simp [Root.startsPath, hr]

theorem Root.wholePathOf_eq (r : Root) (n : Name) :
    r.wholePathOf n = r.front ++ (n.parts ++ n.ending.parts) := by
  rw [Root.wholePathOf, Root.pathOf, List.append_assoc]

/-- The first one of the paths above a name that there is an entry at leads to below the root. -/
theorem Root.exists_of_find? (h : r.confines d n = true) {p : List String}
    (hp : (r.ancestors n).find? d.hasEntry = some p) :
    ∃ l, d.locate p = .ok l ∧ r.real d <+: l := by
  rw [Root.confines, hp] at h
  dsimp only at h
  split at h
  · next l hl => exact ⟨l, hl, List.isPrefixOf_iff_prefix.mp h⟩
  · cases h

/-- If there is an entry at the path of a name, it leads to below the root. -/
theorem Root.confines_entry (h : r.Admits d n) (he : d.hasEntry (r.wholePathOf n) = true) :
    ∃ l, d.locate (r.wholePathOf n) = .ok l ∧ r.real d <+: l := by
  have hbelow : r.startsPath (r.wholePathOf n) = true := by
    rw [Root.startsPath_iff h.named, r.wholePathOf_eq, namesOf_append, r.namesOf_front]
    exact List.prefix_append ..
  refine Root.exists_of_find? h.confines ?_
  rw [Root.ancestors, Files.ancestors, List.takeWhile_cons, if_pos hbelow,
    List.find?_cons_of_pos he]

/-- Let the path of a name go on, past the root, with a name at which there is no entry any more.  The
first one of the paths above it that there is an entry at is what it goes on from, up to the last
name of that. -/
theorem Root.find?_ancestors (hr : r.unnamed = false) (hwhole : r.wholePathOf n = b ++ x :: s)
    (hroot : namesOf r.path <+: namesOf b) (hx : isHere x = false)
    (hnone : ∀ z, d.hasEntry (b ++ x :: z) ≠ true)
    (hentry : d.hasEntry (b.reverse.dropWhile isHere).reverse = true) :
    (r.ancestors n).find? d.hasEntry = some (b.reverse.dropWhile isHere).reverse := by
  -- The paths below, and then what it goes on from, up to the root.
  obtain ⟨lower, above, hancestors, hlower⟩ := ancestors_append (b := b) (s := s) hx
  rw [Root.ancestors, hwhole, hancestors, List.takeWhile_append_of_pos, List.find?_append,
    List.find?_eq_none.mpr, Option.none_or, List.takeWhile_cons, if_pos,
    List.find?_cons_of_pos hentry]
  · rwa [Root.startsPath_iff hr, namesOf_upTo]
  · intro p hp hthere
    obtain ⟨z, rfl⟩ := hlower p hp
    exact hnone z hthere
  · intro p hp
    obtain ⟨z, rfl⟩ := hlower p hp
    rw [Root.startsPath_iff hr, namesOf_append]
    exact hroot.trans (List.prefix_append ..)

/-- If the path of a name goes on from a directory with a name that is missing there, then that
directory is below the root, or else its path is above that of the root. -/
theorem Root.confines_vacant (h : r.Admits d n) (hwhole : r.wholePathOf n = b ++ x :: s)
    (hroot : namesOf r.path <+: namesOf b) (hb : BreaksOff d b x base) (hpath : refusal? b = none) :
    r.real d <+: base := by
  have hsplit := upTo_append_after b
  set top := (b.reverse.dropWhile isHere).reverse with htop
  have hreach : d.Reaches top base := by
    have hreach := hb.reaches
    rw [← hsplit] at hreach
    obtain ⟨m, hm, ⟨k, hway⟩, -⟩ := hreach.split
    rwa [hway.eq_of_namesOf (namesOf_after b)]
  have haccepted : refusal? top = none := by
    rw [← hsplit] at hpath
    exact refusal?_of_append hpath
  have hfirst : (r.ancestors n).find? d.hasEntry = some top :=
    Root.find?_ancestors h.named hwhole hroot hb.name.1 (fun _ => hb.not_hasEntry)
      (hreach.hasEntry haccepted)
  obtain ⟨l, hl, hbelow⟩ := Root.exists_of_find? h.confines hfirst
  obtain ⟨-, hl⟩ := locate_eq_ok_iff.mp hl
  rwa [hreach.unique hl]

/-- A root without a name confines nothing: whatever is there is taken, wherever it is. -/
theorem Root.confines_unnamed (hr : r.unnamed = true) (hl : d.locate (r.wholePathOf n) = .ok l) :
    r.confines d n = true := by
  obtain ⟨hpath, hreach⟩ := locate_eq_ok_iff.mp hl
  rw [Root.confines, Root.ancestors, Files.ancestors, List.takeWhile_cons]
  by_cases hstart : r.startsPath (r.wholePathOf n) = true
  · rw [if_pos hstart, List.find?_cons_of_pos (hreach.hasEntry hpath)]
    dsimp only
    rw [hl, Root.real, hr]
    rfl
  · rw [if_neg hstart]
    rfl

end Colloquy.Workspace
