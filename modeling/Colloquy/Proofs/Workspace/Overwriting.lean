import Colloquy.Proofs.Workspace.RoundTrip

/-!
# Writing over a file

If a name leads to a file, a write under this name goes well.  The directories above the file are
there, so none is made, and all that happens is that the file gets its new content.

* `ensureUpwards_of_directory`: nothing is made where a directory is there;
* `Root.write_of_file`: what a write over a file does to the disk;
* `Root.list_put`: the listing does not change.
-/

namespace Colloquy.Files.Disk

variable {d : Disk} {l m : Location} {p : List String} {content : ByteArray}

/-! ### Directories that are there -/

/-- A path up to its last name does not end in a slash. -/
theorem withoutSlash_upTo (p : List String) :
    withoutSlash (p.reverse.dropWhile isHere).reverse = (p.reverse.dropWhile isHere).reverse := by
  rw [withoutSlash, List.reverse_reverse]
  cases hdrop : p.reverse.dropWhile isHere with
  | nil => rfl
  | cons part rest =>
    have hpart : isHere part = false := by
      have hhead := List.head?_dropWhile_not isHere p.reverse
      rwa [hdrop] at hhead
    rw [isHere, Bool.or_eq_false_iff] at hpart
    rw [List.dropWhile_cons_of_neg (by rw [hpart.1]; decide)]

theorem makeDirectory_of_hasEntry (haccepted : refusal? p = none) (hslash : withoutSlash p = p)
    (h : d.hasEntry p = true) : d.makeDirectory p = (d, .error .fileExists) := by
  rw [hasEntry] at h
  split at h
  · next l hwalk => rw [makeDirectory, haccepted, hslash, hwalk]
  · cases h

/-- Nothing is made where a directory is there. -/
theorem ensureUpwards_of_directory (haccepted : refusal? p = none) (hm : d.Reaches p m)
    (hdir : d.find? m = some .directory) : d.ensureUpwards (upwards p.reverse) = (d, .ok ()) := by
  obtain ⟨above, habove⟩ := upwards_eq_cons p.reverse
  have htop := upTo_of_reaches hm
  have hpath : refusal? (p.reverse.dropWhile isHere).reverse = none := by
    rw [← upTo_append_after p] at haccepted
    exact refusal?_of_append haccepted
  have hexists := makeDirectory_of_hasEntry hpath (withoutSlash_upTo p) (htop.hasEntry hpath)
  rw [habove, ensureUpwards_of_ne (by decide) hexists, if_pos]
  exact isDirectory_iff.mpr ⟨m, locate_eq_ok_iff.mpr ⟨hpath, htop⟩, hdir⟩

/-- A file that a path leads to is written over. -/
theorem writeFile_of_file {old : ByteArray} (hl : d.locate p = .ok l)
    (hfile : d.find? l = some (.file old)) :
    d.writeFile p .name content = (d.put l (.file content), .ok ()) := by
  have hslash : Ending.name.isSlash = false := rfl
  have hwhole : p ++ Ending.name.parts = p := List.append_nil p
  rw [writeFile, hslash, if_neg Bool.false_ne_true, hwhole, walk_of_locate hl]
  dsimp only
  rw [hfile]

end Colloquy.Files.Disk

namespace Colloquy.Workspace

open Files Files.Disk

variable {r : Root} {d : Disk} {n : Name} {c l : Location} {name content : String}
  {old new : ByteArray}

/-! ### Files that are written over -/

/-- **A write over a file** sets its content and does nothing else. -/
theorem Root.write_of_file (hres : r.resolve d name = .ok n) (hending : n.ending = .name)
    (hl : d.locate (r.wholePathOf n) = .ok l) (hfile : d.find? l = some (.file old)) :
    r.write d name content = (d.put l (.file content.toUTF8), .ok ()) := by
  have hproper := Name.proper_of_read? (Root.resolve_eq_ok_iff.mp hres).1
  obtain ⟨init, last, hparts, hlast⟩ := hproper.last fun hnil =>
    hproper.nonempty (by rw [hnil, hending]; rfl)
  have hpath : r.wholePathOf n = r.pathOf n := by
    rw [Root.wholePathOf, hending]
    exact List.append_nil _
  have hsnoc : r.wholePathOf n = r.front ++ init ++ [last] := by
    rw [hpath, Root.pathOf, hparts, List.append_assoc]
  -- The directory that the file lies in is there.
  have hensure : d.ensureUpwards (Files.ancestors (r.wholePathOf n)).tail = (d, .ok ()) := by
    obtain ⟨haccepted, hreach⟩ := locate_eq_ok_iff.mp hl
    rw [hsnoc] at haccepted hreach
    obtain ⟨m, hm, -, hdir⟩ := hreach.split
    rw [hsnoc, tail_ancestors hlast.1 rfl]
    exact ensureUpwards_of_directory (refusal?_of_append haccepted) hm
      (hdir (List.cons_ne_nil _ _))
  rw [hpath] at hl
  rw [Root.write, hres]
  dsimp only
  rw [hensure]
  dsimp only
  rw [hending, writeFile_of_file hl hfile]

/-! ### Listings -/

/-- Which files a listing shows does not depend on what is in them. -/
theorem shown_put (hfile : d.find? l = some (.file old)) (c : Location) :
    shown (d.put l (.file new)) c = shown d c := by
  have hne := ne_nil_of_file hfile
  rw [find?, if_neg hne] at hfile
  rw [put, if_neg hne, shown, shown]
  dsimp only
  generalize d.entries = es at hfile
  induction es with
  | nil => cases hfile
  | cons x es ih =>
    rw [putEntry]
    split_ifs with hx
    · rw [List.find?_cons_of_pos (by rw [hx]; exact beq_self_eq_true l)] at hfile
      have hentry : x.2 = .file old := Option.some.inj hfile
      rw [List.filterMap_cons, List.filterMap_cons, hentry, hx]
      rfl
    · rw [List.find?_cons_of_neg (by simpa using hx)] at hfile
      rw [List.filterMap_cons, List.filterMap_cons, ih hfile]

/-- **The listing** does not change if a file is written over, where all directories can be
opened. -/
theorem Root.list_put (hd : d.WellFormed) (hr : r.unnamed = false) (hc : d.locate r.path = .ok c)
    (hdir : d.find? c = some .directory) (hopen : r.Opens d c)
    (hfile : d.find? l = some (.file old)) : r.list (d.put l (.file new)) = r.list d := by
  have hne := ne_nil_of_file hfile
  have hext := extends_put hne (.inr ⟨old, hfile⟩) new
  have hparent := hd.parent l hne (by rw [hfile]; rfl)
  have hd' : (d.put l (.file new)).WellFormed :=
    hd.put hne hparent (by rw [hfile]; simp) (.file new)
  have hopen' : r.Opens (d.put l (.file new)) c := by
    intro way hway hvisible
    rw [find?_put hne] at hway
    split_ifs at hway with hthere
    · cases hway
    · exact hopen way hway hvisible
  rw [Root.list_eq hd' hr (hext.locate hc) (hext.directory hdir) hopen',
    Root.list_eq hd hr hc hdir hopen, shown_put hfile]

end Colloquy.Workspace
