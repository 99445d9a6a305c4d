import Colloquy.Proofs.Workspace.NewDirectories
import Colloquy.Proofs.Workspace.RoundTrip

/-!
# What is in a workspace

A workspace that has been empty in the beginning holds what has been written into it.  There are no
links in it then, so every file is where the names in its name lead down from the root.

* `Filled`: which files there are below a location without links;
* `Root.stores_write`: what one write makes of a workspace;
* `Root.stores_writeAll`: what several writes make of it;
* `Root.accepted_of_new`: without links a new directory has a path that is not refused;
* `Root.opensAll_writeAll`: so listing goes well after several writes (`Root.exists_list_of_stores`);
* `Root.mem_list_of_stores`: what is listed then.
-/

namespace Colloquy.Workspace

open Files Files.Disk

variable {r : Root} {d d' : Disk} {n : Name} {c l way : Location} {ways : List Location}
  {name text : String} {names p t : List String} {bytes : ByteArray}

/-! ### Files below a location -/

/-- Below a location there are no links, and there are files at just these ways from it. -/
structure Filled (d : Disk) (c : Location) (ways : List Location) : Prop where
  noLink : ∀ way target, d.find? (c ++ way) ≠ some (.link target)
  file_iff : ∀ way, (∃ bytes, d.find? (c ++ way) = some (.file bytes)) ↔ way ∈ ways

/-- Where there is nothing, there is nothing below. -/
theorem filled_of_none (hd : d.WellFormed) (hc : d.find? c = none) : Filled d c [] := by
  refine ⟨fun way target => ?_, fun way => ?_⟩
  · rw [hd.find?_append hc]
    simp
  · rw [hd.find?_append hc]
    simp

/-- In an empty directory there is nothing. -/
theorem filled_of_empty (hdir : d.find? c = some .directory)
    (hempty : ∀ way, way ≠ [] → d.find? (c ++ way) = none) : Filled d c [] := by
  have hnothing : ∀ way, d.find? (c ++ way) = some .directory ∨ d.find? (c ++ way) = none := by
    intro way
    by_cases hway : way = []
    · rw [hway, List.append_nil]
      exact .inl hdir
    · exact .inr (hempty way hway)
  refine ⟨fun way target => ?_, fun way => ?_⟩ <;> rcases hnothing way with h | h <;> simp [h]

namespace Filled

/-- Directories are added. -/
theorem adds (h : Filled d c ways) (hadds : AddsDirectories d d') : Filled d' c ways := by
  refine ⟨fun way target hlink => ?_, fun way => ?_⟩
  · rcases hadds (c ++ way) with hsame | ⟨-, hdir⟩
    · exact h.noLink way target (hsame ▸ hlink)
    · rw [hdir] at hlink
      cases hlink
  · rw [← h.file_iff way]
    exact exists_congr fun _ => hadds.file_iff

/-- One more file is written. -/
theorem write (h : Filled d c ways) (hw : Written d d' (c ++ way) bytes) :
    Filled d' c (ways ++ [way]) := by
  refine ⟨fun way' target hlink => h.noLink way' target (hw.link hlink), fun way' => ?_⟩
  rw [List.mem_append, List.mem_singleton, ← h.file_iff way']
  by_cases hway : way' = way
  · subst hway
    simp [hw.file]
  · have hne : c ++ way' ≠ c ++ way := fun heq => hway (List.append_cancel_left heq)
    simp [hway, hw.file_iff hne]

end Filled

/-- Where there are no links below the root, a name leads down along the names in it. -/
theorem Root.eq_of_leads (hread : Name.read? name = some n) (hending : n.ending.parts = [])
    (hl : d.locate (r.wholePathOf n) = .ok l) (hc : d.locate r.path = .ok c)
    (hlinks : ∀ way target, d.find? (c ++ way) ≠ some (.link target)) :
    l = c ++ namesIn name := by
  have hproper := Name.proper_of_read? hread
  obtain ⟨haccepted, hreach⟩ := locate_eq_ok_iff.mp hl
  obtain ⟨part, s, hparts⟩ := List.exists_cons_of_ne_nil hproper.nonempty
  have hup := hproper.up
  rw [r.wholePathOf_eq, hparts] at haccepted hreach
  rw [hparts] at hup
  obtain ⟨m, hm, ⟨k, hway⟩, hdir⟩ := hreach.split
  have hroot := Root.locate_of_front hm (hdir (List.cons_ne_nil _ _)) haccepted
  obtain rfl : m = c := Except.ok.inj (hroot.symm.trans hc)
  rw [hway.eq_append_of_noLink hup fun z target _ _ => hlinks z target, ← hparts, hending,
    List.append_nil, Name.namesOf_parts hread]

/-! ### What writes make of a workspace -/

/-- A workspace without links that holds files at some ways from the root; as long as the root is
missing there are none. -/
def Root.Stores (r : Root) (d : Disk) (ways : List Location) : Prop :=
  (∃ c, d.locate r.path = .ok c ∧ d.find? c = some .directory ∧ Filled d c ways) ∨
    (∀ c, d.locate r.path ≠ .ok c) ∧ ".." ∉ r.path ∧ ways = []

/-- Whether a write goes well. -/
def Root.writes (r : Root) (d : Disk) (w : Draft) : Bool :=
  (r.write d w.name w.content).2.isOk

/-- Those of some writes, one after the other, that go well. -/
def Root.successes (r : Root) : Disk → List Draft → List Draft
  | _, [] => []
  | d, w :: ws =>
    (if r.writes d w then [w] else []) ++ r.successes (r.write d w.name w.content).1 ws

/-- What a write comes to that has found files at some ways below where the root is now. -/
theorem Root.filled_write (hd : d.WellFormed) (w : Draft)
    (hc : (r.write d w.name w.content).1.locate r.path = .ok c) (h : Filled d c ways) :
    Filled (r.write d w.name w.content).1 c
      (ways ++ if r.writes d w then [namesIn w.name] else []) := by
  obtain ⟨-, hfailed, hwritten⟩ := r.write_frame hd w.name w.content
  rw [Root.writes]
  cases hres : (r.write d w.name w.content).2 with
  | error e =>
    rw [if_neg (by simp [Except.isOk, Except.toBool]), List.append_nil]
    exact h.adds (hfailed e hres)
  | ok =>
    obtain ⟨n, l, hresolve, hending, hl, hw⟩ := hwritten hres
    have hread := (Root.resolve_eq_ok_iff.mp hresolve).1
    have hdown : l = c ++ namesIn w.name :=
      Root.eq_of_leads hread hending hl hc fun way target hlink =>
        h.noLink way target (hw.link hlink)
    rw [hdown] at hw
    exact h.write hw

/-- A root that a write has made is a directory. -/
theorem Root.directory_of_new_root (hd : d.WellFormed) (hnone : d.find? c = none)
    (hc : (r.write d name text).1.locate r.path = .ok c) :
    (r.write d name text).1.find? c = some .directory := by
  obtain ⟨hd', hfailed, hwritten⟩ := r.write_frame hd name text
  cases hres : (r.write d name text).2 with
  | error e =>
    -- The root leads somewhere now, so there is something, and only directories have been added.
    obtain ⟨-, k, -, hway⟩ := locate_eq_ok_iff.mp hc
    have hsome := hway.isSome hd' rfl
    rcases hfailed e hres c with hsame | ⟨-, hdir⟩
    · rw [hsame, hnone] at hsome
      cases hsome
    · exact hdir
  | ok =>
    obtain ⟨n, l, hresolve, -, hl, -⟩ := hwritten hres
    have hproper := Name.proper_of_read? (Root.resolve_eq_ok_iff.mp hresolve).1
    exact Root.directory_of_leads hproper hl hc

/-- A write that goes well makes the root, so without the root it has not gone well. -/
theorem Root.writes_eq_false (hd : d.WellFormed) (hr : r.unnamed = false) (hup : ".." ∉ r.path)
    (w : Draft) (hmissing : ∀ c, (r.write d w.name w.content).1.locate r.path ≠ .ok c) :
    r.writes d w = false := by
  obtain ⟨-, -, hwritten⟩ := r.write_frame hd w.name w.content
  rw [Root.writes]
  cases hres : (r.write d w.name w.content).2 with
  | error e => rfl
  | ok =>
    obtain ⟨n, l, hresolve, hending, hl, hw⟩ := hwritten hres
    have hinside := Root.inside_of_write hd (.inr (.inr hup)) hres hresolve hending hl hw
    obtain ⟨c, hc, -⟩ := hinside.resolve_left (by rw [hr]; exact Bool.false_ne_true)
    exact absurd hc (hmissing c)

/-- A write takes nothing away. -/
theorem Root.extends_write (hd : d.WellFormed) (r : Root) (w : Draft) :
    Extends d (r.write d w.name w.content).1 := by
  obtain ⟨-, hfailed, hwritten⟩ := r.write_frame hd w.name w.content
  cases hres : (r.write d w.name w.content).2 with
  | error e => exact (hfailed e hres).extend
  | ok =>
    obtain ⟨n, l, -, -, -, hw⟩ := hwritten hres
    exact hw.extend

/-- **One write**: if it goes well there is one more file, at the names in its name. -/
theorem Root.stores_write (hd : d.WellFormed) (hr : r.unnamed = false) (h : r.Stores d ways)
    (w : Draft) : r.Stores (r.write d w.name w.content).1
      (ways ++ if r.writes d w then [namesIn w.name] else []) := by
  rcases h with ⟨c, hc, hdir, hfilled⟩ | ⟨hmissing, hup, rfl⟩
  · have hext := Root.extends_write hd r w
    have hc' := hext.locate hc
    exact .inl ⟨c, hc', hext.directory hdir, Root.filled_write hd w hc' hfilled⟩
  · by_cases hthere : ∃ c, (r.write d w.name w.content).1.locate r.path = .ok c
    · -- The root has been made, where there was nothing before.
      obtain ⟨c, hc⟩ := hthere
      have hnone := Root.find?_of_new_root hd hr hup hmissing hc
      have hfilled := Root.filled_write hd w hc (filled_of_none hd hnone)
      exact .inl ⟨c, hc, Root.directory_of_new_root hd hnone hc, hfilled⟩
    · have hmissing' : ∀ c, (r.write d w.name w.content).1.locate r.path ≠ .ok c :=
        fun c hc => hthere ⟨c, hc⟩
      refine .inr ⟨hmissing', hup, ?_⟩
      rw [Root.writes_eq_false hd hr hup w hmissing']
      rfl

/-- **Several writes**: there are the files of those that have gone well. -/
theorem Root.stores_writeAll (hd : d.WellFormed) (hr : r.unnamed = false) (h : r.Stores d ways)
    (ws : List Draft) :
    (r.writeAll d ws).WellFormed ∧
      r.Stores (r.writeAll d ws) (ways ++ (r.successes d ws).map fun w => namesIn w.name) := by
  induction ws generalizing d ways with
  | nil =>
    rw [Root.successes, List.map_nil, List.append_nil]
    exact ⟨hd, h⟩
  | cons w ws ih =>
    have hd' := (r.write_frame hd w.name w.content).1
    have hrest := ih hd' (Root.stores_write hd hr h w)
    have hmap : (r.successes d (w :: ws)).map (fun w => namesIn w.name) =
        (if r.writes d w then [namesIn w.name] else []) ++
          (r.successes (r.write d w.name w.content).1 ws).map fun w => namesIn w.name := by
      rw [Root.successes, List.map_append]
      split_ifs <;> rfl
    rw [hmap, ← List.append_assoc]
    exact hrest

/-- A workspace with nothing in it: an empty directory, or a root that is not there yet. -/
def Root.Vacant (r : Root) (d : Disk) : Prop :=
  (∃ c, d.locate r.path = .ok c ∧ d.find? c = some .directory ∧
    ∀ way, way ≠ [] → d.find? (c ++ way) = none) ∨
    (∀ c, d.locate r.path ≠ .ok c) ∧ ".." ∉ r.path

theorem Root.Vacant.stores (h : r.Vacant d) : r.Stores d [] := by
  rcases h with ⟨c, hc, hdir, hempty⟩ | ⟨hmissing, hup⟩
  · exact .inl ⟨c, hc, hdir, filled_of_empty hdir hempty⟩
  · exact .inr ⟨hmissing, hup, rfl⟩

/-! ### Directories that can be opened -/

/-- All directories below the root, if that is there, have paths that are not refused. -/
def Root.OpensAll (r : Root) (d : Disk) : Prop :=
  ∀ c way, d.locate r.path = .ok c → d.find? (c ++ way) = some .directory →
    refusal? (r.front ++ way) = none

theorem Root.OpensAll.opens (h : r.OpensAll d) (hc : d.locate r.path = .ok c) : r.Opens d c :=
  fun way hdir _ => h c way hc hdir

/-- A root that is there can be opened by its path. -/
theorem Root.accepted_front (hc : d.locate r.path = .ok c) : refusal? r.front = none :=
  refusal?_of_sublist r.front_along.sublist (locate_eq_ok_iff.mp hc).1

/-- In an empty workspace there is nothing to be opened but the root. -/
theorem Root.Vacant.opensAll (h : r.Vacant d) : r.OpensAll d := by
  intro c way hc hdir
  rcases h with ⟨c', hc', -, hempty⟩ | ⟨hmissing, -⟩
  · obtain rfl := Except.ok.inj (hc'.symm.trans hc)
    by_cases hway : way = []
    · rw [hway, List.append_nil]
      exact Root.accepted_front hc
    · rw [hempty way hway] at hdir
      cases hdir
  · exact absurd hc (hmissing c)

/-- There are no links below a root whose files are all known. -/
theorem Root.Stores.noLink (h : r.Stores d ways) (hc : d.locate r.path = .ok c) :
    ∀ z target, d.find? (c ++ z) ≠ some (.link target) := by
  rcases h with ⟨c', hc', -, hfilled⟩ | ⟨hmissing, -⟩
  · rw [Except.ok.inj (hc'.symm.trans hc)] at hfilled
    exact hfilled.noLink
  · exact absurd hc (hmissing c)

/-- A new directory that the path of the root leads through is the root itself: a root that was
there before is not new, and one that has been made ends its path. -/
theorem Root.eq_nil_of_new (hd : d.WellFormed) (h : r.Stores d ways) (hext : Extends d d')
    (hc : d'.locate r.path = .ok c) (hlinks : ∀ z target, d'.find? (c ++ z) ≠ some (.link target))
    (hfront : r.front = p ++ t) (hreach : d'.Reaches p (c ++ way))
    (hdir : d'.find? (c ++ way) = some .directory) (hnew : d.find? (c ++ way) ≠ some .directory) :
    way = [] := by
  rcases h with ⟨c', hc', -⟩ | ⟨-, hup, -⟩
  · obtain rfl := Except.ok.inj ((hext.locate hc').symm.trans hc)
    have hold := Root.reaches_front hc'
    rw [hfront] at hold
    obtain ⟨m, hm, -⟩ := hold.split
    obtain rfl := (hm.extend hext).unique hreach
    obtain ⟨k, -, hway⟩ := hm
    exact absurd (hext.directory_of_isSome hdir (hway.isSome hd rfl)) hnew
  · have hthrough := Root.reaches_front hc
    rw [hfront] at hthrough
    obtain ⟨m, hm, ⟨k, hway⟩, -⟩ := hthrough.split
    obtain rfl := hm.unique hreach
    have hupT : ".." ∉ t := fun hmem =>
      hup (r.front_along.subset (hfront ▸ List.mem_append_right _ hmem))
    have hdown := hway.eq_append_of_noLink hupT fun z target _ _ => by
      rw [List.append_assoc]
      exact hlinks _ target
    -- From there the path leads further down, to the root: so there is nothing between them.
    have hlength := congrArg List.length hdown
    rw [List.length_append, List.length_append] at hlength
    exact List.eq_nil_of_length_eq_zero (by omega)

/-- **A new directory below the root** can be opened, if there are no links: its way down from the
root is what the path that it was made under has in names. -/
theorem Root.accepted_of_new (hd : d.WellFormed) (hr : r.unnamed = false) (h : r.Stores d ways)
    (w : Draft) (hc : (r.write d w.name w.content).1.locate r.path = .ok c)
    (hdir : (r.write d w.name w.content).1.find? (c ++ way) = some .directory)
    (hnew : d.find? (c ++ way) ≠ some .directory) : refusal? (r.front ++ way) = none := by
  obtain ⟨n, p, hres, halong, haccepted, hreach⟩ := Root.exists_path_of_new hd hdir hnew
  have hproper := Name.proper_of_read? (Root.resolve_eq_ok_iff.mp hres).1
  have hlinks := (Root.stores_write hd hr h w).noLink hc
  rw [r.wholePathOf_eq] at halong
  rcases List.prefix_or_prefix_of_prefix (List.prefix_append r.front _) halong with
    ⟨q, rfl⟩ | ⟨t, ht⟩
  · -- The path goes on from that of the root, and without links it is where it leads to.
    obtain ⟨m, hm, ⟨k, hway⟩, -⟩ := hreach.split
    obtain rfl := hm.unique (Root.reaches_front hc)
    have hup : ".." ∉ q := fun hmem =>
      hproper.up (((List.prefix_append_right_inj _).mp halong).subset hmem)
    have hdown := hway.eq_append_of_noLink hup fun z target _ _ => hlinks z target
    rw [List.append_cancel_left hdown]
    exact refusal?_of_sublist (List.filter_sublist.append_left _) haccepted
  · -- The path is one that the path of the root goes through.
    rw [Root.eq_nil_of_new hd h (Root.extends_write hd r w) hc hlinks ht.symm hreach hdir hnew,
      List.append_nil]
    exact Root.accepted_front hc

/-- One write leaves a workspace without links one whose directories can all be opened. -/
theorem Root.opensAll_write (hd : d.WellFormed) (hr : r.unnamed = false) (h : r.Stores d ways)
    (hopen : r.OpensAll d) (w : Draft) : r.OpensAll (r.write d w.name w.content).1 := by
  intro c way hc hdir
  -- A directory was there before and has been opened then, or the write has made it.
  by_cases hold : d.find? (c ++ way) = some .directory
  · rcases h with ⟨c', hc', -, -⟩ | ⟨hmissing, hup, -⟩
    · obtain rfl := Except.ok.inj (((Root.extends_write hd r w).locate hc').symm.trans hc)
      exact hopen c' way hc' hold
    · rw [hd.find?_append (Root.find?_of_new_root hd hr hup hmissing hc)] at hold
      cases hold
  · exact Root.accepted_of_new hd hr h w hc hdir hold

/-- **Several writes** leave it so. -/
theorem Root.opensAll_writeAll (hd : d.WellFormed) (hr : r.unnamed = false) (h : r.Stores d ways)
    (hopen : r.OpensAll d) (ws : List Draft) : r.OpensAll (r.writeAll d ws) := by
  induction ws generalizing d ways with
  | nil => exact hopen
  | cons w ws ih =>
    exact ih (r.write_frame hd w.name w.content).1 (Root.stores_write hd hr h w)
      (Root.opensAll_write hd hr h hopen w)

/-! ### Listings -/

/-- Listing a workspace without links goes well if all directories can be opened. -/
theorem Root.exists_list_of_stores (hd : d.WellFormed) (hr : r.unnamed = false)
    (h : r.Stores d ways) (hopen : r.OpensAll d) : ∃ names, r.list d = .ok names := by
  rcases h with ⟨c, hc, hdir, -⟩ | ⟨hmissing, -, -⟩
  · exact (Root.exists_list_iff hd hr hc hdir).mpr (hopen.opens hc)
  · exact ⟨[], Root.list_of_missing hmissing⟩

/-- The listing of a workspace without links. -/
theorem Root.mem_list_of_stores (hd : d.WellFormed) (hr : r.unnamed = false)
    (h : r.Stores d ways) (hlist : r.list d = .ok names) : text ∈ names ↔
      ∃ way ∈ ways, text = join way ∧ ∀ name ∈ way, isHiddenName name = false := by
  rcases h with ⟨c, hc, hdir, hfilled⟩ | ⟨hmissing, -, rfl⟩
  · rw [Root.mem_list_iff hd hr hc hdir hlist]
    constructor
    · rintro ⟨way, htext, hfile, hvisible⟩
      exact ⟨way, (hfilled.file_iff way).mp hfile, htext, hvisible⟩
    · rintro ⟨way, hway, htext, hvisible⟩
      exact ⟨way, htext, (hfilled.file_iff way).mpr hway, hvisible⟩
  · rw [Root.list_of_missing hmissing] at hlist
    rw [← Except.ok.inj hlist]
    simp

theorem Root.list_ascending_of_stores (hd : d.WellFormed) (hr : r.unnamed = false)
    (h : r.Stores d ways) (hplain : ∀ way ∈ ways, Plain way) (hlist : r.list d = .ok names) :
    names.Pairwise (· < ·) := by
  rcases h with ⟨c, hc, hdir, hfilled⟩ | ⟨hmissing, -, -⟩
  · refine Root.list_ascending hd hr hc hdir hlist fun way bytes hfile => ?_
    exact hplain way ((hfilled.file_iff way).mp ⟨bytes, hfile⟩)
  · rw [Root.list_of_missing hmissing] at hlist
    rw [← Except.ok.inj hlist]
    exact List.Pairwise.nil

end Colloquy.Workspace
