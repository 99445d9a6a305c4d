import Colloquy.Proofs.Workspace.Root
import Colloquy.Proofs.Workspace.Visit

/-!
# Workspaces are confined

Locations are free of links: where an entry lies is where it really is.  Whatever the disk is like
and however a name is spelled, writing changes entries at locations below the root only, but for
directories that are made on the way to a root that is missing; reading gives the content of a file
below the root; and listing names files that are reached from the root without a link.

* `Root.inside_or_above`: what is new on the path of a name is below the root or above it;
* `Root.wrote_of_walk`: what is written when the directories on the path of a name are there;
* `Root.write_course`: what a write does, whether it goes well or not;
* `workspace_confined`: all of this for a root that was opened at some path.
-/

namespace Colloquy.Workspace

open Files Files.Disk

variable {r : Root} {d d' : Disk} {n : Name} {base l m : Location} {b s z : List String}
  {part x name content : String}

/-- A location is below the root. -/
def Root.Inside (r : Root) (d : Disk) (l : Location) : Prop :=
  ∃ c, d.locate r.path = .ok c ∧ c <+: l

/-- A location is that of the root or of a directory on the way to it. -/
def Root.Above (r : Root) (d : Disk) (l : Location) : Prop :=
  ∃ p, p <+: r.path ∧ d.locate p = .ok l

theorem Root.Inside.extend (h : r.Inside d l) (hext : Extends d d') : r.Inside d' l := by
  obtain ⟨c, hc, hl⟩ := h
  exact ⟨c, hext.locate hc, hl⟩

theorem Root.Above.extend (h : r.Above d l) (hext : Extends d d') : r.Above d' l := by
  obtain ⟨p, hp, hl⟩ := h
  exact ⟨p, hp, hext.locate hl⟩

/-! ### New entries -/

/-- Where a path breaks off that has come past the root, it is below the root. -/
theorem Root.inside_of_past {a : List String} (h : r.Admits d n)
    (hwhole : r.wholePathOf n = r.front ++ a ++ x :: s) (hb : BreaksOff d (r.front ++ a) x base)
    (hpath : refusal? (r.front ++ a ++ x :: z) = none) : r.Inside d base := by
  obtain ⟨c, hc, ⟨k, hca⟩, hdir⟩ := hb.reaches.split
  have hcdir : d.find? c = some .directory := by
    by_cases ha : a = []
    · subst ha
      exact hca.eq_of_namesOf rfl ▸ hb.directory
    · exact hdir ha
  have hroot : d.locate r.path = .ok c := by
    have hpath' := hpath
    obtain ⟨y, a', ha⟩ : ∃ y a', a ++ x :: z = y :: a' := List.exists_cons_of_ne_nil (by simp)
    rw [List.append_assoc, ha] at hpath'
    exact Root.locate_of_front hc hcdir hpath'
  refine ⟨c, hroot, ?_⟩
  rw [← Root.real_of_locate h.named hroot]
  refine Root.confines_vacant h hwhole ?_ hb (refusal?_of_append hpath)
  rw [namesOf_append, r.namesOf_front]
  exact List.prefix_append ..

/-- What a path that comes past the root goes on to without a link is below the root. -/
theorem Root.inside_of_way {p q : List String} (hup : ".." ∉ p ++ q) (hq : q ≠ [])
    (hfront : r.front = b ++ p) (hb : d.Reaches b base) (hway : Way d 0 base (p ++ q) l)
    (hpath : refusal? (b ++ (p ++ q)) = none) : r.Inside d l := by
  obtain ⟨k, k', c, hle, hpc, -, hdir⟩ := hway.split
  obtain rfl : k = 0 := by omega
  obtain ⟨y, q, rfl⟩ := List.exists_cons_of_ne_nil hq
  have hc : d.Reaches r.front c := hfront ▸ hb.append hpc
  rw [← List.append_assoc, ← hfront] at hpath
  refine ⟨c, Root.locate_of_front hc (hdir hq) hpath, ?_⟩
  rw [hway.eq_append hup, namesOf_append, ← List.append_assoc,
    ← hpc.eq_append fun hmem => hup (List.mem_append_left _ hmem)]
  exact List.prefix_append ..

/-- Let the path of a name break off, and let another disk go on from there along the path.  What it
has there is below the root, or else the root is missing and it is above the root. -/
theorem Root.inside_or_above (h : r.Admits d n) (hup : ".." ∉ r.wholePathOf n)
    (hwhole : r.wholePathOf n = b ++ x :: s) (hb : BreaksOff d b x base) (hz : z <+: s)
    (hpath : refusal? (b ++ x :: z) = none) (hext : Extends d d')
    (hway : Way d' 0 base (x :: z) l) :
    r.Inside d' l ∨ (∀ c, d.locate r.path ≠ .ok c) ∧ r.Above d' l ∧ b ++ x :: z <+: r.front := by
  have hxz : x :: z <+: x :: s := List.cons_prefix_cons.mpr ⟨rfl, hz⟩
  have hup : ".." ∉ x :: z := fun hmem =>
    hup (hwhole ▸ List.mem_append_right _ (hxz.subset hmem))
  have hfront : r.front <+: b ++ x :: s := by
    rw [← hwhole, r.wholePathOf_eq]
    exact List.prefix_append ..
  by_cases hroot : r.front <+: b
  · left
    -- The path breaks off below the root.
    obtain ⟨a, rfl⟩ := hroot
    obtain ⟨c, hc, hbase⟩ := (Root.inside_of_past h hwhole hb hpath).extend hext
    exact ⟨c, hc, hbase.trans (hway.eq_append hup ▸ List.prefix_append ..)⟩
  · -- The root is still to come, so it is missing.
    obtain ⟨a, ha⟩ := (List.prefix_or_prefix_of_prefix hfront (List.prefix_append ..)).resolve_left
      hroot
    rw [← ha, List.prefix_append_right_inj] at hfront
    cases a with
    | nil => exact absurd (by rw [← ha, List.append_nil]) hroot
    | cons y a =>
    obtain ⟨rfl, has⟩ := List.cons_prefix_cons.mp hfront
    have hmissing := Root.not_locate hb ha.symm
    have hb' := hb.reaches.extend hext
    by_cases hza : z <+: a
    · right
      have halong : b ++ y :: z <+: r.front := by
        rw [← ha, List.prefix_append_right_inj]
        exact List.cons_prefix_cons.mpr ⟨rfl, hza⟩
      exact ⟨hmissing, ⟨b ++ y :: z, halong.trans r.front_along,
        locate_eq_ok_iff.mpr ⟨hpath, hb'.append hway⟩⟩, halong⟩
    · -- What is there comes after the root, which has been made on the way.
      left
      obtain ⟨w, rfl⟩ := (List.prefix_or_prefix_of_prefix hz has).resolve_left hza
      have hw : w ≠ [] := by
        rintro rfl
        exact hza (by rw [List.append_nil])
      exact Root.inside_of_way (p := y :: a) hup hw ha.symm hb' hway hpath

/-! ### Writing -/

/-- What holds after a write, whatever has come of it. -/
structure Root.Confined (r : Root) (d d' : Disk) : Prop where
  wellFormed : d'.WellFormed
  grows : Extends d d'
  /-- What has changed is below the root, or it is a new directory on the way to a root that was
  missing. -/
  changed : ∀ l, d'.find? l ≠ d.find? l → r.Inside d' l ∨
    (∀ c, d.locate r.path ≠ .ok c) ∧ r.Above d' l ∧ d.find? l = none ∧
      d'.find? l = some .directory

/-- What holds after a write that has gone well. -/
structure Root.Wrote (r : Root) (d d' : Disk) (l : Location) (content : ByteArray) : Prop where
  inside : r.Inside d' l
  file : d'.find? l = some (.file content)
  before : d.find? l = none ∨ ∃ old, d.find? l = some (.file old)
  /-- All else that has changed are new directories that the file is in. -/
  others : ∀ m, m ≠ l → d'.find? m ≠ d.find? m →
    d.find? m = none ∧ d'.find? m = some .directory ∧ m <+: l

theorem Root.confined_refl (hd : d.WellFormed) : r.Confined d d :=
  ⟨hd, fun _ _ h => .inl h, fun _ h => absurd rfl h⟩

variable {path reached made : List String}

/-- Directories that are made on the path of a name. -/
theorem Root.confined_of_paves (h : r.Admits d n) (hup : ".." ∉ r.wholePathOf n)
    (hpaves : Paves d d' path reached made base) (hpath : path <+: r.wholePathOf n) :
    r.Confined d d' := by
  refine ⟨hpaves.built.wellFormed, hpaves.built.extend, fun l hl => ?_⟩
  -- What has changed is one of the new directories, at the end of some of the parts that were made.
  obtain ⟨names, hne, hnames, rfl⟩ := hpaves.built.exists_of_ne hl
  obtain ⟨hnew, hdir⟩ := hpaves.built.made names hne hnames
  obtain ⟨z, ⟨t, rfl⟩, rfl⟩ := exists_of_prefix_namesOf hnames
  obtain ⟨x, z, rfl⟩ : ∃ x z', z = x :: z' := List.exists_cons_of_ne_nil fun hnil =>
    hne (by rw [hnil]; rfl)
  obtain ⟨rest, hrest⟩ := hpaves.along.trans hpath
  have hwhole : r.wholePathOf n = reached ++ x :: (z ++ (t ++ rest)) := by
    rw [← hrest]
    simp
  have hway := hpaves.way (q := x :: z) (fun hmem => hup (by
    rw [hwhole, ← List.cons_append]
    exact List.mem_append_right _ (List.mem_append_left _ hmem))) hnames
  have haccepted := hpaves.accepted (List.cons_ne_nil _ _)
  rw [← List.append_assoc] at haccepted
  rcases Root.inside_or_above h hup hwhole hpaves.breaksOff (List.prefix_append ..)
    (refusal?_of_append haccepted) hpaves.built.extend hway with hinside | ⟨hmissing, habove, -⟩
  · exact .inl hinside
  · exact .inr ⟨hmissing, habove, hnew, hdir⟩

/-- Where the path of a name leads is below the root. -/
theorem Root.inside_of_locate (h : r.Admits d n) (hl : d.locate (r.wholePathOf n) = .ok l) :
    r.Inside d l := by
  obtain ⟨haccepted, hreach⟩ := locate_eq_ok_iff.mp hl
  obtain ⟨l', hl', hbelow⟩ := Root.confines_entry h (hreach.hasEntry haccepted)
  rw [hl] at hl'
  cases hl'
  obtain ⟨w, ws, hparts⟩ := List.exists_cons_of_ne_nil h.proper.nonempty
  rw [r.wholePathOf_eq, hparts] at hreach haccepted
  obtain ⟨root, hroot⟩ := Root.exists_locate hreach haccepted
  exact ⟨root, hroot, Root.real_of_locate h.named hroot ▸ hbelow⟩

/-- A file that is written where one was. -/
theorem Root.wrote_file (h : r.Admits d n) (hd' : d'.WellFormed)
    (hsame : ∀ m, d'.find? m = d.find? m) (hl : d.locate (r.wholePathOf n) = .ok l)
    {old : ByteArray} (hold : d.find? l = some (.file old)) (c : ByteArray) :
    r.Confined d (d'.put l (.file c)) ∧ r.Wrote d (d'.put l (.file c)) l c := by
  have hne := ne_nil_of_file hold
  have hput : ∀ m, (d'.put l (.file c)).find? m = if l = m then some (.file c) else d.find? m :=
    fun m => by rw [find?_put hne, hsame]
  have hext : Extends d (d'.put l (.file c)) := by
    have hext' : Extends d d' := fun m e he => .inl ((hsame m).trans he)
    exact hext'.trans (extends_put hne (.inr ⟨old, (hsame l).trans hold⟩) c)
  have hinside := Root.inside_of_locate h hl
  have hothers : ∀ m, m ≠ l → (d'.put l (.file c)).find? m = d.find? m :=
    fun m hm => by rw [hput, if_neg (Ne.symm hm)]
  refine ⟨⟨?_, hext, fun m hm => ?_⟩, hinside.extend hext, by rw [hput, if_pos rfl],
    .inr ⟨old, hold⟩, fun m hml hm => absurd (hothers m hml) hm⟩
  · refine hd'.put hne (hd'.parent l hne ?_) ?_ _
    · rw [hsame, hold]
      rfl
    · rw [hsame, hold]
      simp
  · by_cases hml : m = l
    · exact .inl (hml ▸ hinside.extend hext)
    · exact absurd (hothers m hml) hm

section

variable (h : r.Admits d n) (hup : ".." ∉ r.wholePathOf n)
  (hpaves : Paves d d' path reached made base) (hmade : namesOf (reached ++ made) = namesOf path)
  (hwhole : r.wholePathOf n = path ++ [part]) (hpart : IsName part)

include h hup hpaves hmade hwhole hpart

/-- A new file is below the root. -/
theorem Root.inside_put (hsize : part.utf8ByteSize ≤ maxName)
    (haccepted : refusal? (r.wholePathOf n) = none)
    (hnone : d'.find? (base ++ namesOf made ++ [part]) = none) (c : ByteArray) :
    r.Inside (d'.put (base ++ namesOf made ++ [part]) (.file c))
      (base ++ namesOf made ++ [part]) := by
  have hne : base ++ namesOf made ++ [part] ≠ [] := by simp
  have hext := extends_put hne (.inl hnone) c
  have hlast : Way (d'.put (base ++ namesOf made ++ [part]) (.file c)) 0 (base ++ namesOf made)
      [part] (base ++ namesOf made ++ [part]) :=
    .down (hext.directory (hpaves.built.directory List.prefix_rfl)) hpart hsize
      ((find?_put hne).trans (if_pos rfl)) nofun (.stop _)
  obtain ⟨b, x, s, hbxs, hb, hway⟩ := hpaves.exists_breaksOff
    (fun hmem => hup (hwhole ▸ List.mem_append_left _ hmem)) hmade hpart hnone
  rw [← hwhole] at hbxs
  rw [hbxs] at haccepted
  rcases Root.inside_or_above h hup hbxs hb List.prefix_rfl haccepted
    (hpaves.built.extend.trans hext) (hway hext hlast) with hinside | ⟨-, -, hfront⟩
  · exact hinside
  · -- The path of the file cannot be above that of the root.
    rw [← hbxs, r.wholePathOf_eq] at hfront
    have hlength := hfront.length_le
    have hpos := List.length_pos_iff.mpr h.proper.nonempty
    rw [List.length_append] at hlength
    omega

/-- A file that is written where nothing was. -/
theorem Root.wrote_vacant (hsize : part.utf8ByteSize ≤ maxName)
    (haccepted : refusal? (r.wholePathOf n) = none) (hl : l = base ++ namesOf made ++ [part])
    (hnone : d'.find? l = none) (c : ByteArray) :
    r.Confined d (d'.put l (.file c)) ∧ r.Wrote d (d'.put l (.file c)) l c := by
  have hne : l ≠ [] := by simp [hl]
  have hput : ∀ m, (d'.put l (.file c)).find? m = if l = m then some (.file c) else d'.find? m :=
    fun m => find?_put hne
  have hext := extends_put hne (.inl hnone) c
  have hinside : r.Inside (d'.put l (.file c)) l := by
    subst hl
    exact Root.inside_put h hup hpaves hmade hwhole hpart hsize haccepted hnone c
  have hconfined := Root.confined_of_paves h hup hpaves (hwhole ▸ List.prefix_append ..)
  refine ⟨⟨?_, hpaves.built.extend.trans hext, fun m hm => ?_⟩, hinside, by rw [hput, if_pos rfl],
    .inl (hpaves.built.extend.eq_none hnone), fun m hml hm => ?_⟩
  · refine hpaves.built.wellFormed.put hne ?_ (by rw [hnone]; simp) _
    rw [hl, List.dropLast_concat]
    exact hpaves.built.directory List.prefix_rfl
  -- What has changed is the file itself or one of the directories that were made.
  · by_cases hml : l = m
    · exact .inl (hml ▸ hinside)
    · rw [hput, if_neg hml] at hm ⊢
      rcases hconfined.changed m hm with hm | ⟨hmissing, habove, hm⟩
      · exact .inl (hm.extend hext)
      · exact .inr ⟨hmissing, habove.extend hext, hm⟩
  · rw [hput, if_neg (Ne.symm hml)] at hm ⊢
    obtain ⟨z, hz, halong, rfl⟩ := hpaves.built.exists_of_ne hm
    obtain ⟨hnew, hdir⟩ := hpaves.built.made z hz halong
    refine ⟨hnew, hdir, ?_⟩
    rw [hl]
    exact ((List.prefix_append_right_inj base).mpr halong).trans (List.prefix_append ..)

/-- If there is an entry at the path of a name once the directories on it are there, then there it
was before, too, and it leads to below the root. -/
theorem Root.locate_of_entry (hsame : ∀ m, d'.find? m = d.find? m)
    (hsize : part.utf8ByteSize ≤ maxName) (haccepted : refusal? (r.wholePathOf n) = none)
    {e : Entry} (hentry : d'.find? (base ++ namesOf made ++ [part]) = some e) :
    ∃ l, d.locate (r.wholePathOf n) = .ok l := by
  obtain ⟨-, -, -, -, hreach⟩ :=
    hpaves.reaches_path (fun hmem => hup (hwhole ▸ List.mem_append_left _ hmem)) hmade
  have hreach : d.Reaches path (base ++ namesOf made) :=
    hreach.extend fun m e he => .inl ((hsame m).symm.trans he)
  have hdir := (hsame _).symm.trans (hpaves.built.directory (z := namesOf made) List.prefix_rfl)
  have hthere : d.hasEntry (r.wholePathOf n) = true := by
    rw [hwhole] at haccepted ⊢
    rw [hasEntry, hreach.walk_name hdir haccepted hpart, if_neg (Nat.not_lt.mpr hsize),
      if_neg (by rw [← hsame, hentry]; exact Bool.false_ne_true)]
  obtain ⟨l, hl, -⟩ := Root.confines_entry h hthere
  exact ⟨l, hl⟩

/-- What is written when the directories on the path of a name are there.  If there was something
before where it is written, the name has led there before, too. -/
theorem Root.wrote_of_walk (hd : d.WellFormed)
    (hwalk : (∃ m y, d'.walk true (r.wholePathOf n) = .ok (.vacant m y) ∧ l = m ++ [y]) ∨
      d'.walk true (r.wholePathOf n) = .ok (.found l) ∧ ∃ old, d'.find? l = some (.file old))
    (c : ByteArray) :
    r.Confined d (d'.put l (.file c)) ∧ r.Wrote d (d'.put l (.file c)) l c ∧
      (d.find? l = none ∨ d.locate (r.wholePathOf n) = .ok l) := by
  obtain ⟨place, hplace⟩ : ∃ place, d'.walk true (r.wholePathOf n) = .ok place := by
    rcases hwalk with ⟨m, y, hwalk, -⟩ | ⟨hwalk, -⟩
    · exact ⟨_, hwalk⟩
    · exact ⟨_, hwalk⟩
  obtain ⟨-, -, -, -, hreach⟩ :=
    hpaves.reaches_path (fun hmem => hup (hwhole ▸ List.mem_append_left _ hmem)) hmade
  obtain ⟨haccepted, m, hm, -, hsize, hfree, -⟩ := walk_name_cases (hwhole ▸ hplace) hpart
  obtain rfl := hm.unique hreach
  rw [← hwhole] at haccepted
  rw [hplace] at hwalk
  cases hentry : d'.find? (base ++ namesOf made ++ [part]) with
  | none =>
    rw [hfree hentry] at hwalk
    rcases hwalk with ⟨m, y, hwalk, rfl⟩ | ⟨hwalk, -⟩
    · cases hwalk
      obtain ⟨hconfined, hwrote⟩ :=
        Root.wrote_vacant h hup hpaves hmade hwhole hpart hsize haccepted rfl hentry c
      exact ⟨hconfined, hwrote, .inl (hpaves.built.extend.eq_none hentry)⟩
    · cases hwalk
  | some e =>
    -- The name was checked with the entry in place, and the walk goes where the check has gone.
    have hsame := hpaves.same_of_entry hd hentry
    obtain ⟨l', hl'⟩ :=
      Root.locate_of_entry h hup hpaves hmade hwhole hpart hsame hsize haccepted hentry
    rw [walk_of_locate (hpaves.built.extend.locate hl')] at hplace
    cases hplace
    rcases hwalk with ⟨m, y, hwalk, -⟩ | ⟨hwalk, old, hold⟩
    · cases hwalk
    · cases hwalk
      rw [hsame] at hold
      obtain ⟨hconfined, hwrote⟩ :=
        Root.wrote_file h hpaves.built.wellFormed hsame hl' hold c
      exact ⟨hconfined, hwrote, .inr hl'⟩

end

/-- What holds after a write under a name that has gone well. -/
structure Root.Saved (r : Root) (d d' : Disk) (name : String) (l : Location) (content : ByteArray) :
    Prop extends r.Wrote d d' l content where
  /-- The name leads to what was written, and it did before if something was there. -/
  named : ∃ n, r.resolve d name = .ok n ∧ d'.locate (r.wholePathOf n) = .ok l ∧
    (d.find? l = none ∨ d.locate (r.wholePathOf n) = .ok l)

/-- Writing, whether it goes well or not. -/
theorem Root.write_course (hd : d.WellFormed) (hr : r.unnamed = false) (hroot : ".." ∉ r.path)
    (name content : String) :
    r.Confined d (r.write d name content).1 ∧
      (∀ e, (r.write d name content).2 = .error e →
        AddsDirectories d (r.write d name content).1) ∧
      ((r.write d name content).2 = .ok () →
        ∃ l, r.Saved d (r.write d name content).1 name l content.toUTF8) := by
  rw [Root.write]
  cases hres : r.resolve d name with
  | error e =>
    refine ⟨Root.confined_refl hd, fun _ _ => addsDirectories_refl d, fun hok => ?_⟩
    cases hok
  | ok n =>
    have h := Root.admits_of_resolve hr hres
    -- A proper name does not lead upwards, so neither does the whole path.
    have hup : ".." ∉ r.wholePathOf n := by
      rw [r.wholePathOf_eq, List.mem_append, not_or]
      exact ⟨fun hmem => hroot (r.front_along.subset hmem), h.proper.up⟩
    dsimp only
    -- The directories come first: what they leave behind is confined even where one of them fails.
    cases hensure : d.ensureUpwards (Files.ancestors (r.wholePathOf n)).tail with
    | mk d₁ made =>
    obtain ⟨path, reached, made', base, hpath, hpaves, hok, hlast⟩ :=
      ensureUpwards_ancestors hd hup hensure
    have hconfined := Root.confined_of_paves h hup hpaves hpath
    have hadds := hpaves.built.addsDirectories
    cases made with
    | error e =>
      refine ⟨hconfined, fun _ _ => hadds, fun hok => ?_⟩
      cases hok
    | ok =>
      dsimp only
      cases hwrite : d₁.writeFile (r.pathOf n) n.ending content.toUTF8 with
      | mk d₂ written =>
      rcases writeFile_cases h.proper.ending hwrite with
        ⟨rfl, hfailed⟩ | ⟨rfl, hending, l, rfl, hwalk⟩
      · cases written with
        | error e =>
          refine ⟨hconfined, fun _ _ => hadds, fun hok => ?_⟩
          cases hok
        | ok => exact absurd rfl hfailed
      · -- The path that is written to ends in a name, below the last directory that was made.
        have hwhole : r.wholePathOf n = r.pathOf n := by
          rw [Root.wholePathOf, hending, List.append_nil]
        obtain ⟨init, part, hparts, hpart⟩ := h.proper.last fun hnil =>
          h.proper.nonempty (by rw [hnil, hending]; rfl)
        have hsnoc : r.wholePathOf n = r.front ++ init ++ [part] := by
          rw [hwhole, Root.pathOf, hparts, List.append_assoc]
        rw [hlast _ _ hsnoc hpart.1] at hpaves hok
        rw [← hwhole] at hwalk
        obtain ⟨hconfined, hwrote, hbefore⟩ :=
          Root.wrote_of_walk h hup hpaves (hok rfl) hsnoc hpart hd hwalk content.toUTF8
        refine ⟨hconfined, fun _ he => ?_, fun _ =>
          ⟨l, hwrote, n, hres, locate_put hwalk content.toUTF8, hbefore⟩⟩
        cases he

theorem Root.write_spec (hd : d.WellFormed) (hr : r.unnamed = false) (hroot : ".." ∉ r.path)
    (name content : String) :
    r.Confined d (r.write d name content).1 ∧
      ((r.write d name content).2 = .ok () →
        ∃ l, r.Wrote d (r.write d name content).1 l content.toUTF8) := by
  obtain ⟨hconfined, -, hsaved⟩ := Root.write_course hd hr hroot name content
  refine ⟨hconfined, fun hok => ?_⟩
  obtain ⟨l, hl⟩ := hsaved hok
  exact ⟨l, hl.toWrote⟩

/-! ### Reading and listing -/

theorem eq_of_fromUTF8? {bytes : ByteArray} {text : String}
    (h : String.fromUTF8? bytes = some text) : bytes = text.toUTF8 := by
  rw [String.fromUTF8?] at h
  split_ifs at h
  rw [← Option.some.inj h]
  rfl

theorem fileAt?_eq_some_iff {path : List String} {bytes : ByteArray} :
    d.fileAt? path = some bytes ↔ ∃ l, d.locate path = .ok l ∧ d.find? l = some (.file bytes) := by
  rw [fileAt?]
  cases hl : d.locate path with
  | error e => simp
  | ok l =>
    cases he : d.find? l with
    | none => simp [he]
    | some e => cases e <;> simp [he]

/-- What is read is the content of the file that the path of the name leads to. -/
theorem Root.read_eq_ok (h : r.read d name = .ok content) :
    ∃ n l, r.resolve d name = .ok n ∧ d.locate (r.wholePathOf n) = .ok l ∧
      d.find? l = some (.file content.toUTF8) := by
  rw [Root.read] at h
  cases hres : r.resolve d name with
  | error e => rw [hres] at h; cases h
  | ok n =>
    simp only [hres] at h
    split at h
    · cases h
    next bytes hbytes =>
    split at h
    · cases h
    next text htext =>
    cases h
    obtain ⟨l, hl, hfile⟩ := fileAt?_eq_some_iff.mp hbytes
    rw [eq_of_fromUTF8? htext] at hfile
    exact ⟨n, l, rfl, hl, hfile⟩

/-- What is read is the content of a file below the root. -/
theorem Root.read_spec (hr : r.unnamed = false) (hread : r.read d name = .ok content) :
    ∃ l, r.Inside d l ∧ d.find? l = some (.file content.toUTF8) := by
  obtain ⟨n, l, hres, hl, hfile⟩ := Root.read_eq_ok hread
  exact ⟨l, Root.inside_of_locate (Root.admits_of_resolve hr hres) hl, hfile⟩

/-- What is listed are the files that are reached from the root through directories. -/
theorem Root.list_spec {names : List String} (hd : d.WellFormed) (h : r.list d = .ok names)
    (hname : name ∈ names) :
    ∃ c way, d.locate r.path = .ok c ∧ name = "/".intercalate way ∧
      (∃ bytes, d.find? (c ++ way) = some (.file bytes)) ∧
      ∀ way', way' <+: way → way' ≠ way → d.find? (c ++ way') = some .directory := by
  rw [Root.list] at h
  split at h
  · cases h
    cases hname
  split at h
  · cases h
    cases hname
  next c hc =>
  cases hways : r.waysFrom d c with
  | error e =>
    rw [hways] at h
    cases h
  | ok ways =>
    rw [hways] at h
    rw [← Except.ok.inj h] at hname
    obtain ⟨way, hway, rfl⟩ := List.mem_map.mp (List.mem_mergeSort.mp hname)
    obtain ⟨bytes, hfile⟩ := Root.file_of_waysFrom hd hways hway
    refine ⟨c, way, hc, rfl, ⟨bytes, hfile⟩, ?_⟩
    rintro way' ⟨rest, rfl⟩ hne
    rw [← List.append_assoc] at hfile
    -- What something lies below is a directory.
    refine hd.directory (x := rest) ?_ (by rw [hfile]; rfl)
    rintro rfl
    exact hne (List.append_nil _).symm

/-! ### Opened roots -/

/-- A disk with a workspace in which there are a link to a directory of it and one that leads
out. -/
def linkedDisk : Disk :=
  ⟨[(["ws"], .directory), (["ws", "docs"], .link "notes/./"), (["ws", "notes"], .directory),
    (["ws", "out"], .link "/etc"), (["etc"], .directory)]⟩

theorem wellFormed_linkedDisk : linkedDisk.WellFormed := by
  refine wellFormed_of_entries ?_ ?_
  · decide +kernel
  · decide +kernel

end Colloquy.Workspace
