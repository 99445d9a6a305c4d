import Colloquy.Proofs.Files.Walk
import Mathlib.Data.List.Basic
import Mathlib.Data.List.Induction
import Mathlib.Data.List.Nodup

/-!
# What changes come to

Making a directory together with those above it that are missing starts from a directory that the
path leads to and goes down from there, name by name, through directories that were not there
before (`Built`).  So there is no link on the way down, and everything new is below the first new
directory.

* `WellFormed.put`: entries that are put into directories leave a disk well-formed;
* `Built.snoc`: one more directory;
* `ensureUpwards_paves`: what making the missing directories comes to, also if it goes wrong half
  way;
* `writeFile_cases`: a write does nothing or sets one entry, which is no directory.
-/

namespace Colloquy.Files.Disk

variable {d d' : Disk} {l base : Location} {ns : List String} {n : String} {e : Entry}

/-! ### Well-formed disks -/

/-- What is found somewhere, but for the top, is in the list of entries. -/
theorem mem_of_find? (hl : l ≠ []) (h : d.find? l = some e) : (l, e) ∈ d.entries := by
  rw [find?, if_neg hl] at h
  obtain ⟨x, hx, rfl⟩ := Option.map_eq_some_iff.mp h
  have hxl : x.1 = l := by simpa using List.find?_some hx
  exact hxl ▸ List.mem_of_find?_eq_some hx

/-- A disk is well-formed if its list of entries is in order. -/
theorem wellFormed_of_entries (hdistinct : (d.entries.map Prod.fst).Nodup)
    (hparent : ∀ x ∈ d.entries, x.1 ≠ [] ∧ d.find? x.1.dropLast = some .directory) :
    d.WellFormed := by
  refine ⟨fun l hl hsome => ?_, hdistinct, fun h => ?_⟩
  · obtain ⟨e, he⟩ := Option.isSome_iff_exists.mp hsome
    exact (hparent (l, e) (mem_of_find? hl he)).2
  · obtain ⟨x, hx, htop⟩ := List.mem_map.mp h
    exact (hparent x hx).1 htop

/-- There is nothing below a missing entry. -/
theorem WellFormed.find?_append (hd : d.WellFormed) (h : d.find? l = none) (x : List String) :
    d.find? (l ++ x) = none := by
  induction x using List.reverseRecOn with
  | nil => rwa [List.append_nil]
  | append_singleton x part ih =>
    by_contra hsome
    have hparent := hd.parent (l ++ (x ++ [part])) (by simp) (Option.isSome_iff_ne_none.mpr hsome)
    rw [← List.append_assoc, List.dropLast_concat, ih] at hparent
    cases hparent

/-- Every entry is found at its location, if no location has two entries. -/
theorem find?_of_mem (hdistinct : (d.entries.map Prod.fst).Nodup) (hl : l ≠ [])
    (h : (l, e) ∈ d.entries) : d.find? l = some e := by
  cases hfind : d.find? l with
  | none =>
    rw [find?, if_neg hl, Option.map_eq_none_iff] at hfind
    exact absurd (beq_self_eq_true l) (List.find?_eq_none.mp hfind (l, e) h)
  | some e' =>
    have hsame := List.inj_on_of_nodup_map hdistinct (mem_of_find? hl hfind) h rfl
    rw [(Prod.mk.inj hsame).2]

theorem WellFormed.find?_of_mem (hd : d.WellFormed) (h : (l, e) ∈ d.entries) :
    d.find? l = some e := by
  refine Disk.find?_of_mem hd.distinct ?_ h
  rintro rfl
  exact hd.top (List.mem_map_of_mem h)

theorem map_fst_putEntry (l : Location) (e : Entry) (es : List (Location × Entry)) :
    (putEntry l e es).map Prod.fst =
      if l ∈ es.map Prod.fst then es.map Prod.fst else es.map Prod.fst ++ [l] := by
  induction es with
  | nil => rfl
  | cons x es ih =>
    rw [putEntry]
    by_cases hx : x.1 = l
    · rw [if_pos hx, if_pos (by simp [hx]), List.map_cons, List.map_cons, hx]
    · rw [if_neg hx, List.map_cons, ih, List.map_cons]
      by_cases hl : l ∈ es.map Prod.fst
      · rw [if_pos hl, if_pos (List.mem_cons_of_mem _ hl)]
      · rw [if_neg hl, if_neg (by simpa [Ne.symm hx] using hl), List.cons_append]

/-- An entry can be put into a directory, unless it takes the place of a directory. -/
theorem WellFormed.put (hd : d.WellFormed) (hl : l ≠ [])
    (hdir : d.find? l.dropLast = some .directory) (hnot : d.find? l ≠ some .directory) (e : Entry) :
    (d.put l e).WellFormed := by
  have hself : l ≠ l.dropLast := fun h => hnot (h ▸ hdir)
  refine ⟨fun m hm hsome => ?_, ?_, ?_⟩
  · rw [find?_put hl] at hsome ⊢
    by_cases hml : l = m
    · rw [← hml, if_neg hself]
      exact hdir
    · rw [if_neg hml] at hsome
      have hparent := hd.parent m hm hsome
      rwa [if_neg fun h : l = m.dropLast => hnot (h ▸ hparent)]
  · rw [Disk.put, if_neg hl, map_fst_putEntry]
    split_ifs with hmem
    · exact hd.distinct
    · exact List.nodup_append.mpr ⟨hd.distinct, List.pairwise_singleton ..,
        fun a ha b hb hab => hmem (List.mem_singleton.mp hb ▸ hab ▸ ha)⟩
  · rw [Disk.put, if_neg hl, map_fst_putEntry]
    split_ifs with hmem
    · exact hd.top
    · intro h
      rcases List.mem_append.mp h with h | h
      · exact hd.top h
      · exact hl (List.mem_singleton.mp h).symm

/-- Above an entry there are directories. -/
theorem WellFormed.directory (hd : d.WellFormed) {x : List String} (hx : x ≠ [])
    (h : (d.find? (l ++ x)).isSome) : d.find? l = some .directory := by
  induction x using List.reverseRecOn with
  | nil => exact absurd rfl hx
  | append_singleton x part ih =>
    have hparent := hd.parent (l ++ (x ++ [part])) (by simp) h
    rw [← List.append_assoc, List.dropLast_concat] at hparent
    by_cases hnil : x = []
    · rwa [hnil, List.append_nil] at hparent
    · exact ih hnil (by rw [hparent]; rfl)

/-! ### New directories in a row -/

/-- All that has changed are new directories. -/
def AddsDirectories (d d' : Disk) : Prop :=
  ∀ l, d'.find? l = d.find? l ∨ d.find? l = none ∧ d'.find? l = some .directory

theorem addsDirectories_refl (d : Disk) : AddsDirectories d d := fun _ => .inl rfl

/-- A disk with new directories, one in the other, down from a location. -/
structure Built (d d' : Disk) (base : Location) (ns : List String) : Prop where
  base_directory : d.find? base = some .directory
  size : ∀ name ∈ ns, name.utf8ByteSize ≤ maxName
  made : ∀ z, z ≠ [] → z <+: ns →
    d.find? (base ++ z) = none ∧ d'.find? (base ++ z) = some .directory
  same : ∀ l, (∀ z, z ≠ [] → z <+: ns → l ≠ base ++ z) → d'.find? l = d.find? l
  wellFormed : d'.WellFormed

theorem built_nil (hd : d.WellFormed) (hbase : d.find? base = some .directory) :
    Built d d base [] :=
  ⟨hbase, fun _ h => absurd h List.not_mem_nil,
    fun _ hz halong => absurd (List.prefix_nil.mp halong) hz, fun _ _ => rfl, hd⟩

namespace Built

/-- What has changed are the new directories. -/
theorem exists_of_ne (h : Built d d' base ns) (hl : d'.find? l ≠ d.find? l) :
    ∃ z, z ≠ [] ∧ z <+: ns ∧ l = base ++ z := by
  by_contra hnone
  push Not at hnone
  exact hl (h.same l hnone)

theorem extend (h : Built d d' base ns) : Extends d d' := by
  intro l e hl
  by_cases hsame : d'.find? l = d.find? l
  · exact .inl (hsame.trans hl)
  · obtain ⟨z, hz, halong, rfl⟩ := h.exists_of_ne hsame
    rw [(h.made z hz halong).1] at hl
    cases hl

theorem addsDirectories (h : Built d d' base ns) : AddsDirectories d d' := by
  intro l
  by_cases hsame : d'.find? l = d.find? l
  · exact .inl hsame
  · obtain ⟨z, hz, halong, rfl⟩ := h.exists_of_ne hsame
    exact .inr (h.made z hz halong)

theorem directory (h : Built d d' base ns) {z : List String} (hz : z <+: ns) :
    d'.find? (base ++ z) = some .directory := by
  by_cases hnil : z = []
  · rw [hnil, List.append_nil]
    exact h.extend.directory h.base_directory
  · exact (h.made z hnil hz).2

/-- The last one of the new directories is empty. -/
theorem find?_append (h : Built d d' base ns) (hd : d.WellFormed) (hns : ns ≠ []) {x : List String}
    (hx : x ≠ []) : d'.find? (base ++ ns ++ x) = none := by
  -- What is below the last directory is not one of the new ones.
  have hnew : ∀ z, z ≠ [] → z <+: ns → base ++ ns ++ x ≠ base ++ z := by
    intro z _ hz heq
    rw [List.append_assoc] at heq
    have hlength := hz.length_le
    rw [← List.append_cancel_left heq, List.length_append] at hlength
    have hpos := List.length_pos_iff.mpr hx
    omega
  rw [h.same _ hnew]
  exact hd.find?_append (h.made ns hns List.prefix_rfl).1 x

/-- One more directory. -/
theorem snoc (h : Built d d' base ns) (hn : n.utf8ByteSize ≤ maxName)
    (hnone : d'.find? (base ++ ns ++ [n]) = none) :
    Built d (d'.put (base ++ ns ++ [n]) .directory) base (ns ++ [n]) := by
  have hput : ∀ l, (d'.put (base ++ ns ++ [n]) .directory).find? l =
      if base ++ ns ++ [n] = l then some .directory else d'.find? l :=
    fun l => find?_put (by simp)
  have hold : d.find? (base ++ ns ++ [n]) = none := h.extend.eq_none hnone
  -- Sizes, what has been made, what is the same, and that the disk is still well-formed.
  refine ⟨h.base_directory, ?_, ?_, ?_, ?_⟩
  · intro name hname
    rcases List.mem_append.mp hname with hname | hname
    · exact h.size name hname
    · rwa [List.mem_singleton.mp hname]
  · intro z hz halong
    rcases List.prefix_concat_iff.mp halong with rfl | halong
    · rw [← List.append_assoc, hput, if_pos rfl]
      exact ⟨hold, rfl⟩
    · obtain ⟨hnew, hdir⟩ := h.made z hz halong
      rw [hput, hdir, ite_self]
      exact ⟨hnew, rfl⟩
  · intro l hl
    have hne : base ++ ns ++ [n] ≠ l := fun heq =>
      hl (ns ++ [n]) (by simp) List.prefix_rfl (by rw [← heq, List.append_assoc])
    rw [hput, if_neg hne]
    exact h.same l fun z hz halong => hl z hz (halong.trans (List.prefix_append ..))
  · refine h.wellFormed.put (by simp) ?_ (by rw [hnone]; simp) _
    rw [List.dropLast_concat]
    exact h.directory List.prefix_rfl

end Built

/-! ### Making directories -/

/-- What making the directories on a path has come to: a part of the path led to a directory, and
from there on directories were made for the names that come next. -/
structure Paves (d d' : Disk) (path reached made : List String) (base : Location) : Prop where
  along : reached ++ made <+: path
  reaches : d.Reaches reached base
  built : Built d d' base (namesOf made)
  /-- The path of the last new directory is not refused. -/
  accepted : made ≠ [] → refusal? (reached ++ made) = none
  first : ∀ part ∈ made.head?, IsName part

variable {path reached made p q : List String} {part : String}
  {res : Except SystemError Unit}

/-- If nothing was made. -/
theorem paves_nil (hd : d.WellFormed) (hreached : reached <+: path) (h : d.Reaches reached base)
    (hbase : d.find? base = some .directory) : Paves d d path reached [] base where
  along := by rwa [List.append_nil]
  reaches := h
  built := built_nil hd hbase
  accepted := fun h => absurd rfl h
  first := fun _ h => by cases h

namespace Paves

theorem mono (h : Paves d d' p reached made base) (hp : p <+: path) :
    Paves d d' path reached made base :=
  { h with along := h.along.trans hp }

/-- The way down the new directories. -/
theorem way (h : Paves d d' path reached made base) (hup : ".." ∉ q)
    (hq : namesOf q <+: namesOf made) : Way d' 0 base q (base ++ namesOf q) :=
  way_down hup (fun name hname => h.built.size name (hq.subset hname))
    fun _ hz => h.built.directory (hz.trans hq)

/-- Before the first of the new directories was made, the path broke off there. -/
theorem breaksOff {x : String} (h : Paves d d' path reached (x :: made) base) :
    BreaksOff d reached x base := by
  have hx : IsName x := h.first x rfl
  refine ⟨h.reaches, h.built.base_directory, hx, (h.built.made [x] (List.cons_ne_nil _ _) ?_).1⟩
  rw [namesOf_cons_name hx.1]
  exact List.prefix_append [x] _

/-- If nothing is missing any more, the path leads to the last of the new directories. -/
theorem reaches_path (h : Paves d d' path reached made base) (hup : ".." ∉ path)
    (hmade : namesOf (reached ++ made) = namesOf path) :
    ∃ rest, reached ++ (made ++ rest) = path ∧ namesOf rest = [] ∧
      Way d' 0 base (made ++ rest) (base ++ namesOf made) ∧
      d'.Reaches path (base ++ namesOf made) := by
  obtain ⟨rest, hrest⟩ := h.along
  have hnames : namesOf rest = [] := by
    rw [← hrest, namesOf_append _ rest] at hmade
    exact List.self_eq_append_right.mp hmade
  have hmore : namesOf (made ++ rest) = namesOf made := by
    rw [namesOf_append, hnames, List.append_nil]
  have hway := h.way (q := made ++ rest) (fun hmem => hup (by
    rw [← hrest, List.append_assoc]
    exact List.mem_append_right _ hmem)) (hmore ▸ List.prefix_rfl)
  rw [hmore] at hway
  rw [List.append_assoc] at hrest
  refine ⟨rest, hrest, hnames, hway, ?_⟩
  have hreach := (h.reaches.extend h.built.extend).append hway
  rwa [hrest] at hreach

/-- In a new directory there is no entry: where there is one, nothing was made. -/
theorem same_of_entry (h : Paves d d' path reached made base) (hd : d.WellFormed)
    (hentry : d'.find? (base ++ namesOf made ++ [part]) = some e) (m : Location) :
    d'.find? m = d.find? m := by
  have hnil : namesOf made = [] := by
    by_contra hne
    rw [h.built.find?_append hd hne (List.cons_ne_nil _ _)] at hentry
    cases hentry
  refine h.built.same m fun z hz halong => ?_
  rw [hnil] at halong
  exact absurd (List.prefix_nil.mp halong) hz

/-- If the name after a path is missing, too, the path with it broke off at the first of the new
directories or, if there are none, at the name itself.  Whatever is put there is down the way from
where the path broke off. -/
theorem exists_breaksOff (h : Paves d d' path reached made base) (hup : ".." ∉ path)
    (hmade : namesOf (reached ++ made) = namesOf path) (hpart : IsName part)
    (hnone : d'.find? (base ++ namesOf made ++ [part]) = none) :
    ∃ b x s, path ++ [part] = b ++ x :: s ∧ BreaksOff d b x base ∧
      ∀ {d'' : Disk} {m : Location}, Extends d' d'' →
        Way d'' 0 (base ++ namesOf made) [part] m → Way d'' 0 base (x :: s) m := by
  obtain ⟨rest, hrest, -, hway, hreach⟩ := h.reaches_path hup hmade
  cases made with
  | nil =>
    have hsame : Extends d' d := fun l e he => .inl (by
      rwa [← h.built.same l fun z hz halong => absurd (List.prefix_nil.mp halong) hz])
    rw [show namesOf [] = [] from rfl, List.append_nil] at hreach hnone ⊢
    refine ⟨path, part, [], rfl, ⟨hreach.extend hsame, h.built.base_directory, hpart, ?_⟩,
      fun _ hlast => hlast⟩
    exact h.built.extend.eq_none hnone
  | cons x made =>
    refine ⟨reached, x, made ++ rest ++ [part], ?_, h.breaksOff, ?_⟩
    · rw [← hrest]
      simp
    · intro d'' m hext hlast
      exact (hway.extend hext).append hlast

end Paves

/-- A directory that there is already. -/
theorem isDirectory_iff : d.isDirectory p = true ↔
    ∃ m, d.locate p = .ok m ∧ d.find? m = some .directory := by
  unfold isDirectory
  cases h : d.locate p with
  | ok m => simp
  | error e => simp

/-- An operation that fails comes to nothing, unless there is the directory already. -/
theorem paves_of_isDirectory (hd : d.WellFormed) {e : SystemError}
    (h : (if d.isDirectory p then (d, .ok ()) else (d, .error e)) = (d', res)) :
    ∃ reached base, Paves d d' p reached [] base ∧ (res = .ok () → reached = p) := by
  by_cases hp : d.isDirectory p = true
  · rw [if_pos hp] at h
    obtain ⟨m, hm, hdir⟩ := isDirectory_iff.mp hp
    cases h
    exact ⟨p, m, paves_nil hd List.prefix_rfl (locate_eq_ok_iff.mp hm).2 hdir, fun _ => rfl⟩
  · rw [if_neg hp] at h
    cases h
    exact ⟨[], [], paves_nil hd List.nil_prefix (reaches_nil d) rfl, nofun⟩

theorem withoutSlash_snoc (hpart : isHere part = false) :
    withoutSlash (p ++ [part]) = p ++ [part] := by
  have hne : (part == "") = false := by
    cases hp : part == "" with
    | false => rfl
    | true => rw [isHere, hp, Bool.true_or] at hpart; cases hpart
  rw [withoutSlash, List.reverse_append, List.reverse_singleton, List.singleton_append,
    List.dropWhile_cons_of_neg (by rw [hne]; decide), List.reverse_cons, List.reverse_reverse]

/-- A directory is made where a path breaks off. -/
theorem BreaksOff.makeDirectory (h : BreaksOff d p part m) (hpath : refusal? (p ++ [part]) = none)
    (hsize : part.utf8ByteSize ≤ maxName) :
    d.makeDirectory (p ++ [part]) = (d.put (m ++ [part]) .directory, .ok ()) := by
  rw [Disk.makeDirectory, hpath, withoutSlash_snoc h.name.1,
    h.reaches.walk_name h.directory hpath h.name, if_neg (Nat.not_lt.mpr hsize), h.missing]
  rfl

/-- Making a directory fails and changes nothing, or sets an entry at a free name. -/
theorem makeDirectory_cases (h : d.makeDirectory p = (d', res)) :
    (d' = d ∧ ∃ e, res = .error e) ∨
    ∃ m part, refusal? p = none ∧ d.walk false (withoutSlash p) = .ok (.vacant m part) ∧
      d' = d.put (m ++ [part]) .directory ∧ res = .ok () := by
  rw [makeDirectory] at h
  split at h
  · cases h
    exact .inl ⟨rfl, _, rfl⟩
  · next m part haccepted hwalk =>
    cases h
    exact .inr ⟨m, part, haccepted, hwalk, rfl, rfl⟩
  · cases h
    exact .inl ⟨rfl, _, rfl⟩
  · cases h
    exact .inl ⟨rfl, _, rfl⟩

/-- Making one directory, if that goes well. -/
theorem makeDirectory_ok (hpart : IsName part)
    (h : d.makeDirectory (p ++ [part]) = (d', .ok ())) :
    ∃ m, BreaksOff d p part m ∧ part.utf8ByteSize ≤ maxName ∧ refusal? (p ++ [part]) = none ∧
      d' = d.put (m ++ [part]) .directory := by
  rcases makeDirectory_cases h with ⟨-, _, ⟨⟩⟩ | ⟨m, name, hpath, hwalk, rfl, -⟩
  rw [withoutSlash_snoc hpart.1] at hwalk
  obtain ⟨-, m, hm, hdir, hsize, hfree, hthere⟩ := walk_name_cases hwalk hpart
  have hnone : d.find? (m ++ [part]) = none := by
    by_contra he
    cases hthere rfl he
  cases hfree hnone
  exact ⟨m, ⟨hm, hdir, hpart, hnone⟩, hsize, hpath, rfl⟩

/-- What making one directory comes to, if that goes well. -/
theorem paves_of_makeDirectory (hd : d.WellFormed) (hpart : IsName part)
    (h : d.makeDirectory (p ++ [part]) = (d', .ok ())) :
    ∃ base, Paves d d' (p ++ [part]) p [part] base := by
  obtain ⟨m, hm, hsize, hpath, rfl⟩ := makeDirectory_ok hpart h
  have hbuilt := (built_nil hd hm.directory).snoc hsize (by rw [List.append_nil, hm.missing])
  rw [List.append_nil] at hbuilt
  refine ⟨m, List.prefix_rfl, hm.reaches, ?_, fun _ => hpath, ?_⟩
  · rwa [namesOf_cons_name hpart.1]
  · rintro _ ⟨⟩
    exact hpart

/-- If a directory cannot be made because something above it is missing, the path to it does not
lead to a directory. -/
theorem makeDirectory_noSuchFile (hpart : IsName part)
    (h : d.makeDirectory (p ++ [part]) = (d', .error .noSuchFile)) :
    d' = d ∧ refusal? (p ++ [part]) = none ∧
      ∀ m, d.Reaches p m → d.find? m ≠ some .directory := by
  rw [makeDirectory, withoutSlash_snoc hpart.1] at h
  split at h
  · next e _ hpath =>
    cases h
    exact absurd hpath (refusal?_ne_noSuchFile _)
  · cases h
  · cases h
  · next e hpath hwalk =>
    cases h
    refine ⟨rfl, hpath, fun m hm hdir => ?_⟩
    rw [hm.walk_name hdir hpath hpart] at hwalk
    split_ifs at hwalk
    cases hwalk

theorem makeDirectory_error {e : SystemError} (h : d.makeDirectory p = (d', .error e)) :
    d' = d := by
  rcases makeDirectory_cases h with ⟨rfl, -⟩ | ⟨_, _, -, -, -, ⟨⟩⟩
  rfl

/-- One more directory, after those above it have been made. -/
theorem Paves.ensureDirectory (h : Paves d d' path reached made base) (hd : d.WellFormed)
    (hup : ".." ∉ path) (hmade : namesOf (reached ++ made) = namesOf path)
    (hmissing : ∀ m, d.Reaches path m → d.find? m ≠ some .directory) (hpart : IsName part)
    (hpath : refusal? (path ++ [part]) = none) {d'' : Disk}
    (hensure : d'.ensureDirectory (path ++ [part]) = (d'', res)) :
    ∃ reached made base, Paves d d'' (path ++ [part]) reached made base ∧
      (res = .ok () → namesOf (reached ++ made) = namesOf (path ++ [part])) := by
  obtain ⟨rest, hrest, hnames, -, hreach⟩ := h.reaches_path hup hmade
  -- Something was made, or else there was nothing to be made.
  have hne : namesOf made ≠ [] := by
    intro hnil
    have hnothing : namesOf (made ++ rest) = [] := by rw [namesOf_append, hnil, hnames]; rfl
    have hway := (paves_nil hd List.prefix_rfl h.reaches h.built.base_directory).way
      (q := made ++ rest) (fun hmem => hup (hrest ▸ List.mem_append_right _ hmem))
      (by rw [hnothing]; exact List.nil_prefix)
    have hreach' := h.reaches.append hway
    rw [hrest, hnothing, List.append_nil] at hreach'
    exact hmissing base hreach' h.built.base_directory
  have hempty := h.built.find?_append hd hne (x := [part]) (List.cons_ne_nil _ _)
  rw [Disk.ensureDirectory] at hensure
  split at hensure
  · next d₁ hmake =>
    cases hensure
    obtain ⟨m, hm, hsize, -, rfl⟩ := makeDirectory_ok hpart hmake
    obtain rfl := hm.reaches.unique hreach
    refine ⟨reached, made ++ rest ++ [part], base, ⟨?_, h.reaches, ?_, fun _ => ?_, ?_⟩,
      fun _ => ?_⟩
    · rw [← List.append_assoc, hrest]
    · rw [namesOf_append, namesOf_append, hnames, List.append_nil, namesOf_cons_name hpart.1]
      exact h.built.snoc hsize hempty
    · rwa [← List.append_assoc, hrest]
    · cases made with
      | nil => exact absurd rfl hne
      | cons name made => exact h.first
    · rw [← List.append_assoc, hrest]
  · next d₁ e hmake =>
    obtain rfl := makeDirectory_error hmake
    have hnot : d₁.isDirectory (path ++ [part]) ≠ true := by
      intro hdir
      obtain ⟨m, hm, -⟩ := isDirectory_iff.mp hdir
      exact BreaksOff.not_locate ⟨hreach, h.built.directory List.prefix_rfl, hpart, hempty⟩ hm
    rw [if_neg hnot] at hensure
    cases hensure
    exact ⟨reached, made, base, h.mono (List.prefix_append ..), nofun⟩

/-- Only if something above it is missing is more done than looking for the directory itself. -/
theorem ensureUpwards_of_ne {above : List (List String)} {e : SystemError} (he : e ≠ .noSuchFile)
    (h : d.makeDirectory p = (d', .error e)) :
    d.ensureUpwards (p :: above) =
      if d'.isDirectory p then (d', .ok ()) else (d', .error e) := by
  rw [ensureUpwards, h]
  cases e <;> first | exact absurd rfl he | rfl

/-- What making the missing directories on a path comes to, whether it goes well or not.  If it goes
well, the new directories are there for all names that the path goes on with. -/
theorem ensureUpwards_paves (hd : d.WellFormed) (hup : ".." ∉ path)
    (h : d.ensureUpwards (upwards path.reverse) = (d', res)) :
    ∃ reached made base, Paves d d' path reached made base ∧
      (res = .ok () → namesOf (reached ++ made) = namesOf path) := by
  induction path using List.reverseRecOn generalizing d' res with
  | nil =>
    -- The top is always there.
    rw [List.reverse_nil, upwards, ensureUpwards] at h
    have hroot : d.makeDirectory [] = (d, .error .fileExists) := rfl
    rw [hroot] at h
    obtain ⟨reached, base, hpaves, hok⟩ := paves_of_isDirectory hd h
    exact ⟨reached, [], base, hpaves, fun hres => by rw [hok hres]; rfl⟩
  | append_singleton path part ih =>
    obtain ⟨hup, hne⟩ : ".." ∉ path ∧ ".." ≠ part := by simpa using hup
    rw [List.reverse_append, List.reverse_singleton, List.singleton_append, upwards] at h
    cases hhere : isHere part with
    | true =>
      -- A part that stands for the directory itself changes nothing.
      rw [if_pos hhere] at h
      obtain ⟨reached, made, base, hpaves, hok⟩ := ih hup h
      refine ⟨reached, made, base, hpaves.mono (List.prefix_append ..), fun hres => ?_⟩
      rw [hok hres, namesOf_append, namesOf_cons_here hhere]
      exact (List.append_nil _).symm
    | false =>
      have hpart : IsName part := ⟨hhere, Ne.symm hne⟩
      rw [if_neg (by rw [hhere]; decide), List.reverse_cons, List.reverse_reverse] at h
      cases hmake : d.makeDirectory (path ++ [part]) with
      | mk d₁ made =>
      cases made with
      | ok =>
        rw [ensureUpwards, hmake] at h
        cases h
        obtain ⟨base, hpaves⟩ := paves_of_makeDirectory hd hpart hmake
        exact ⟨path, [part], base, hpaves, fun _ => rfl⟩
      | error e =>
        obtain rfl := makeDirectory_error hmake
        by_cases he : e = .noSuchFile
        · -- Something above the directory is missing, and is made before it.
          subst he
          obtain ⟨-, hpath, hmissing⟩ := makeDirectory_noSuchFile hpart hmake
          cases hrec : d₁.ensureUpwards (upwards path.reverse) with
          | mk d₂ res₂ =>
          obtain ⟨reached, made, base, hpaves, hok⟩ := ih hup hrec
          simp only [ensureUpwards, hmake, hrec] at h
          cases res₂ with
          | ok => exact hpaves.ensureDirectory hd hup (hok rfl) hmissing hpart hpath h
          | error e =>
            cases h
            exact ⟨reached, made, base, hpaves.mono (List.prefix_append ..), fun h => by cases h⟩
        · obtain ⟨reached, base, hpaves, hok⟩ :=
            paves_of_isDirectory hd ((ensureUpwards_of_ne he hmake).symm.trans h)
          exact ⟨reached, [], base, hpaves, fun hres => by rw [hok hres, List.append_nil]⟩

/-- What making the directories above the end of a path comes to. -/
theorem ensureUpwards_ancestors (hd : d.WellFormed) (hup : ".." ∉ path)
    (h : d.ensureUpwards (ancestors path).tail = (d', res)) :
    ∃ q reached made base, q <+: path ∧ Paves d d' q reached made base ∧
      (res = .ok () → namesOf (reached ++ made) = namesOf q) ∧
      ∀ init name, path = init ++ [name] → isHere name = false → q = init := by
  by_cases hnames : namesOf path = []
  · rw [tail_ancestors_of_namesOf hnames] at h
    cases h
    refine ⟨[], [], [], [], List.nil_prefix, paves_nil hd List.nil_prefix (reaches_nil d) rfl,
      fun _ => rfl, ?_⟩
    rintro init name rfl hname
    rw [namesOf_append, namesOf_cons_name hname] at hnames
    simp at hnames
  · obtain ⟨q, last, rest, rfl, hlast, hrest⟩ := exists_last_name hnames
    rw [tail_ancestors hlast hrest] at h
    obtain ⟨reached, made, base, hpaves, hok⟩ := ensureUpwards_paves hd
      (fun hmem => hup (List.mem_append_left _ hmem)) h
    refine ⟨q, reached, made, base, List.prefix_append .., hpaves, hok, ?_⟩
    intro init name hpath hname
    -- If the path ends in a name, then nothing comes after its last name.
    have hrestnil : rest = [] := by
      rcases List.eq_nil_or_concat rest with hnil | ⟨rest', x, hconcat⟩
      · exact hnil
      · rw [hconcat, List.concat_eq_append, ← List.cons_append, ← List.append_assoc] at hpath
        obtain ⟨-, rfl⟩ := List.append_inj' hpath rfl |>.imp_right List.singleton_inj.mp
        rw [namesOf_eq_nil_iff, hconcat, List.concat_eq_append] at hrest
        rw [hrest x (List.mem_append_right _ (List.mem_singleton_self x))] at hname
        cases hname
    rw [hrestnil] at hpath
    exact (List.append_inj' hpath rfl).1

/-! ### Writing files -/

/-- A file is written where a path breaks off. -/
theorem BreaksOff.writeFile {content : ByteArray} (h : BreaksOff d p part m) (hpath : refusal? (p ++ [part]) = none)
    (hsize : part.utf8ByteSize ≤ maxName) :
    d.writeFile (p ++ [part]) .name content = (d.put (m ++ [part]) (.file content), .ok ()) := by
  obtain ⟨n, hn⟩ := h.reaches.walk_append (f := true) hpath (Or.inr rfl)
  rw [walkFrom_cons h.directory, if_neg (by rw [h.name.1]; decide), if_neg h.name.2,
    if_neg (Nat.not_lt.mpr hsize), h.missing] at hn
  have hending : Ending.name.parts = [] := rfl
  have hslash : Ending.name.isSlash = false := rfl
  rw [Disk.writeFile, hending, hslash, List.append_nil, hn]
  rfl

/-- A write that goes wrong does nothing.  One that goes well writes to where the path leads, or to
a name that is free there; nothing comes after the last name of its path then. -/
theorem writeFile_cases {ending : Ending} {content : ByteArray}
    (hending : namesOf ending.parts = []) (h : d.writeFile path ending content = (d', res)) :
    (d' = d ∧ res ≠ .ok ()) ∨
      (res = .ok () ∧ ending.parts = [] ∧ ∃ l, d' = d.put l (.file content) ∧
        ((∃ m name, d.walk true path = .ok (.vacant m name) ∧ l = m ++ [name]) ∨
          (d.walk true path = .ok (.found l) ∧ ∃ old, d.find? l = some (.file old)))) := by
  rw [writeFile] at h
  -- With a slash at the end nothing is ever written.
  by_cases hslash : ending.isSlash = true
  · rw [if_pos hslash] at h
    left
    split at h <;> cases h <;> exact ⟨rfl, nofun⟩
  rw [if_neg hslash] at h
  split at h
  · next l name hwalk =>
    cases h
    by_cases hne : ending.parts = []
    · rw [hne, List.append_nil] at hwalk
      exact .inr ⟨rfl, hne, _, rfl, .inl ⟨l, name, hwalk, rfl⟩⟩
    · -- What ends in a dot is a directory, if anything.
      obtain ⟨_, hplace, _⟩ := exists_of_walk_here hwalk hending hne
      cases hplace
  · next l hwalk =>
    split at h
    · next old hold =>
      cases h
      by_cases hne : ending.parts = []
      · rw [hne, List.append_nil] at hwalk
        exact .inr ⟨rfl, hne, _, rfl, .inr ⟨hwalk, old, hold⟩⟩
      · -- What ends in a dot is a directory, not the file that was found.
        obtain ⟨_, hplace, hdir⟩ := exists_of_walk_here hwalk hending hne
        cases hplace
        rw [hdir] at hold
        cases hold
    · cases h
      exact .inl ⟨rfl, nofun⟩
  · cases h
    exact .inl ⟨rfl, nofun⟩

/-- After a file is written where a walk ends, its path leads to it. -/
theorem locate_put {path : List String} {l : Location}
    (hwalk : (∃ m name, d.walk true path = .ok (.vacant m name) ∧ l = m ++ [name]) ∨
      d.walk true path = .ok (.found l) ∧ ∃ old, d.find? l = some (.file old))
    (content : ByteArray) : (d.put l (.file content)).locate path = .ok l := by
  rcases hwalk with ⟨m, name, hwalk, rfl⟩ | ⟨hwalk, old, hold⟩
  · rw [walk] at hwalk
    cases hpath : refusal? path with
    | some e =>
      rw [hpath] at hwalk
      cases hwalk
    | none =>
      rw [hpath] at hwalk
      obtain ⟨hnone, k, hk, hway⟩ := way_of_vacant maxLinks [] path hwalk
      have hne : m ++ [name] ≠ [] := by simp
      have hreach := hway (extends_put hne (.inl hnone) content)
        ((find?_put hne).trans (if_pos rfl))
      exact locate_eq_ok_iff.mpr ⟨hpath, k, hk, hreach⟩
  · have hl : d.locate path = .ok l := by
      rw [locate, hwalk]
    exact (extends_put (ne_nil_of_file hold) (.inr ⟨old, hold⟩) content).locate hl

end Colloquy.Files.Disk
