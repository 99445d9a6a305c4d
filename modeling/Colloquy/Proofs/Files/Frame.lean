import Colloquy.Proofs.Files.Change

/-!
# What changes leave alone

Only the names of a path count: parts that stand for the directory itself can be put into a path or
taken out of it (`Reaches.respell`), and where there is no link the path leads down along its names
(`Way.eq_append_of_noLink`).

* `exists_first_missing`: a path at which there is no entry has a first name at which there is none;
* `walk_vacant`: where a walk ends at a free name, there is a directory and the name is free in it;
* `ensureUpwards_grown`: making directories, for any paths whatever, only adds directories;
* `writeFile_frame`: a file is written where a path leads, or where its last name is free, and
  nothing else is changed (`Written`).
-/

namespace Colloquy.Files.Disk

variable {d d' d'' : Disk} {f : Bool} {k n : Nat} {l m : Location} {a p q : List String}
  {part x : String}

/-! ### Ways by their names -/

/-- Where a way has begun there is a directory. -/
theorem Way.directory (h : Way d k l p m) (hp : p ≠ []) : d.find? l = some .directory := by
  cases h with
  | stop => exact absurd rfl hp
  | here hdir => exact hdir
  | up hdir => exact hdir
  | down hdir => exact hdir
  | link hdir => exact hdir

/-- There is an entry where a way ends. -/
theorem Way.isSome (hd : d.WellFormed) (h : Way d k l p m) (hl : (d.find? l).isSome) :
    (d.find? m).isSome := by
  induction h with
  | stop l => exact hl
  | here _ _ _ ih => exact ih hl
  | @up _ l _ _ _ _ ih =>
    apply ih
    by_cases hnil : l = []
    · rw [hnil]
      rfl
    · rw [hd.parent l hnil hl]
      rfl
  | down _ _ _ he _ _ ih =>
    apply ih
    rw [he]
    rfl
  | @link _ l _ _ target _ _ _ _ _ _ ih =>
    apply ih
    unfold origin
    split_ifs
    · rfl
    · exact hl

/-- The names of a way are not too long. -/
theorem Way.size_le (h : Way d k l (part :: p) m) (hpart : IsName part) :
    part.utf8ByteSize ≤ maxName := by
  cases h with
  | here _ hhere => exact absurd hhere (by rw [hpart.1]; decide)
  | up => exact absurd rfl hpart.2
  | down _ _ hsize => exact hsize
  | link _ _ hsize => exact hsize

/-- Where there are no links, a way goes down along the names of the path. -/
theorem Way.eq_append_of_noLink (h : Way d k l p m) (hup : ".." ∉ p)
    (hlinks : ∀ z target, z ≠ [] → z <+: namesOf p → d.find? (l ++ z) ≠ some (.link target)) :
    m = l ++ namesOf p := by
  induction h with
  | stop l => exact (List.append_nil l).symm
  | here _ hpart _ ih =>
    rw [namesOf_cons_here hpart] at hlinks ⊢
    exact ih (fun h => hup (List.mem_cons_of_mem _ h)) hlinks
  | up => exact absurd (List.mem_cons_self ..) hup
  | @down _ l _ part _ _ _ hpart _ _ _ _ ih =>
    rw [namesOf_cons_name hpart.1] at hlinks ⊢
    rw [List.append_cons]
    refine ih (fun h => hup (List.mem_cons_of_mem _ h)) fun z target _ hz => ?_
    rw [List.append_assoc]
    exact hlinks (part :: z) target (List.cons_ne_nil _ _) (List.cons_prefix_cons.mpr ⟨rfl, hz⟩)
  | @link _ _ _ part target p _ hpart _ he _ _ =>
    rw [namesOf_cons_name hpart.1] at hlinks
    exact absurd he (hlinks [part] target (by simp) (by simp))

/-- What stands for nothing can be left out of a path. -/
theorem Way.names (h : Way d k l p m) : ∃ k' ≤ k, Way d k' l (namesOf p) m := by
  induction p generalizing k l with
  | nil => exact ⟨k, le_rfl, h⟩
  | cons part p ih =>
    obtain ⟨k₁, k₂, base, hle, hpart, hrest, -⟩ := Way.split (p := [part]) h
    obtain ⟨k₃, hk₃, hnames⟩ := ih hrest
    cases hhere : isHere part with
    | true =>
      have hbase : base = l := hpart.eq_of_namesOf (namesOf_cons_here hhere [])
      rw [namesOf_cons_here hhere, ← hbase]
      exact ⟨k₃, by omega, hnames⟩
    | false =>
      rw [namesOf_cons_name hhere]
      exact ⟨k₃ + k₁, by omega, hpart.append hnames⟩

/-- What stands for nothing can be put into a path, unless it comes to stand at its end. -/
theorem Way.of_names (h : Way d k l (namesOf p) m)
    (hlast : ∀ last ∈ p.getLast?, isHere last = false) : ∃ k' ≤ k, Way d k' l p m := by
  induction p generalizing k l with
  | nil => exact ⟨k, le_rfl, h⟩
  | cons part p ih =>
    have hrest : p ≠ [] → ∀ last ∈ p.getLast?, isHere last = false := by
      intro hne last hmem
      apply hlast last
      rwa [List.getLast?_cons_of_ne_nil hne]
    cases hhere : isHere part with
    | true =>
      -- A name is still to come, so there is a directory here.
      have hne : p ≠ [] := by
        rintro rfl
        have hname := hlast part rfl
        rw [hhere] at hname
        cases hname
      rw [namesOf_cons_here hhere] at h
      obtain ⟨k', hk', hway⟩ := ih h (hrest hne)
      exact ⟨k', hk', .here (hway.directory hne) hhere hway⟩
    | false =>
      rw [namesOf_cons_name hhere] at h
      obtain ⟨k₁, k₂, base, hle, hpart, hnames, -⟩ := Way.split (p := [part]) h
      by_cases hne : p = []
      · rw [hne] at hnames ⊢
        exact ⟨k₂ + k₁, by omega, hpart.append hnames⟩
      · obtain ⟨k₃, hk₃, hway⟩ := ih hnames (hrest hne)
        exact ⟨k₃ + k₁, by omega, hpart.append hway⟩

/-- **Another spelling** of the end of a path leads to the same place. -/
theorem Reaches.respell (h : d.Reaches (a ++ p) m) (hnames : namesOf q = namesOf p)
    (hlast : ∀ last ∈ q.getLast?, isHere last = false) : d.Reaches (a ++ q) m := by
  obtain ⟨k, hk, h⟩ := h
  obtain ⟨k₁, k₂, base, hle, ha, hp, -⟩ := h.split
  obtain ⟨k₃, hk₃, hp⟩ := hp.names
  rw [← hnames] at hp
  obtain ⟨k₄, hk₄, hq⟩ := hp.of_names hlast
  exact ⟨k₄ + k₁, by omega, ha.append hq⟩

/-- What is at the start of a path that there is an entry at has an entry, too. -/
theorem hasEntry_of_append (h : d.hasEntry (p ++ q) = true) : d.hasEntry p = true := by
  by_cases hq : q = []
  · rwa [hq, List.append_nil] at h
  · rw [hasEntry] at h
    split at h
    · next hwalk =>
      obtain ⟨haccepted, _, m, hm, -⟩ := exists_reaches hwalk hq
      exact hm.hasEntry (refusal?_of_append haccepted)
    · cases h

/-! ### The first missing name -/

theorem upTo_of_isName (p : List String) (hx : isHere x = false) :
    ((p ++ [x]).reverse.dropWhile isHere).reverse = p ++ [x] := by
  rw [List.reverse_append, List.reverse_singleton, List.singleton_append,
    List.dropWhile_cons_of_neg (by rw [hx]; decide), List.reverse_cons, List.reverse_reverse]

theorem upTo_of_here (p : List String) (hx : isHere x = true) :
    ((p ++ [x]).reverse.dropWhile isHere).reverse = (p.reverse.dropWhile isHere).reverse := by
  rw [List.reverse_append, List.reverse_singleton, List.singleton_append,
    List.dropWhile_cons_of_pos hx]

/-- Let there be an entry at the start of a path.  Then there is one at its last name, too, or there
is a first name at which there is none. -/
theorem exists_first_missing (hup : ".." ∉ p)
    (ha : d.hasEntry (a.reverse.dropWhile isHere).reverse = true) :
    d.hasEntry ((a ++ p).reverse.dropWhile isHere).reverse = true ∨
      ∃ b x s, p = b ++ x :: s ∧ IsName x ∧
        d.hasEntry ((a ++ b).reverse.dropWhile isHere).reverse = true ∧
        d.hasEntry (a ++ b ++ [x]) ≠ true := by
  induction p using List.reverseRecOn with
  | nil => exact .inl (by rwa [List.append_nil])
  | append_singleton p part ih =>
    obtain ⟨hup, hne⟩ : ".." ∉ p ∧ ".." ≠ part := by simpa using hup
    rw [← List.append_assoc]
    rcases ih hup with hp | ⟨b, x, s, rfl, hmissing⟩
    · cases hhere : isHere part with
      | true => exact .inl (by rwa [upTo_of_here _ hhere])
      | false =>
        rw [upTo_of_isName _ hhere]
        by_cases hentry : d.hasEntry (a ++ p ++ [part]) = true
        · exact .inl hentry
        · exact .inr ⟨p, part, [], rfl, ⟨hhere, Ne.symm hne⟩, hp, hentry⟩
    · exact .inr ⟨b, x, s ++ [part], by simp, hmissing⟩

/-- Where a path leads up to its last name, it leads, too, if that is a directory. -/
theorem reaches_of_upTo (h : d.Reaches (p.reverse.dropWhile isHere).reverse m)
    (hdir : d.find? m = some .directory) : d.Reaches p m := by
  have hnames := namesOf_after p
  have hup : ".." ∉ (p.reverse.takeWhile isHere).reverse := by
    intro hmem
    have hhere := namesOf_eq_nil_iff.mp hnames ".." hmem
    cases hhere
  have hway := way_down (l := m) hup (by simp [hnames]) (by simpa [hnames] using hdir)
  rw [hnames, List.append_nil] at hway
  have hreach := h.append hway
  rwa [upTo_append_after] at hreach

theorem upTo_of_reaches (h : d.Reaches p m) : d.Reaches (p.reverse.dropWhile isHere).reverse m := by
  rw [← upTo_append_after p] at h
  obtain ⟨m', hm', ⟨k, hway⟩, -⟩ := h.split
  rwa [hway.eq_of_namesOf (namesOf_after p)]

/-- A missing name in a directory: there is no entry at the path that goes on with it. -/
theorem find?_eq_none_of_not_hasEntry (h : d.Reaches p m) (hdir : d.find? m = some .directory)
    (haccepted : refusal? (p ++ [x]) = none) (hx : IsName x) (hsize : x.utf8ByteSize ≤ maxName)
    (hnot : d.hasEntry (p ++ [x]) ≠ true) : d.find? (m ++ [x]) = none := by
  by_contra hthere
  apply hnot
  rw [hasEntry, h.walk_name hdir haccepted hx, if_neg (Nat.not_lt.mpr hsize), if_neg]
  rwa [Option.isNone_iff_eq_none]

/-! ### Free names -/

/-- A walk that ends at a free name has come to a directory in which the name is free. -/
theorem walk_vacant (n : Nat) (l : Location) (p : List String)
    (h : d.walkFrom f n l p = .ok (.vacant m part)) :
    d.find? m = some .directory ∧ d.find? (m ++ [part]) = none := by
  match p with
  | [] =>
    rw [walkFrom_nil] at h
    cases h
  | next :: p =>
    have hdir := directory_of_walkFrom h
    cases step_of_walkFrom h with
    | here _ h => exact walk_vacant n l p h
    | up _ h => exact walk_vacant n l.dropLast p h
    | vacant _ _ he _ hplace =>
      cases hplace
      exact ⟨hdir, he⟩
    | down _ _ _ _ _ h => exact walk_vacant n (l ++ [next]) p h
    | last _ _ _ _ _ _ hplace => cases hplace
    | link _ _ target _ _ n' hn hlink =>
      subst hn
      exact walk_vacant n' (origin l target) (splitPath target ++ p) hlink
termination_by (n, p.length)

theorem vacant_of_walk (h : d.walk f p = .ok (.vacant m part)) :
    d.find? m = some .directory ∧ d.find? (m ++ [part]) = none := by
  rw [walk] at h
  split at h
  · cases h
  · exact walk_vacant _ _ _ h

/-! ### Directories that are added -/

theorem AddsDirectories.trans (h : AddsDirectories d d') (h' : AddsDirectories d' d'') :
    AddsDirectories d d'' := by
  intro l
  rcases h' l with hl' | ⟨hnone', hdir'⟩
  · rw [hl']
    exact h l
  · rcases h l with hl | ⟨-, hdir⟩
    · exact .inr ⟨hl.symm.trans hnone', hdir'⟩
    · rw [hnone'] at hdir
      cases hdir

theorem AddsDirectories.extend (h : AddsDirectories d d') : Extends d d' := by
  intro l e he
  rcases h l with hl | ⟨hnone, -⟩
  · exact .inl (hl.trans he)
  · rw [hnone] at he
    cases he

/-- What has become a directory, or was one, was one if it was there at all. -/
theorem Extends.directory_of_isSome (h : Extends d d') (hl : d'.find? l = some .directory)
    (hsome : (d.find? l).isSome) : d.find? l = some .directory := by
  obtain ⟨e, he⟩ := Option.isSome_iff_exists.mp hsome
  rcases h l e he with hl' | ⟨_, new, -, hl'⟩
  · rw [he, ← hl', hl]
  · rw [hl] at hl'
    cases hl'

/-- Where a path leads once directories have been made, though it has led nowhere before, there was
nothing before.  Both paths are parts of one that goes up nowhere. -/
theorem Paves.find?_of_new {path reached made whole : List String} {base : Location}
    (h : Paves d d' path reached made base) (hd : d.WellFormed) (hup : ".." ∉ whole)
    (hpath : path <+: whole) (hp : p <+: whole) (hold : ∀ m, ¬ d.Reaches p m)
    (hnew : d'.Reaches p m) : d.find? m = none := by
  have hreached : reached <+: whole :=
    ((List.prefix_append reached made).trans h.along).trans hpath
  rcases List.prefix_or_prefix_of_prefix hp hreached with ⟨t, ht⟩ | ⟨a, rfl⟩
  · have hreaches := h.reaches
    rw [← ht] at hreaches
    obtain ⟨m', hm', -⟩ := hreaches.split
    exact absurd hm' (hold m')
  cases made with
  | nil =>
    have hsame : Extends d' d := fun l e he => .inl (by
      rwa [← h.built.same l fun z hz halong => absurd (List.prefix_nil.mp halong) hz])
    exact absurd (hnew.extend hsame) (hold m)
  | cons x made =>
  cases a with
  | nil =>
    rw [List.append_nil] at hold
    exact absurd h.reaches (hold base)
  | cons y a =>
    -- The path goes on with the first of the new directories.
    obtain rfl : x = y := by
      obtain ⟨t, ht⟩ := h.along.trans hpath
      obtain ⟨t', ht'⟩ := hp
      rw [← ht', List.append_assoc, List.append_assoc] at ht
      exact (List.cons.inj (List.append_cancel_left ht)).1
    have hbreaks := h.breaksOff
    have hnothing : ∀ z, d.find? (base ++ x :: z) = none := by
      intro z
      rw [List.append_cons]
      exact hd.find?_append hbreaks.missing z
    have hnames : namesOf (x :: a) = x :: namesOf a := namesOf_cons_name hbreaks.name.1 a
    obtain ⟨base', hbase, ⟨k, hway⟩, -⟩ := hnew.split
    obtain rfl := hbase.unique (h.reaches.extend h.built.extend)
    have hlinks : ∀ z target, z ≠ [] → z <+: namesOf (x :: a) →
        d'.find? (base' ++ z) ≠ some (.link target) := by
      intro z target hz hprefix
      obtain ⟨y, z, rfl⟩ := List.exists_cons_of_ne_nil hz
      rw [hnames] at hprefix
      obtain ⟨rfl, -⟩ := List.cons_prefix_cons.mp hprefix
      rcases h.built.addsDirectories (base' ++ y :: z) with hsame | ⟨-, hdir⟩
      · rw [hsame, hnothing]
        simp
      · rw [hdir]
        simp
    rw [hway.eq_append_of_noLink (fun hmem => hup (hp.subset (List.mem_append_right _ hmem))) hlinks,
      hnames]
    exact hnothing _

/-- A well-formed disk to which directories have been added. -/
structure Grown (d d' : Disk) : Prop where
  wellFormed : d'.WellFormed
  adds : AddsDirectories d d'

theorem Grown.refl (hd : d.WellFormed) : Grown d d :=
  ⟨hd, addsDirectories_refl d⟩

theorem Grown.trans (h : Grown d d') (h' : Grown d' d'') : Grown d d'' :=
  ⟨h'.wellFormed, h.adds.trans h'.adds⟩

theorem makeDirectory_grown (hd : d.WellFormed) (p : List String) :
    Grown d (d.makeDirectory p).1 := by
  cases hmake : d.makeDirectory p with
  | mk d' res =>
  rcases makeDirectory_cases hmake with ⟨rfl, -⟩ | ⟨m, part, -, hwalk, rfl, -⟩
  · exact Grown.refl hd
  · obtain ⟨hdir, hnone⟩ := vacant_of_walk hwalk
    have hne : m ++ [part] ≠ [] := by simp
    refine ⟨hd.put hne ?_ ?_ _, fun l => ?_⟩
    · rwa [List.dropLast_concat]
    · rw [hnone]
      simp
    · rw [find?_put hne]
      split_ifs with hl
      · exact .inr ⟨hl ▸ hnone, rfl⟩
      · exact .inl rfl

theorem ensureDirectory_grown (hd : d.WellFormed) (p : List String) :
    Grown d (d.ensureDirectory p).1 := by
  have hmake := makeDirectory_grown hd p
  unfold ensureDirectory
  split
  · next h => rwa [h] at hmake
  · next h =>
    rw [h] at hmake
    split_ifs <;> exact hmake

/-- **Making directories**, whether it goes well or not, only adds directories. -/
theorem ensureUpwards_grown (hd : d.WellFormed) (paths : List (List String)) :
    Grown d (d.ensureUpwards paths).1 := by
  induction paths generalizing d with
  | nil => exact Grown.refl hd
  | cons p above ih =>
    have hmake := makeDirectory_grown hd p
    rw [ensureUpwards]
    split
    · next d₁ h =>
      rw [h] at hmake
      have habove := hmake.trans (ih hmake.wellFormed)
      split
      · next d₂ h₂ =>
        rw [h₂] at habove
        exact habove.trans (ensureDirectory_grown habove.wellFormed p)
      · next d₂ _ h₂ => rwa [h₂] at habove
    · next h => rwa [h] at hmake
    · next h =>
      rw [h] at hmake
      split_ifs <;> exact hmake

/-! ### Files that are written -/

/-- Disks that differ in one file, which is in the place of another one or of nothing; all else that
is new are directories. -/
structure Written (d d' : Disk) (l : Location) (content : ByteArray) : Prop where
  file : d'.find? l = some (.file content)
  before : d.find? l = none ∨ ∃ old, d.find? l = some (.file old)
  others : ∀ m, m ≠ l → d'.find? m = d.find? m ∨ d.find? m = none ∧ d'.find? m = some .directory

variable {bytes content : ByteArray}

/-- Where only directories are new, there are the same files. -/
theorem AddsDirectories.file_iff (h : AddsDirectories d d') :
    d'.find? m = some (.file bytes) ↔ d.find? m = some (.file bytes) := by
  rcases h m with hsame | ⟨hnone, hdir⟩
  · rw [hsame]
  · rw [hnone, hdir]
    simp

/-- Directories may be added before. -/
theorem AddsDirectories.written (h : AddsDirectories d d') (h' : Written d' d'' l content) :
    Written d d'' l content := by
  refine ⟨h'.file, ?_, fun m hm => ?_⟩
  · rcases h l with hsame | ⟨hnone, -⟩
    · rw [← hsame]
      exact h'.before
    · exact .inl hnone
  · rcases h'.others m hm with hsame | ⟨hnone, hdir⟩
    · rw [hsame]
      exact h m
    · exact .inr ⟨h.extend.eq_none hnone, hdir⟩

namespace Written

theorem extend (h : Written d d' l content) : Extends d d' := by
  intro m e he
  by_cases hm : m = l
  · subst hm
    rcases h.before with hnone | ⟨old, hold⟩
    · rw [hnone] at he
      cases he
    · rw [hold] at he
      exact .inr ⟨old, content, (Option.some.inj he).symm, h.file⟩
  · rcases h.others m hm with hsame | ⟨hnone, -⟩
    · exact .inl (hsame.trans he)
    · rw [hnone] at he
      cases he

/-- No other file is changed, made or removed. -/
theorem file_iff (h : Written d d' l content) (hm : m ≠ l) :
    d'.find? m = some (.file bytes) ↔ d.find? m = some (.file bytes) := by
  rcases h.others m hm with hsame | ⟨hnone, hdir⟩
  · rw [hsame]
  · rw [hnone, hdir]
    simp

/-- There are no new links. -/
theorem link (h : Written d d' l content) {target : String}
    (hm : d'.find? m = some (.link target)) : d.find? m = some (.link target) := by
  by_cases hml : m = l
  · rw [hml, h.file] at hm
    cases hm
  · rcases h.others m hml with hsame | ⟨-, hdir⟩
    · rw [← hsame, hm]
    · rw [hdir] at hm
      cases hm

/-- Past the first name at which there was no entry, all on the way to the file is new, so the way
goes down without a link. -/
theorem eq_append (h : Written d d' l content) (hd : d.WellFormed) {s : List String}
    (hl : d'.locate (a ++ x :: s) = .ok l) (ha : d.Reaches (a.reverse.dropWhile isHere).reverse m)
    (hx : IsName x) (hmissing : d.hasEntry (a ++ [x]) ≠ true) (hup : ".." ∉ x :: s) :
    l = m ++ namesOf (x :: s) := by
  obtain ⟨haccepted, hreach⟩ := locate_eq_ok_iff.mp hl
  obtain ⟨m', hm', ⟨k, hway⟩, hdir'⟩ := hreach.split
  obtain rfl := (upTo_of_reaches hm').unique (ha.extend h.extend)
  have hdir : d.find? m' = some .directory := by
    refine h.extend.directory_of_isSome (hdir' (List.cons_ne_nil _ _)) ?_
    obtain ⟨k, -, hway⟩ := ha
    exact hway.isSome hd rfl
  have hvacant : d.find? (m' ++ [x]) = none := by
    refine find?_eq_none_of_not_hasEntry (reaches_of_upTo ha hdir) hdir ?_ hx
      (hway.size_le hx) hmissing
    rw [List.append_cons] at haccepted
    exact refusal?_of_append haccepted
  refine hway.eq_append_of_noLink hup fun z target hz hprefix hlink => ?_
  obtain ⟨y, z, rfl⟩ := List.exists_cons_of_ne_nil hz
  rw [namesOf_cons_name hx.1] at hprefix
  obtain ⟨rfl, -⟩ := List.cons_prefix_cons.mp hprefix
  have hold := h.link hlink
  rw [List.append_cons, hd.find?_append hvacant] at hold
  cases hold

end Written

/-- **A file is written** where a path leads or where its last name is free: nothing else changes,
and the path leads to it. -/
theorem writeFile_frame {ending : Ending} {res : Except SystemError Unit} (hd : d.WellFormed)
    (hending : namesOf ending.parts = []) (h : d.writeFile p ending content = (d', res)) :
    (d' = d ∧ res ≠ .ok ()) ∨
      (res = .ok () ∧ ending.parts = [] ∧ d'.WellFormed ∧
        ∃ l, d'.locate p = .ok l ∧ Written d d' l content) := by
  rcases writeFile_cases hending h with hfailed | ⟨hres, hend, l, hput, hwalk⟩
  · exact .inl hfailed
  right
  have hleads := locate_put hwalk content
  rw [← hput] at hleads
  -- In both cases the directory of the file is there.
  have hplace : l ≠ [] ∧ d.find? l.dropLast = some .directory ∧
      (d.find? l = none ∨ ∃ old, d.find? l = some (.file old)) := by
    rcases hwalk with ⟨m, name, hwalk, rfl⟩ | ⟨-, old, hold⟩
    · obtain ⟨hdir, hnone⟩ := vacant_of_walk hwalk
      refine ⟨by simp, ?_, .inl hnone⟩
      rwa [List.dropLast_concat]
    · have hne := ne_nil_of_file hold
      refine ⟨hne, hd.parent l hne ?_, .inr ⟨old, hold⟩⟩
      rw [hold]
      rfl
  obtain ⟨hne, hdir, hbefore⟩ := hplace
  have hnot : d.find? l ≠ some .directory := by
    rcases hbefore with hnone | ⟨old, hold⟩
    · rw [hnone]
      simp
    · rw [hold]
      simp
  subst hput
  refine ⟨hres, hend, hd.put hne hdir hnot _, l, hleads, ?_, hbefore, fun m hm => .inl ?_⟩
  · rw [find?_put hne, if_pos rfl]
  · rw [find?_put hne, if_neg (Ne.symm hm)]

end Colloquy.Files.Disk
