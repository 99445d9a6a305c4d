import Colloquy.Proofs.Workspace.Frame

/-!
# Where new directories are

A write makes directories on the path of its name and nowhere else, each under a path that is not
refused, since otherwise it could not have been made.  With links on the way the path that leads to a
directory from the root without them may still be a longer one.

* `ensureUpwards_newAlong`: what is new after directories have been made is where one of the paths
  leads that they were made for;
* `Root.exists_path_of_new`: a new directory is on the path of the name that was written.
-/

namespace Colloquy.Files.Disk

variable {d d' d'' : Disk} {l m : Location} {p : List String} {paths : List (List String)}
  {part : String} {u : List String}

/-! ### Paths above a path -/

theorem along_of_mem_upwards (h : p ∈ upwards u) : p <+: u.reverse := by
  induction u with
  | nil =>
    rw [upwards, List.mem_singleton] at h
    rw [h]
    exact List.nil_prefix
  | cons part u ih =>
    rw [List.reverse_cons]
    rw [upwards] at h
    split_ifs at h with hpart
    · exact (ih h).trans (List.prefix_append ..)
    · rcases List.mem_cons.mp h with rfl | h
      · rw [List.reverse_cons]
      · exact (ih h).trans (List.prefix_append ..)

/-- The paths above a path are what it starts with. -/
theorem along_of_mem_ancestors {path : List String} (h : p ∈ ancestors path) : p <+: path := by
  rcases List.mem_cons.mp h with rfl | h
  · exact List.prefix_rfl
  · have halong := along_of_mem_upwards (List.mem_of_mem_tail h)
    rwa [List.reverse_reverse] at halong

theorem withoutSlash_along (p : List String) : withoutSlash p <+: p :=
  List.reverse_suffix.mp (by
    rw [withoutSlash, List.reverse_reverse]
    exact List.dropWhile_suffix _)

/-! ### Free names -/

/-- A free name that a walk ends at is the last part of its path, if a link at the end would not have
been followed. -/
theorem exists_of_walk_vacant (h : d.walk false p = .ok (.vacant m part)) :
    ∃ q, p = q ++ [part] ∧ IsName part ∧ part.utf8ByteSize ≤ maxName ∧ d.Reaches q m ∧
      d.find? m = some .directory := by
  -- The case is told by the last part: none, a dot, two dots or a name.
  rcases List.eq_nil_or_concat p with rfl | ⟨q, last, rfl⟩
  · rw [walk, show refusal? [] = none from rfl] at h
    dsimp only at h
    rw [walkFrom_nil] at h
    cases h
  rw [List.concat_eq_append] at h ⊢
  cases hhere : isHere last with
  | true =>
    have hnames : namesOf [last] = [] := namesOf_cons_here hhere []
    obtain ⟨_, hplace, -⟩ := exists_of_walk_here h hnames (List.cons_ne_nil _ _)
    cases hplace
  | false =>
    by_cases hup : last = ".."
    · subst hup
      obtain ⟨-, n, m', -, hrest⟩ := exists_reaches h (List.cons_ne_nil _ _)
      rw [walkFrom_cons (directory_of_walkFrom hrest), if_neg (by decide), if_pos rfl,
        walkFrom_nil] at hrest
      cases hrest
    · have hname : IsName last := ⟨hhere, hup⟩
      obtain ⟨-, m', hm', hdir, hsize, hfree, hthere⟩ := walk_name_cases h hname
      by_cases hnone : d.find? (m' ++ [last]) = none
      · cases hfree hnone
        exact ⟨q, rfl, hname, hsize, hm', hdir⟩
      · -- Something is there, so the place is not vacant.
        cases hthere rfl hnone

/-! ### What is new -/

/-- All that is new is where one of some paths leads, which is not refused. -/
def NewAlong (d d' : Disk) (paths : List (List String)) : Prop :=
  ∀ l, d'.find? l ≠ d.find? l → ∃ p ∈ paths, refusal? p = none ∧ d'.Reaches (withoutSlash p) l

theorem NewAlong.refl (d : Disk) : NewAlong d d paths :=
  fun _ h => absurd rfl h

theorem NewAlong.trans (h : NewAlong d d' paths) (h' : NewAlong d' d'' paths)
    (hext : Extends d' d'') : NewAlong d d'' paths := by
  intro l hl
  by_cases hsame : d''.find? l = d'.find? l
  · obtain ⟨p, hp, haccepted, hreach⟩ := h l (hsame ▸ hl)
    exact ⟨p, hp, haccepted, hreach.extend hext⟩
  · exact h' l hsame

theorem NewAlong.mono {more : List (List String)} (h : NewAlong d d' paths)
    (hsub : ∀ p ∈ paths, p ∈ more) : NewAlong d d' more := by
  intro l hl
  obtain ⟨p, hp, hrest⟩ := h l hl
  exact ⟨p, hsub p hp, hrest⟩

/-- A directory is made where its path leads then. -/
theorem makeDirectory_newAlong (hd : d.WellFormed) (hp : p ∈ paths) :
    NewAlong d (d.makeDirectory p).1 paths := by
  have hext := (makeDirectory_grown hd p).adds.extend
  cases hmake : d.makeDirectory p with
  | mk d' res =>
  rw [hmake] at hext
  rcases makeDirectory_cases hmake with ⟨rfl, -⟩ | ⟨m, part, haccepted, hwalk, rfl, -⟩
  · exact .refl d'
  · obtain ⟨q, hq, hname, hsize, hreach, hdir⟩ := exists_of_walk_vacant hwalk
    have hnew : (d.put (m ++ [part]) .directory).find? (m ++ [part]) = some .directory :=
      (find?_put (by simp)).trans (if_pos rfl)
    intro l hl
    rw [find?_put (by simp)] at hl
    split_ifs at hl with hthere
    · subst hthere
      refine ⟨p, hp, haccepted, ?_⟩
      rw [hq]
      exact (hreach.extend hext).append (way_directory (hext.directory hdir) hname hsize hnew)
    · exact absurd rfl hl

theorem ensureDirectory_newAlong (hd : d.WellFormed) (hp : p ∈ paths) :
    NewAlong d (d.ensureDirectory p).1 paths := by
  have hmake := makeDirectory_newAlong hd hp
  unfold ensureDirectory
  split
  · next h => rwa [h] at hmake
  · next h =>
    rw [h] at hmake
    split_ifs <;> exact hmake

/-- **What is new** after directories have been made, whether that went well or not, is where one of
their paths leads. -/
theorem ensureUpwards_newAlong (hd : d.WellFormed) (paths : List (List String)) :
    NewAlong d (d.ensureUpwards paths).1 paths := by
  -- The path itself is tried first, then those above it, and then the path once more.
  induction paths generalizing d with
  | nil => exact .refl d
  | cons p above ih =>
    have hmake := makeDirectory_newAlong hd (List.mem_cons_self (a := p) (l := above))
    have hgrown := makeDirectory_grown hd p
    rw [ensureUpwards]
    split
    · next d₁ h =>
      rw [h] at hmake hgrown
      have hgrown' := ensureUpwards_grown hgrown.wellFormed above
      have habove := hmake.trans
        ((ih hgrown.wellFormed).mono fun _ => List.mem_cons_of_mem p) hgrown'.adds.extend
      split
      · next d₂ h₂ =>
        rw [h₂] at habove hgrown'
        exact habove.trans (ensureDirectory_newAlong hgrown'.wellFormed (List.mem_cons_self ..))
          (ensureDirectory_grown hgrown'.wellFormed p).adds.extend
      · next d₂ _ h₂ => rwa [h₂] at habove
    · next h => rwa [h] at hmake
    · next h =>
      rw [h] at hmake
      split_ifs <;> exact hmake

/-- Writing a file makes no directory. -/
theorem directory_of_writeFile {ending : Ending} {content : ByteArray}
    {res : Except SystemError Unit} (hending : namesOf ending.parts = [])
    (h : d.writeFile p ending content = (d', res)) (hl : d'.find? l = some .directory) :
    d.find? l = some .directory := by
  rcases writeFile_cases hending h with ⟨rfl, -⟩ | ⟨-, -, m, rfl, -⟩
  · exact hl
  · by_cases hm : m = []
    · rwa [put, if_pos hm] at hl
    · rw [find?_put hm] at hl
      split_ifs at hl with hthere
      · cases hl
      · exact hl

end Colloquy.Files.Disk

namespace Colloquy.Workspace

open Files Files.Disk

variable {r : Root} {d : Disk} {l : Location} {name content : String}

/-- **A new directory** is on the path of the name that has been written, as far as that is not
refused. -/
theorem Root.exists_path_of_new (hd : d.WellFormed)
    (hdir : (r.write d name content).1.find? l = some .directory)
    (hnew : d.find? l ≠ some .directory) :
    ∃ n p, r.resolve d name = .ok n ∧ p <+: r.wholePathOf n ∧ refusal? p = none ∧
      (r.write d name content).1.Reaches p l := by
  rw [Root.write] at hdir ⊢
  cases hres : r.resolve d name with
  | error e =>
    rw [hres] at hdir
    exact absurd hdir hnew
  | ok n =>
    have hproper := Name.proper_of_read? (Root.resolve_eq_ok_iff.mp hres).1
    have hnewAlong := ensureUpwards_newAlong hd (Files.ancestors (r.wholePathOf n)).tail
    have hgrown := ensureUpwards_grown hd (Files.ancestors (r.wholePathOf n)).tail
    rw [hres] at hdir
    dsimp only at hdir ⊢
    cases hensure : d.ensureUpwards (Files.ancestors (r.wholePathOf n)).tail with
    | mk d₁ made =>
    rw [hensure] at hnewAlong hgrown hdir
    -- It is enough to look at the disk on which the directories have been made.
    have hmade : d₁.find? l = some .directory →
        ∃ p, p <+: r.wholePathOf n ∧ refusal? p = none ∧ d₁.Reaches p l := by
      intro hdir₁
      obtain ⟨p, hp, haccepted, hreach⟩ := hnewAlong l fun hsame => hnew (hsame ▸ hdir₁)
      have halong := withoutSlash_along p
      refine ⟨withoutSlash p, halong.trans (along_of_mem_ancestors (List.mem_of_mem_tail hp)),
        refusal?_of_sublist halong.sublist haccepted, hreach⟩
    cases made with
    | error e =>
      obtain ⟨p, hp⟩ := hmade hdir
      exact ⟨n, p, rfl, hp⟩
    | ok =>
      dsimp only at hdir ⊢
      cases hwrite : d₁.writeFile (r.pathOf n) n.ending content.toUTF8 with
      | mk d₂ written =>
      rw [hwrite] at hdir
      obtain ⟨hext, hback⟩ : Extends d₁ d₂ ∧
          (d₂.find? l = some .directory → d₁.find? l = some .directory) := by
        rcases writeFile_frame hgrown.wellFormed hproper.ending hwrite with
          ⟨rfl, -⟩ | ⟨-, -, -, m, -, hw⟩
        · exact ⟨fun _ _ h => .inl h, id⟩
        · exact ⟨hw.extend, directory_of_writeFile hproper.ending hwrite⟩
      cases written with
      | error e =>
        obtain ⟨p, halong, haccepted, hreach⟩ := hmade (hback hdir)
        exact ⟨n, p, rfl, halong, haccepted, hreach.extend hext⟩
      | ok =>
        obtain ⟨p, halong, haccepted, hreach⟩ := hmade (hback hdir)
        exact ⟨n, p, rfl, halong, haccepted, hreach.extend hext⟩

end Colloquy.Workspace
