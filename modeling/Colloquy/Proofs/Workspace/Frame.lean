import Colloquy.Proofs.Files.Frame
import Colloquy.Proofs.Workspace.Saving

/-!
# What a write leaves alone

A write that goes well sets one file and otherwise only adds directories, whatever the root is.  If
the root is there already, or its path goes up nowhere, the name of the file is taken afterwards and
leads to it.

* `Root.write_frame`: what a write does to the disk;
* `Root.write_of_breaksOff`: what it does if only the directory of the file is missing;
* `Root.written_below`: under a root that is there, a file is written below the root, even if the
  path of the root goes up;
* `Root.inside_of_write`: after a write that has gone well the file is below the root;
* `Root.find?_of_new_root`: where a root is made on the way, there was nothing before.
-/

namespace Colloquy.Workspace

open Files Files.Disk

variable {r : Root} {d d' : Disk} {n : Name} {c l m : Location} {p : List String}
  {part x name content : String} {bytes : ByteArray}

/-! ### Writing -/

/-- **A write**, whether it goes well or not, and whatever the root is.  If it goes wrong, all that
it has done is to add directories; if it goes well, the path of its name leads to the file. -/
theorem Root.write_frame (r : Root) (hd : d.WellFormed) (name content : String) :
    let d' := (r.write d name content).1
    d'.WellFormed ∧
    (∀ e, (r.write d name content).2 = .error e → AddsDirectories d d') ∧
    ((r.write d name content).2 = .ok () → ∃ n l, r.resolve d name = .ok n ∧
      n.ending.parts = [] ∧ d'.locate (r.wholePathOf n) = .ok l ∧
      Written d d' l content.toUTF8) := by
  rw [Root.write]
  cases hres : r.resolve d name with
  | error e =>
    refine ⟨hd, fun _ _ => addsDirectories_refl d, fun hok => ?_⟩
    cases hok
  | ok n =>
    have hproper := Name.proper_of_read? (Root.resolve_eq_ok_iff.mp hres).1
    -- Making the directories only adds directories, and the write changes one file after that.
    have hgrown := ensureUpwards_grown hd (Files.ancestors (r.wholePathOf n)).tail
    dsimp only
    cases hensure : d.ensureUpwards (Files.ancestors (r.wholePathOf n)).tail with
    | mk d₁ made =>
    rw [hensure] at hgrown
    cases made with
    | error e =>
      refine ⟨hgrown.wellFormed, fun _ _ => hgrown.adds, fun hok => ?_⟩
      cases hok
    | ok =>
      dsimp only
      cases hwrite : d₁.writeFile (r.pathOf n) n.ending content.toUTF8 with
      | mk d₂ written =>
      rcases writeFile_frame hgrown.wellFormed hproper.ending hwrite with
        ⟨rfl, hfailed⟩ | ⟨rfl, hending, hd₂, l, hl, hw⟩
      · cases written with
        | error e =>
          refine ⟨hgrown.wellFormed, fun _ _ => hgrown.adds, fun hok => ?_⟩
          cases hok
        | ok => exact absurd rfl hfailed
      · have hwhole : r.wholePathOf n = r.pathOf n := by
          rw [Root.wholePathOf, hending, List.append_nil]
        refine ⟨hd₂, fun _ he => ?_, fun _ =>
          ⟨n, l, rfl, hending, hwhole ▸ hl, hgrown.adds.written hw⟩⟩
        cases he

/-! ### Writing into a new directory -/

/-- A name is taken if its path breaks off in a directory below the root. -/
theorem Root.confines_of_breaksOff {q s : List String}
    (hr : r.unnamed = false) (hwhole : r.wholePathOf n = r.front ++ q ++ part :: s)
    (hb : BreaksOff d (r.front ++ q) part m) (haccepted : refusal? (r.front ++ q) = none)
    (hinside : r.Inside d m) : r.confines d n = true := by
  obtain ⟨c, hc, hcm⟩ := hinside
  have hroot : namesOf r.path <+: namesOf (r.front ++ q) := by
    rw [namesOf_append, r.namesOf_front]
    exact List.prefix_append ..
  -- The first path above that there is an entry at is the one that leads to the directory.
  have hreach := upTo_of_reaches hb.reaches
  have hupTo : refusal? ((r.front ++ q).reverse.dropWhile isHere).reverse = none := by
    rw [← upTo_append_after (r.front ++ q)] at haccepted
    exact refusal?_of_append haccepted
  rw [Root.confines, Root.find?_ancestors hr hwhole hroot hb.name.1 (fun _ => hb.not_hasEntry)
    (hreach.hasEntry hupTo)]
  dsimp only
  rw [locate_eq_ok_iff.mpr ⟨hupTo, hreach⟩, Root.real_of_locate hr hc]
  exact List.isPrefixOf_iff_prefix.mpr hcm

/-- **A write whose directory is missing**, in a directory below the root, makes it and the file in
it. -/
theorem Root.write_of_breaksOff {q : List String} {last : String} (hd : d.WellFormed)
    (hr : r.unnamed = false) (hread : Name.read? name = some ⟨q ++ [part, last], .name⟩)
    (hb : BreaksOff d (r.front ++ q) part m) (hinside : r.Inside d m) (hlast : IsName last)
    (haccepted : refusal? (r.front ++ q ++ [part, last]) = none)
    (hsize : part.utf8ByteSize ≤ maxName) (hsize' : last.utf8ByteSize ≤ maxName) :
    r.write d name content = ((d.put (m ++ [part]) .directory).put (m ++ [part] ++ [last])
      (.file content.toUTF8), .ok ()) := by
  have hwhole : r.wholePathOf ⟨q ++ [part, last], .name⟩ = r.front ++ q ++ [part, last] := by
    simp [Root.wholePathOf, Root.pathOf, Ending.name]
  have hpath : r.pathOf ⟨q ++ [part, last], .name⟩ = r.front ++ q ++ [part] ++ [last] := by
    simp [Root.pathOf]
  have haccepted' : refusal? (r.front ++ q ++ [part]) = none := by
    rw [← List.singleton_append, ← List.append_assoc] at haccepted
    exact refusal?_of_append haccepted
  -- The directory is made at once, for all that is above it is there.
  have hmade := hb.makeDirectory haccepted' hsize
  have hgrown := makeDirectory_grown hd (r.front ++ q ++ [part])
  rw [hmade] at hgrown
  have hnew : (d.put (m ++ [part]) .directory).find? (m ++ [part]) = some .directory :=
    (find?_put (by simp)).trans (if_pos rfl)
  have hensure : d.ensureUpwards (Files.ancestors (r.front ++ q ++ [part, last])).tail =
      (d.put (m ++ [part]) .directory, .ok ()) := by
    have habove : upwards (r.front ++ q ++ [part]).reverse =
        (r.front ++ q ++ [part]) :: upwards (r.front ++ q).reverse := by
      rw [List.reverse_append, List.reverse_singleton, List.singleton_append, upwards,
        if_neg (by rw [hb.name.1]; decide), List.reverse_cons, List.reverse_reverse]
    rw [← List.singleton_append, ← List.append_assoc, tail_ancestors hlast.1 rfl, habove,
      ensureUpwards, hmade]
  have hbelow : BreaksOff (d.put (m ++ [part]) .directory) (r.front ++ q ++ [part]) last
      (m ++ [part]) := by
    have hext := hgrown.adds.extend
    have hway := way_directory (hext.directory hb.directory) hb.name hsize hnew
    refine ⟨(hb.reaches.extend hext).append hway, hnew, hlast, ?_⟩
    rw [find?_put (by simp), if_neg (by simp), hd.find?_append hb.missing]
  have hwritten : (d.put (m ++ [part]) .directory).writeFile (r.front ++ q ++ [part] ++ [last])
      .name content.toUTF8 = ((d.put (m ++ [part]) .directory).put (m ++ [part] ++ [last])
        (.file content.toUTF8), .ok ()) :=
    hbelow.writeFile (by rwa [List.append_assoc _ [part]]) hsize'
  rw [Root.write, Root.resolve_eq_ok_iff.mpr ⟨hread, Root.confines_of_breaksOff hr hwhole hb
    (refusal?_of_append haccepted) hinside⟩]
  dsimp only
  rw [hwhole, hensure]
  dsimp only
  rw [hpath, hwritten]

/-! ### Where a written file is -/

/-- There is an entry at the front of a root that is there. -/
theorem Root.hasEntry_front (hc : d.locate r.path = .ok c) :
    d.hasEntry (r.front.reverse.dropWhile isHere).reverse = true := by
  obtain ⟨haccepted, hreach⟩ := locate_eq_ok_iff.mp hc
  obtain ⟨t, ht⟩ := r.front_along
  rw [← ht] at haccepted hreach
  obtain ⟨m, hm, -⟩ := hreach.split
  refine (upTo_of_reaches hm).hasEntry ?_
  rw [← upTo_append_after r.front, List.append_assoc] at haccepted
  exact refusal?_of_append haccepted

/-- **A file is written below the root** if the root is there, wherever its path leads: the first of
the paths above the file that there was an entry at leads to below the root, and from there the way
to the file goes down without a link, since all on it is new. -/
theorem Root.written_below (hd : d.WellFormed) (hr : r.unnamed = false)
    (hc : d.locate r.path = .ok c) (hres : r.resolve d name = .ok n)
    (hending : n.ending.parts = []) (hl : d'.locate (r.wholePathOf n) = .ok l)
    (hw : Written d d' l bytes) : c <+: l := by
  have h := Root.admits_of_resolve hr hres
  have hreal : r.real d = c := Root.real_of_locate hr hc
  by_cases hentry : d.hasEntry (r.wholePathOf n) = true
  · obtain ⟨l', hl', hbelow⟩ := Root.confines_entry h hentry
    have hsame : l' = l := Except.ok.inj ((hw.extend.locate hl').symm.trans hl)
    rwa [← hsame, ← hreal]
  have hwhole : r.wholePathOf n = r.front ++ n.parts := by
    rw [r.wholePathOf_eq, hending, List.append_nil]
  have hup : ".." ∉ n.parts := fun hmem => h.proper.up (List.mem_append_left _ hmem)
  -- There is an entry at the front of the root, so there is a first name at which there is none.
  obtain ⟨b, x, s, hparts, hx, hb, hmissing⟩ :
      ∃ b x s, n.parts = b ++ x :: s ∧ IsName x ∧
        d.hasEntry ((r.front ++ b).reverse.dropWhile isHere).reverse = true ∧
        d.hasEntry (r.front ++ b ++ [x]) ≠ true := by
    refine (exists_first_missing hup (Root.hasEntry_front hc)).resolve_left fun hall => hentry ?_
    obtain ⟨init, last, hlast, hname⟩ := h.proper.last fun hnil =>
      h.proper.nonempty (by rw [hnil, hending]; rfl)
    rw [hlast, ← List.append_assoc, upTo_of_isName _ hname.1] at hall
    rwa [hwhole, hlast, ← List.append_assoc]
  have hsplit : r.wholePathOf n = r.front ++ b ++ x :: s := by
    rw [hwhole, hparts, List.append_assoc]
  have hbelow : namesOf r.path <+: namesOf (r.front ++ b) := by
    rw [namesOf_append, r.namesOf_front]
    exact List.prefix_append ..
  have hnone : ∀ z, d.hasEntry (r.front ++ b ++ x :: z) ≠ true := by
    intro z hthere
    rw [List.append_cons] at hthere
    exact hmissing (hasEntry_of_append hthere)
  obtain ⟨top, htop, hctop⟩ := Root.exists_of_find? h.confines
    (Root.find?_ancestors hr hsplit hbelow hx.1 hnone hb)
  obtain ⟨-, htop⟩ := locate_eq_ok_iff.mp htop
  rw [hsplit] at hl
  have hdown : l = top ++ namesOf (x :: s) := by
    refine hw.eq_append hd hl htop hx hmissing fun hmem => hup ?_
    rw [hparts]
    exact List.mem_append_right _ hmem
  rw [hdown, ← hreal]
  exact hctop.trans (List.prefix_append ..)

/-- Where a path leads, a name that has the path leads, if that is below the root or there is nothing
to be below. -/
theorem Root.locate?_of_locate (hread : Name.read? name = some n)
    (hl : d.locate (r.wholePathOf n) = .ok l) (h : r.unnamed = true ∨ r.Inside d l) :
    r.locate? d name = some l := by
  cases hr : r.unnamed with
  | true =>
    have hconfines := Root.confines_unnamed hr hl
    exact Root.locate?_eq_some_iff.mpr ⟨n, Root.resolve_eq_ok_iff.mpr ⟨hread, hconfines⟩, hl⟩
  | false =>
    have hinside := h.resolve_left (by rw [hr]; exact Bool.false_ne_true)
    exact Root.locate?_of_inside hr hread hl hinside

/-- The root has no name of its own, or it is there, or its path goes up nowhere. -/
def Root.Sane (r : Root) (d : Disk) : Prop :=
  r.unnamed = true ∨ (∃ c, d.locate r.path = .ok c) ∨ ".." ∉ r.path

/-- The file that a write has gone well for is below the root. -/
theorem Root.inside_of_write (hd : d.WellFormed) (hroot : r.Sane d)
    (hok : (r.write d name content).2 = .ok ()) (hres : r.resolve d name = .ok n)
    (hending : n.ending.parts = [])
    (hl : (r.write d name content).1.locate (r.wholePathOf n) = .ok l)
    (hw : Written d (r.write d name content).1 l bytes) :
    r.unnamed = true ∨ r.Inside (r.write d name content).1 l := by
  cases hr : r.unnamed with
  | true => exact .inl rfl
  | false =>
    right
    by_cases hthere : ∃ c, d.locate r.path = .ok c
    · obtain ⟨c, hc⟩ := hthere
      exact ⟨c, hw.extend.locate hc, Root.written_below hd hr hc hres hending hl hw⟩
    · -- A sane root that is missing goes up nowhere, so the course of the write is known.
      have hup : ".." ∉ r.path := by
        rcases hroot with hunnamed | hroot
        · rw [hr] at hunnamed
          cases hunnamed
        · exact hroot.resolve_left hthere
      obtain ⟨-, -, hsaved⟩ := Root.write_course hd hr hup name content
      obtain ⟨l', hl'⟩ := hsaved hok
      obtain ⟨n', hres', hleads, -⟩ := hl'.named
      obtain rfl : n' = n := Except.ok.inj (hres'.symm.trans hres)
      have hsame : l' = l := Except.ok.inj (hleads.symm.trans hl)
      exact hsame ▸ hl'.inside

/-! ### Roots that are made -/

/-- A front that leads where the root is once directories have been made is the root already. -/
theorem Root.not_reaches_front (hd : d.WellFormed) (hext : Extends d d')
    (hmissing : ∀ c, d.locate r.path ≠ .ok c) (hc : d'.locate r.path = .ok c) (m : Location) :
    ¬ d.Reaches r.front m := by
  intro hm
  obtain ⟨haccepted, hreach⟩ := locate_eq_ok_iff.mp hc
  have hroot : d.Reaches r.path m := by
    rcases r.path_eq with h | h
    · rwa [h]
    · rw [h] at hreach ⊢
      obtain ⟨m', hm', -, hdir⟩ := hreach.split
      obtain rfl := hm'.unique (hm.extend hext)
      have hdir' : d.find? m' = some .directory := by
        refine hext.directory_of_isSome (hdir (List.cons_ne_nil _ _)) ?_
        obtain ⟨k, -, hway⟩ := hm
        exact hway.isSome hd rfl
      exact hm.append (.here hdir' rfl (.stop m'))
  exact hmissing m (locate_eq_ok_iff.mpr ⟨haccepted, hroot⟩)

/-- Once the directories have been made that a file lies in, the root is there. -/
theorem Root.exists_locate_of_paves {a reached made : List String} {base : Location}
    (h : Paves d d' (r.front ++ a) reached made base) (hup : ".." ∉ r.front ++ a)
    (hmade : namesOf (reached ++ made) = namesOf (r.front ++ a))
    (haccepted : refusal? (r.front ++ (a ++ [part])) = none) : ∃ m, d'.locate r.path = .ok m := by
  obtain ⟨-, -, -, -, hreach⟩ := h.reaches_path hup hmade
  have hbase := h.built.directory (z := namesOf made) List.prefix_rfl
  obtain ⟨m, hm, ⟨k, hway⟩, hdir⟩ := hreach.split
  have hmdir : d'.find? m = some .directory := by
    by_cases ha : a = []
    · rw [ha] at hway
      rwa [hway.eq_of_namesOf rfl] at hbase
    · exact hdir ha
  obtain ⟨y, ys, hys⟩ := List.exists_cons_of_ne_nil (l := a ++ [part]) (by simp)
  rw [hys] at haccepted
  exact ⟨m, Root.locate_of_front hm hmdir haccepted⟩

/-- **A new root**: where the root is after a write, though it was nowhere before, there was
nothing. -/
theorem Root.find?_of_new_root (hd : d.WellFormed) (hr : r.unnamed = false)
    (hroot : ".." ∉ r.path) (hmissing : ∀ c, d.locate r.path ≠ .ok c)
    (hc : (r.write d name content).1.locate r.path = .ok c) : d.find? c = none := by
  rw [Root.write] at hc
  cases hres : r.resolve d name with
  | error e =>
    rw [hres] at hc
    exact absurd hc (hmissing c)
  | ok n =>
    have h := Root.admits_of_resolve hr hres
    have hup : ".." ∉ r.wholePathOf n := by
      rw [r.wholePathOf_eq, List.mem_append, not_or]
      exact ⟨fun hmem => hroot (r.front_along.subset hmem), h.proper.up⟩
    have hfront : r.front <+: r.wholePathOf n := by
      rw [r.wholePathOf_eq]
      exact List.prefix_append ..
    rw [hres] at hc
    dsimp only at hc
    cases hensure : d.ensureUpwards (Files.ancestors (r.wholePathOf n)).tail with
    | mk d₁ made =>
    obtain ⟨path, reached, made', base, hpath, hpaves, hok, hlast⟩ :=
      ensureUpwards_ancestors hd hup hensure
    -- It is enough to look at the disk on which the directories have been made.
    have hnew : d₁.locate r.path = .ok c → d.find? c = none := by
      intro hc₁
      exact hpaves.find?_of_new hd hup hpath hfront
        (Root.not_reaches_front hd hpaves.built.extend hmissing hc₁) (Root.reaches_front hc₁)
    rw [hensure] at hc
    cases made with
    | error e => exact hnew hc
    | ok =>
      dsimp only at hc
      cases hwrite : d₁.writeFile (r.pathOf n) n.ending content.toUTF8 with
      | mk d₂ written =>
      rw [hwrite] at hc
      have hc : d₂.locate r.path = .ok c := by
        cases written with
        | error e => exact hc
        | ok => exact hc
      rcases writeFile_frame hpaves.built.wellFormed h.proper.ending hwrite with
        ⟨rfl, -⟩ | ⟨-, hending, -, l, hl, hw⟩
      · exact hnew hc
      · -- The root was made before the file.
        obtain ⟨init, part, hparts, hpart⟩ := h.proper.last fun hnil =>
          h.proper.nonempty (by rw [hnil, hending]; rfl)
        have hsnoc : r.wholePathOf n = r.front ++ init ++ [part] := by
          rw [r.wholePathOf_eq, hending, List.append_nil, hparts, List.append_assoc]
        rw [hlast _ _ hsnoc hpart.1] at hpaves hok
        obtain ⟨haccepted, -⟩ := locate_eq_ok_iff.mp hl
        rw [Root.pathOf, hparts] at haccepted
        obtain ⟨m, hm⟩ := Root.exists_locate_of_paves hpaves
          (fun hmem => hup (hsnoc ▸ List.mem_append_left _ hmem)) (hok rfl) haccepted
        obtain rfl : m = c := Except.ok.inj ((hw.extend.locate hm).symm.trans hc)
        exact hnew hm

end Colloquy.Workspace
