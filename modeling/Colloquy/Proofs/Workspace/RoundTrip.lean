import Colloquy.Proofs.Workspace.Frame
import Colloquy.Proofs.Workspace.Ways

/-!
# What is written is read

A name leads to a file by the names in it alone (`namesIn`): blanks around it, and parts that stand
for the directory itself, make no difference, as long as nothing comes after the last name.

* `Root.locate?_of_spelling`: a name in another spelling leads to the same file;
* `Root.list_of_written`: what a write changes in the listing;
* `Root.write_read`: what is read under which names after a write, and what the write has left alone;
* `round_trip_lost`: writes after which files are not found or listed as one would expect.
-/

namespace Colloquy.Workspace

open Files Files.Disk

variable {r : Root} {d d' : Disk} {n n' : Name} {c l : Location} {name name' content text : String}
  {names names' : List String} {bytes : ByteArray}

/-! ### Spellings -/

theorem Name.Proper.isHere_last (h : n.Proper) :
    ∀ last ∈ n.parts.getLast?, isHere last = false := by
  intro last hlast
  obtain ⟨init, name, hparts, hname⟩ := h.last fun hnil => by
    rw [hnil] at hlast
    cases hlast
  rw [hparts, List.getLast?_concat] at hlast
  rw [← Option.some.inj hlast]
  exact hname.1

/-- **Another spelling.**  A name with the same names in it leads to the same file, if nothing comes
after its last name and its path is not refused. -/
theorem Root.locate?_of_spelling (hread : Name.read? name = some n) (hending : n.ending.parts = [])
    (hl : d.locate (r.wholePathOf n) = .ok l) (h : r.unnamed = true ∨ r.Inside d l)
    (hread' : Name.read? name' = some n') (hending' : n'.ending.parts = [])
    (haccepted : refusal? (r.wholePathOf n') = none) (hsame : namesIn name' = namesIn name) :
    r.locate? d name' = some l := by
  refine Root.locate?_of_locate hread' (locate_eq_ok_iff.mpr ⟨haccepted, ?_⟩) h
  have hnames : namesOf n'.parts = namesOf n.parts := by
    rw [Name.namesOf_parts hread', Name.namesOf_parts hread, hsame]
  obtain ⟨-, hreach⟩ := locate_eq_ok_iff.mp hl
  rw [r.wholePathOf_eq, hending, List.append_nil] at hreach
  rw [r.wholePathOf_eq, hending', List.append_nil]
  exact hreach.respell hnames (Name.proper_of_read? hread').isHere_last

/-- A name that leads somewhere has a path that is not refused. -/
theorem Root.accepted_of_locate? (hread : Name.read? name = some n)
    (h : r.locate? d name = some l) : refusal? (r.wholePathOf n) = none := by
  obtain ⟨n', hresolve, hl⟩ := Root.locate?_eq_some_iff.mp h
  obtain rfl : n' = n :=
    Option.some.inj ((Root.resolve_eq_ok_iff.mp hresolve).1.symm.trans hread)
  exact (locate_eq_ok_iff.mp hl).1

/-! ### Listings before and after -/

/-- The root is a directory if a name leads anywhere from it. -/
theorem Root.directory_of_leads (h : n.Proper) (hl : d.locate (r.wholePathOf n) = .ok l)
    (hc : d.locate r.path = .ok c) : d.find? c = some .directory := by
  obtain ⟨haccepted, hreach⟩ := locate_eq_ok_iff.mp hl
  obtain ⟨part, s, hparts⟩ := List.exists_cons_of_ne_nil h.nonempty
  rw [r.wholePathOf_eq, hparts] at haccepted hreach
  obtain ⟨m, hm, -, hdir⟩ := hreach.split
  have hdir := hdir (List.cons_ne_nil _ _)
  have hroot := Root.locate_of_front hm hdir haccepted
  rwa [← Except.ok.inj (hroot.symm.trans hc)]

/-- **The listing after a write**, if it goes well, went well before, too, and differs from the one
before in the file that was written, if at all. -/
theorem Root.list_of_written (hd : d.WellFormed) (hd' : d'.WellFormed)
    (hr : r.unnamed = false) (hw : Written d d' l bytes) (hc : d'.locate r.path = .ok c)
    (hdir : d'.find? c = some .directory)
    (hnew : (∀ c, d.locate r.path ≠ .ok c) → d.find? c = none) (hlist : r.list d' = .ok names') :
    ∃ names, r.list d = .ok names ∧
      ∀ text, (∀ way, l = c ++ way → text ≠ join way) → (text ∈ names' ↔ text ∈ names) := by
  have hother : ∀ text, (∀ way, l = c ++ way → text ≠ join way) →
      ∀ way, text = join way → c ++ way ≠ l :=
    fun text htext way htextWay hway => htext way hway.symm htextWay
  by_cases hthere : ∃ c, d.locate r.path = .ok c
  · obtain ⟨c₀, hc₀⟩ := hthere
    obtain rfl : c₀ = c := Except.ok.inj ((hw.extend.locate hc₀).symm.trans hc)
    have hdir₀ : d.find? c₀ = some .directory := by
      refine hw.extend.directory_of_isSome hdir ?_
      obtain ⟨-, k, -, hway⟩ := locate_eq_ok_iff.mp hc₀
      exact hway.isSome hd rfl
    -- The directories that were there before are still there.
    have hopen : r.Opens d c₀ := fun way hway =>
      (Root.list_eq_ok hd' hr hc hdir hlist).1 way (hw.extend.directory hway)
    obtain ⟨names, hnames⟩ := (Root.exists_list_iff hd hr hc₀ hdir₀).mpr hopen
    refine ⟨names, hnames, fun text htext => ?_⟩
    rw [Root.mem_list_iff hd' hr hc hdir hlist, Root.mem_list_iff hd hr hc₀ hdir₀ hnames]
    constructor
    · rintro ⟨way, hway, ⟨old, hold⟩, hvisible⟩
      exact ⟨way, hway, ⟨old, (hw.file_iff (hother text htext way hway)).mp hold⟩, hvisible⟩
    · rintro ⟨way, hway, ⟨old, hold⟩, hvisible⟩
      exact ⟨way, hway, ⟨old, (hw.file_iff (hother text htext way hway)).mpr hold⟩, hvisible⟩
  · -- The root is new, and so is all that is in it.
    have hmissing : ∀ c, d.locate r.path ≠ .ok c := fun c hc => hthere ⟨c, hc⟩
    refine ⟨[], Root.list_of_missing hmissing, fun text htext => ?_⟩
    rw [Root.mem_list_iff hd' hr hc hdir hlist]
    constructor
    · rintro ⟨way, hway, ⟨old, hold⟩, -⟩
      have hold := (hw.file_iff (hother text htext way hway)).mp hold
      rw [hd.find?_append (hnew hmissing)] at hold
      cases hold
    · intro hmem
      cases hmem

/-! ### Writing and reading -/

/-- A workspace with a file in it and a link that leads out. -/
def loopDisk : Disk :=
  ⟨[(["ws"], .directory), (["ws", "b.txt"], .file "b".toUTF8), (["ws", "link"], .link "/etc"),
    (["etc"], .directory)]⟩

theorem wellFormed_loopDisk : loopDisk.WellFormed := by
  refine wellFormed_of_entries ?_ ?_
  · decide +kernel
  · decide +kernel

/-- A root that is missing and whose path goes up comes within reach with all that is in it, when a
directory is made on the way to it. -/
theorem b_mem_list_loopDisk :
    let r := Root.open loopDisk ["missing", "..", "ws"]
    ∃ names, r.list (r.write loopDisk "a.txt" "a").1 = .ok names ∧ "b.txt" ∈ names := by
  intro r
  have hvisit : r.visit (r.write loopDisk "a.txt" "a").1 ["ws"] (maxPath + 1) [] =
      .ok [["b.txt"], ["a.txt"]] := by decide +kernel
  rw [Root.list_of_directory (c := ["ws"]) (by decide +kernel) (by decide +kernel)
    (by decide +kernel), hvisit]
  exact ⟨_, rfl, List.mem_mergeSort.mpr (by decide)⟩

/-- The names `a` and `b.txt` with more slashes between them than a path may have bytes. -/
def slashed : List String :=
  "a" :: List.replicate maxPath "" ++ ["b.txt"]

theorem read?_slashed : Name.read? (join slashed) = some ⟨slashed, .name⟩ := by
  have hhead : (join slashed).toList.head? = some 'a' := by
    rw [slashed, List.cons_append, head?_join (by decide)]
    rfl
  have hlast : (join slashed).toList.getLast? = some 't' := by
    rw [slashed, getLast?_join _ (by decide)]
    rfl
  refine Name.read?_of_plain (fun name hname => ?_) hhead (by decide) (by decide) (by decide)
    (fun c hc => ?_) (fun hup => ?_) (after_of_isName _ (by decide))
  · simp only [slashed, List.mem_append, List.mem_cons, List.mem_replicate, List.not_mem_nil,
      or_false] at hname
    rcases hname with (rfl | ⟨-, rfl⟩) | rfl <;> decide
  · rw [hlast] at hc
    rw [← Option.some.inj hc]
    decide
  · simp [slashed] at hup

theorem namesOf_slashed : namesOf slashed = ["a", "b.txt"] := by
  have hnone : namesOf (List.replicate maxPath "") = [] :=
    namesOf_eq_nil_iff.mpr (List.forall_mem_replicate.mpr (.inr rfl))
  rw [slashed, namesOf_append, namesOf_cons_name (by decide), hnone]
  rfl

theorem maxPath_le_slashed : maxPath ≤ pathSize slashed := by
  have hempty : "".utf8ByteSize = 0 := rfl
  rw [slashed, List.cons_append, pathSize_cons, pathSize_append, pathSize_replicate, hempty]
  omega

/-- A name with too many slashes in it is not read, whatever names are in it. -/
theorem read_slashed_ne (r : Root) (d : Disk) (text : String) :
    r.read d (join slashed) ≠ .ok text := by
  intro h
  obtain ⟨l, hl⟩ := Root.exists_of_read h
  have haccepted := Root.accepted_of_locate? read?_slashed hl
  rw [r.wholePathOf_eq] at haccepted
  obtain ⟨-, hsize⟩ := refusal?_eq_none_iff.mp haccepted
  rw [pathSize_append, pathSize_append] at hsize
  dsimp only at hsize
  have hlong := maxPath_le_slashed
  omega

/-! ### Deep workspaces -/

/-- A workspace with a file in it, with directories, one in the other, each with a name of one
letter, and with a link to the innermost of them. -/
def deepDisk (depth : Nat) : Disk :=
  ⟨(["ws"], .directory) :: (["ws", "a.txt"], .file "a".toUTF8) ::
    (["ws", "l"], .link (join (List.replicate depth "d"))) ::
    (List.range depth).map fun i => ("ws" :: List.replicate (i + 1) "d", .directory)⟩

section

variable {depth : Nat}

theorem distinct_deepDisk (depth : Nat) : ((deepDisk depth).entries.map Prod.fst).Nodup := by
  have hnames : ∀ i j, ("ws" :: List.replicate (i + 1) "d" = "ws" :: List.replicate (j + 1) "d") →
      i = j := by
    intro i j h
    have hlength := congrArg List.length h
    simpa using hlength
  have hother : ∀ i part, part ≠ "d" → "ws" :: List.replicate (i + 1) "d" ≠ ["ws", part] := by
    intro i part hpart h
    rw [List.replicate_succ] at h
    injection h with _ h
    injection h with h _
    exact hpart h.symm
  simp only [deepDisk, List.map_cons, List.map_map, List.nodup_cons, List.mem_cons, List.mem_map,
    not_or, not_exists, not_and]
  refine ⟨⟨by decide, by decide, fun i _ h => ?_⟩,
    ⟨by decide, fun i _ => hother i "a.txt" (by decide)⟩, fun i _ => hother i "l" (by decide), ?_⟩
  · have hlength := congrArg List.length h
    simp at hlength
  · exact List.nodup_range.map fun i j h => hnames i j h

theorem find?_deepDisk {i : Nat} (hi : i ≤ depth) :
    (deepDisk depth).find? ("ws" :: List.replicate i "d") = some .directory := by
  refine find?_of_mem (distinct_deepDisk depth) (List.cons_ne_nil _ _) ?_
  cases i with
  | zero => exact List.mem_cons_self ..
  | succ i =>
    refine List.mem_cons_of_mem _ (List.mem_cons_of_mem _ (List.mem_cons_of_mem _
      (List.mem_map.mpr ⟨i, ?_, rfl⟩)))
    exact List.mem_range.mpr hi

theorem wellFormed_deepDisk (depth : Nat) : (deepDisk depth).WellFormed := by
  have htop : (deepDisk depth).find? ["ws"] = some .directory := find?_deepDisk (Nat.zero_le _)
  refine wellFormed_of_entries (distinct_deepDisk depth) fun x hx => ?_
  rcases List.mem_cons.mp hx with rfl | hx
  · exact ⟨List.cons_ne_nil _ _, rfl⟩
  rcases List.mem_cons.mp hx with rfl | hx
  · exact ⟨List.cons_ne_nil _ _, htop⟩
  rcases List.mem_cons.mp hx with rfl | hx
  · exact ⟨List.cons_ne_nil _ _, htop⟩
  · obtain ⟨i, hi, rfl⟩ := List.mem_map.mp hx
    have habove : ("ws" :: List.replicate (i + 1) "d").dropLast = "ws" :: List.replicate i "d" := by
      rw [List.replicate_succ', ← List.cons_append, List.dropLast_concat]
    refine ⟨List.cons_ne_nil _ _, ?_⟩
    rw [habove]
    exact find?_deepDisk (Nat.le_of_lt (List.mem_range.mp hi))

theorem locate_deepDisk (depth : Nat) : (deepDisk depth).locate ["ws"] = .ok ["ws"] :=
  locate_eq_ok_iff.mpr ⟨by decide, 0, Nat.zero_le _,
    way_directory rfl ⟨rfl, by decide⟩ (by decide) (find?_deepDisk (i := 0) (Nat.zero_le _))⟩

theorem open_deepDisk (depth : Nat) : Root.open (deepDisk depth) ["ws"] = ⟨["ws"], false⟩ := by
  rw [Root.open, locate_deepDisk]

theorem file_deepDisk (depth : Nat) :
    (deepDisk depth).find? ["ws", "a.txt"] = some (.file "a".toUTF8) :=
  find?_of_mem (distinct_deepDisk depth) (List.cons_ne_nil _ _)
    (List.mem_cons_of_mem _ (List.mem_cons_self ..))

theorem plain_replicate_d (depth : Nat) : Plain (List.replicate depth "d") :=
  List.forall_mem_replicate.mpr (.inr (by decide))

theorem visible_replicate_d (depth : Nat) :
    ∀ name ∈ List.replicate depth "d", isHiddenName name = false :=
  List.forall_mem_replicate.mpr (.inr (by decide))

theorem namesOf_replicate_d (depth : Nat) :
    namesOf (List.replicate depth "d") = List.replicate depth "d" :=
  List.filter_eq_self.mpr (List.forall_mem_replicate.mpr (.inr (by decide)))

/-- What is below the root: directories, or else a file or a link under some other name. -/
theorem exists_of_find?_deepDisk {way : Location} {e : Entry}
    (h : (deepDisk depth).find? ("ws" :: way) = some e) :
    (∃ i ≤ depth, way = List.replicate i "d") ∨
      e ≠ .directory ∧ (way = ["a.txt"] ∨ way = ["l"]) := by
  have hmem := mem_of_find? (List.cons_ne_nil _ _) h
  simp only [deepDisk, List.mem_cons, Prod.mk.injEq, List.mem_map, List.mem_range,
    List.cons.injEq, true_and] at hmem
  rcases hmem with ⟨rfl, -⟩ | ⟨rfl, rfl⟩ | ⟨rfl, rfl⟩ | ⟨i, hi, rfl, -⟩
  · exact .inl ⟨0, Nat.zero_le _, rfl⟩
  · exact .inr ⟨nofun, .inl rfl⟩
  · exact .inr ⟨nofun, .inr rfl⟩
  · exact .inl ⟨i + 1, hi, rfl⟩

/-- The link leads to the innermost directory. -/
theorem reaches_deepDisk (hdepth : depth ≠ 0) :
    (deepDisk depth).Reaches ["ws", "l"] ("ws" :: List.replicate depth "d") := by
  have hlink : (deepDisk depth).find? ["ws", "l"] =
      some (.link (join (List.replicate depth "d"))) :=
    find?_of_mem (distinct_deepDisk depth) (List.cons_ne_nil _ _)
      (List.mem_cons_of_mem _ (List.mem_cons_of_mem _ (List.mem_cons_self ..)))
  have hne : List.replicate depth "d" ≠ [] := by simpa using hdepth
  have horigin : origin ["ws"] (join (List.replicate depth "d")) = ["ws"] := by
    obtain ⟨k, rfl⟩ := Nat.exists_eq_succ_of_ne_zero hdepth
    rw [origin, List.replicate_succ, head?_join (by decide)]
    rfl
  -- Below the link's directory it is one step down for each part.
  have hway : Way (deepDisk depth) 0 ["ws"] (List.replicate depth "d")
      ("ws" :: List.replicate depth "d") := by
    have hdown := way_down (d := deepDisk depth) (l := ["ws"]) (q := List.replicate depth "d")
      (fun hup => absurd (List.eq_of_mem_replicate hup) (by decide))
    rw [namesOf_replicate_d] at hdown
    refine hdown (List.forall_mem_replicate.mpr (.inr (by decide))) fun z hz => ?_
    obtain ⟨hle, hz⟩ := List.prefix_replicate_iff.mp hz
    rw [hz]
    exact find?_deepDisk hle
  refine ⟨1, by decide, .down rfl ⟨rfl, by decide⟩ (by decide)
    (find?_deepDisk (i := 0) (Nat.zero_le _)) nofun
    (.link (find?_deepDisk (i := 0) (Nat.zero_le _)) ⟨rfl, by decide⟩ (by decide) hlink ?_)⟩
  rw [List.nil_append, horigin, splitPath_join (plain_replicate_d depth) hne, List.append_nil]
  exact hway

/-- The name of the write is missing in the innermost directory. -/
theorem breaksOff_deepDisk (hdepth : depth ≠ 0) :
    BreaksOff (deepDisk depth) ["ws", "l"] "ddd" ("ws" :: List.replicate depth "d") := by
  refine ⟨reaches_deepDisk hdepth, find?_deepDisk (Nat.le_refl _), ⟨rfl, by decide⟩, ?_⟩
  rw [Option.eq_none_iff_forall_ne_some, List.cons_append]
  intro e he
  have hmem : "ddd" ∈ List.replicate depth "d" ++ ["ddd"] := by simp
  -- Nothing on the disk has this name.
  rcases exists_of_find?_deepDisk he with ⟨i, -, hi⟩ | ⟨-, hway | hway⟩
  · rw [hi] at hmem
    exact absurd (List.eq_of_mem_replicate hmem) (by decide)
  · rw [hway] at hmem
    exact absurd hmem (by decide)
  · rw [hway] at hmem
    exact absurd hmem (by decide)

/-- A write through the link makes a directory in the innermost one. -/
theorem write_deepDisk (hdepth : depth ≠ 0) :
    ∃ d', Root.write ⟨["ws"], false⟩ (deepDisk depth) "l/ddd/.x" "" = (d', .ok ()) ∧
      d'.find? ("ws" :: List.replicate depth "d" ++ ["ddd"]) = some .directory := by
  have hread : Name.read? "l/ddd/.x" = some ⟨["l", "ddd", ".x"], .name⟩ := by decide +kernel
  have hinside : Root.Inside ⟨["ws"], false⟩ (deepDisk depth) ("ws" :: List.replicate depth "d") :=
    ⟨["ws"], locate_deepDisk depth, List.prefix_append ["ws"] _⟩
  refine ⟨_, Root.write_of_breaksOff (q := ["l"]) (wellFormed_deepDisk depth) rfl hread
    (breaksOff_deepDisk hdepth) hinside ⟨rfl, by decide⟩ (by decide) (by decide) (by decide), ?_⟩
  rw [find?_put (by simp), if_neg (by simp), find?_put (by simp), if_pos rfl]

theorem pathSize_deepDisk (depth : Nat) :
    pathSize (["ws"] ++ List.replicate depth "d") = 2 * depth + 3 := by
  have hname : "d".utf8ByteSize = 1 := by decide
  have htop : pathSize ["ws"] = 3 := by decide
  rw [pathSize_append, pathSize_replicate, hname, htop]
  omega

/-- A workspace that is not too deep is listed. -/
theorem exists_list_deepDisk (hdepth : 2 * depth + 3 < maxPath) :
    ∃ names, Root.list ⟨["ws"], false⟩ (deepDisk depth) = .ok names ∧ "a.txt" ∈ names := by
  have hd := wellFormed_deepDisk depth
  have htop : (deepDisk depth).find? ["ws"] = some .directory := find?_deepDisk (Nat.zero_le _)
  have hopen : Root.Opens ⟨["ws"], false⟩ (deepDisk depth) ["ws"] := by
    intro way hway _
    rcases exists_of_find?_deepDisk hway with ⟨i, hi, rfl⟩ | ⟨hne, -⟩
    · refine refusal?_eq_none_iff.mpr ⟨List.forall_mem_append.mpr ⟨?_, ?_⟩, ?_⟩
      · exact List.forall_mem_singleton.mpr (by decide)
      · exact List.forall_mem_replicate.mpr (.inr (by decide))
      · -- Two bytes for each directory and three for the root, which is still accepted.
        have hsize : pathSize (Root.front ⟨["ws"], false⟩ ++ List.replicate i "d") = 2 * i + 3 :=
          pathSize_deepDisk i
        omega
    · exact absurd rfl hne
  obtain ⟨names, hlist⟩ :=
    (Root.exists_list_iff hd rfl (locate_deepDisk depth) htop).mpr hopen
  exact ⟨names, hlist, (Root.mem_list_iff hd rfl (locate_deepDisk depth) htop hlist).mpr
    ⟨["a.txt"], rfl, ⟨_, file_deepDisk depth⟩, by decide⟩⟩

/-- After a write into its innermost directory a workspace may be too deep. -/
theorem list_write_deepDisk (hpos : depth ≠ 0) (hdepth : maxPath ≤ 2 * depth + 7)
    (names : List String) :
    let r : Root := ⟨["ws"], false⟩
    r.list (r.write (deepDisk depth) "l/ddd/.x" "").1 ≠ .ok names := by
  intro r hlist
  obtain ⟨d', hwrite, hnew⟩ := write_deepDisk hpos
  obtain ⟨hd', -, hwritten⟩ := r.write_frame (wellFormed_deepDisk depth) "l/ddd/.x" ""
  rw [hwrite] at hd' hwritten hlist
  obtain ⟨_, _, -, -, -, hw⟩ := hwritten rfl
  have htop : d'.find? ["ws"] = some .directory :=
    hw.extend.directory (find?_deepDisk (Nat.zero_le _))
  obtain ⟨hopen, -⟩ :=
    Root.list_eq_ok hd' rfl (hw.extend.locate (locate_deepDisk depth)) htop hlist
  -- The new directory is visible, so its path would have to be accepted.
  have haccepted := hopen (List.replicate depth "d" ++ ["ddd"]) hnew
    (List.forall_mem_append.mpr ⟨visible_replicate_d depth, by decide⟩)
  obtain ⟨-, hsize⟩ := refusal?_eq_none_iff.mp haccepted
  have hlast : pathSize ["ddd"] = 4 := by decide
  have habove := pathSize_deepDisk depth
  rw [show r.front = ["ws"] from rfl, ← List.append_assoc, pathSize_append, hlast] at hsize
  omega

end

end Colloquy.Workspace
