import Colloquy.Proofs.Workspace.Contents

/-!
# Exact listings

A listing that goes well gives the files below the root that are not hidden, each once and in order.
It goes well exactly if the paths of all directories that it comes to are accepted, which they always
are in a workspace that has been empty in the beginning and has only been written into.

* `Root.list_exact`: the listing of any workspace, and of one that was empty in the beginning;
* `deepDisk_not_listed`: a workspace with a directory that is too deep to be listed.
-/

namespace Colloquy.Workspace

open Files Files.Disk

variable {r : Root} {d : Disk} {c way : Location}

theorem plain_of_entries {e : Entry} (hplain : ∀ x ∈ d.entries, Plain x.1)
    (h : d.find? (c ++ way) = some e) : Plain way := by
  intro name hname
  have hne : c ++ way ≠ [] := List.append_ne_nil_of_right_ne_nil c (List.ne_nil_of_mem hname)
  exact hplain _ (mem_of_find? hne h) name (List.mem_append_right _ hname)

/-- **Exact listings.**  Let the root be a directory.

* Listing the workspace goes well exactly if no directory that is reached from the root through
  directories, without a name on the way that starts with a dot, has a path that is refused; if there
  is one, listing fails with the error for such a directory.
* A listing that goes well gives the texts of just those ways that lead down from the root through
  directories to a regular file, without a name on them that starts with a dot; the root itself may
  be hidden.  They are in strictly ascending order, unless there are slashes in the names.

Let a workspace be empty in the beginning and let files be written into it, one after the other.
Then listing goes well and gives, in strictly ascending order, the texts of just the names in the
names of the writes that have gone well, but for those with a name that starts with a dot. -/
theorem Root.list_exact (hd : d.WellFormed) (hr : r.unnamed = false) :
    (∀ c, d.locate r.path = .ok c → d.find? c = some .directory →
      ((∃ names, r.list d = .ok names) ↔ ∀ way, d.find? (c ++ way) = some .directory →
        (∀ name ∈ way, isHiddenName name = false) → refusal? (r.front ++ way) = none) ∧
      (∀ e, r.list d = .error e → ∃ way why, d.find? (c ++ way) = some .directory ∧
        (∀ name ∈ way, isHiddenName name = false) ∧ refusal? (r.front ++ way) = some why ∧
        e = r.unopened way why) ∧
      ∀ names, r.list d = .ok names →
        (∀ text, text ∈ names ↔ ∃ way, text = "/".intercalate way ∧
          (∃ bytes, d.find? (c ++ way) = some (.file bytes)) ∧
          (∀ way', way' <+: way → way' ≠ way → d.find? (c ++ way') = some .directory) ∧
          ∀ name ∈ way, isHiddenName name = false) ∧
        ((∀ way bytes, d.find? (c ++ way) = some (.file bytes) → Plain way) →
          names.Pairwise (· < ·))) ∧
    (r.Vacant d → ∀ ws, ∃ names, r.list (r.writeAll d ws) = .ok names ∧
      names.Pairwise (· < ·) ∧
      ∀ text, text ∈ names ↔
        ∃ w ∈ r.successes d ws, text = "/".intercalate (namesIn w.name) ∧
          ∀ name ∈ namesIn w.name, isHiddenName name = false) := by
  refine ⟨fun c hc hdir => ⟨Root.exists_list_iff hd hr hc hdir,
    fun e he => Root.exists_of_list_error hd hr hc hdir he, fun names hlist => ⟨fun text => ?_,
      Root.list_ascending hd hr hc hdir hlist⟩⟩, fun hvacant ws => ?_⟩
  · rw [Root.mem_list_iff hd hr hc hdir hlist]
    constructor
    · rintro ⟨way, htext, ⟨bytes, hfile⟩, hvisible⟩
      refine ⟨way, htext, ⟨bytes, hfile⟩, ?_, hvisible⟩
      -- All that is above a file are directories.
      rintro way' ⟨rest, rfl⟩ hne
      rw [← List.append_assoc] at hfile
      refine hd.directory (x := rest) ?_ (by rw [hfile]; rfl)
      rintro rfl
      exact hne (List.append_nil _).symm
    · rintro ⟨way, htext, hfile, -, hvisible⟩
      exact ⟨way, htext, hfile, hvisible⟩
  · obtain ⟨hd', hstores⟩ := Root.stores_writeAll hd hr hvacant.stores ws
    have hopen := Root.opensAll_writeAll hd hr hvacant.stores hvacant.opensAll ws
    rw [List.nil_append] at hstores
    obtain ⟨names, hlist⟩ := Root.exists_list_of_stores hd' hr hstores hopen
    refine ⟨names, hlist, ?_, fun text => ?_⟩
    · refine Root.list_ascending_of_stores hd' hr hstores (fun way hway => ?_) hlist
      obtain ⟨w, -, rfl⟩ := List.mem_map.mp hway
      exact plain_namesIn w.name
    · rw [Root.mem_list_of_stores hd' hr hstores hlist]
      constructor
      · rintro ⟨way, hway, htext, hvisible⟩
        obtain ⟨w, hw, rfl⟩ := List.mem_map.mp hway
        exact ⟨w, hw, htext, hvisible⟩
      · rintro ⟨w, hw, htext, hvisible⟩
        exact ⟨namesIn w.name, List.mem_map_of_mem hw, htext, hvisible⟩

/-- A workspace with a link and a hidden directory in it, and an empty one beside it. -/
def shelvedDisk : Disk :=
  ⟨[(["box"], .directory), (["ws"], .directory), (["ws", "b"], .directory),
    (["ws", "b", "x.txt"], .file "x".toUTF8), (["ws", "b.txt"], .file "b".toUTF8),
    (["ws", "c"], .link "b"), (["ws", ".git"], .directory),
    (["ws", ".git", "head"], .file "".toUTF8)]⟩

theorem wellFormed_shelvedDisk : shelvedDisk.WellFormed := by
  refine wellFormed_of_entries ?_ ?_
  · decide +kernel
  · decide +kernel

/-- Files are listed by their texts, not by their ways; what has been written under a hidden name or
could not be written is not listed. -/
theorem shelvedDisk_list_exact :
    let ws := Root.open shelvedDisk ["ws"]
    let box := Root.open shelvedDisk ["box"]
    let drafts : List Draft :=
      [⟨"b/x.txt", "x"⟩, ⟨"b/.x", ""⟩, ⟨" ./a//b.txt", "b"⟩, ⟨"../c", "c"⟩, ⟨"b/x.txt/y", "y"⟩]
    shelvedDisk.WellFormed ∧ ws.unnamed = false ∧ box.unnamed = false ∧
    shelvedDisk.locate ws.path = .ok ["ws"] ∧ shelvedDisk.find? ["ws"] = some .directory ∧
    (∀ way bytes, shelvedDisk.find? (["ws"] ++ way) = some (.file bytes) → Plain way) ∧
    (∃ names, ws.list shelvedDisk = .ok names ∧ names.Pairwise (· < ·) ∧ "b/x.txt" ∈ names) ∧
    box.Vacant shelvedDisk ∧
    box.successes shelvedDisk drafts = [⟨"b/x.txt", "x"⟩, ⟨"b/.x", ""⟩, ⟨" ./a//b.txt", "b"⟩] ∧
    ∃ names, box.list (box.writeAll shelvedDisk drafts) = .ok names ∧ names.Pairwise (· < ·) ∧
      "a/b.txt" ∈ names ∧ "b/.x" ∉ names := by
  intro ws box drafts
  have hd : shelvedDisk.WellFormed := wellFormed_shelvedDisk
  have hws : ws.unnamed = false := by decide +kernel
  have hbox : box.unnamed = false := by decide +kernel
  have hc : shelvedDisk.locate ws.path = .ok ["ws"] := by decide +kernel
  have hdir : shelvedDisk.find? ["ws"] = some .directory := by decide +kernel
  have hplain : ∀ way bytes, shelvedDisk.find? (["ws"] ++ way) = some (.file bytes) →
      Plain way := fun way bytes hfile =>
    plain_of_entries (by decide +kernel) hfile
  have hvacant : box.Vacant shelvedDisk := by
    refine .inl ⟨["box"], by decide +kernel, by decide +kernel, fun way hway => ?_⟩
    obtain ⟨x, s, rfl⟩ := List.exists_cons_of_ne_nil hway
    simp [find?, shelvedDisk]
  have hsuccesses : box.successes shelvedDisk drafts =
      [⟨"b/x.txt", "x"⟩, ⟨"b/.x", ""⟩, ⟨" ./a//b.txt", "b"⟩] := by
    decide +kernel
  -- What the walk through `ws` meets; the link and the hidden directory are passed by.
  have hvisit : ws.visit shelvedDisk ["ws"] (maxPath + 1) [] =
      .ok [["b", "x.txt"], ["b.txt"]] := by
    decide +kernel
  -- One half of the theorem for each of the two roots.
  obtain ⟨hpresent, -⟩ := Root.list_exact hd hws
  obtain ⟨-, -, hnames⟩ := hpresent ["ws"] hc hdir
  obtain ⟨-, hwritten⟩ := Root.list_exact hd hbox
  obtain ⟨namesBox, hlistBox, hsortedBox, hlistedBox⟩ := hwritten hvacant drafts
  rw [hsuccesses] at hlistedBox
  have hx : ∃ names, ws.list shelvedDisk = .ok names ∧ names.Pairwise (· < ·) ∧
      "b/x.txt" ∈ names := by
    have hlist := Root.list_of_directory hws hc hdir
    rw [hvisit] at hlist
    obtain ⟨hlisted, hsorted⟩ := hnames _ hlist
    refine ⟨_, hlist, hsorted hplain, (hlisted "b/x.txt").mpr
      ⟨["b", "x.txt"], by decide +kernel, ⟨_, rfl⟩, ?_, by decide⟩⟩
    intro way' hprefix hne
    -- Above the file are the root and one directory.
    obtain rfl | rfl : way' = [] ∨ way' = ["b"] := by
      have hmem := (List.mem_inits _ _).mpr hprefix
      simp only [List.inits, List.map_cons, List.map_nil, List.mem_cons] at hmem
      simpa [hne] using hmem
    · exact hdir
    · decide +kernel
  have hb : "a/b.txt" ∈ namesBox :=
    (hlistedBox "a/b.txt").mpr
      ⟨⟨" ./a//b.txt", "b"⟩, by decide, by decide +kernel, by decide +kernel⟩
  have hhidden : "b/.x" ∉ namesBox := by
    rw [hlistedBox "b/.x"]
    decide +kernel
  exact ⟨hd, hws, hbox, hc, hdir, hplain, hx, hvacant, hsuccesses, namesBox, hlistBox, hsortedBox,
    hb, hhidden⟩

/-- **A workspace that cannot be listed**: a file is in its root, and the path of a directory far
below has too many bytes. -/
theorem deepDisk_not_listed :
    let d := deepDisk 2048
    let r := Root.open d ["ws"]
    d.WellFormed ∧ r.unnamed = false ∧ d.locate r.path = .ok ["ws"] ∧
    d.find? ["ws"] = some .directory ∧ d.find? ["ws", "a.txt"] = some (.file "a".toUTF8) ∧
    ∀ names, r.list d ≠ .ok names := by
  intro d r
  have hd : d.WellFormed := wellFormed_deepDisk 2048
  have htop : d.find? ["ws"] = some .directory := find?_deepDisk (Nat.zero_le _)
  have hnamed : r.unnamed = false := Root.unnamed_open ..
  have hpath : r = ⟨["ws"], false⟩ := open_deepDisk 2048
  have hroot : d.locate r.path = .ok ["ws"] := by
    rw [hpath]
    exact locate_deepDisk 2048
  refine ⟨hd, hnamed, hroot, htop, file_deepDisk 2048, fun names hlist => ?_⟩
  obtain ⟨hopen, -⟩ := Root.list_eq_ok hd hnamed hroot htop hlist
  -- The innermost directory is visible, and its path has three bytes more than are accepted.
  have haccepted := hopen (List.replicate 2048 "d") (find?_deepDisk (Nat.le_refl _))
    (visible_replicate_d 2048)
  rw [hpath] at haccepted
  obtain ⟨-, hsize⟩ := refusal?_eq_none_iff.mp haccepted
  have hdeep : pathSize (Root.front ⟨["ws"], false⟩ ++ List.replicate 2048 "d") = 4099 :=
    pathSize_deepDisk 2048
  rw [hdeep, maxPath] at hsize
  omega

end Colloquy.Workspace
