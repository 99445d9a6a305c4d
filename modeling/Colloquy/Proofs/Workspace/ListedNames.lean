import Colloquy.Proofs.Workspace.Contents
import Colloquy.Proofs.Workspace.Overwriting
import Colloquy.Proofs.Workspace.Ways

/-!
# Listed names

In a workspace that has been empty in the beginning, what is listed is the name of its file: it is
read as what is in the file, and writing under it writes over the file.  The one exception is a text
that starts with a blank.  No such text leads to its file, because the blank is taken off before the
text is taken apart; but files get such names if they are written with a `./` in front of the blank.

* `Root.holdsTexts_writeAll`: all that is in the files of a workspace are texts;
* `Root.exists_listed`: what can be said of a listed file;
* `Root.listed_names`: which listed names lead to their files, and what reading and writing comes to
  under those that do;
* `blank_name_lost`: a file that is not found under its listed name.
-/

namespace Colloquy.Workspace

open Files Files.Disk

variable {r : Root} {d : Disk} {c l way : Location} {ways : List Location}
  {text content : String} {names : List String} {bytes : ByteArray} {ws : List Draft} {w : Draft}

/-! ### What has been written -/

/-- A file is from before a write, or it is what has been written. -/
theorem Root.file_of_write (hd : d.WellFormed) (w : Draft)
    (h : (r.write d w.name w.content).1.find? l = some (.file bytes)) :
    d.find? l = some (.file bytes) ∨ bytes = w.content.toUTF8 := by
  obtain ⟨-, hfailed, hwritten⟩ := r.write_frame hd w.name w.content
  cases hres : (r.write d w.name w.content).2 with
  | error e => exact .inl ((hfailed e hres).file_iff.mp h)
  | ok =>
    obtain ⟨n, m, -, -, -, hw⟩ := hwritten hres
    by_cases hl : l = m
    · rw [hl, hw.file] at h
      exact .inr (Entry.file.inj (Option.some.inj h)).symm
    · exact .inl ((hw.file_iff hl).mp h)

/-- All that is in the files below the root are texts. -/
def Root.HoldsTexts (r : Root) (d : Disk) : Prop :=
  ∀ c way bytes, d.locate r.path = .ok c → d.find? (c ++ way) = some (.file bytes) →
    ∃ content : String, bytes = content.toUTF8

theorem Root.Stores.holdsTexts (h : r.Stores d []) : r.HoldsTexts d := by
  intro c way bytes hc hfile
  rcases h with ⟨c', hc', -, hfilled⟩ | ⟨hmissing, -, -⟩
  · rw [Except.ok.inj (hc'.symm.trans hc)] at hfilled
    exact absurd ((hfilled.file_iff way).mp ⟨bytes, hfile⟩) List.not_mem_nil
  · exact absurd hc (hmissing c)

/-- One write keeps texts, and where it makes the root there was nothing before. -/
theorem Root.holdsTexts_write (hd : d.WellFormed) (hr : r.unnamed = false) (h : r.Stores d ways)
    (htexts : r.HoldsTexts d) (w : Draft) : r.HoldsTexts (r.write d w.name w.content).1 := by
  intro c way bytes hc hfile
  rcases Root.file_of_write hd w hfile with hold | hnew
  · rcases h with ⟨c', hc', -, -⟩ | ⟨hmissing, hup, -⟩
    · have hsame := ((Root.extends_write hd r w).locate hc').symm.trans hc
      rw [Except.ok.inj hsame] at hc'
      exact htexts c way bytes hc' hold
    · have hnone := Root.find?_of_new_root hd hr hup hmissing hc
      rw [hd.find?_append hnone] at hold
      cases hold
  · exact ⟨w.content, hnew⟩

/-- **Several writes** keep texts. -/
theorem Root.holdsTexts_writeAll (hd : d.WellFormed) (hr : r.unnamed = false)
    (h : r.Stores d ways) (htexts : r.HoldsTexts d) (ws : List Draft) :
    r.HoldsTexts (r.writeAll d ws) := by
  induction ws generalizing d ways with
  | nil => exact htexts
  | cons w ws ih =>
    exact ih (r.write_frame hd w.name w.content).1 (Root.stores_write hd hr h w)
      (Root.holdsTexts_write hd hr h htexts w)

theorem Root.extends_writeAll (hd : d.WellFormed) (r : Root) (ws : List Draft) :
    Extends d (r.writeAll d ws) := by
  induction ws generalizing d with
  | nil => exact fun _ _ h => .inl h
  | cons w ws ih =>
    exact (Root.extends_write hd r w).trans (ih (r.write_frame hd w.name w.content).1)

/-- A name that has been written under leads somewhere, still after more writes. -/
theorem Root.exists_of_mem_successes (hd : d.WellFormed) (hw : w ∈ r.successes d ws) :
    ∃ n l, Name.read? w.name = some n ∧ n.ending.parts = [] ∧
      (r.writeAll d ws).locate (r.wholePathOf n) = .ok l := by
  induction ws generalizing d with
  | nil => cases hw
  | cons v ws ih =>
    obtain ⟨hd', -, hwritten⟩ := r.write_frame hd v.name v.content
    rw [Root.successes, List.mem_append] at hw
    rcases hw with hw | hw
    · split_ifs at hw with hwrites
      · obtain rfl := List.mem_singleton.mp hw
        have hok : (r.write d w.name w.content).2 = .ok () := by
          rw [Root.writes] at hwrites
          cases hres : (r.write d w.name w.content).2 with
          | error e =>
            rw [hres] at hwrites
            cases hwrites
          | ok => rfl
        obtain ⟨n, l, hresolve, hending, hl, -⟩ := hwritten hok
        exact ⟨n, l, (Root.resolve_eq_ok_iff.mp hresolve).1, hending,
          (Root.extends_writeAll hd' r ws).locate hl⟩
      · cases hw
    · exact ih hd' hw

/-! ### Listed files -/

/-- A file that is listed, in a workspace without links. -/
structure Root.Listed (r : Root) (d : Disk) (text : String) (c way : Location) (content : String) :
    Prop where
  wellFormed : d.WellFormed
  root : d.locate r.path = .ok c
  directory : d.find? c = some .directory
  opens : r.Opens d c
  noLink : ∀ way target, d.find? (c ++ way) ≠ some (.link target)
  text_eq : text = join way
  visible : ∀ name ∈ way, isHiddenName name = false
  storable : r.Storable way
  file : d.find? (c ++ way) = some (.file content.toUTF8)
  /-- The name that the file has been written under. -/
  written : ∃ name n, Name.read? name = some n ∧ n.ending.parts = [] ∧
    d.locate (r.wholePathOf n) = .ok (c ++ way) ∧ namesIn name = way

/-- What is listed after some writes into an empty workspace. -/
theorem Root.exists_listed (hd : d.WellFormed) (hr : r.unnamed = false) (hvacant : r.Vacant d)
    (hlist : r.list (r.writeAll d ws) = .ok names) (htext : text ∈ names) :
    ∃ c way content, r.Listed (r.writeAll d ws) text c way content := by
  obtain ⟨hd', hstores⟩ := Root.stores_writeAll hd hr hvacant.stores ws
  have htexts := Root.holdsTexts_writeAll hd hr hvacant.stores hvacant.stores.holdsTexts ws
  rw [List.nil_append] at hstores
  have hopen := Root.opensAll_writeAll hd hr hvacant.stores hvacant.opensAll ws
  obtain ⟨way, hway, htextWay, hvisible⟩ := (Root.mem_list_of_stores hd' hr hstores hlist).mp htext
  rcases hstores with ⟨c, hc, hdir, hfilled⟩ | ⟨-, -, hnil⟩
  · obtain ⟨w, hw, rfl⟩ := List.mem_map.mp hway
    obtain ⟨n, l, hread, hending, hl⟩ := Root.exists_of_mem_successes hd hw
    -- Below the root there are no links, so the name leads to the location that its parts spell.
    have hdown := Root.eq_of_leads hread hending hl hc hfilled.noLink
    obtain ⟨bytes, hfile⟩ := (hfilled.file_iff _).mpr hway
    obtain ⟨content, rfl⟩ := htexts c _ bytes hc hfile
    exact ⟨c, namesIn w.name, content, {
      wellFormed := hd'
      root := hc
      directory := hdir
      opens := hopen.opens hc
      noLink := hfilled.noLink
      text_eq := htextWay
      visible := hvisible
      storable := Root.storable_of_read? hread hending (locate_eq_ok_iff.mp hl).1
      file := hfile
      written := ⟨w.name, n, hread, hending, hdown ▸ hl, rfl⟩ }⟩
  · rw [hnil] at hway
    cases hway

namespace Root.Listed

/-- A listed text that does not start with a blank is a name that leads to the file. -/
theorem resolve (h : r.Listed d text c way content) (hblank : Text.startsBlank text = false) :
    r.resolve d text = .ok ⟨way, .name⟩ ∧
      d.locate (r.wholePathOf ⟨way, .name⟩) = .ok (c ++ way) := by
  obtain ⟨name, n, hread, hending, hl, hnames⟩ := h.written
  have htext := h.text_eq
  subst htext
  have hread' := Name.read?_join h.storable h.visible hblank
  have hsame : namesIn (join way) = namesIn name := by
    rw [hnames, ← Name.namesOf_parts hread']
    exact List.filter_eq_self.mpr fun x hx => by rw [(h.storable.isName x hx).1]; rfl
  have haccepted : refusal? (r.wholePathOf ⟨way, .name⟩) = none := by
    rw [r.wholePathOf_eq]
    exact (List.append_nil way).symm ▸ h.storable.accepted
  have hinside : r.Inside d (c ++ way) := ⟨c, h.root, List.prefix_append ..⟩
  have hleads := Root.locate?_of_spelling hread hending hl (.inr hinside) hread' rfl haccepted hsame
  obtain ⟨n', hres, hl'⟩ := Root.locate?_eq_some_iff.mp hleads
  obtain rfl : n' = ⟨way, .name⟩ :=
    Option.some.inj ((Root.resolve_eq_ok_iff.mp hres).1.symm.trans hread')
  exact ⟨hres, hl'⟩

/-- **A listed text leads to its file** exactly if it does not start with a blank. -/
theorem locate?_iff (h : r.Listed d text c way content) :
    r.locate? d text = some (c ++ way) ↔ Text.startsBlank text = false := by
  constructor
  · intro hleads
    obtain ⟨n, hres, hl⟩ := Root.locate?_eq_some_iff.mp hleads
    have hread := (Root.resolve_eq_ok_iff.mp hres).1
    by_cases hending : n.ending.parts = []
    · have hdown := Root.eq_of_leads hread hending hl h.root h.noLink
      have hnames : namesIn text = way := (List.append_cancel_left hdown).symm
      rw [h.text_eq] at hnames ⊢
      exact (Bool.not_eq_true _).mp fun hblank =>
        namesIn_join_ne h.storable.nonempty hblank hnames
    · -- A name that something comes after leads to a directory.
      obtain ⟨m, hm, hdir⟩ := exists_of_walk_here (walk_of_locate hl)
        (Name.proper_of_read? hread).ending hending
      cases hm
      rw [h.file] at hdir
      cases hdir
  · intro hblank
    exact Root.locate?_eq_some_iff.mpr ⟨_, h.resolve hblank⟩

/-- **Writing under a listed text** writes over the file. -/
theorem write (h : r.Listed d text c way content) (hblank : Text.startsBlank text = false)
    (new : String) : r.write d text new = (d.put (c ++ way) (.file new.toUTF8), .ok ()) := by
  obtain ⟨hres, hl⟩ := h.resolve hblank
  exact Root.write_of_file hres rfl hl h.file

end Root.Listed

/-- **Listed names.**  Let a workspace be empty in the beginning and let files be written into it,
one after the other.  Then listing it goes well, each text in the listing is the way to a file that
holds a text, and it leads to this file as a name exactly if it does not start with a blank.  If it
leads to it,

* reading it gives the content of the file;
* writing under it goes well and writes over the file, and nothing else is changed; in particular
  the same files are listed afterwards. -/
theorem Root.listed_names (hd : d.WellFormed) (hvacant : r.Vacant d) (ws : List Draft) :
    let d' := r.writeAll d ws
    ∃ names, r.list d' = .ok names ∧
    ∀ text ∈ names, ∃ c way content, d'.locate r.path = .ok c ∧
      text = "/".intercalate way ∧ Plain way ∧
      d'.find? (c ++ way) = some (.file content.toUTF8) ∧
      (r.locate? d' text = some (c ++ way) ↔ Text.startsBlank text = false) ∧
      (Text.startsBlank text = false → r.read d' text = .ok content ∧
        ∀ new, (r.write d' text new).2 = .ok () ∧
          (r.write d' text new).1.find? (c ++ way) = some (.file new.toUTF8) ∧
          (∀ l, l ≠ c ++ way → (r.write d' text new).1.find? l = d'.find? l) ∧
          r.list (r.write d' text new).1 = r.list d') := by
  intro d'
  cases hr : r.unnamed with
  | true => exact ⟨[], Root.list_unnamed hr d', fun text htext => absurd htext List.not_mem_nil⟩
  | false =>
  obtain ⟨hd', hstores⟩ := Root.stores_writeAll hd hr hvacant.stores ws
  obtain ⟨names, hlist⟩ := Root.exists_list_of_stores hd' hr hstores
    (Root.opensAll_writeAll hd hr hvacant.stores hvacant.opensAll ws)
  refine ⟨names, hlist, fun text htext => ?_⟩
  obtain ⟨c, way, content, h⟩ := Root.exists_listed hd hr hvacant hlist htext
  refine ⟨c, way, content, h.root, h.text_eq, h.storable.plain, h.file, h.locate?_iff,
    fun hblank => ⟨Root.read_of_file (h.locate?_iff.mpr hblank) h.file, fun new => ?_⟩⟩
  have hne := ne_nil_of_file h.file
  -- Writing to a file that is there changes its entry and nothing else.
  rw [h.write hblank new]
  refine ⟨rfl, ?_, fun l hl => ?_,
    Root.list_put h.wellFormed hr h.root h.directory h.opens h.file⟩
  · rw [find?_put hne, if_pos rfl]
  · rw [find?_put hne, if_neg (Ne.symm hl)]

/-- An empty directory. -/
def emptyBox : Disk :=
  ⟨[(["box"], .directory)]⟩

theorem wellFormed_emptyBox : emptyBox.WellFormed := by
  refine wellFormed_of_entries ?_ ?_
  · decide +kernel
  · decide +kernel

theorem vacant_emptyBox : (Root.open emptyBox ["box"]).Vacant emptyBox := by
  refine .inl ⟨["box"], by decide +kernel, by decide +kernel, fun way hway => ?_⟩
  obtain ⟨x, s, rfl⟩ := List.exists_cons_of_ne_nil hway
  simp [find?, emptyBox]

/-- A file that has been written under another spelling of its listed name. -/
theorem emptyBox_listed_names :
    let r := Root.open emptyBox ["box"]
    let d' := r.writeAll emptyBox [⟨"./ a.txt", "a"⟩, ⟨" ././b//c.txt\n", "c"⟩, ⟨"b/c.txt/d", "d"⟩]
    emptyBox.WellFormed ∧ r.Vacant emptyBox ∧
    (∃ names, r.list d' = .ok names ∧ "b/c.txt" ∈ names) ∧
    r.locate? d' "b/c.txt" = some ["box", "b", "c.txt"] ∧ r.read d' "b/c.txt" = .ok "c" ∧
    ∀ new,
      (r.write d' "b/c.txt" new).1.find? ["box", "b", "c.txt"] = some (.file new.toUTF8) ∧
      r.list (r.write d' "b/c.txt" new).1 = r.list d' := by
  intro r d'
  have hr : r.unnamed = false := by decide +kernel
  have hd' : d'.WellFormed :=
    (Root.stores_writeAll wellFormed_emptyBox hr vacant_emptyBox.stores _).1
  obtain ⟨names, hlist, hnames⟩ :=
    Root.listed_names (r := r) wellFormed_emptyBox vacant_emptyBox
      [⟨"./ a.txt", "a"⟩, ⟨" ././b//c.txt\n", "c"⟩, ⟨"b/c.txt/d", "d"⟩]
  have hlisted : "b/c.txt" ∈ names := by
    refine (Root.mem_list_iff (c := ["box"]) hd' hr ?_ ?_ hlist).mpr
      ⟨["b", "c.txt"], rfl, ⟨"c".toUTF8, ?_⟩, by decide⟩
    · decide +kernel
    · decide +kernel
    · decide +kernel
  obtain ⟨c, way, content, -, -, -, -, hiff, hlast⟩ := hnames "b/c.txt" hlisted
  have hleads : r.locate? d' "b/c.txt" = some ["box", "b", "c.txt"] := by decide +kernel
  have hblank : Text.startsBlank "b/c.txt" = false := by decide
  have hplace : c ++ way = ["box", "b", "c.txt"] :=
    Option.some.inj ((hiff.mpr hblank).symm.trans hleads)
  obtain ⟨-, hwrite⟩ := hlast hblank
  have hcontent : r.read d' "b/c.txt" = .ok "c" := by decide +kernel
  refine ⟨wellFormed_emptyBox, vacant_emptyBox, ⟨names, hlist, hlisted⟩, hleads, hcontent,
    fun new => ?_⟩
  obtain ⟨-, hfile, -, hsame⟩ := hwrite new
  rw [hplace] at hfile
  exact ⟨hfile, hsame⟩

/-- A file whose listed name starts with a blank: it is not found under this name. -/
theorem blank_name_lost :
    let r := Root.open emptyBox ["box"]
    let d' := r.writeAll emptyBox [⟨"./ a.txt", "a"⟩]
    r.list d' = .ok [" a.txt"] ∧ d'.find? ["box", " a.txt"] = some (.file "a".toUTF8) ∧
    r.read d' " a.txt" = .error (.notFound " a.txt") := by
  decide +kernel

end Colloquy.Workspace
