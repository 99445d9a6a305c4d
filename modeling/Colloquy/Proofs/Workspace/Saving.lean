import Colloquy.Proofs.Workspace.Confinement

/-!
# What is saved under a name

Several names may lead to one file.  A name that leads to an entry leads there for good, whatever is
written later: nothing is removed, links stay, and what is added is not in the way.  So what is
found under a name can be told from where the names of the writes lead.

* `Root.locate?_extend`: where a name leads it keeps leading;
* `Root.Saved.contains_iff`: whether there was a file before a write where the write goes;
* `Root.writeAll_spec`: after some writes there is, at every location, what was saved there last,
  and where nothing was saved all is as before but for new directories.
-/

namespace Colloquy.Workspace

open Files Files.Disk

variable {r : Root} {d d' : Disk} {n : Name} {l : Location} {name text content : String}

/-! ### Where names lead -/

/-- The location that a name leads to, with all links followed. -/
def Root.locate? (r : Root) (d : Disk) (name : String) : Option Location :=
  match r.resolve d name with
  | .error _ => none
  | .ok n => (d.locate (r.wholePathOf n)).toOption

theorem Root.locate?_eq_some_iff : r.locate? d name = some l ↔
    ∃ n, r.resolve d name = .ok n ∧ d.locate (r.wholePathOf n) = .ok l := by
  rw [Root.locate?]
  cases hres : r.resolve d name with
  | error e => simp
  | ok n => cases hl : d.locate (r.wholePathOf n) <;> simp [hl, Except.toOption]

/-- A name that leads below the root is taken. -/
theorem Root.confines_of_inside (hr : r.unnamed = false)
    (hl : d.locate (r.wholePathOf n) = .ok l) (hinside : r.Inside d l) :
    r.confines d n = true := by
  obtain ⟨hpath, hreach⟩ := locate_eq_ok_iff.mp hl
  obtain ⟨c, hc, hcl⟩ := hinside
  have hbelow : r.startsPath (r.wholePathOf n) = true := by
    rw [Root.startsPath_iff hr, r.wholePathOf_eq, namesOf_append, r.namesOf_front]
    exact List.prefix_append ..
  rw [Root.confines, Root.ancestors, Files.ancestors, List.takeWhile_cons, if_pos hbelow,
    List.find?_cons_of_pos (hreach.hasEntry hpath)]
  dsimp only
  rw [hl, Root.real_of_locate hr hc]
  exact List.isPrefixOf_iff_prefix.mpr hcl

theorem Root.resolve_eq_ok_iff : r.resolve d name = .ok n ↔
    Name.read? name = some n ∧ r.confines d n = true := by
  rw [Root.resolve]
  cases hread : Name.read? name with
  | none => simp
  | some n' =>
    dsimp only
    split_ifs with hconfines
    · simp only [Except.ok.injEq, Option.some.injEq]
      exact ⟨fun h => h ▸ ⟨rfl, hconfines⟩, And.left⟩
    · simp only [Option.some.injEq, false_iff, not_and]
      exact fun h => h ▸ hconfines

/-- Where the path of a name leads, below the root, the name leads. -/
theorem Root.locate?_of_inside (hr : r.unnamed = false) (hread : Name.read? name = some n)
    (hl : d.locate (r.wholePathOf n) = .ok l) (hinside : r.Inside d l) :
    r.locate? d name = some l :=
  Root.locate?_eq_some_iff.mpr
    ⟨n, Root.resolve_eq_ok_iff.mpr ⟨hread, Root.confines_of_inside hr hl hinside⟩, hl⟩

/-- Where a name leads it keeps leading. -/
theorem Root.locate?_extend (hr : r.unnamed = false) (h : r.locate? d name = some l)
    (hext : Extends d d') : r.locate? d' name = some l := by
  obtain ⟨n, hres, hl⟩ := Root.locate?_eq_some_iff.mp h
  have hinside := Root.inside_of_locate (Root.admits_of_resolve hr hres) hl
  exact Root.locate?_of_inside hr (Root.resolve_eq_ok_iff.mp hres).1 (hext.locate hl)
    (hinside.extend hext)

/-! ### Looking at files -/

/-- There is a file with a name if the name leads to one. -/
theorem Root.contains_iff : r.contains d name = true ↔
    ∃ l bytes, r.locate? d name = some l ∧ d.find? l = some (.file bytes) := by
  rw [Root.contains]
  cases hres : r.resolve d name with
  | error e => simp [Root.locate?, hres]
  | ok n =>
    simp only [isFile, Option.isSome_iff_exists, fileAt?_eq_some_iff, Root.locate?_eq_some_iff,
      hres, Except.ok.injEq, exists_eq_left']
    exact exists_comm

theorem fromUTF8?_toUTF8 (text : String) : String.fromUTF8? text.toUTF8 = some text := by
  rw [String.fromUTF8?, String.toUTF8_eq_toByteArray, dif_pos text.isValidUTF8]
  rfl

/-- What is read under a name is the text at the location that it leads to. -/
theorem Root.read_of_file (hl : r.locate? d name = some l)
    (hfile : d.find? l = some (.file text.toUTF8)) : r.read d name = .ok text := by
  obtain ⟨n, hres, hl⟩ := Root.locate?_eq_some_iff.mp hl
  have hbytes : d.fileAt? (r.wholePathOf n) = some text.toUTF8 :=
    fileAt?_eq_some_iff.mpr ⟨l, hl, hfile⟩
  rw [Root.read, hres]
  dsimp only
  rw [hbytes]
  dsimp only
  rw [fromUTF8?_toUTF8]

/-- A name that is read leads to a file. -/
theorem Root.exists_of_read (h : r.read d name = .ok text) : ∃ l, r.locate? d name = some l := by
  obtain ⟨n, l, hres, hl, -⟩ := Root.read_eq_ok h
  exact ⟨l, Root.locate?_eq_some_iff.mpr ⟨n, hres, hl⟩⟩

/-! ### One write -/

namespace Root.Saved

variable {bytes : ByteArray}

/-- A name leads to what was saved under it. -/
theorem locate? (h : r.Saved d d' name l bytes) (hr : r.unnamed = false) :
    r.locate? d' name = some l := by
  obtain ⟨n, hres, hl, -⟩ := h.named
  exact Root.locate?_of_inside hr (Root.resolve_eq_ok_iff.mp hres).1 hl h.inside

/-- There was a file with the name if there was one where the name leads now. -/
theorem contains_iff (h : r.Saved d d' name l bytes) (hr : r.unnamed = false)
    (hext : Extends d d') :
    r.contains d name = true ↔ ∃ old, d.find? l = some (.file old) := by
  rw [Root.contains_iff]
  constructor
  · -- What the name led to before it leads to now.
    rintro ⟨m, old, hm, hold⟩
    have hsame : m = l :=
      Option.some.inj ((Root.locate?_extend hr hm hext).symm.trans (h.locate? hr))
    exact ⟨old, hsame ▸ hold⟩
  · rintro ⟨old, hold⟩
    obtain ⟨n, hres, -, hbefore⟩ := h.named
    have hl := hbefore.resolve_left (by rw [hold]; nofun)
    exact ⟨l, old, Root.locate?_eq_some_iff.mpr ⟨n, hres, hl⟩, hold⟩

end Root.Saved

/-! ### Several writes -/

/-- A file that is to be written. -/
structure Draft where
  name : String
  content : String
deriving DecidableEq, Repr

/-- Writes some files, one after the other, whether the earlier ones went well or not. -/
def Root.writeAll (r : Root) (d : Disk) (ws : List Draft) : Disk :=
  ws.foldl (fun d w => (r.write d w.name w.content).1) d

theorem Root.writeAll_append (r : Root) (d : Disk) (ws ws' : List Draft) :
    r.writeAll d (ws ++ ws') = r.writeAll (r.writeAll d ws) ws' :=
  List.foldl_append

/-- Where a write has saved something, and what; nothing if it has failed. -/
def Root.save? (r : Root) (d : Disk) (w : Draft) : Option (Location × String) :=
  match r.write d w.name w.content with
  | (_, .error _) => none
  | (d', .ok ()) => (r.locate? d' w.name).map fun l => (l, w.content)

/-- Where some writes have saved something, and what, in order. -/
def Root.saves (r : Root) : Disk → List Draft → List (Location × String)
  | _, [] => []
  | d, w :: ws => (r.save? d w).toList ++ r.saves (r.write d w.name w.content).1 ws

theorem Root.saves_append (r : Root) (d : Disk) (ws ws' : List Draft) :
    r.saves d (ws ++ ws') = r.saves d ws ++ r.saves (r.writeAll d ws) ws' := by
  induction ws generalizing d with
  | nil => rfl
  | cons w ws ih => rw [List.cons_append, saves, ih, saves, List.append_assoc]; rfl

/-- What was saved last at a location. -/
def latest? (saved : List (Location × String)) (l : Location) : Option String :=
  ((saved.filter (·.1 == l)).getLast?).map Prod.snd

theorem latest?_append (saved saved' : List (Location × String)) (l : Location) :
    latest? (saved ++ saved') l = (latest? saved' l).or (latest? saved l) := by
  rw [latest?, List.filter_append, List.getLast?_append, latest?, latest?]
  cases ((saved'.filter (·.1 == l)).getLast?) <;> rfl

/-- Something was saved last wherever something was saved. -/
theorem exists_latest? {saved : List (Location × String)} (h : (l, content) ∈ saved) :
    ∃ last, latest? saved l = some last := by
  have hmem : (l, content) ∈ saved.filter (·.1 == l) :=
    List.mem_filter.mpr ⟨h, beq_self_eq_true l⟩
  have hne : (saved.filter (·.1 == l)).getLast? ≠ none := fun hnone => by
    rw [List.getLast?_eq_none_iff.mp hnone] at hmem
    exact List.not_mem_nil hmem
  obtain ⟨x, hx⟩ := Option.ne_none_iff_exists'.mp hne
  exact ⟨x.2, by rw [latest?, hx]; rfl⟩

section

variable (hd : d.WellFormed) (hr : r.unnamed = false) (hroot : ".." ∉ r.path)

include hd hr hroot

/-- **One write** saves its content where its name leads from then on, or it has failed. -/
theorem Root.save?_spec (w : Draft) :
    (∃ e, (r.write d w.name w.content).2 = .error e ∧ r.save? d w = none ∧
      AddsDirectories d (r.write d w.name w.content).1) ∨
    ∃ l, (r.write d w.name w.content).2 = .ok () ∧ r.save? d w = some (l, w.content) ∧
      r.Saved d (r.write d w.name w.content).1 w.name l w.content.toUTF8 := by
  obtain ⟨-, hfailed, hok⟩ := Root.write_course hd hr hroot w.name w.content
  rw [Root.save?]
  cases hres : r.write d w.name w.content with
  | mk d' res =>
  rw [hres] at hfailed hok
  cases res with
  | error e => exact .inl ⟨e, rfl, rfl, hfailed e rfl⟩
  | ok u =>
    obtain ⟨l, hl⟩ := hok rfl
    refine .inr ⟨l, rfl, ?_, hl⟩
    dsimp only
    rw [hl.locate? hr]
    rfl

end

/-- What is at a location after some writes, if this is what was saved there last. -/
def Root.Holds (d d' : Disk) (l : Location) : Option String → Prop
  | some text => d'.find? l = some (.file text.toUTF8)
  | none => d'.find? l = d.find? l ∨ d.find? l = none ∧ d'.find? l = some .directory

theorem Root.holds_none_trans {d'' : Disk} (h : Root.Holds d d' l none)
    (h' : Root.Holds d' d'' l none) : Root.Holds d d'' l none := by
  rcases h' with h' | ⟨hnone', h'⟩
  · rw [Root.Holds, h']
    exact h
  · rcases h with h | ⟨-, hdir⟩
    · exact .inr ⟨h.symm.trans hnone', h'⟩
    · rw [hnone'] at hdir
      cases hdir

theorem latest?_singleton (l m : Location) (content : String) :
    latest? [(l, content)] m = if l = m then some content else none := by
  by_cases h : l = m <;> simp [latest?, h]

/-- **Several writes.**  The disk goes on from what it was, and everywhere there is what was saved
there last; where nothing was saved all is as it was, but for new directories. -/
theorem Root.writeAll_spec (hd : d.WellFormed) (hr : r.unnamed = false) (hroot : ".." ∉ r.path)
    (ws : List Draft) :
    (r.writeAll d ws).WellFormed ∧ Extends d (r.writeAll d ws) ∧
      ∀ l, Root.Holds d (r.writeAll d ws) l (latest? (r.saves d ws) l) := by
  -- The induction is from the front: the rest starts on the disk that the first write leaves.
  induction ws generalizing d with
  | nil => exact ⟨hd, fun _ _ h => .inl h, fun _ => .inl rfl⟩
  | cons w ws ih =>
    have hconfined := (Root.write_course hd hr hroot w.name w.content).1
    obtain ⟨hd', hext, hholds⟩ := ih hconfined.wellFormed
    refine ⟨hd', hconfined.grows.trans hext, fun l => ?_⟩
    have hl := hholds l
    rw [Root.saves, latest?_append]
    cases hlast : latest? (r.saves (r.write d w.name w.content).1 ws) l with
    | some text => rwa [hlast] at hl
    | none =>
      rw [hlast] at hl
      rw [Option.none_or]
      rcases Root.save?_spec hd hr hroot w with ⟨-, -, hnone, hadds⟩ | ⟨m, -, hsome, hsaved⟩
      · rw [hnone]
        exact Root.holds_none_trans (hadds l) hl
      · rw [hsome, Option.toList_some, latest?_singleton]
        split_ifs with hml
        · -- The file is still there: nothing else was saved at its location.
          subst hml
          rcases hl with hl | ⟨hnone, -⟩
          · exact hl.trans hsaved.file
          · rw [hsaved.file] at hnone
            cases hnone
        · refine Root.holds_none_trans ?_ hl
          by_cases hsame : (r.write d w.name w.content).1.find? l = d.find? l
          · exact .inl hsame
          · obtain ⟨hnew, hdir, -⟩ := hsaved.others l (Ne.symm hml) hsame
            exact .inr ⟨hnew, hdir⟩

end Colloquy.Workspace
