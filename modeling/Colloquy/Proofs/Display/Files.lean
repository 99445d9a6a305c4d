import Colloquy.Display.Screen
import Colloquy.Proofs.Data.Firsts
import Mathlib.Data.List.Induction

/-!
# The list of files

The list of files is told by its updates.  Status and description of a file follow different rules:
the last update of the file has its status, and the last update that says anything has its
description.

* `asUpdated?`: what the updates say of a file; `asUpdated?_concat`: what one more update says;
* `map_filename_upsert`, `find?_upsert`: what one update does to the order of the names and to every
  look-up;
* `file?_upsertAll`, `firstsOf_upsertAll`: what is found after any updates, and the names in which
  order;
* `upserts_exact`: the display after any updates of a new one.
-/

namespace Colloquy.Display

variable {us : List ProjectFile} {m : Screen} {name : String}

/-! ### What updates say -/

/-- The last update of a file. -/
def lastUpdate? (us : List ProjectFile) (name : String) : Option ProjectFile :=
  us.findRev? fun u => u.filename == name

/-- The last description that is given for a file; an update without one gives none. -/
def lastDescription? (us : List ProjectFile) (name : String) : Option String :=
  (us.findRev? fun u => u.filename == name && !u.description.isEmpty).map ProjectFile.description

/-- A file as its updates say: with the status of the last one, and with the last description. -/
def asUpdated? (us : List ProjectFile) (name : String) : Option ProjectFile :=
  (lastUpdate? us name).map fun u => ⟨name, u.status, (lastDescription? us name).getD ""⟩

theorem lastUpdate?_eq_none_iff :
    lastUpdate? us name = none ↔ name ∉ us.map ProjectFile.filename := by
  rw [lastUpdate?, findRev?_eq_none_iff, List.mem_map]
  constructor
  · rintro h ⟨u, hu, rfl⟩
    simpa using h u hu
  · exact fun h u hu => beq_eq_false_iff_ne.mpr fun hname => h ⟨u, hu, hname⟩

theorem lastUpdate?_concat (us : List ProjectFile) (u : ProjectFile) (name : String) :
    lastUpdate? (us ++ [u]) name = if u.filename = name then some u else lastUpdate? us name := by
  rw [lastUpdate?, findRev?_concat]
  simp only [beq_iff_eq]
  rfl

theorem lastDescription?_concat (us : List ProjectFile) (u : ProjectFile) (name : String) :
    lastDescription? (us ++ [u]) name =
      if u.filename = name ∧ u.description ≠ "" then some u.description
      else lastDescription? us name := by
  rw [lastDescription?, findRev?_concat]
  by_cases h : u.filename = name ∧ u.description ≠ ""
  · simp [h]
  · rw [if_neg h, if_neg (by simpa using h)]
    rfl

/-- A file that was never updated has no description. -/
theorem lastDescription?_of_none (h : lastUpdate? us name = none) :
    lastDescription? us name = none := by
  rw [lastDescription?, Option.map_eq_none_iff, findRev?_eq_none_iff]
  intro u hu
  have hname : (u.filename == name) = false := findRev?_eq_none_iff.mp h u hu
  rw [hname, Bool.false_and]

/-! ### One update -/

/-- A listed file after an update of it. -/
def ProjectFile.updated (f u : ProjectFile) : ProjectFile :=
  { f with
    status := u.status
    description := if u.description.isEmpty then f.description else u.description }

theorem ProjectFile.updated_of_empty {f u : ProjectFile} (h : u.description = "") :
    f.updated u = { f with status := u.status } := by
  rw [ProjectFile.updated, if_pos (String.isEmpty_iff.mpr h)]

theorem ProjectFile.updated_of_ne_empty {f u : ProjectFile} (h : u.description ≠ "") :
    f.updated u = ⟨f.filename, u.status, u.description⟩ := by
  rw [ProjectFile.updated, if_neg fun hempty => h (String.isEmpty_iff.mp hempty)]

/-- What is said of a file after one more update. -/
theorem asUpdated?_concat (us : List ProjectFile) (u : ProjectFile) (name : String) :
    asUpdated? (us ++ [u]) name =
      if u.filename = name then some (((asUpdated? us name).map (·.updated u)).getD u)
      else asUpdated? us name := by
  by_cases h : u.filename = name
  · subst h
    rw [if_pos rfl, asUpdated?, lastUpdate?_concat, if_pos rfl, lastDescription?_concat,
      asUpdated?]
    -- An update without a description leaves the last one that was given.
    by_cases hempty : u.description = ""
    · rw [if_neg fun hgiven => hgiven.2 hempty]
      cases hlast : lastUpdate? us u.filename with
      | none =>
        rw [lastDescription?_of_none hlast, Option.map_none, Option.getD_none, ← hempty]
        rfl
      | some v =>
        rw [Option.map_some, Option.map_some, Option.map_some, Option.getD_some,
          ProjectFile.updated_of_empty hempty]
    · rw [if_pos ⟨rfl, hempty⟩]
      cases hlast : lastUpdate? us u.filename with
      | none => rfl
      | some v =>
        rw [Option.map_some, Option.map_some, Option.map_some, Option.getD_some,
          ProjectFile.updated_of_ne_empty hempty, Option.getD_some]
  · rw [if_neg h, asUpdated?, lastUpdate?_concat, if_neg h, lastDescription?_concat,
      if_neg fun hgiven => h hgiven.1, asUpdated?]

/-- A name that is new goes to the end, and a name that is known stays where it is. -/
theorem map_filename_upsert (u : ProjectFile) (files : List ProjectFile) :
    (upsert u files).map ProjectFile.filename =
      if u.filename ∈ files.map ProjectFile.filename then files.map ProjectFile.filename
      else files.map ProjectFile.filename ++ [u.filename] := by
  induction files with
  | nil => simp [upsert]
  | cons f files ih =>
    by_cases h : f.filename = u.filename
    · simp [upsert, h]
    · rw [upsert, if_neg h, List.map_cons, ih, List.map_cons]
      by_cases hmem : u.filename ∈ files.map ProjectFile.filename
      · rw [if_pos hmem, if_pos (List.mem_cons_of_mem _ hmem)]
      · have hnew : u.filename ∉ f.filename :: files.map ProjectFile.filename := by
          rw [List.mem_cons, not_or]
          exact ⟨fun heq => h heq.symm, hmem⟩
        rw [if_neg hmem, if_neg hnew, List.cons_append]

/-- The file that is updated is found as updated, or as the update if it is new; the others are
found as before. -/
theorem find?_upsert (u : ProjectFile) (files : List ProjectFile) (name : String) :
    (upsert u files).find? (fun f => f.filename == name) =
      if u.filename = name then
        some (((files.find? fun f => f.filename == name).map (·.updated u)).getD u)
      else files.find? fun f => f.filename == name := by
  induction files with
  | nil => by_cases h : u.filename = name <;> simp [upsert, h]
  | cons f files ih =>
    rw [upsert]
    by_cases hsame : f.filename = u.filename
    · rw [if_pos hsame]
      by_cases h : u.filename = name
      · simp [hsame, h, ProjectFile.updated]
      · simp [hsame, h]
    · rw [if_neg hsame]
      by_cases hf : f.filename = name
      · have h : u.filename ≠ name := fun h => hsame (hf.trans h.symm)
        simp [hf, h]
      · have hbeq : (f.filename == name) = false := beq_eq_false_iff_ne.mpr hf
        simp only [List.find?_cons, hbeq, ih]

theorem file?_upsertFile (m : Screen) (u : ProjectFile) (name : String) :
    (m.upsertFile u).file? name =
      if u.filename = name then some (((m.file? name).map (·.updated u)).getD u)
      else m.file? name :=
  find?_upsert u m.files name

/-! ### Any updates -/

/-- An update is for the files only. -/
theorem foldl_upsertFile (m : Screen) (us : List ProjectFile) :
    us.foldl Screen.upsertFile m = m.upsertFiles us := by
  induction us generalizing m with
  | nil => rfl
  | cons u us ih => exact ih (m.upsertFile u)

/-- **What is found after any updates** of a display without files is what they say. -/
theorem file?_upsertAll (hm : m.files = []) (us : List ProjectFile) (name : String) :
    (us.foldl Screen.upsertFile m).file? name = asUpdated? us name := by
  -- The last update decides, so the updates are taken from the end.
  induction us using List.reverseRecOn with
  | nil =>
    show m.files.find? _ = none
    rw [hm]
    rfl
  | append_singleton us u ih =>
    rw [List.foldl_append, List.foldl_cons, List.foldl_nil, file?_upsertFile, ih,
      asUpdated?_concat]

/-- The names of the listed files are those that are updated, in the order in which they come up
first. -/
theorem firstsOf_upsertAll (hm : m.files = []) (us : List ProjectFile) :
    FirstsOf ((us.foldl Screen.upsertFile m).files.map ProjectFile.filename)
      (us.map ProjectFile.filename) := by
  have hstart : FirstsOf (m.files.map ProjectFile.filename) [] := by
    rw [hm]
    exact FirstsOf.nil
  exact FirstsOf.foldl (fun m : Screen => m.files.map ProjectFile.filename)
    (fun m u => map_filename_upsert u m.files) hstart us

/-- **The list of files after any updates** of a new display.

* The names are different from each other, they are those of the updates, and they are in the order
  in which they come up first.
* A file that is updated is found with the status of its last update and with the last description
  that is given for it, which is empty if there is none.  No other file is found.
* Nothing else of the display changes, and it does not matter whether the updates are applied one by
  one. -/
theorem upserts_exact (us : List ProjectFile) :
    let m := us.foldl Screen.upsertFile .start
    ((m.files.map ProjectFile.filename).Nodup ∧
      FirstsOf (m.files.map ProjectFile.filename) (us.map ProjectFile.filename)) ∧
    (∀ name ∈ us.map ProjectFile.filename, ∃ last, lastUpdate? us name = some last ∧
      m.file? name = some ⟨name, last.status, (lastDescription? us name).getD ""⟩) ∧
    (∀ name ∉ us.map ProjectFile.filename, m.file? name = none) ∧
    m = { Screen.start with files := m.files } ∧ m = Screen.start.upsertFiles us := by
  intro m
  have hfirsts : FirstsOf (m.files.map ProjectFile.filename) (us.map ProjectFile.filename) :=
    firstsOf_upsertAll rfl us
  have hfile : ∀ name, m.file? name = asUpdated? us name := file?_upsertAll rfl us
  have hall : m = Screen.start.upsertFiles us := foldl_upsertFile .start us
  refine ⟨⟨hfirsts.nodup, hfirsts⟩, fun name hname => ?_, fun name hname => ?_, ?_, hall⟩
  · -- A name that comes up in the updates has a last one.
    have hupdated : lastUpdate? us name ≠ none := fun hnone =>
      lastUpdate?_eq_none_iff.mp hnone hname
    obtain ⟨last, hlast⟩ := Option.ne_none_iff_exists'.mp hupdated
    refine ⟨last, hlast, ?_⟩
    rw [hfile, asUpdated?, hlast]
    rfl
  · rw [hfile, asUpdated?, lastUpdate?_eq_none_iff.mpr hname]
    rfl
  · rw [hall]
    rfl

/-- Updates of two files, one of which is planned with a description and then written without. -/
def plannedThenWritten : List ProjectFile :=
  [⟨"main.rs", .planned, "entry"⟩, ⟨"lib.rs", .planned, ""⟩, ⟨"main.rs", .generated, ""⟩]

/-- The description of the plan stays when the file is written. -/
theorem plannedThenWritten_listed :
    let m := plannedThenWritten.foldl Screen.upsertFile .start
    "main.rs" ∈ plannedThenWritten.map ProjectFile.filename ∧
    "readme.md" ∉ plannedThenWritten.map ProjectFile.filename ∧
    FirstsOf ["main.rs", "lib.rs"] ["main.rs", "lib.rs", "main.rs"] ∧
    m.file? "main.rs" = some ⟨"main.rs", .generated, "entry"⟩ ∧ m.file? "readme.md" = none := by
  have hmain : "main.rs" ∈ plannedThenWritten.map ProjectFile.filename := by decide
  have hreadme : "readme.md" ∉ plannedThenWritten.map ProjectFile.filename := by decide
  obtain ⟨⟨-, hfirsts⟩, hfound, habsent, -, -⟩ := upserts_exact plannedThenWritten
  obtain ⟨last, hlast, hfile⟩ := hfound "main.rs" hmain
  have hwritten : lastUpdate? plannedThenWritten "main.rs" = some ⟨"main.rs", .generated, ""⟩ := by
    decide
  have hdescription : lastDescription? plannedThenWritten "main.rs" = some "entry" := by decide
  rw [hwritten] at hlast
  obtain rfl := Option.some.inj hlast
  rw [hdescription] at hfile
  exact ⟨hmain, hreadme, hfirsts, hfile, habsent "readme.md" hreadme⟩

end Colloquy.Display
