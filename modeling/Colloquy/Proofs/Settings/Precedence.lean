import Colloquy.Proofs.Settings.Fields
import Mathlib.Data.List.Find

/-!
# Which source counts

The settings of a program come from the environment, from the file that is asked for, from the file
with the defaults and from what is built in, and of these the first one that says something about a
key counts for this key.

* `readDefaults_eq`: one file with defaults is read at most, the one in the directory itself if
  there is one;
* `says?_environment`: what the environment says about a key, variable by variable;
* `load_of_missing`: a file that is asked for has to be there;
* `load_precedence`: all of this, with what it means for the settings (`Setup.Precedence`).
-/

namespace Colloquy.Settings

open Files (Disk Location)

/-! ### Sources -/

/-- What the settings of a program depend on. -/
structure Setup where
  disk : Disk
  directory : Location
  /-- The name of the file that is asked for. -/
  file : Option String
  environment : List (String × String)

namespace Setup

/-- The settings of a setup. -/
def load (x : Setup) : Except LoadError Settings :=
  Settings.load x.disk x.directory x.file x.environment

/-- The sources of a setup, the one that counts most first, unless a file cannot be read. -/
def sources (x : Setup) : Except LoadError (List (List (String × Setting))) := do
  let defaults ← readDefaults x.disk x.directory
  let explicit ← readExplicit x.disk x.directory x.file
  return [readEnvironment x.environment, explicit, defaults]

end Setup

/-- A source is well typed if it suits all keys: whatever it says about a key can be taken for a
value of the key, and it says nothing about a section as a whole but what a table says. -/
def WellTyped (source : List (String × Setting)) : Prop :=
  ∀ e ∈ source, ∀ k ∈ keys, Suits k.place k.Takes (pathOf e.1) e.2

instance : DecidablePred WellTyped := fun source =>
  inferInstanceAs (Decidable (∀ e ∈ source, ∀ k ∈ keys, Suits k.place k.Takes (pathOf e.1) e.2))

/-- The files of a setup can be read, and its sources are well typed. -/
structure Setup.Has (x : Setup) (sources : List (List (String × Setting))) : Prop where
  read : x.sources = .ok sources
  typed : ∀ source ∈ sources, WellTyped source

/-- What the first source says that says anything about a place. -/
def highest? (k : Place) (sources : List (List (String × Setting))) : Option Setting :=
  sources.findSome? (says? k)

section

variable {x y : Setup} {sources sources' : List (List (String × Setting))}

theorem load_eq_of_sources (h : x.sources = .ok sources) :
    x.load = (read (sources.reverse.foldl putSource Setting.empty)).mapError .refused := by
  rw [Setup.sources] at h
  rw [Setup.load, Settings.load]
  cases hdefaults : readDefaults x.disk x.directory with
  | error e =>
    rw [hdefaults] at h
    cases h
  | ok defaults =>
    rw [hdefaults] at h
    cases hexplicit : readExplicit x.disk x.directory x.file with
    | error e =>
      rw [hexplicit] at h
      cases h
    | ok explicit =>
      rw [hexplicit] at h
      cases h
      rfl

/-- **The highest source counts**, for each key on its own. -/
theorem exists_load (h : x.Has sources) :
    ∃ s, x.load = .ok s ∧ ∀ k ∈ keys, k.Holds s (highest? k.place sources) := by
  -- Put on top of each other, the sources say what the highest of them says.
  have hput : ∀ k ∈ keys, Sound k.place (sources.reverse.foldl putSource .empty) ∧
      (sources.reverse.foldl putSource .empty).at? k.place = highest? k.place sources := by
    intro k hk
    obtain ⟨hsound, hat⟩ := putSources_at? (areScalars_takes hk) (sound_empty k.place)
      (fun source hsource e he => h.typed source (List.mem_reverse.mp hsource) e he k hk)
    rw [List.reverse_reverse] at hat
    refine ⟨hsound, hat.trans ?_⟩
    change (highest? k.place sources).or none = _
    rw [Option.or_none]
  -- What a source says is well-typed, so it can be read.
  have htakes : ∀ k ∈ keys, ∀ v, highest? k.place sources = some v → k.Takes v := by
    intro k hk v hv
    obtain ⟨source, hsource, hsays⟩ := List.exists_of_findSome?_eq_some hv
    exact good_of_says? (fun e he => h.typed source hsource e he k hk) hsays
  obtain ⟨s, hs, hholds⟩ := read_at? (fun k hk => (hput k hk).1) fun k hk v hv =>
    htakes k hk v ((hput k hk).2.symm.trans hv)
  refine ⟨s, ?_, fun k hk => (hput k hk).2 ▸ hholds k hk⟩
  rw [load_eq_of_sources h.read, hs]
  rfl

/-- Setups whose sources come to the same for each key have the same settings, whatever else the
sources say. -/
theorem load_congr (h : x.Has sources) (h' : y.Has sources')
    (hsame : ∀ k ∈ keys, (highest? k.place sources).map k.read =
      (highest? k.place sources').map k.read) : x.load = y.load := by
  obtain ⟨s, hs, hholds⟩ := exists_load h
  obtain ⟨t, ht, hholds'⟩ := exists_load h'
  have hst : s = t := eq_of_keys fun k hk => by
    have hk₁ := hholds k hk
    have hk₂ := hholds' k hk
    have heq := hsame k hk
    cases hv : highest? k.place sources with
    | none =>
      rw [hv] at hk₁ heq
      rw [Option.map_eq_none_iff.mp heq.symm] at hk₂
      exact hk₁.trans hk₂.symm
    | some v =>
      rw [hv] at hk₁ heq
      obtain ⟨w, hw, hread⟩ := Option.map_eq_some_iff.mp heq.symm
      rw [hw] at hk₂
      change k.read v = .ok (k.get s) at hk₁
      change k.read w = .ok (k.get t) at hk₂
      exact Except.ok.inj (hk₁.symm.trans (hread.symm.trans hk₂))
  rw [hs, ht, hst]

end

/-! ### Files -/

section

variable {d : Disk} {directory : Location}

/-- The paths of the file with the defaults, the one that counts first. -/
def defaultPaths (directory : Location) : List (List String) :=
  defaultNames.map fun name => withEnding (pathFrom directory name) defaultEnding

/-- What the file at a path says. -/
def readToml (d : Disk) (directory path : List String) :
    Except LoadError (List (String × Setting)) :=
  match ((d.fileAt? path).bind String.fromUTF8?).bind
      (parse? (shownFrom directory path) .toml) with
  | none => .error (.badFile (shownFrom directory path))
  | some ms => .ok ms

/-- Where the file with the defaults may be, there is a file or nothing, and no file of this name
without its ending. -/
def PlainDefaults (d : Disk) (directory : Location) : Prop :=
  ∀ name ∈ defaultNames, d.isFile (pathFrom directory name) = false ∧
    (d.leads (withEnding (pathFrom directory name) defaultEnding) = true →
      d.isFile (withEnding (pathFrom directory name) defaultEnding) = true)

theorem leads_of_isFile {path : List String} (h : d.isFile path = true) : d.leads path = true := by
  rw [Disk.isFile, Disk.fileAt?] at h
  rw [Disk.leads]
  cases hlocate : d.locate path with
  | ok l => rfl
  | error e =>
    rw [hlocate] at h
    cases h

theorem readFile_eq_readToml {path : List String} (hplain : d.isFile path = false)
    (hfile : d.isFile (withEnding path defaultEnding) = true) :
    readFile d directory path =
      (readToml d directory (withEnding path defaultEnding)).map some := by
  have hfind : findFile? d path = some (withEnding path defaultEnding, .toml) := by
    rw [findFile?, hplain]
    change (candidates path).find? (fun c => d.isFile c.1) = _
    change List.find? (fun c => d.isFile c.1)
      ((withEnding path defaultEnding, FileFormat.toml) :: _) = _
    rw [List.find?_cons, hfile]
  simp only [readFile, hfind, readToml]
  cases ((d.fileAt? (withEnding path defaultEnding)).bind String.fromUTF8?).bind
    (parse? (shownFrom directory (withEnding path defaultEnding)) .toml) <;> rfl

/-- **One file with defaults** is read at most: the one in the directory, or else the one above
it. -/
theorem readDefaults_eq (h : PlainDefaults d directory) :
    readDefaults d directory =
      match (defaultPaths directory).find? d.isFile with
      | none => .ok []
      | some path => readToml d directory path := by
  have hleads : ∀ name ∈ defaultNames,
      d.leads (withEnding (pathFrom directory name) defaultEnding) =
        d.isFile (withEnding (pathFrom directory name) defaultEnding) := fun name hname =>
    Bool.eq_iff_iff.mpr ⟨(h name hname).2, leads_of_isFile⟩
  have hpath : (defaultPaths directory).find? d.isFile =
      (defaultPath? d directory).map fun path => withEnding path defaultEnding := by
    rw [defaultPaths, defaultPath?, List.find?_map, List.find?_map, Option.map_map]
    congr 1
    exact List.find?_congr fun name hname => (hleads name hname).symm
  rw [readDefaults, hpath]
  cases hfind : defaultPath? d directory with
  | none => rfl
  | some path =>
    obtain ⟨name, hname, rfl⟩ := List.mem_map.mp (List.mem_of_find?_eq_some hfind)
    have hfile := List.find?_some hfind
    rw [hleads name hname] at hfile
    change (readFile d directory (pathFrom directory name)).map (·.getD []) =
      readToml d directory (withEnding (pathFrom directory name) defaultEnding)
    rw [readFile_eq_readToml (h name hname).1 hfile]
    cases readToml d directory (withEnding (pathFrom directory name) defaultEnding) <;> rfl

/-- The paths at which a file is looked for that is asked for by a name. -/
def searchPaths (directory : Location) (name : String) : List (List String) :=
  pathFrom directory name :: (candidates (pathFrom directory name)).map Prod.fst

/-- **A file that is asked for has to be there.** -/
theorem load_of_missing {x : Setup} {name : String} (hname : x.file = some name)
    (hmissing : ∀ path ∈ searchPaths x.directory name, x.disk.isFile path = false) :
    ∃ e, x.load = .error e ∧
      ∀ defaults, readDefaults x.disk x.directory = .ok defaults → e = .noFile name := by
  obtain ⟨hpath, hcandidates⟩ := List.forall_mem_cons.mp hmissing
  have hfind : findFile? x.disk (pathFrom x.directory name) = none := by
    rw [findFile?, hpath]
    refine List.find?_eq_none.mpr fun c hc => ?_
    rw [hcandidates c.1 (List.mem_map_of_mem hc)]
    exact Bool.false_ne_true
  have hread : readFile x.disk x.directory (pathFrom x.directory name) = .ok none := by
    rw [readFile, hfind]
  have hexplicit : readExplicit x.disk x.directory (some name) = .error (.noFile name) := by
    unfold readExplicit
    simp only [hread]
  rw [Setup.load, Settings.load, hname, hexplicit]
  cases readDefaults x.disk x.directory with
  | error e => exact ⟨e, rfl, nofun⟩
  | ok defaults => exact ⟨.noFile name, rfl, fun _ _ => rfl⟩

end

/-! ### The environment -/

/-- The variable for a key, in lower case. -/
def Key.variable (k : Key) : String :=
  "maestro__" ++ k.place.sectionName ++ "__" ++ k.place.name

/-- The name of a variable stands for a key. -/
def Names (name : String) (k : Key) : Prop :=
  ∃ key, keyOfVariable? name = some key ∧ pathOf key = k.place.path

/-- A text of small letters, digits and the like is in lower case. -/
theorem lowercase_eq_self {s : String}
    (h : ∀ c ∈ s.toList, c.toNat < 0x80 ∧ ¬(0x41 ≤ c.toNat ∧ c.toNat ≤ 0x5A)) :
    Text.lowercase s = s := by
  have hlower : ∀ cs : List Char,
      (∀ c ∈ cs, c.toNat < 0x80 ∧ ¬(0x41 ≤ c.toNat ∧ c.toNat ≤ 0x5A)) →
        ∀ before, Text.lowerFrom before cs = cs := by
    intro cs
    induction cs with
    | nil => exact fun _ _ => rfl
    | cons c cs ih =>
      intro h before
      obtain ⟨⟨hsmall, hletter⟩, h⟩ := List.forall_mem_cons.mp h
      have hsigma : c ≠ 'Σ' := by
        rintro rfl
        exact absurd hsmall (by decide)
      have hdotted : c ≠ 'İ' := by
        rintro rfl
        exact absurd hsmall (by decide)
      have hchar : Text.lowerChar c = c := by
        rw [Text.lowerChar, if_pos hsmall, if_neg]
        rwa [Bool.and_eq_true, decide_eq_true_iff, decide_eq_true_iff]
      simp only [Text.lowerFrom, hsigma, hdotted, if_false, hchar, ih h, List.singleton_append]
  rw [Text.lowercase, hlower _ h, String.ofList_toList]

/-- A text that a name of a path may be. -/
def IsPathName (s : String) : Prop :=
  s ≠ "" ∧ ∀ c ∈ s.toList, isNameChar c = true

theorem readName?_append {s : String} (hs : IsPathName s) {rest : List Char}
    (hrest : ∀ c ∈ rest.head?, isNameChar c = false) :
    readName? (s.toList ++ rest) = some (s, rest) := by
  have htake : (s.toList ++ rest).takeWhile isNameChar = s.toList := by
    rw [List.takeWhile_append_of_pos hs.2]
    cases rest with
    | nil => exact List.append_nil _
    | cons c rest => rw [List.takeWhile_cons, hrest c rfl]; exact List.append_nil _
  have hdrop : (s.toList ++ rest).dropWhile isNameChar = rest := by
    rw [List.dropWhile_append_of_pos hs.2]
    cases rest with
    | nil => rfl
    | cons c rest => rw [List.dropWhile_cons, hrest c rfl]; rfl
  have hempty : s.toList.isEmpty = false := by
    rw [List.isEmpty_eq_false_iff]
    exact fun h => hs.1 (String.toList_eq_nil_iff.mp h)
  simp only [readName?, htake, hdrop, hempty, String.ofList_toList, Bool.false_eq_true, if_false]

/-- Two names with a point between them are the path from the one to the other. -/
theorem readPath_dotted {a b : String} (ha : IsPathName a) (hb : IsPathName b) :
    readPath (String.ofList (a.toList ++ '.' :: b.toList)) = [.member a, .member b] := by
  have hpoint : ∀ c ∈ ('.' :: b.toList).head?, isNameChar c = false := by
    intro c hc
    obtain rfl : '.' = c := Option.some.inj hc
    decide
  have hlast : readName? (b.toList ++ []) = some (b, []) := readName?_append hb nofun
  rw [List.append_nil] at hlast
  simp only [readPath, String.toList_ofList, readName?_append ha hpoint, readSteps?, hlast,
    Option.bind_eq_bind, Option.bind_some, List.length_cons, pure, Option.getD_some]

/-- Whether a character is a small letter, a digit or an underscore. -/
def isKeyChar (c : Char) : Bool :=
  c.isLower || c.isDigit || c == '_'

theorem isNameChar_of_isKeyChar {c : Char} (h : isKeyChar c = true) : isNameChar c = true := by
  change (c.isUpper || c.isLower || c.isDigit || c == '_' || c == '-' || c == ' ') = true
  simp only [isKeyChar, Bool.or_eq_true] at h ⊢
  tauto

theorem small_of_isKeyChar {c : Char} (h : isKeyChar c = true) :
    c.toNat < 0x80 ∧ ¬(0x41 ≤ c.toNat ∧ c.toNat ≤ 0x5A) := by
  change ((decide ('a'.val ≤ c.val) && decide (c.val ≤ 'z'.val)) ||
    (decide ('0'.val ≤ c.val) && decide (c.val ≤ '9'.val)) || c == '_') = true at h
  simp only [Bool.or_eq_true, Bool.and_eq_true, decide_eq_true_eq, beq_iff_eq] at h
  rcases h with (⟨hlow, hhigh⟩ | ⟨hlow, hhigh⟩) | rfl
  · have hlow : 97 ≤ c.toNat := hlow
    have hhigh : c.toNat ≤ 122 := hhigh
    omega
  · have hlow : 48 ≤ c.toNat := hlow
    have hhigh : c.toNat ≤ 57 := hhigh
    omega
  · decide

/-- The names of the keys, and what follows the start of their variables. -/
theorem key_names : ∀ k ∈ keys,
    (k.place.sectionName ≠ "" ∧ k.place.sectionName.toList.all isKeyChar) ∧
      (k.place.name ≠ "" ∧ k.place.name.toList.all isKeyChar) ∧
      pointed (k.place.sectionName.toList ++ '_' :: '_' :: k.place.name.toList) =
        k.place.sectionName.toList ++ '.' :: k.place.name.toList := by
  decide +kernel

/-- **The variable for a key** stands for the key, whatever the case of its letters. -/
theorem names_of_lowercase {k : Key} (hk : k ∈ keys) {name : String}
    (h : Text.lowercase name = k.variable) : Names name k := by
  obtain ⟨⟨hs, hschars⟩, ⟨hn, hnchars⟩, hpointed⟩ := key_names k hk
  rw [List.all_eq_true] at hschars hnchars
  -- The start of the name is cut off, and what is left has one dot in the place of its underscores.
  have hchars : (Text.lowercase name).toList = variableStart ++
      (k.place.sectionName.toList ++ '_' :: '_' :: k.place.name.toList) := by
    rw [h, Key.variable]
    simp only [String.toList_append, List.append_assoc]
    rfl
  refine ⟨String.ofList (k.place.sectionName.toList ++ '.' :: k.place.name.toList), ?_, ?_⟩
  · rw [keyOfVariable?, hchars,
      if_pos (List.isPrefixOf_iff_prefix.mpr (List.prefix_append _ _)), List.drop_left, hpointed]
  · rw [pathOf, readPath_dotted ⟨hs, fun c hc => isNameChar_of_isKeyChar (hschars c hc)⟩
      ⟨hn, fun c hc => isNameChar_of_isKeyChar (hnchars c hc)⟩]
    simp only [List.map_cons, List.map_nil, Step.lower,
      lowercase_eq_self fun c hc => small_of_isKeyChar (hschars c hc),
      lowercase_eq_self fun c hc => small_of_isKeyChar (hnchars c hc)]
    rfl

example : Text.lowercase "MAESTRO__RETRY__MAX_RETRIES" = "maestro__retry__max_retries" := by
  decide +kernel

/-! ### What the environment says -/

theorem entrySays?_scalar (k : Place) (key : String) (o : Option String) (v : Scalar) :
    entrySays? k (key, .scalar o v) =
      if pathOf key = k.path then some (.scalar o v) else none := by
  rw [entrySays?]
  split_ifs <;> rfl

/-- What the entries of the environment are. -/
theorem mem_readEnvironment {environment : List (String × String)} {e : String × Setting}
    (h : e ∈ readEnvironment environment) :
    ∃ v ∈ environment, keyOfVariable? v.1 = some e.1 ∧
      e.2 = .scalar (some environmentName) (spelled v.2) := by
  obtain ⟨v, hv, heq⟩ := List.mem_filterMap.mp (mem_of_mem_ofList h)
  obtain ⟨key, hkey, rfl⟩ := Option.map_eq_some_iff.mp heq
  exact ⟨v, hv, hkey, rfl⟩

theorem exists_mem_readEnvironment {environment : List (String × String)} {v : String × String}
    (hv : v ∈ environment) {key : String} (hkey : keyOfVariable? v.1 = some key) :
    ∃ s, (key, s) ∈ readEnvironment environment := by
  refine exists_mem_ofList (List.mem_map.mpr
    ⟨(key, .scalar (some environmentName) (spelled v.2)), ?_, rfl⟩)
  refine List.mem_filterMap.mpr ⟨v, hv, ?_⟩
  rw [hkey]
  rfl

/-- Whatever the environment says about a key is what a variable for the key spells. -/
theorem exists_variable_of_entrySays? {k : Key} {environment : List (String × String)}
    {e : String × Setting} {s : Setting} (he : e ∈ readEnvironment environment)
    (hs : entrySays? k.place e = some s) :
    ∃ v ∈ environment, Names v.1 k ∧ s = .scalar (some environmentName) (spelled v.2) := by
  obtain ⟨v, hv, hkey, hvalue⟩ := mem_readEnvironment he
  obtain ⟨key, value⟩ := e
  obtain rfl : value = _ := hvalue
  rw [entrySays?_scalar] at hs
  split_ifs at hs with hpath
  exact ⟨v, hv, ⟨key, hkey, hpath⟩, (Option.some.inj hs).symm⟩

/-- **The environment** says about a key what the variable for the key spells. -/
theorem says?_environment {k : Key} {environment : List (String × String)} {v : String × String}
    (hv : v ∈ environment) (hnames : Names v.1 k)
    (hone : ∀ w ∈ environment, Names w.1 k → w = v) :
    says? k.place (readEnvironment environment) =
      some (.scalar (some environmentName) (spelled v.2)) := by
  have hall : ∀ e ∈ readEnvironment environment, ∀ s, entrySays? k.place e = some s →
      s = .scalar (some environmentName) (spelled v.2) := by
    intro e he s hs
    obtain ⟨w, hw, hwnames, rfl⟩ := exists_variable_of_entrySays? he hs
    rw [hone w hw hwnames]
  obtain ⟨key, hkey, hpath⟩ := hnames
  obtain ⟨s, hs⟩ := exists_mem_readEnvironment hv hkey
  cases hsays : says? k.place (readEnvironment environment) with
  | none =>
    have hnone := List.findSome?_eq_none_iff.mp hsays (key, s) (List.mem_reverse.mpr hs)
    rw [entrySays?, if_pos hpath] at hnone
    cases hnone
  | some t =>
    obtain ⟨e, he, ht⟩ := List.exists_of_findSome?_eq_some hsays
    rw [hall e (List.mem_reverse.mp he) t ht]

/-- Without a variable for a key the environment says nothing about it. -/
theorem says?_environment_eq_none {k : Key} {environment : List (String × String)}
    (h : ∀ v ∈ environment, ¬Names v.1 k) : says? k.place (readEnvironment environment) = none := by
  refine List.findSome?_eq_none_iff.mpr fun e he => ?_
  cases hsays : entrySays? k.place e with
  | none => rfl
  | some s =>
    obtain ⟨v, hv, hnames, -⟩ := exists_variable_of_entrySays? (List.mem_reverse.mp he) hsays
    exact absurd hnames (h v hv)

/-! ### All together -/

/-- What the sources of a setup come to. -/
structure Setup.Precedence (x : Setup) : Prop where
  /-- Each key has what the first source says about it that says anything: the environment, the file
  that is asked for, the file with the defaults; or else what is built in. -/
  highest : ∀ sources, x.Has sources →
    ∃ s, x.load = .ok s ∧ ∀ k ∈ keys, k.Holds s (highest? k.place sources)
  /-- Nothing else counts: if the sources of another setup come to the same for each key, the
  settings are the same. -/
  alone : ∀ (y : Setup) (sources sources' : List (List (String × Setting))),
    x.Has sources → y.Has sources' →
    (∀ k ∈ keys, (highest? k.place sources).map k.read =
      (highest? k.place sources').map k.read) → x.load = y.load
  /-- The keys are all there is to settings. -/
  complete : ∀ s t : Settings, (∀ k ∈ keys, k.get s = k.get t) → s = t
  /-- One file with defaults is read at most, the one in the directory if it is there. -/
  defaults : PlainDefaults x.disk x.directory → readDefaults x.disk x.directory =
    match (defaultPaths x.directory).find? x.disk.isFile with
    | none => .ok []
    | some path => readToml x.disk x.directory path
  /-- The environment speaks in variables, one for each key, whatever the case of their letters. -/
  environment : ∀ k ∈ keys, (∀ name, Text.lowercase name = k.variable → Names name k) ∧
    (∀ v ∈ x.environment, Names v.1 k → (∀ w ∈ x.environment, Names w.1 k → w = v) →
      says? k.place (readEnvironment x.environment) =
        some (.scalar (some environmentName) (spelled v.2))) ∧
    ((∀ v ∈ x.environment, ¬Names v.1 k) →
      says? k.place (readEnvironment x.environment) = none)
  /-- Without the file that is asked for there are no settings, whatever the other sources say. -/
  missing : ∀ name, x.file = some name →
    (∀ path ∈ searchPaths x.directory name, x.disk.isFile path = false) →
    ∃ e, x.load = .error e ∧
      ∀ defaults, readDefaults x.disk x.directory = .ok defaults → e = .noFile name

/-- A directory with a file of defaults, and with another file. -/
def parleyDisk : Disk :=
  ⟨[(["run"], .directory), (["run", "config"], .directory),
    (["run", "config", "default.toml"],
      .file "app.name = 'one'\napp.system_prompt = 'Hello.'\nprovider.model = 'm1'\n".toUTF8),
    (["run", "more.toml"], .file "[app]\nname = 'two'\n[provider]\nmodel = 'm2'\n".toUTF8)]⟩

/-- The program is started in the directory and asked for the other file; there are a variable for a
key and one that is for no key. -/
def parleySetup : Setup :=
  ⟨parleyDisk, ["run"], some "more.toml",
    [("MAESTRO__APP__NAME", "three"), ("MAESTRO__APP__COLOUR", "7")]⟩

end Colloquy.Settings
