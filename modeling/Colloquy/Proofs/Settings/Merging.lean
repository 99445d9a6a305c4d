import Colloquy.Settings.Sources
import Mathlib.Tactic.SplitIfs

/-!
# Sources put on top of each other

A place is the name of a section and the name of a setting in it.  A source says something about a
place with a key that is the path to it, or with a table for the section; any other path that parts
from the one to the place says nothing about it.  A source that suits the place uses no other paths
than these (`Suits`), so it never replaces the section by something else, and nothing at the place
is more than a single value.

* `putKey_at?`: what one key does to a place;
* `putSource_at?`: what a source says about a place takes the place of what was there, and what it
  does not say anything about stays as it was;
* `putSources_at?`: of several sources the last one that says something about a place counts.
-/

namespace Colloquy.Settings

/-! ### Paths and places -/

/-- A step with its name in lower case. -/
def Step.lower : Step → Step
  | member name => .member (Text.lowercase name)
  | item index => .item index

/-- The path that a key stands for, whatever the case of its letters. -/
def pathOf (key : String) : List Step :=
  (readPath key).map Step.lower

/-- Two paths part where they go on to members with different names. -/
def Parts : List Step → List Step → Prop
  | .member n :: p, .member m :: q => n ≠ m ∨ Parts p q
  | _, _ => False

instance Parts.decidable : (p q : List Step) → Decidable (Parts p q)
  | .member n :: p, .member m :: q =>
    have := Parts.decidable p q
    inferInstanceAs (Decidable (n ≠ m ∨ Parts p q))
  | [], _ => isFalse id
  | .item _ :: _, _ => isFalse id
  | .member _ :: _, [] => isFalse id
  | .member _ :: _, .item _ :: _ => isFalse id

theorem not_parts_nil (p : List Step) : ¬Parts p [] := by
  rcases p with _ | ⟨_ | _, p⟩ <;> exact id

theorem not_parts_self (p : List Step) : ¬Parts p p := by
  induction p with
  | nil => exact id
  | cons s p ih =>
    cases s with
    | member n => exact fun h => h.elim (fun hn => hn rfl) ih
    | item i => exact id

theorem lower_eq_member {s : Step} {name : String} (h : s.lower = .member name) :
    ∃ n, s = .member n ∧ Text.lowercase n = name := by
  cases s with
  | member n => exact ⟨n, rfl, Step.member.inj h⟩
  | item i => cases h

/-- The name of a section, and the name of a setting in it. -/
structure Place where
  sectionName : String
  name : String
deriving DecidableEq, Repr

/-- The path to a place. -/
def Place.path (k : Place) : List Step :=
  [.member k.sectionName, .member k.name]

/-- A path to another place parts from the one to a place. -/
theorem parts_of_ne {k l : Place} (h : l ≠ k) : Parts l.path k.path := by
  obtain ⟨s, n⟩ := k
  obtain ⟨t, m⟩ := l
  by_cases hs : t = s
  · exact .inr (.inl fun hn => h (by subst hs; exact congrArg (Place.mk t) hn))
  · exact .inl hs

/-- What a tree has at a place. -/
def Setting.at? (tree : Setting) (k : Place) : Option Setting :=
  (findValue? k.sectionName tree.members).bind fun s => findValue? k.name s.members

/-! ### What a source says -/

/-- What members of a table say under a name, whatever the case of its letters; the last one
counts. -/
def lastNamed? (name : String) (ms : List (String × Setting)) : Option Setting :=
  (ms.reverse.find? fun m => Text.lowercase m.1 == name).map Prod.snd

/-- What a setting under a key says about a place. -/
def entrySays? (k : Place) (e : String × Setting) : Option Setting :=
  if pathOf e.1 = k.path then some e.2
  else if pathOf e.1 = [.member k.sectionName] then lastNamed? k.name e.2.members
  else none

/-- What a source says about a place; the last key counts. -/
def says? (k : Place) (source : List (String × Setting)) : Option Setting :=
  source.reverse.findSome? (entrySays? k)

/-- Whether a setting is a table. -/
def Setting.isTable : Setting → Bool
  | .table .. => true
  | _ => false

/-- A setting under a path suits a place if it is something good at the place itself, or a table
for the section that has nothing but good at the place, or something elsewhere. -/
inductive Suits (k : Place) (Good : Setting → Prop) : List Step → Setting → Prop where
  | value {s : Setting} (h : Good s) : Suits k Good k.path s
  | table {o : Option String} {ms : List (String × Setting)}
      (h : ∀ m ∈ ms, Text.lowercase m.1 = k.name → Good m.2) :
      Suits k Good [.member k.sectionName] (.table o ms)
  | elsewhere {p : List Step} {s : Setting} (h : Parts p k.path) : Suits k Good p s

/-- Whether a setting suits a place can be told from the place, the path and the setting. -/
theorem suits_iff {k : Place} {Good : Setting → Prop} {p : List Step} {s : Setting} :
    Suits k Good p s ↔ p = k.path ∧ Good s ∨
      (p = [.member k.sectionName] ∧ s.isTable = true ∧
        ∀ m ∈ s.members, Text.lowercase m.1 = k.name → Good m.2) ∨ Parts p k.path := by
  constructor
  · rintro (h | h | h)
    · exact .inl ⟨rfl, h⟩
    · exact .inr (.inl ⟨rfl, rfl, h⟩)
    · exact .inr (.inr h)
  · rintro (⟨rfl, h⟩ | ⟨rfl, htable, h⟩ | h)
    · exact .value h
    · cases s with
      | table o ms => exact .table h
      | scalar o v => cases htable
      | list o items => cases htable
    · exact .elsewhere h

instance (k : Place) (Good : Setting → Prop) [DecidablePred Good] (p : List Step) (s : Setting) :
    Decidable (Suits k Good p s) :=
  decidable_of_iff _ suits_iff.symm

theorem lastNamed?_cons (name : String) (m : String × Setting) (ms : List (String × Setting)) :
    lastNamed? name (m :: ms) =
      (lastNamed? name ms).or (if Text.lowercase m.1 = name then some m.2 else none) := by
  rw [lastNamed?, lastNamed?, List.reverse_cons, List.find?_append, Option.map_or]
  by_cases h : Text.lowercase m.1 = name <;> simp [h]

theorem says?_cons (k : Place) (e : String × Setting) (source : List (String × Setting)) :
    says? k (e :: source) = (says? k source).or (entrySays? k e) := by
  rw [says?, says?, List.reverse_cons, List.findSome?_append]
  simp

section

variable {k : Place} {Good : Setting → Prop} {key : String} {s tree : Setting}
  {source : List (String × Setting)}

theorem entrySays?_elsewhere (h : Parts (pathOf key) k.path) : entrySays? k (key, s) = none := by
  have hpath : pathOf key ≠ k.path := by
    intro heq
    rw [heq] at h
    exact not_parts_self _ h
  have hsection : pathOf key ≠ [.member k.sectionName] := by
    intro heq
    rw [heq] at h
    exact h.elim (fun hne => hne rfl) id
  rw [entrySays?, if_neg hpath, if_neg hsection]

theorem entrySays?_section (h : pathOf key = [.member k.sectionName]) :
    entrySays? k (key, s) = lastNamed? k.name s.members := by
  have hpath : pathOf key ≠ k.path := by
    rw [h]
    exact fun heq => nomatch (List.cons.inj heq).2
  rw [entrySays?, if_neg hpath, if_pos h]

/-- What a suitable source says is good. -/
theorem good_of_says? (h : ∀ e ∈ source, Suits k Good (pathOf e.1) e.2)
    (hs : says? k source = some s) : Good s := by
  obtain ⟨⟨key, v⟩, he, hsays⟩ := List.exists_of_findSome?_eq_some hs
  have hsuits := h _ (List.mem_reverse.mp he)
  generalize hp : pathOf key = p at hsuits
  cases hsuits with
  | value hv =>
    rw [entrySays?, if_pos hp] at hsays
    exact Option.some.inj hsays ▸ hv
  | table hms =>
    rw [entrySays?_section hp] at hsays
    obtain ⟨m, hm, rfl⟩ := Option.map_eq_some_iff.mp hsays
    exact hms m (List.mem_reverse.mp (List.mem_of_find?_eq_some hm))
      (by simpa using List.find?_some hm)
  | elsewhere hparts =>
    rw [← hp] at hparts
    rw [entrySays?_elsewhere hparts] at hsays
    cases hsays

/-! ### Tables -/

/-- A table whose members are in order. -/
def IsTable (s : Setting) : Prop :=
  ∃ o ms, s = .table o ms ∧ ms.Pairwise fun a b => a.1 < b.1

theorem IsTable.ascending (h : IsTable s) : s.members.Pairwise fun a b => a.1 < b.1 := by
  obtain ⟨o, ms, rfl, hms⟩ := h
  exact hms

theorem isTable_empty : IsTable Setting.empty := ⟨none, [], rfl, .nil⟩

theorem members_setMember (t : Setting) (name : String) (value : Setting) :
    (t.setMember name value).members = insertEntry (Text.lowercase name) value t.members := by
  cases t <;> rfl

/-- With one more member a table is a table, and so is what was none. -/
theorem isTable_setMember {t : Setting} (ht : t.members.Pairwise fun a b => a.1 < b.1)
    (name : String) (value : Setting) : IsTable (t.setMember name value) := by
  cases t with
  | scalar o v => exact ⟨_, _, rfl, pairwise_insertEntry _ _ .nil⟩
  | list o items => exact ⟨_, _, rfl, pairwise_insertEntry _ _ .nil⟩
  | table o ms => exact ⟨_, _, rfl, pairwise_insertEntry _ _ ht⟩

theorem findValue?_setMember {t : Setting} (ht : t.members.Pairwise fun a b => a.1 < b.1)
    (name other : String) (value : Setting) :
    findValue? other (t.setMember name value).members =
      if Text.lowercase name = other then some value else findValue? other t.members := by
  rw [members_setMember, findValue?_insertEntry _ _ _ ht]

/-- A single value is what a setting is if it is good at a place. -/
def AreScalars (Good : Setting → Prop) : Prop :=
  ∀ s, Good s → ∃ o v, s = .scalar o v

/-- A setting that is put under a name becomes the member of this name, a single value as it is. -/
theorem put_eq_setMember (value : Setting) (name : String) (t : Setting) :
    ∃ v, t.put name value = t.setMember name v ∧ ((∃ o x, value = .scalar o x) → v = value) := by
  cases value with
  | scalar o x => exact ⟨_, rfl, fun _ => rfl⟩
  | list o items => exact ⟨_, rfl, nofun⟩
  | table o ms => exact ⟨_, rfl, nofun⟩

/-- A path to a member sets this member and nothing else. -/
theorem putAt_member (value : Setting) (name : String) (path : List Step) (t : Setting) :
    ∃ v, Setting.putAt value (.member name :: path) t = t.setMember name v := by
  cases path with
  | nil =>
    obtain ⟨v, hv, -⟩ := put_eq_setMember value name t
    exact ⟨v, hv⟩
  | cons s path => exact ⟨_, rfl⟩

/-- The members of a table for a section are put into the section one by one. -/
theorem putAll_section (hgood : AreScalars Good) {name : String} {ms : List (String × Setting)}
    (hms : ∀ m ∈ ms, Text.lowercase m.1 = name → Good m.2) {t : Setting} (ht : IsTable t) :
    IsTable (t.putAll ms) ∧
      findValue? name (t.putAll ms).members =
        (lastNamed? name ms).or (findValue? name t.members) := by
  induction ms generalizing t with
  | nil => exact ⟨ht, rfl⟩
  | cons m ms ih =>
    obtain ⟨n, v⟩ := m
    obtain ⟨hv, hms⟩ := List.forall_mem_cons.mp hms
    obtain ⟨w, hput, hscalar⟩ := put_eq_setMember v n t
    have hcons : t.putAll ((n, v) :: ms) = (t.setMember n w).putAll ms := by
      rw [← hput, Setting.putAll, Setting.putMember]
    obtain ⟨htable, hfind⟩ := ih hms (isTable_setMember ht.ascending n w)
    refine ⟨hcons ▸ htable, ?_⟩
    rw [hcons, hfind, findValue?_setMember ht.ascending, lastNamed?_cons, Option.or_assoc]
    congr 1
    by_cases hn : Text.lowercase n = name
    · rw [if_pos hn, if_pos hn, hscalar (hgood v (hv hn))]
      rfl
    · rw [if_neg hn, if_neg hn]
      rfl

/-! ### Places of a tree -/

/-- At a place a tree is sound if it is a table, and the section is one if there is one. -/
structure Sound (k : Place) (tree : Setting) : Prop where
  table : IsTable tree
  inner : ∀ s, findValue? k.sectionName tree.members = some s → IsTable s

theorem sound_empty (k : Place) : Sound k Setting.empty := ⟨isTable_empty, nofun⟩

/-- What comes of a tree if another table is set as one of its members. -/
theorem Sound.setMember (h : Sound k tree) (name : String) {t : Setting}
    (ht : Text.lowercase name = k.sectionName → IsTable t) :
    Sound k (tree.setMember name t) ∧ (tree.setMember name t).at? k =
      if Text.lowercase name = k.sectionName then findValue? k.name t.members
      else tree.at? k := by
  have hfind := findValue?_setMember h.table.ascending name k.sectionName t
  refine ⟨⟨isTable_setMember h.table.ascending name t, fun s hs => ?_⟩, ?_⟩
  · rw [hfind] at hs
    split_ifs at hs with hname
    · exact Option.some.inj hs ▸ ht hname
    · exact h.inner s hs
  · rw [Setting.at?, hfind]
    split_ifs with hname <;> rfl

/-- The section, or something without members if there is none. -/
theorem Sound.getD (h : Sound k tree) {d : Setting} (hd : d.members = []) :
    (((findValue? k.sectionName tree.members).getD d).members.Pairwise fun a b => a.1 < b.1) ∧
      findValue? k.name ((findValue? k.sectionName tree.members).getD d).members =
        tree.at? k := by
  rw [Setting.at?]
  cases hsection : findValue? k.sectionName tree.members with
  | none =>
    rw [Option.getD_none, hd]
    exact ⟨.nil, rfl⟩
  | some t => exact ⟨(h.inner t hsection).ascending, rfl⟩

/-- What comes of a tree if something is set as a member of the section. -/
theorem Sound.setInner (h : Sound k tree) {n : String} (hn : Text.lowercase n = k.sectionName)
    (name : String) (value : Setting) :
    Sound k (tree.setMember n (((tree.member? n).getD .missing).setMember name value)) ∧
      (tree.setMember n (((tree.member? n).getD .missing).setMember name value)).at? k =
        if Text.lowercase name = k.name then some value else tree.at? k := by
  have hmember : tree.member? n = findValue? k.sectionName tree.members := by
    rw [Setting.member?, hn]
  obtain ⟨hascending, hat⟩ := h.getD (d := .missing) rfl
  obtain ⟨hsound, hset⟩ := h.setMember n fun _ =>
    isTable_setMember (t := (tree.member? n).getD .missing) (hmember ▸ hascending) name value
  refine ⟨hsound, ?_⟩
  rw [hset, if_pos hn, hmember, findValue?_setMember hascending, hat]

/-- A path to one member in lower case is one to a member. -/
theorem readPath_of_pathOf {name : String} {rest : List Step}
    (h : pathOf key = .member name :: rest) :
    ∃ n steps, readPath key = .member n :: steps ∧ Text.lowercase n = name ∧
      steps.map Step.lower = rest := by
  obtain ⟨first, steps, hpath, hfirst, hrest⟩ := List.map_eq_cons_iff.mp h
  obtain ⟨n, rfl, hn⟩ := lower_eq_member hfirst
  exact ⟨n, steps, hpath, hn, hrest⟩

/-- The path to a place sets the single value there. -/
theorem Sound.putKey_value (h : Sound k tree) (hp : pathOf key = k.path)
    (hs : ∃ o x, s = .scalar o x) :
    Sound k (tree.putKey key s) ∧ (tree.putKey key s).at? k = some s := by
  obtain ⟨n, steps, hpath, hn, hsteps⟩ := readPath_of_pathOf hp
  obtain ⟨second, more, rfl, hsecond, hmore⟩ := List.map_eq_cons_iff.mp hsteps
  obtain ⟨m, rfl, hm⟩ := lower_eq_member hsecond
  obtain rfl := List.map_eq_nil_iff.mp hmore
  obtain ⟨v, hput, hscalar⟩ := put_eq_setMember s m ((tree.member? n).getD .missing)
  have hkey : tree.putKey key s =
      tree.setMember n (((tree.member? n).getD .missing).setMember m s) := by
    rw [Setting.putKey, hpath]
    change tree.setMember n (((tree.member? n).getD .missing).put m s) = _
    rw [hput, hscalar hs]
  obtain ⟨hsound, hat⟩ := h.setInner hn m s
  rw [hkey, hat, if_pos hm]
  exact ⟨hsound, rfl⟩

/-- A table for the section is merged with the section. -/
theorem Sound.putKey_table (hgood : AreScalars Good) (h : Sound k tree)
    (hp : pathOf key = [.member k.sectionName]) {o : Option String}
    {ms : List (String × Setting)}
    (hms : ∀ m ∈ ms, Text.lowercase m.1 = k.name → Good m.2) :
    Sound k (tree.putKey key (.table o ms)) ∧
      (tree.putKey key (.table o ms)).at? k = (lastNamed? k.name ms).or (tree.at? k) := by
  obtain ⟨n, steps, hpath, hn, hsteps⟩ := readPath_of_pathOf hp
  obtain rfl := List.map_eq_nil_iff.mp hsteps
  have hmember : tree.member? n = findValue? k.sectionName tree.members := by
    rw [Setting.member?, hn]
  have hkey : tree.putKey key (.table o ms) =
      tree.setMember n (((findValue? k.sectionName tree.members).getD .empty).putAll ms) := by
    rw [Setting.putKey, hpath, ← hmember]
    rfl
  obtain ⟨-, hat⟩ := h.getD (d := .empty) rfl
  have hsection : IsTable ((findValue? k.sectionName tree.members).getD .empty) := by
    cases hfind : findValue? k.sectionName tree.members with
    | none => exact isTable_empty
    | some t => exact h.inner t hfind
  obtain ⟨htable, hall⟩ := putAll_section hgood hms hsection
  obtain ⟨hsound, hset⟩ := h.setMember n fun _ => htable
  rw [hkey, hset, if_pos hn, hall, hat]
  exact ⟨hsound, rfl⟩

/-- A path that parts from the one to the place leaves the place alone. -/
theorem Sound.putKey_elsewhere (h : Sound k tree) (hp : Parts (pathOf key) k.path) :
    Sound k (tree.putKey key s) ∧ (tree.putKey key s).at? k = tree.at? k := by
  rw [pathOf] at hp
  -- What follows the name of the section counts only if the name is the same.
  rcases hpath : readPath key with _ | ⟨n | i, rest⟩ <;> rw [hpath] at hp
  · exact hp.elim
  · by_cases hn : Text.lowercase n = k.sectionName
    · have hrest : Parts (rest.map Step.lower) [.member k.name] :=
        hp.resolve_left fun hne => hne hn
      rcases rest with _ | ⟨m | i, rest⟩
      · exact hrest.elim
      · have hm : Text.lowercase m ≠ k.name := hrest.resolve_right (not_parts_nil _)
        obtain ⟨v, hv⟩ := putAt_member s m rest ((tree.member? n).getD .missing)
        have hkey : tree.putKey key s =
            tree.setMember n (((tree.member? n).getD .missing).setMember m v) := by
          rw [Setting.putKey, hpath, ← hv]
          rfl
        obtain ⟨hsound, hat⟩ := h.setInner hn m v
        rw [hkey, hat, if_neg hm]
        exact ⟨hsound, rfl⟩
      · exact hrest.elim
    · obtain ⟨v, hv⟩ := putAt_member s n rest tree
      have hkey : tree.putKey key s = tree.setMember n v := by
        rw [Setting.putKey, hpath, hv]
      obtain ⟨hsound, hat⟩ := h.setMember n (t := v) fun heq => absurd heq hn
      rw [hkey, hat, if_neg hn]
      exact ⟨hsound, rfl⟩
  · exact hp.elim

/-- **A key** that suits a place leaves what it says there; if it says nothing about the place, it
leaves what was there. -/
theorem putKey_at? (hgood : AreScalars Good) (h : Sound k tree)
    (hs : Suits k Good (pathOf key) s) :
    Sound k (tree.putKey key s) ∧
      (tree.putKey key s).at? k = (entrySays? k (key, s)).or (tree.at? k) := by
  generalize hp : pathOf key = p at hs
  cases hs with
  | value hv =>
    rw [entrySays?, if_pos hp]
    exact h.putKey_value hp (hgood s hv)
  | table hms =>
    rw [entrySays?_section hp]
    exact h.putKey_table hgood hp hms
  | elsewhere hparts =>
    rw [entrySays?_elsewhere (hp ▸ hparts)]
    exact h.putKey_elsewhere (hp ▸ hparts)

/-- **A source** that suits a place leaves what it says there, and nothing else. -/
theorem putSource_at? (hgood : AreScalars Good) (h : Sound k tree)
    (hs : ∀ e ∈ source, Suits k Good (pathOf e.1) e.2) :
    Sound k (putSource tree source) ∧
      (putSource tree source).at? k = (says? k source).or (tree.at? k) := by
  induction source generalizing tree with
  | nil => exact ⟨h, rfl⟩
  | cons e source ih =>
    obtain ⟨he, hs⟩ := List.forall_mem_cons.mp hs
    obtain ⟨hsound, hat⟩ := putKey_at? hgood h he
    obtain ⟨hsound', hat'⟩ := ih hsound hs
    refine ⟨hsound', ?_⟩
    rw [says?_cons, Option.or_assoc, ← hat]
    exact hat'

/-- **Several sources** that suit a place leave what the last one says there that says anything
about it. -/
theorem putSources_at? (hgood : AreScalars Good) {sources : List (List (String × Setting))}
    (h : Sound k tree) (hs : ∀ source ∈ sources, ∀ e ∈ source, Suits k Good (pathOf e.1) e.2) :
    Sound k (sources.foldl putSource tree) ∧
      (sources.foldl putSource tree).at? k =
        (sources.reverse.findSome? (says? k)).or (tree.at? k) := by
  induction sources generalizing tree with
  | nil => exact ⟨h, rfl⟩
  | cons source sources ih =>
    obtain ⟨hsource, hs⟩ := List.forall_mem_cons.mp hs
    obtain ⟨hsound, hat⟩ := putSource_at? hgood h hsource
    obtain ⟨hsound', hat'⟩ := ih hsound hs
    refine ⟨hsound', ?_⟩
    rw [List.foldl_cons, hat', hat, List.reverse_cons, List.findSome?_append, Option.or_assoc]
    simp

end

end Colloquy.Settings
