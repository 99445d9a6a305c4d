import Colloquy.Proofs.Decimal.RoundTrip
import Colloquy.Proofs.Settings.Precedence

/-!
# Texts from the environment

What a variable says is taken for a flag or for a number if it spells one, and where a text is
expected the flag or the number is written out again.  So a text arrives as it is if it is already
written this way, or spells neither.

* `spelled_toString`, `text?_spelled_write`: numbers are read back;
* `text?_spelled_iff`: which texts arrive as they are;
* `load_text`: what the settings have.
-/

namespace Colloquy.Settings

/-! ### Values as texts -/

/-- A single value where a text is expected. -/
def Scalar.text? : Scalar → Option String
  | .nothing => none
  | .flag b => some (toString b)
  | .whole n => some (toString n)
  | .real x => some (Decimal.Style.plain.write (.ofDouble x))
  | .text t => some t

theorem ofList_integerChars (n : Int) : String.ofList (Json.integerChars n) = toString n := by
  rw [Decimal.toString_eq, ← String.toList_inj, String.toList_ofList, Decimal.toList_signedText,
    Json.integerChars]
  simp only [decide_eq_true_eq]

theorem readText_scalar {v : Scalar} {t : String} (h : v.text? = some t) (o : Option String) :
    readText (.scalar o v) = .ok t := by
  cases v with
  | nothing => cases h
  | whole n => exact congrArg Except.ok ((ofList_integerChars n).trans (Option.some.inj h))
  | flag b => exact congrArg Except.ok (Option.some.inj h)
  | real x => exact congrArg Except.ok (Option.some.inj h)
  | text s => exact congrArg Except.ok (Option.some.inj h)

/-! ### What a text spells -/

/-- A text is a whole number of 64 bits. -/
def IsWhole (text : String) (n : Int) : Prop :=
  Decimal.readInteger? text = some n ∧ -(2 ^ 63) ≤ n ∧ n < 2 ^ 63

/-- What a text spells: a flag, whatever the case of its letters, or else a whole number, or else a
float, or else the text itself. -/
inductive Spells (text : String) : Scalar → Prop where
  | flag {b : Bool} (h : Text.lowercase text = toString b) : Spells text (.flag b)
  | whole {n : Int} (hflag : ∀ b : Bool, Text.lowercase text ≠ toString b) (h : IsWhole text n) :
      Spells text (.whole n)
  | real {x : Float} (hflag : ∀ b : Bool, Text.lowercase text ≠ toString b)
      (hwhole : ∀ n, ¬IsWhole text n) (h : Decimal.readDouble? text = some x) :
      Spells text (.real x)
  | text (hflag : ∀ b : Bool, Text.lowercase text ≠ toString b)
      (hwhole : ∀ n, ¬IsWhole text n) (h : Decimal.readDouble? text = none) :
      Spells text (.text text)

section

variable {text : String} {v : Scalar}

theorem filter_readInteger?_eq_some_iff {n : Int} :
    (Decimal.readInteger? text).filter (fun n =>
      -(Nat.pow 2 63 : Int) ≤ n && n < Nat.pow 2 63) = some n ↔ IsWhole text n := by
  rw [Option.filter_eq_some_iff, Bool.and_eq_true, decide_eq_true_iff, decide_eq_true_iff]
  rfl

theorem spells_spelled (text : String) : Spells text (spelled text) := by
  rw [spelled]
  by_cases htrue : Text.lowercase text = "true"
  · rw [if_pos htrue]
    exact .flag htrue
  by_cases hfalse : Text.lowercase text = "false"
  · rw [if_neg htrue, if_pos hfalse]
    exact .flag hfalse
  have hflag : ∀ b : Bool, Text.lowercase text ≠ toString b := Bool.forall_bool.mpr ⟨hfalse, htrue⟩
  rw [if_neg htrue, if_neg hfalse]
  split
  · next n hn => exact .whole hflag (filter_readInteger?_eq_some_iff.mp hn)
  · next hnone =>
    have hwhole : ∀ n, ¬IsWhole text n := fun n hn => by
      rw [filter_readInteger?_eq_some_iff.mpr hn] at hnone
      cases hnone
    split
    · next x hx => exact .real hflag hwhole hx
    · next hx => exact .text hflag hwhole hx

theorem Spells.unique {w : Scalar} (h : Spells text v) (h' : Spells text w) : v = w := by
  have htoString : ∀ b c : Bool, toString b = toString c → b = c := by decide
  -- The readings are tried in a fixed order, and each one excludes those before it.
  cases h with
  | flag h =>
    cases h' with
    | flag h' => rw [htoString _ _ (h.symm.trans h')]
    | whole hflag | real hflag | text hflag => exact absurd h (hflag _)
  | whole hflag h =>
    cases h' with
    | flag h' => exact absurd h' (hflag _)
    | whole _ h' => rw [Option.some.inj (h.1.symm.trans h'.1)]
    | real _ hwhole | text _ hwhole => exact absurd h (hwhole _)
  | real hflag hwhole h =>
    cases h' with
    | flag h' => exact absurd h' (hflag _)
    | whole _ h' => exact absurd h' (hwhole _)
    | real _ _ h' => rw [Option.some.inj (h.symm.trans h')]
    | text _ _ h' => cases h.symm.trans h'
  | text hflag hwhole h =>
    cases h' with
    | flag h' => exact absurd h' (hflag _)
    | whole _ h' => exact absurd h' (hwhole _)
    | real _ _ h' => cases h.symm.trans h'
    | text => rfl

theorem Spells.spelled_eq (h : Spells text v) : spelled text = v :=
  (spells_spelled text).unique h

/-- What a text spells can be taken for a text. -/
theorem exists_text?_spelled (text : String) : ∃ t, (spelled text).text? = some t := by
  have hspells := spells_spelled text
  generalize spelled text = v at hspells
  cases hspells <;> exact ⟨_, rfl⟩

/-! ### Numbers -/

theorem small_of_isDigit {c : Char} (h : c.isDigit = true) :
    c.toNat < 0x80 ∧ ¬(0x41 ≤ c.toNat ∧ c.toNat ≤ 0x5A) :=
  small_of_isKeyChar (by simp [isKeyChar, h])

/-- A numeral is not a flag, as it has no letters. -/
theorem lowercase_numeral_ne {cs : List Char} {u : Decimal.Unsigned} (h : Decimal.Numeral cs u)
    (negative b : Bool) : Text.lowercase (Decimal.signedText negative cs) ≠ toString b := by
  have hchars : ∀ c ∈ (Decimal.signedText negative cs).toList,
      c = '-' ∨ c.isDigit = true ∨ c = '.' := by
    rw [Decimal.toList_signedText]
    split_ifs
    · exact List.forall_mem_cons.mpr ⟨.inl rfl, fun c hc => .inr (h.isDigit_or c hc)⟩
    · exact fun c hc => .inr (h.isDigit_or c hc)
  have hsmall : Text.lowercase (Decimal.signedText negative cs) =
      Decimal.signedText negative cs := by
    refine lowercase_eq_self fun c hc => ?_
    rcases hchars c hc with rfl | hdigit | rfl
    · decide
    · exact small_of_isDigit hdigit
    · decide
  have hletter : ∃ c ∈ (toString b).toList, ¬(c = '-' ∨ c.isDigit = true ∨ c = '.') := by
    cases b with
    | false => exact ⟨'f', by decide, by decide⟩
    | true => exact ⟨'t', by decide, by decide⟩
  obtain ⟨c, hc, hnot⟩ := hletter
  intro heq
  rw [← heq, hsmall] at hc
  exact hnot (hchars c hc)

/-- **A whole number** of 64 bits is spelled by its own text. -/
theorem spelled_toString {n : Int} (hlow : -(2 ^ 63) ≤ n) (hhigh : n < 2 ^ 63) :
    spelled (toString n) = .whole n := by
  refine Spells.spelled_eq (.whole (fun b => ?_) ⟨Decimal.readInteger?_toString n, hlow, hhigh⟩)
  rw [Decimal.toString_eq]
  exact lowercase_numeral_ne (.whole n.natAbs) _ b

/-- **A float** arrives as its own text.  The negative zero does not: it is taken for a whole number,
and zero has no sign. -/
theorem text?_spelled_write {x : Float} (hx : x ≠ -0) :
    (spelled (Decimal.Style.plain.write (.ofDouble x))).text? =
      some (Decimal.Style.plain.write (.ofDouble x)) := by
  have hread := Decimal.readDouble?_write x
  have hwritten := Decimal.written_write x
  generalize htext : Decimal.Style.plain.write (.ofDouble x) = text at hread hwritten
  cases hwritten with
  | nan => decide +kernel
  | infinite negative => cases negative <;> decide +kernel
  | zero negative =>
    cases negative with
    | false => decide +kernel
    | true => exact absurd rfl hx
  | @finite negative cs u hnumeral hpos =>
    have hspells := spells_spelled (Decimal.signedText negative cs)
    generalize spelled (Decimal.signedText negative cs) = v at hspells
    cases hspells with
    | flag h => exact absurd h (lowercase_numeral_ne hnumeral negative _)
    | whole _ h => exact congrArg some (hnumeral.toString_of_readInteger? hpos h.1)
    | real _ _ h =>
      rw [← Option.some.inj (hread.symm.trans h)]
      exact congrArg some htext
    | text _ _ h => cases hread.symm.trans h

end

/-! ### Texts that arrive as they are -/

/-- A text is written as its value is: a flag, a whole number of 64 bits, or a float that is not
the negative zero; or it spells none of them. -/
inductive Canonical : String → Prop where
  | flag (b : Bool) : Canonical (toString b)
  | whole {n : Int} (hlow : -(2 ^ 63) ≤ n) (hhigh : n < 2 ^ 63) : Canonical (toString n)
  | real {x : Float} (hx : x ≠ -0) : Canonical (Decimal.Style.plain.write (.ofDouble x))
  | text {text : String} (h : spelled text = .text text) : Canonical text

/-- **A text arrives as it is** if it is written as its value is, and only then. -/
theorem text?_spelled_iff (text : String) :
    (spelled text).text? = some text ↔ Canonical text := by
  -- The text of minus zero is taken for a whole number, so no float is spelled by it.
  have hspelled : spelled (Decimal.Style.plain.write (.ofDouble (-0))) = .whole 0 := by
    decide +kernel
  constructor
  · intro h
    have hspells := spells_spelled text
    generalize hv : spelled text = v at h hspells
    cases v with
    | nothing => cases h
    | flag b =>
      obtain rfl := Option.some.inj h
      exact .flag b
    | whole n =>
      obtain rfl := Option.some.inj h
      -- The text is the plain form of the number, whose bounds are told by its spelling.
      obtain _ | ⟨-, -, hlow, hhigh⟩ := hspells
      exact .whole hlow hhigh
    | real x =>
      obtain rfl := Option.some.inj h
      refine .real ?_
      rintro rfl
      cases hspelled.symm.trans hv
    | text t =>
      obtain rfl := Option.some.inj h
      exact .text hv
  · rintro (b | ⟨hlow, hhigh⟩ | hx | h)
    · have hlower : ∀ b : Bool, Text.lowercase (toString b) = toString b := by decide
      rw [Spells.spelled_eq (.flag (hlower b))]
      rfl
    · rw [spelled_toString hlow hhigh]
      rfl
    · exact text?_spelled_write hx
    · rw [h]
      rfl

example : (spelled "1e3").text? = some "1000" := by decide +kernel

/-! ### Settings that are texts -/

/-- There is one key only for a place. -/
theorem eq_of_place_eq {k l : Key} (hk : k ∈ keys) (hl : l ∈ keys) (h : k.place = l.place) :
    k = l := by
  have hnodup : (keys.map Key.place).Nodup := by decide +kernel
  exact List.inj_on_of_nodup_map hnodup hk hl h

/-- The settings that are texts. -/
inductive TextKey where
  | name
  | workspace
  | systemPrompt
  | active
  | model
  | template
deriving DecidableEq, Repr

namespace TextKey

/-- The key of a setting that is a text. -/
def key : TextKey → Key
  | name => ⟨⟨"app", "name"⟩, String, readText, fun s => s.app.name⟩
  | workspace => ⟨⟨"app", "workspace_root"⟩, Option String, readOptionalText,
      fun s => s.app.workspace⟩
  | systemPrompt => ⟨⟨"app", "system_prompt"⟩, String, readText, fun s => s.app.systemPrompt⟩
  | active => ⟨⟨"provider", "active"⟩, String, readText, fun s => s.provider.active⟩
  | model => ⟨⟨"provider", "model"⟩, Option String, readOptionalText, fun s => s.provider.model⟩
  | template => ⟨⟨"provider", "template"⟩, Option String, readOptionalText,
      fun s => s.provider.template⟩

/-- The text that the settings have, if they have one. -/
def text? : TextKey → Settings → Option String
  | name, s => some s.app.name
  | workspace, s => s.app.workspace
  | systemPrompt, s => some s.app.systemPrompt
  | active, s => some s.provider.active
  | model, s => s.provider.model
  | template, s => s.provider.template

theorem key_mem_keys (k : TextKey) : k.key ∈ keys := by
  cases k
  · exact List.mem_of_getElem? (i := 0) rfl
  · exact List.mem_of_getElem? (i := 1) rfl
  · exact List.mem_of_getElem? (i := 2) rfl
  · exact List.mem_of_getElem? (i := 3) rfl
  · exact List.mem_of_getElem? (i := 4) rfl
  · exact List.mem_of_getElem? (i := 5) rfl

variable {v : Scalar} {t : String}

theorem readOptionalText_scalar (h : v.text? = some t) (o : Option String) :
    readOptionalText (.scalar o v) = .ok (some t) := by
  have hread := readText_scalar h o
  cases v with
  | nothing => cases h
  | flag b | whole n | real x | text s =>
    simp only [readOptionalText, hread]
    rfl

/-- Where a text is expected, a single value is taken for one. -/
theorem takes (k : TextKey) (h : v.text? = some t) (o : Option String) :
    k.key.Takes (.scalar o v) := by
  cases k with
  | name | systemPrompt | active => exact ⟨t, readText_scalar h o⟩
  | workspace | model | template => exact ⟨some t, readOptionalText_scalar h o⟩

/-- The settings have the text that a single value is taken for, if this is said about their key. -/
theorem text?_eq (k : TextKey) {s : Settings} {sources : List (List (String × Setting))}
    (hholds : ∀ l ∈ keys, l.Holds s (highest? l.place sources)) (h : v.text? = some t)
    {o : Option String} (hhighest : highest? k.key.place sources = some (.scalar o v)) :
    k.text? s = some t := by
  have hk := hholds k.key k.key_mem_keys
  rw [hhighest] at hk
  cases k with
  | name | systemPrompt | active =>
    exact congrArg some (Except.ok.inj (hk.symm.trans (readText_scalar h o)))
  | workspace | model | template =>
    exact Except.ok.inj (hk.symm.trans (readOptionalText_scalar h o))

end TextKey

/-! ### A variable for a text -/

section

variable {x : Setup} {sources : List (List (String × Setting))} {name text : String}

/-- A setup with one more variable. -/
def Setup.set (x : Setup) (name text : String) : Setup :=
  { x with environment := (name, text) :: x.environment }

/-- One more variable leaves the sources alone but for the environment. -/
theorem Setup.exists_sources_set (h : x.sources = .ok sources) (name text : String) :
    ∃ files, sources = readEnvironment x.environment :: files ∧ (x.set name text).sources =
      .ok (readEnvironment ((name, text) :: x.environment) :: files) := by
  rw [Setup.sources] at h ⊢
  change ∃ files, _ ∧ (do
    let defaults ← readDefaults x.disk x.directory
    let explicit ← readExplicit x.disk x.directory x.file
    return [readEnvironment ((name, text) :: x.environment), explicit, defaults]) = _
  cases hdefaults : readDefaults x.disk x.directory with
  | error e =>
    rw [hdefaults] at h
    cases h
  | ok defaults =>
    rw [hdefaults] at h
    cases hexplicit : readExplicit x.disk x.directory x.file with
    | error e =>
      rw [hexplicit] at h
      cases h
    | ok explicit =>
      rw [hexplicit] at h
      cases h
      exact ⟨[explicit, defaults], rfl, rfl⟩

/-- One more variable adds one entry at most to the environment. -/
theorem mem_readEnvironment_cons {environment : List (String × String)} {v : String × String}
    {e : String × Setting} (h : e ∈ readEnvironment (v :: environment)) :
    (keyOfVariable? v.1 = some e.1 ∧ e.2 = .scalar (some environmentName) (spelled v.2)) ∨
      e ∈ readEnvironment environment := by
  rw [readEnvironment] at h
  cases hkey : keyOfVariable? v.1 with
  | none =>
    rw [List.filterMap_cons_none (by rw [hkey]; rfl)] at h
    exact .inr h
  | some key =>
    rw [List.filterMap_cons_some (by rw [hkey]; rfl)] at h
    rcases mem_ofList_cons h with rfl | h
    · exact .inl ⟨rfl, rfl⟩
    · exact .inr h

/-- A variable for a text does no harm, whatever it says. -/
theorem Setup.Has.exists_set (k : TextKey) (h : x.Has sources) (hname : Names name k.key)
    (text : String) : ∃ files, (x.set name text).Has
      (readEnvironment ((name, text) :: x.environment) :: files) := by
  obtain ⟨files, rfl, hset⟩ := Setup.exists_sources_set h.read name text
  obtain ⟨henvironment, hfiles⟩ := List.forall_mem_cons.mp h.typed
  refine ⟨files, hset, List.forall_mem_cons.mpr ⟨fun e he l hl => ?_, hfiles⟩⟩
  rcases mem_readEnvironment_cons he with ⟨hkey, hvalue⟩ | he
  · obtain ⟨key, hkey', hpath⟩ := hname
    obtain ⟨t, ht⟩ := exists_text?_spelled text
    obtain rfl : key = e.1 := Option.some.inj (hkey'.symm.trans hkey)
    rw [hpath, hvalue]
    by_cases hplace : l.place = k.key.place
    · obtain rfl := eq_of_place_eq hl k.key_mem_keys hplace
      exact .value (k.takes ht _)
    · exact .elsewhere (parts_of_ne (Ne.symm hplace))
  · exact henvironment e he l hl

/-- A setting that is a text has what the variable for it spells. -/
theorem text?_of_set (k : TextKey) (h : x.Has sources)
    (hfree : ∀ v ∈ x.environment, ¬Names v.1 k.key) (hname : Names name k.key) (text : String) :
    ∃ s, (x.set name text).load = .ok s ∧ k.text? s = (spelled text).text? := by
  obtain ⟨files, hset⟩ := h.exists_set k hname text
  obtain ⟨s, hs, hholds⟩ := exists_load hset
  obtain ⟨t, ht⟩ := exists_text?_spelled text
  have hone : ∀ w ∈ (name, text) :: x.environment, Names w.1 k.key → w = (name, text) :=
    fun w hw hnames => (List.mem_cons.mp hw).resolve_right fun hw => hfree w hw hnames
  have hsaid : says? k.key.place (readEnvironment ((name, text) :: x.environment)) =
      some (.scalar (some environmentName) (spelled text)) :=
    says?_environment (v := (name, text)) List.mem_cons_self hname hone
  have hhighest : highest? k.key.place
      (readEnvironment ((name, text) :: x.environment) :: files) =
        some (.scalar (some environmentName) (spelled text)) :=
    List.findSome?_cons.trans (by rw [hsaid])
  exact ⟨s, hs, (k.text?_eq hholds ht hhighest).trans ht.symm⟩

end

/-- **A text from the environment.**  If the files can be read and the sources are well typed, and
no other variable is for the same setting, there are settings with any text.  The setting has what
the text spells as a text.  This is the text itself just if it is written as its value is. -/
theorem load_text (k : TextKey) {x : Setup} {sources : List (List (String × Setting))}
    (h : x.Has sources) (hfree : ∀ v ∈ x.environment, ¬Names v.1 k.key) {name : String}
    (hname : Text.lowercase name = k.key.variable) (text : String) :
    ∃ s, (x.set name text).load = .ok s ∧ k.text? s = (spelled text).text? ∧
      (k.text? s = some text ↔ Canonical text) := by
  obtain ⟨s, hs, htext⟩ := text?_of_set k h hfree (names_of_lowercase k.key_mem_keys hname) text
  exact ⟨s, hs, htext, htext ▸ text?_spelled_iff text⟩

/-- The setup without files and variables. -/
def Setup.bare : Setup := ⟨.empty, ["run"], none, []⟩

theorem Setup.bare_has : bare.Has [[], [], []] :=
  ⟨rfl, by simp [WellTyped]⟩

theorem load_text_name :
    Text.lowercase "MAESTRO__APP__NAME" = TextKey.name.key.variable ∧
      ∃ s, (Setup.bare.set "MAESTRO__APP__NAME" "parley 2").load = .ok s ∧
        TextKey.name.text? s = some "parley 2" := by
  have hname : Text.lowercase "MAESTRO__APP__NAME" = TextKey.name.key.variable := by
    decide +kernel
  have hspelled : spelled "parley 2" = .text "parley 2" := by decide +kernel
  obtain ⟨s, hs, -, hiff⟩ := load_text .name Setup.bare_has nofun hname "parley 2"
  exact ⟨hname, s, hs, hiff.mpr (.text hspelled)⟩

/-- **Not every text arrives as it is**: zeros in front of a number are lost, though no other source
says anything about the setting. -/
theorem exists_load_text_ne :
    Text.lowercase "MAESTRO__PROVIDER__MODEL" = TextKey.model.key.variable ∧
    Setup.bare.Has [[], [], []] ∧ highest? TextKey.model.key.place [[], [], []] = none ∧
    ∃ s, (Setup.bare.set "MAESTRO__PROVIDER__MODEL" "007").load = .ok s ∧
      TextKey.model.text? s = some "7" ∧ TextKey.model.text? s ≠ some "007" := by
  have hname : Text.lowercase "MAESTRO__PROVIDER__MODEL" = TextKey.model.key.variable := by
    decide +kernel
  have hspelled : (spelled "007").text? = some "7" := by decide +kernel
  obtain ⟨s, hs, htext⟩ := text?_of_set .model Setup.bare_has nofun
    (names_of_lowercase TextKey.model.key_mem_keys hname) "007"
  rw [hspelled] at htext
  refine ⟨hname, Setup.bare_has, rfl, s, hs, htext, ?_⟩
  rw [htext]
  decide

end Colloquy.Settings
