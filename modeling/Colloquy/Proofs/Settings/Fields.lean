import Colloquy.Proofs.Data.Entries
import Colloquy.Proofs.Settings.Merging

/-!
# Fields of the settings

A field of a record is read in some way from a setting, set and got.  The sections of the settings
and the settings as a whole are records of this kind (`App.slots_eq` and the others), and their
fields are independent (`Independent`): setting one of them gives its value back and leaves the
others alone.

* `readMembers_get`: a field has the value that the members of a table say, or else the one it had
  before, whatever they say about the other fields;
* `exists_readMembers`: a table is read if each of its members is;
* `keys`: all settings that are no sections, with `eq_of_keys`: they make up the settings.
-/

namespace Colloquy.Settings

/-! ### Records -/

/-- A field of a record. -/
structure Field (σ : Type) where
  name : String
  Value : Type
  read : Setting → Except Refusal Value
  set : σ → Value → σ
  get : σ → Value

/-- A field as the reader of the record has it. -/
def Field.slot {σ : Type} (f : Field σ) : Slot σ :=
  .of f.name f.read f.set

/-- A field takes a setting if the setting can be read as a value of the field. -/
def Field.Takes {σ : Type} (f : Field σ) (s : Setting) : Prop :=
  ∃ v, f.read s = .ok v

/-- Fields with different names, of which each has the value that it was set to last. -/
structure Independent {σ : Type} (fields : List (Field σ)) : Prop where
  distinct : (fields.map Field.name).Nodup
  get_set : ∀ f ∈ fields, ∀ r v, f.get (f.set r v) = v
  get_set_other : ∀ f ∈ fields, ∀ g ∈ fields, f.name ≠ g.name → ∀ r v, f.get (g.set r v) = f.get r

section

variable {σ : Type} {fields : List (Field σ)} {f : Field σ} {start r : σ}
  {ms : List (String × Setting)}

theorem exists_field_of_find?_slot {name : String} {slot : Slot σ}
    (h : (fields.map Field.slot).find? (fun slot => slot.name == name) = some slot) :
    ∃ f ∈ fields, f.slot = slot ∧ f.name = name := by
  obtain ⟨f, hf, rfl⟩ := List.mem_map.mp (List.mem_of_find?_eq_some h)
  exact ⟨f, hf, rfl, eq_of_beq (List.find?_some (p := fun (slot : Slot σ) => slot.name == name) h)⟩

/-- A member with the name of a field is read for the field. -/
theorem readMembers_field {name : String} {s : Setting}
    (h : (fields.map Field.slot).find? (fun slot => slot.name == name) = some f.slot) :
    readMembers (fields.map Field.slot) start ((name, s) :: ms) =
      match f.read s with
      | .ok v => readMembers (fields.map Field.slot) (f.set start v) ms
      | .error e => .error (e.under name) := by
  have hread : f.slot.read s start = (f.read s).map (f.set start) := rfl
  rw [readMembers, h]
  simp only [hread]
  cases f.read s <;> rfl

/-- A member is passed over, or sets the field with its name. -/
theorem readMembers_cons {name : String} {s : Setting}
    (h : readMembers (fields.map Field.slot) start ((name, s) :: ms) = .ok r) :
    ((∀ f ∈ fields, f.name ≠ name) ∧ readMembers (fields.map Field.slot) start ms = .ok r) ∨
      ∃ g ∈ fields, g.name = name ∧ ∃ v, g.read s = .ok v ∧
        readMembers (fields.map Field.slot) (g.set start v) ms = .ok r := by
  cases hfind : (fields.map Field.slot).find? (fun slot => slot.name == name) with
  | none =>
    rw [readMembers, hfind] at h
    refine .inl ⟨fun f hf heq => ?_, h⟩
    have := List.find?_eq_none.mp hfind f.slot (List.mem_map_of_mem hf)
    exact this (beq_iff_eq.mpr heq)
  | some slot =>
    obtain ⟨g, hg, rfl, hname⟩ := exists_field_of_find?_slot hfind
    rw [readMembers_field hfind] at h
    refine .inr ⟨g, hg, hname, ?_⟩
    cases hread : g.read s with
    | error e =>
      rw [hread] at h
      cases h
    | ok v =>
      rw [hread] at h
      exact ⟨v, rfl, h⟩

/-- **A field has the value that the members say**, or else the one it had before. -/
theorem readMembers_get (hi : Independent fields) (hf : f ∈ fields)
    (hms : (ms.map Prod.fst).Nodup)
    (h : readMembers (fields.map Field.slot) start ms = .ok r) :
    match findValue? f.name ms with
    | some s => f.read s = .ok (f.get r)
    | none => f.get r = f.get start := by
  induction ms generalizing start with
  | nil =>
    cases h
    rfl
  | cons m ms ih =>
    obtain ⟨name, s⟩ := m
    obtain ⟨hname, hms'⟩ := List.nodup_cons.mp hms
    rcases readMembers_cons h with ⟨hnone, h⟩ | ⟨g, hg, rfl, v, hv, h⟩
    · -- No field has this name, so it is skipped.
      have hne : name ≠ f.name := fun heq => hnone f hf heq.symm
      rw [findValue?_cons_of_ne hne]
      exact ih hms' h
    · have hrest := ih hms' h
      -- The field sought is read here, and no later member has its name; or another one is read.
      by_cases hne : g.name = f.name
      · obtain rfl : g = f := List.inj_on_of_nodup_map hi.distinct hg hf hne
        have hfind : findValue? g.name ((g.name, s) :: ms) = some s := by simp [findValue?]
        rw [findValue?_eq_none_iff.mpr hname] at hrest
        rw [hfind]
        change g.read s = .ok (g.get r)
        rw [hv, hrest, hi.get_set g hg]
      · rw [findValue?_cons_of_ne hne]
        cases hfind : findValue? f.name ms with
        | some w =>
          rw [hfind] at hrest
          exact hrest
        | none =>
          rw [hfind] at hrest
          exact hrest.trans (hi.get_set_other f hf g hg (Ne.symm hne) start v)

/-- A table is read if each of its members is. -/
theorem exists_readMembers
    (h : ∀ m ∈ ms, ∀ f ∈ fields, f.name = m.1 → f.Takes m.2) (start : σ) :
    ∃ r, readMembers (fields.map Field.slot) start ms = .ok r := by
  induction ms generalizing start with
  | nil => exact ⟨start, rfl⟩
  | cons m ms ih =>
    obtain ⟨name, s⟩ := m
    obtain ⟨hm, h⟩ := List.forall_mem_cons.mp h
    cases hfind : (fields.map Field.slot).find? (fun slot => slot.name == name) with
    | none =>
      rw [readMembers, hfind]
      exact ih h start
    | some slot =>
      obtain ⟨f, hf, rfl, hname⟩ := exists_field_of_find?_slot hfind
      obtain ⟨v, hv⟩ := hm f hf hname
      rw [readMembers_field hfind, hv]
      exact ih h (f.set start v)

/-! ### Sections -/

variable {label : String} {t : Setting}

/-- A section that is a table is read if its fields take what it has for them. -/
theorem exists_readSection (ht : IsTable t)
    (h : ∀ f ∈ fields, ∀ s, findValue? f.name t.members = some s → f.Takes s) (start : σ) :
    ∃ r, readSection label (fields.map Field.slot) start t = .ok r := by
  obtain ⟨o, ms, rfl, hms⟩ := ht
  exact exists_readMembers (fun m hm f hf hname =>
    h f hf m.2 ((findValue?_eq_some_iff hms).mpr (hname ▸ hm))) start

/-- A field of a section that is a table has the value that the table says, or its default. -/
theorem readSection_get (hi : Independent fields) (hf : f ∈ fields) (ht : IsTable t)
    (h : readSection label (fields.map Field.slot) start t = .ok r) :
    match findValue? f.name t.members with
    | some s => f.read s = .ok (f.get r)
    | none => f.get r = f.get start := by
  obtain ⟨o, ms, rfl, hms⟩ := ht
  exact readMembers_get hi hf (nodup_of_ascending hms) h

end

/-! ### The fields of the sections -/

/-- The fields of the first section. -/
def App.fields : List (Field App) := [
  ⟨"name", String, readText, fun r v => { r with name := v }, App.name⟩,
  ⟨"workspace_root", Option String, readOptionalText, fun r v => { r with workspace := v },
    App.workspace⟩,
  ⟨"system_prompt", String, readText, fun r v => { r with systemPrompt := v }, App.systemPrompt⟩]

/-- The fields of the second section. -/
def Provider.fields : List (Field Provider) := [
  ⟨"active", String, readText, fun r v => { r with active := v }, Provider.active⟩,
  ⟨"model", Option String, readOptionalText, fun r v => { r with model := v }, Provider.model⟩,
  ⟨"template", Option String, readOptionalText, fun r v => { r with template := v },
    Provider.template⟩,
  ⟨"timeout_secs", UInt64, read64, fun r v => { r with timeoutSeconds := v },
    Provider.timeoutSeconds⟩,
  ⟨"temperature", Float32, readSingle, fun r v => { r with temperature := v },
    Provider.temperature⟩,
  ⟨"max_tokens", UInt32, read32, fun r v => { r with maxTokens := v }, Provider.maxTokens⟩,
  ⟨"tool_timeout_secs", UInt64, read64, fun r v => { r with toolTimeoutSeconds := v },
    Provider.toolTimeoutSeconds⟩]

/-- The fields of the third section. -/
def Retries.fields : List (Field Retries) := [
  ⟨"enabled", Bool, readFlag, fun r v => { r with enabled := v }, Retries.enabled⟩,
  ⟨"max_retries", UInt32, read32, fun r v => { r with maxRetries := v }, Retries.maxRetries⟩,
  ⟨"initial_backoff_ms", UInt64, read64, fun r v => { r with initialBackoffMillis := v },
    Retries.initialBackoffMillis⟩,
  ⟨"max_backoff_ms", UInt64, read64, fun r v => { r with maxBackoffMillis := v },
    Retries.maxBackoffMillis⟩,
  ⟨"backoff_factor", Float, readDouble, fun r v => { r with factor := v }, Retries.factor⟩,
  ⟨"jitter_factor", Float, readDouble, fun r v => { r with jitter := v }, Retries.jitter⟩,
  ⟨"retry_on_rate_limit", Bool, readFlag, fun r v => { r with onRateLimit := v },
    Retries.onRateLimit⟩,
  ⟨"retry_on_server_error", Bool, readFlag, fun r v => { r with onServerError := v },
    Retries.onServerError⟩,
  ⟨"retry_on_network_error", Bool, readFlag, fun r v => { r with onNetworkError := v },
    Retries.onNetworkError⟩]

/-- The fields of the fourth section. -/
def Context.fields : List (Field Context) := [
  ⟨"enabled", Bool, readFlag, fun r v => { r with enabled := v }, Context.enabled⟩,
  ⟨"max_files", UInt64, read64, fun r v => { r with maxFiles := v }, Context.maxFiles⟩,
  ⟨"max_snippet_lines", UInt64, read64, fun r v => { r with maxSnippetLines := v },
    Context.maxSnippetLines⟩]

/-- The sections, as fields of the settings. -/
def sections : List (Field Settings) := [
  ⟨"app", App, readSection "AppSection" App.slots {}, fun r v => { r with app := v },
    Settings.app⟩,
  ⟨"provider", Provider, readSection "ProviderSection" Provider.slots {},
    fun r v => { r with provider := v }, Settings.provider⟩,
  ⟨"retry", Retries, readSection "RetrySection" Retries.slots {},
    fun r v => { r with retries := v }, Settings.retries⟩,
  ⟨"context", Context, readSection "ContextSection" Context.slots {},
    fun r v => { r with context := v }, Settings.context⟩]

theorem App.slots_eq : App.slots = App.fields.map Field.slot := rfl

theorem Provider.slots_eq : Provider.slots = Provider.fields.map Field.slot := rfl

theorem Retries.slots_eq : Retries.slots = Retries.fields.map Field.slot := rfl

theorem Context.slots_eq : Context.slots = Context.fields.map Field.slot := rfl

theorem slots_eq : slots = sections.map Field.slot := rfl

theorem App.independent : Independent App.fields where
  distinct := by decide
  get_set := by simp [fields]
  get_set_other := by simp [fields]

theorem Provider.independent : Independent Provider.fields where
  distinct := by decide
  get_set := by simp [fields]
  get_set_other := by simp [fields]

theorem Retries.independent : Independent Retries.fields where
  distinct := by decide
  get_set := by simp [fields]
  get_set_other := by simp [fields]

theorem Context.independent : Independent Context.fields where
  distinct := by decide
  get_set := by simp [fields]
  get_set_other := by simp [fields]

theorem independent_sections : Independent sections where
  distinct := by decide
  get_set := by simp [sections]
  get_set_other := by simp [sections]

/-! ### Keys -/

/-- A setting that is no section: where it is, how it is read, and what it is in the settings. -/
structure Key where
  place : Place
  Value : Type
  read : Setting → Except Refusal Value
  get : Settings → Value

/-- A field of a section as a key. -/
def Field.key {σ : Type} (f : Field σ) (sectionName : String) (part : Settings → σ) : Key :=
  ⟨⟨sectionName, f.name⟩, f.Value, f.read, fun s => f.get (part s)⟩

/-- All keys. -/
def keys : List Key :=
  App.fields.map (·.key "app" Settings.app) ++
    Provider.fields.map (·.key "provider" Settings.provider) ++
    Retries.fields.map (·.key "retry" Settings.retries) ++
    Context.fields.map (·.key "context" Settings.context)

/-- A key takes a setting if the setting can be read as a value of the key. -/
def Key.Takes (k : Key) (s : Setting) : Prop :=
  ∃ v, k.read s = .ok v

instance (k : Key) : DecidablePred k.Takes := fun s =>
  match h : k.read s with
  | .ok v => isTrue ⟨v, h⟩
  | .error _ => isFalse fun ⟨_, hv⟩ => by rw [h] at hv; cases hv

/-- The settings have what a setting says about a key, or the default if there is none. -/
def Key.Holds (k : Key) (s : Settings) : Option Setting → Prop
  | some said => k.read said = .ok (k.get s)
  | none => k.get s = k.get {}

theorem Key.Holds.get_eq {k : Key} {s : Settings} {said : Option Setting} {v : k.Value}
    (h : k.Holds s said) (hread : said.map k.read = some (.ok v)) : k.get s = v := by
  obtain ⟨t, rfl, ht⟩ := Option.map_eq_some_iff.mp hread
  exact Except.ok.inj (h.symm.trans ht)

theorem Key.Holds.get_default {k : Key} {s : Settings} {said : Option Setting}
    (h : k.Holds s said) (hnone : said.map k.read = none) : k.get s = k.get {} := by
  rw [Option.map_eq_none_iff.mp hnone] at h
  exact h

/-- The keys make up the settings. -/
theorem eq_of_keys {s t : Settings} (h : ∀ k ∈ keys, k.get s = k.get t) : s = t := by
  obtain ⟨⟨⟩, ⟨⟩, ⟨⟩, ⟨⟩⟩ := s
  obtain ⟨⟨⟩, ⟨⟩, ⟨⟩, ⟨⟩⟩ := t
  simp [keys, App.fields, Provider.fields, Retries.fields, Context.fields, Field.key] at h
  simp [h]

theorem not_takes_list (o : Option String) (items : List Setting) :
    ∀ k ∈ keys, ¬k.Takes (.list o items) := by
  simp [keys, App.fields, Provider.fields, Retries.fields, Context.fields, Field.key, Key.Takes,
    readText, readOptionalText, readFlag, readDouble, readSingle, readWide, read64, read32, refuse,
    Except.map]

theorem not_takes_table (o : Option String) (ms : List (String × Setting)) :
    ∀ k ∈ keys, ¬k.Takes (.table o ms) := by
  simp [keys, App.fields, Provider.fields, Retries.fields, Context.fields, Field.key, Key.Takes,
    readText, readOptionalText, readFlag, readDouble, readSingle, readWide, read64, read32, refuse,
    Except.map]

/-- Keys take single values only. -/
theorem areScalars_takes {k : Key} (hk : k ∈ keys) : AreScalars k.Takes := by
  intro s hs
  cases s with
  | scalar o x => exact ⟨o, x, rfl⟩
  | list o items => exact absurd hs (not_takes_list o items k hk)
  | table o ms => exact absurd hs (not_takes_table o ms k hk)

/-! ### Reading a tree -/

section

variable {σ : Type} {fields : List (Field σ)} {label sectionName : String} {part : Settings → σ}
  {tree : Setting} {s : Settings}

/-- A section of a tree is read if it is a table and its keys take what the tree has for them. -/
theorem exists_readSection_at? (hkeys : ∀ f ∈ fields, f.key sectionName part ∈ keys)
    (hsound : ∀ k ∈ keys, Sound k.place tree)
    (htakes : ∀ k ∈ keys, ∀ v, tree.at? k.place = some v → k.Takes v) {t : Setting}
    (ht : findValue? sectionName tree.members = some t) (hne : fields ≠ []) (start : σ) :
    ∃ r, readSection label (fields.map Field.slot) start t = .ok r := by
  obtain ⟨f, hf⟩ := List.exists_mem_of_ne_nil fields hne
  refine exists_readSection ((hsound _ (hkeys f hf)).inner t ht) (fun g hg v hv => ?_) start
  refine htakes _ (hkeys g hg) v ?_
  change (findValue? sectionName tree.members).bind (fun s => findValue? g.name s.members) = _
  rw [ht]
  exact hv

/-- The settings have what a tree says about the keys of a section, if the section is what was read
from the tree. -/
theorem holds_at? (hkeys : ∀ f ∈ fields, f.key sectionName part ∈ keys)
    (hi : Independent fields) (hsound : ∀ k ∈ keys, Sound k.place tree)
    (hpart : match findValue? sectionName tree.members with
      | some t => readSection label (fields.map Field.slot) (part {}) t = .ok (part s)
      | none => part s = part {}) :
    ∀ k ∈ fields.map (·.key sectionName part), k.Holds s (tree.at? k.place) := by
  intro k hk
  obtain ⟨f, hf, rfl⟩ := List.mem_map.mp hk
  change (f.key sectionName part).Holds s
    ((findValue? sectionName tree.members).bind fun s => findValue? f.name s.members)
  cases hfind : findValue? sectionName tree.members with
  | none =>
    rw [hfind] at hpart
    exact congrArg f.get hpart
  | some t =>
    rw [hfind] at hpart
    have hget := readSection_get hi hf ((hsound _ (hkeys f hf)).inner t hfind) hpart
    change (f.key sectionName part).Holds s (findValue? f.name t.members)
    cases hvalue : findValue? f.name t.members with
    | none =>
      rw [hvalue] at hget
      exact hget
    | some v =>
      rw [hvalue] at hget
      exact hget

end

/-- **A tree** whose sections are tables and whose keys take what it has for them is read, and the
settings have what it says about each key, or else the default. -/
theorem read_at? {tree : Setting} (hsound : ∀ k ∈ keys, Sound k.place tree)
    (htakes : ∀ k ∈ keys, ∀ v, tree.at? k.place = some v → k.Takes v) :
    ∃ s, read tree = .ok s ∧ ∀ k ∈ keys, k.Holds s (tree.at? k.place) := by
  -- All fields of the four sections are among the keys.
  have happ : ∀ f ∈ App.fields, f.key "app" Settings.app ∈ keys := fun f hf => by
    simp only [keys, List.mem_append]
    exact .inl (.inl (.inl (List.mem_map_of_mem hf)))
  have hprovider : ∀ f ∈ Provider.fields, f.key "provider" Settings.provider ∈ keys :=
    fun f hf => by
      simp only [keys, List.mem_append]
      exact .inl (.inl (.inr (List.mem_map_of_mem hf)))
  have hretries : ∀ f ∈ Retries.fields, f.key "retry" Settings.retries ∈ keys := fun f hf => by
    simp only [keys, List.mem_append]
    exact .inl (.inr (List.mem_map_of_mem hf))
  have hcontext : ∀ f ∈ Context.fields, f.key "context" Settings.context ∈ keys := fun f hf => by
    simp only [keys, List.mem_append]
    exact .inr (List.mem_map_of_mem hf)
  obtain ⟨o, ms, rfl, hms⟩ : IsTable tree := (hsound _ (happ _ List.mem_cons_self)).table
  -- Every section can be read, so the members as a whole can.
  have hsections : ∀ m ∈ ms, ∀ f ∈ sections, f.name = m.1 → f.Takes m.2 := by
    intro m hm f hf hname
    have ht : findValue? f.name ms = some m.2 := (findValue?_eq_some_iff hms).mpr (hname ▸ hm)
    simp only [sections, List.mem_cons, List.not_mem_nil, or_false] at hf
    rcases hf with rfl | rfl | rfl | rfl
    · exact exists_readSection_at? happ hsound htakes ht (by decide) {}
    · exact exists_readSection_at? hprovider hsound htakes ht (by decide) {}
    · exact exists_readSection_at? hretries hsound htakes ht (by decide) {}
    · exact exists_readSection_at? hcontext hsound htakes ht (by decide) {}
  obtain ⟨s, hs⟩ : ∃ s, read (.table o ms) = .ok s := exists_readMembers hsections {}
  refine ⟨s, hs, fun k hk => ?_⟩
  -- Each section has what was read for it, and nothing else changes it.
  have hget : ∀ f ∈ sections, match findValue? f.name ms with
      | some t => f.read t = .ok (f.get s)
      | none => f.get s = f.get {} := fun f hf =>
    readMembers_get independent_sections hf (nodup_of_ascending hms) hs
  simp only [sections, List.forall_mem_cons] at hget
  obtain ⟨h₁, h₂, h₃, h₄, -⟩ := hget
  rw [keys, List.mem_append, List.mem_append, List.mem_append] at hk
  rcases hk with ((hk | hk) | hk) | hk
  · exact holds_at? happ App.independent hsound h₁ k hk
  · exact holds_at? hprovider Provider.independent hsound h₂ k hk
  · exact holds_at? hretries Retries.independent hsound h₃ k hk
  · exact holds_at? hcontext Context.independent hsound h₄ k hk

end Colloquy.Settings
