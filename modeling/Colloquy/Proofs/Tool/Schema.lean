import Colloquy.Proofs.Json.Conform
import Colloquy.Tool.File

/-!
# The schema of a tool and the check of its arguments

From the description of its parameters a tool gets the schema that it shows, and the shape that it
checks arguments against.

* `fits_iff_valid`: the two agree on single values and on lists of them;
* `fits_record_iff_valid`: they agree on an object if they agree on its members;
* `Parameters.fits_iff_valid`: hence they agree on arguments if they do so parameter by parameter;
* `takes_iff_valid`: the tools take an object just if it is valid by their schema.  A plan may also
  give a file as a list of two texts, which its schema does not show.
-/

namespace Colloquy.Tool

open Files (Disk)
open Json (Shape Valid Requires property? definition? member?_ofMembers
  member?_ofMembers_append valid_iff valid_ref_iff valid_congr)

variable {root schema v : Json} {shape item : Shape} {fields : List (Json.Field Shape)}
  {label : String} {ms : List (String × Json)} {ps : Parameters} {t : Tool}

/-! ### Single values and lists -/

theorem valid_text : Valid root (.ofMembers (shapeSchema .text)) v ↔ ∃ s, v = .text s := by
  rw [valid_iff (by simp [shapeSchema, member?_ofMembers, findValue?])]
  simp only [Json.AllowsType, Requires, property?, member?_ofMembers, shapeSchema, findValue?]
  cases v <;> simp [Json.isOfType]

theorem valid_optional_text : Valid root (.ofMembers (shapeSchema (.optional .text))) v ↔
    v = .null ∨ ∃ s, v = .text s := by
  rw [valid_iff (by simp [shapeSchema, member?_ofMembers, findValue?])]
  simp only [Json.AllowsType, Requires, property?, member?_ofMembers, shapeSchema, findValue?]
  cases v <;> simp [Json.isOfType, Json.ofTexts]

theorem valid_list : Valid root (.ofMembers (shapeSchema (.list item))) v ↔
    ∃ items, v = .array items ∧ ∀ i ∈ items, Valid root (.ofMembers (shapeSchema item)) i := by
  rw [valid_iff (by simp [shapeSchema, member?_ofMembers, findValue?])]
  simp only [Json.AllowsType, Requires, property?, member?_ofMembers, shapeSchema, findValue?]
  cases v <;> simp [Json.isOfType, Json.items, Json.members]

/-- Texts, texts that may be null, and lists of them. -/
def IsPlain : Shape → Bool
  | .text => true
  | .optional .text => true
  | .list item => IsPlain item
  | _ => false

/-- **Single values and lists**: what fits a shape is what is valid by its schema. -/
theorem fits_iff_valid (h : IsPlain shape = true) :
    shape.Fits v ↔ Valid root (.ofMembers (shapeSchema shape)) v := by
  fun_induction IsPlain shape generalizing v with
  | case1 => rw [Json.fits_text, valid_text]
  | case2 => rw [Json.fits_optional_text, valid_optional_text]
  | case3 item ih => simp only [Json.fits_list, valid_list, ih h]
  | case4 => cases h

/-! ### Records -/

theorem mem_requiredNames {name : String} {l : List (String × Json.Presence)} :
    .text name ∈ (requiredNames l).items ↔ ∃ f ∈ l, f.1 = name ∧ isRequired f.2 = true := by
  simp only [requiredNames, Json.ofTexts, Json.items, List.mem_map, List.mem_mergeSort,
    List.mem_filterMap, Option.ite_none_right_eq_some, Option.some.injEq, Json.text.injEq,
    exists_eq_right]
  exact exists_congr fun f => and_congr_right fun _ => and_comm

theorem isRequired_iff {presence : Json.Presence} :
    isRequired presence = true ↔ presence.absent? = none := by
  cases presence <;> simp [isRequired, Json.Presence.absent?]

/-- **Objects.**  Let a schema ask for an object with the fields of a record, let it require the
ones that have to be there, and let it agree with each field on values that have been spelled out in
some way.  Then it agrees with the record on objects whose members have been spelled out. -/
theorem fits_record_iff_valid (spell : String → Json → Json)
    (href : schema.member? "$ref" = none) (htype : schema.member? "type" = some (.text "object"))
    (hrequired : ∀ name, Requires schema name ↔
      ∃ f ∈ fields, f.name = name ∧ isRequired f.presence = true)
    (hproperty : ∀ name, match fields.find? fun f => f.name == name with
      | none => property? schema name = none
      | some f => ∃ s, property? schema name = some s ∧
          ∀ v, f.shape.Fits v ↔ Valid root s (spell name v)) :
    (Shape.record label fields).Fits (.object ms) ↔
      Valid root schema (.object (ms.map fun m => (m.1, spell m.1 m.2))) := by
  have hallows : Json.AllowsType schema (.object (ms.map fun m => (m.1, spell m.1 m.2))) := by
    rw [Json.AllowsType, htype]
    rfl
  have hnames : ((ms.map fun m => (m.1, spell m.1 m.2)).map Prod.fst) = ms.map Prod.fst := by
    rw [List.map_map]
    rfl
  rw [Json.fits_record, valid_iff href, and_iff_right hallows, and_comm]
  -- Required members and properties, keyword by keyword.
  refine and_congr ?_ ?_
  · simp only [Json.object.injEq, forall_eq', hnames, hrequired]
    constructor
    · rintro h _ ⟨f, hf, rfl, hpresence⟩
      exact h f hf (isRequired_iff.mp hpresence)
    · exact fun h f hf habsent => h f.name ⟨f, hf, rfl, isRequired_iff.mpr habsent⟩
  · simp only [Json.members, Json.items, List.not_mem_nil, IsEmpty.forall_iff, implies_true,
      and_true, List.forall_mem_map]
    refine forall₂_congr fun m _ => ?_
    have hm := hproperty m.1
    cases hfind : fields.find? fun f => f.name == m.1 with
    | none =>
      rw [hfind] at hm
      simp [hm]
    | some f =>
      rw [hfind] at hm
      obtain ⟨s, hs, hfits⟩ := hm
      simp [hs, hfits]

/-! ### Parameters -/

/-- What is added to the schema of a parameter for the reader changes nothing. -/
theorem valid_parameter (p : Parameter) :
    Valid root p.schema v ↔ Valid root (.ofMembers (shapeSchema p.shape)) v := by
  refine valid_congr fun key hkey => ?_
  have hdefault : key ∉ (p.shownDefault.toList.map fun j => ("default", j)).map Prod.fst := by
    cases p.shownDefault <;> simp
    rintro rfl
    simp at hkey
  have hremark : key ∉
      (p.remark.toList.map fun s => ("description", Json.text s)).map Prod.fst := by
    cases p.remark <;> simp
    rintro rfl
    simp at hkey
  rw [Parameter.schema, member?_ofMembers_append hdefault, member?_ofMembers_append hremark]

theorem member?_schema {key : String} (h : key ≠ "definitions") :
    ps.schema.member? key = (Json.ofMembers [
      ("$schema", .text "http://json-schema.org/draft-07/schema#"), ("title", .text ps.title),
      ("type", .text "object"),
      ("properties", .ofMembers (ps.fields.map fun p => (p.name, p.schema))),
      ("required", requiredNames (ps.fields.map fun p => (p.name, p.presence)))]).member? key := by
  rw [Parameters.schema]
  refine member?_ofMembers_append ?_
  split <;> simp [h]

/-- The definitions of a schema are those of its parameters. -/
theorem definition?_schema (h : ps.fields.flatMap definitionsOf ≠ []) (name : String) :
    definition? ps.schema name =
      (Json.ofMembers (ps.fields.flatMap definitionsOf)).member? name := by
  have hempty : (ps.fields.flatMap definitionsOf).isEmpty = false := by
    rwa [List.isEmpty_eq_false_iff]
  rw [definition?, Parameters.schema]
  simp [hempty, member?_ofMembers, findValue?]

theorem ref?_schema : ps.schema.member? "$ref" = none := by
  rw [member?_schema (by decide)]
  simp [member?_ofMembers, findValue?]

/-- A schema asks of each parameter what its own schema asks for. -/
theorem property?_schema (hnames : (ps.fields.map Parameter.name).Nodup) (name : String) :
    property? ps.schema name = (ps.fields.find? fun p => p.name == name).map Parameter.schema := by
  have hproperties : ps.schema.member? "properties" =
      some (.ofMembers (ps.fields.map fun p => (p.name, p.schema))) := by
    rw [member?_schema (by decide)]
    simp [member?_ofMembers, findValue?]
  rw [property?, hproperties, Option.bind_some, Json.member?_ofMembers_map _ hnames]

/-- **Arguments**: the shape and the schema of some parameters agree on objects whose members have
been spelled out, if they do so for each parameter. -/
theorem Parameters.fits_iff_valid (spell : String → Json → Json)
    (hnames : (ps.fields.map Parameter.name).Nodup)
    (h : ∀ p ∈ ps.fields, ∀ v, p.shape.Fits v ↔ Valid ps.schema p.schema (spell p.name v)) :
    ps.shape.Fits (.object ms) ↔
      Valid ps.schema ps.schema (.object (ms.map fun m => (m.1, spell m.1 m.2))) := by
  have hrequired : ps.schema.member? "required" =
      some (requiredNames (ps.fields.map fun p => (p.name, p.presence))) := by
    rw [member?_schema (by decide)]
    simp [member?_ofMembers, findValue?]
  refine fits_record_iff_valid spell ref?_schema ?_ (fun name => ?_) fun name => ?_
  · rw [member?_schema (by decide)]
    simp [member?_ofMembers, findValue?]
  · simp [Requires, hrequired, mem_requiredNames, Parameter.field]
  · rw [property?_schema hnames, List.find?_map]
    cases hfind : ps.fields.find? fun p => p.name == name with
    | none => simp [Function.comp_def, Parameter.field, hfind]
    | some p =>
      have hname : p.name = name := by simpa using List.find?_some hfind
      simp only [Function.comp_def, Parameter.field, hfind, Option.map_some]
      exact ⟨_, rfl, fun v => hname ▸ h p (List.mem_of_find?_eq_some hfind) v⟩

/-- Parameters that are plain agree as they are. -/
theorem Parameters.fits_iff_valid_of_plain (hnames : (ps.fields.map Parameter.name).Nodup)
    (h : ∀ p ∈ ps.fields, IsPlain p.shape = true) :
    ps.shape.Fits (.object ms) ↔ Valid ps.schema ps.schema (.object ms) := by
  have hfits : _ ↔ Valid ps.schema ps.schema (.object (ms.map fun m => (m.1, m.2))) :=
    Parameters.fits_iff_valid (fun _ v => v) hnames fun p hp v =>
      (Tool.fits_iff_valid (h p hp)).trans (valid_parameter p).symm
  simpa using hfits

/-! ### The files of a plan -/

/-- The fields of a file of a plan. -/
def plannedFields : List (Json.Field Shape) :=
  [⟨"filename", .required, .text⟩, ⟨"description", .required, .text⟩]

/-- A file of a plan that is given as a list of two texts, spelled out. -/
def spellFile : Json → Json
  | .array [.text a, .text b] => .ofMembers [("filename", .text a), ("description", .text b)]
  | j => j

/-- The files of a plan, spelled out. -/
def spellFiles : Json → Json
  | .array items => .array (items.map spellFile)
  | j => j

/-- A plan with its files spelled out. -/
def spellPlan : Json → Json
  | .object ms => .object (ms.map fun m => (m.1, if m.1 = "files" then spellFiles m.2 else m.2))
  | j => j

theorem fits_plannedFile_array {l : List Json} :
    plannedFileShape.Fits (.array l) ↔ ∃ a b, l = [.text a, .text b] := by
  rw [plannedFileShape, Json.fits_tuple (by simp [Json.Presence.missing?])]
  simp only [List.forall₂_cons_left_iff, List.forall₂_nil_left_iff, Json.fits_text]
  constructor
  · rintro ⟨_, _, ⟨a, rfl⟩, ⟨_, _, ⟨b, rfl⟩, rfl, rfl⟩, rfl⟩
    exact ⟨a, b, rfl⟩
  · rintro ⟨a, b, rfl⟩
    exact ⟨_, _, ⟨a, rfl⟩, ⟨_, _, ⟨b, rfl⟩, rfl, rfl⟩, rfl⟩

theorem fits_plannedFile_object :
    plannedFileShape.Fits (.object ms) ↔
      Valid root (.ofMembers (recordSchema plannedFields)) (.object ms) := by
  change (Shape.record "PlannedFile" plannedFields).Fits _ ↔ _
  have hproperty : ∀ name, property? (.ofMembers (recordSchema plannedFields)) name =
      (plannedFields.find? fun f => f.name == name).map fun f =>
        .ofMembers (shapeSchema f.shape) := by
    intro name
    rw [property?, ← Json.member?_ofMembers_map _ (by decide)]
    simp [recordSchema, member?_ofMembers, findValue?]
  have hfits : (Shape.record "PlannedFile" plannedFields).Fits (.object ms) ↔
      Valid root (.ofMembers (recordSchema plannedFields)) (.object (ms.map fun m => (m.1, m.2))) :=
    fits_record_iff_valid (fun _ v => v)
      (by simp [recordSchema, member?_ofMembers, findValue?])
      (by simp [recordSchema, member?_ofMembers, findValue?])
      (fun name => by
        simp [Requires, recordSchema, member?_ofMembers, findValue?, mem_requiredNames])
      (fun name => by
        rw [hproperty]
        cases hfind : plannedFields.find? fun f => f.name == name with
        | none => rfl
        | some f =>
          refine ⟨_, rfl, fun v => Tool.fits_iff_valid ?_⟩
          have hf := List.mem_of_find?_eq_some hfind
          simp only [plannedFields, List.mem_cons, List.not_mem_nil, or_false] at hf
          rcases hf with rfl | rfl <;> rfl)
  simpa using hfits

theorem not_valid_record (h : ∀ ms, v ≠ .object ms) :
    ¬Valid root (.ofMembers (recordSchema fields)) v := by
  rw [valid_iff (by simp [recordSchema, member?_ofMembers, findValue?])]
  rintro ⟨htype, -⟩
  simp only [Json.AllowsType, member?_ofMembers, recordSchema, findValue?] at htype
  cases v with
  | object ms => exact h ms rfl
  | _ => simp [Json.isOfType] at htype

/-- **A file of a plan** fits if it is valid once it is spelled out. -/
theorem fits_plannedFile
    (hdef : definition? root "PlannedFile" = some (.ofMembers (recordSchema plannedFields))) :
    plannedFileShape.Fits v ↔
      Valid root (.ofMembers (shapeSchema plannedFileShape)) (spellFile v) := by
  rw [valid_ref_iff (by simp [shapeSchema, plannedFileShape, member?_ofMembers, findValue?]) hdef]
  cases v with
  | object ms => exact fits_plannedFile_object
  -- An array is taken for an object with its two members, if it is one of two texts.
  | array l =>
    rw [fits_plannedFile_array]
    by_cases h : ∃ a b, l = [.text a, .text b]
    · refine iff_of_true h ?_
      obtain ⟨a, b, rfl⟩ := h
      have hspelled : spellFile (.array [.text a, .text b]) =
          .object [("description", .text b), ("filename", .text a)] := by
        have hbefore : "description" < "filename" := by decide
        simp [spellFile, Json.ofMembers, insertEntry, hbefore]
      rw [hspelled, ← fits_plannedFile_object]
      exact ⟨_, rfl⟩
    · refine iff_of_false h (not_valid_record fun ms => ?_)
      unfold spellFile
      split
      · next a b hl =>
        obtain rfl := Json.array.inj hl
        exact absurd ⟨a, b, rfl⟩ h
      · rintro ⟨⟩
  | _ =>
    refine iff_of_false ?_ (not_valid_record fun ms => ?_)
    · rintro ⟨j, ⟨⟩⟩
    · rintro ⟨⟩

theorem fits_plannedFiles
    (hdef : definition? root "PlannedFile" = some (.ofMembers (recordSchema plannedFields))) :
    (Shape.list plannedFileShape).Fits v ↔
      Valid root (.ofMembers (shapeSchema (.list plannedFileShape))) (spellFiles v) := by
  rw [Json.fits_list, valid_list]
  cases v with
  | array items => simp [spellFiles, fits_plannedFile hdef]
  | _ => simp [spellFiles]

theorem definition?_plannedFile : definition? planParameters.schema "PlannedFile" =
    some (.ofMembers (recordSchema plannedFields)) := by
  have hdefinitions : planParameters.fields.flatMap definitionsOf =
      [("PlannedFile", .ofMembers (recordSchema plannedFields))] := rfl
  rw [definition?_schema (by rw [hdefinitions]; exact List.cons_ne_nil _ _), hdefinitions]
  rfl

/-- **A plan** fits if it is valid once its files are spelled out. -/
theorem fits_plan :
    planParameters.shape.Fits (.object ms) ↔
      Valid planParameters.schema planParameters.schema (spellPlan (.object ms)) := by
  refine Parameters.fits_iff_valid (fun name v => if name = "files" then spellFiles v else v)
    (by decide) fun p hp v => ?_
  rw [valid_parameter]
  simp only [planParameters, List.mem_cons, List.not_mem_nil, or_false] at hp
  rcases hp with rfl | rfl | rfl | rfl | rfl
  · exact fits_iff_valid rfl
  · exact fits_iff_valid rfl
  · exact fits_iff_valid rfl
  · exact fits_plannedFiles definition?_plannedFile
  · exact fits_iff_valid rfl

/-! ### What tools take -/

/-- A tool takes some arguments if all that can go wrong with them is the workspace's fault. -/
def Takes (t : Tool) (v : Json) : Prop :=
  ∀ d, (∃ output, (t.act v d).2 = .ok output) ∨
    ∃ e files, (t.act v d).2 = .error ⟨.workspace e, files⟩

/-- A tool refuses some arguments if it says that they are invalid, and does nothing. -/
def Refuses (t : Tool) (v : Json) : Prop :=
  ∃ message, ∀ d, t.act v d = (d, .error { error := .invalidArguments t.name message })

/-- A tool takes the objects that fit its parameters, whose schema it shows, and refuses others. -/
structure Judges (t : Tool) (ps : Parameters) : Prop where
  schema : t.schema = ps.schema
  takes : ∀ ms, ps.shape.Fits (.object ms) → Takes t (.object ms)
  refuses : ∀ ms, ¬ps.shape.Fits (.object ms) → Refuses t (.object ms)

theorem check_eq_ok_iff (tool : String) {j : Json} :
    ps.check tool v = .ok j ↔ ps.shape.conform v = .ok j := by
  rw [Parameters.check]
  cases ps.shape.conform v <;> simp

theorem check_of_not_fits (h : ¬ps.shape.Fits v) (tool : String) :
    ∃ message, ps.check tool v = .error { error := .invalidArguments tool message } := by
  rw [Parameters.check]
  cases hconform : ps.shape.conform v with
  | ok j => exact absurd ⟨j, hconform⟩ h
  | error cause => exact ⟨_, rfl⟩

/-- The value of a field in the normal form of a record. -/
def IsValueOf (fields : List (Json.Field Shape)) (f : Json.Field Shape) (value : Json) : Prop :=
  (∃ g w, (fields.find? fun g => g.name == f.name) = some g ∧ g.shape.conform w = .ok value) ∨
    f.presence.absent? = some value

/-- A field that has to be there and holds a text. -/
theorem IsValueOf.text {name : String} {value : Json}
    (hfind : (fields.find? fun g => g.name == name) = some ⟨name, .required, .text⟩)
    (h : IsValueOf fields ⟨name, .required, .text⟩ value) : ∃ s, value = .text s := by
  rcases h with ⟨g, w, hg, hw⟩ | habsent
  · obtain rfl := Option.some.inj (hfind.symm.trans hg)
    obtain ⟨s, -, rfl⟩ := Json.conform_text.mp hw
    exact ⟨s, rfl⟩
  · cases habsent

/-- A field that holds a list, and may be left out for the empty one. -/
theorem IsValueOf.list {name : String} {value : Json}
    (hfind : (fields.find? fun g => g.name == name) =
      some ⟨name, .default (.array []), .list item⟩)
    (h : IsValueOf fields ⟨name, .default (.array []), .list item⟩ value) :
    ∃ items, value = .array items := by
  rcases h with ⟨g, w, hg, hw⟩ | habsent
  · obtain rfl := Option.some.inj (hfind.symm.trans hg)
    obtain ⟨-, items, -, rfl, -⟩ := Json.conform_list.mp hw
    exact ⟨items, rfl⟩
  · exact ⟨[], (Option.some.inj habsent).symm⟩

/-- Checked arguments have a value for each parameter, in order. -/
theorem values_of_check {tool : String} {j : Json} (h : ps.check tool (.object ms) = .ok j) :
    ∃ l, j = .object l ∧ List.Forall₂ (fun f m => m.1 = f.name ∧
      IsValueOf (ps.fields.map Parameter.field) f m.2) (ps.fields.map Parameter.field) l :=
  Json.conform_record_normal ((check_eq_ok_iff _).mp h)

theorem judges_answerWith {name description : String} {reply : Json → Option Output}
    (h : ∀ ms j, ps.check name (.object ms) = .ok j → (reply j).isSome) :
    Judges ⟨name, description, ps.schema, fun _ => .zero, answerWith ps name reply⟩ ps where
  schema := rfl
  takes ms hfits d := by
    obtain ⟨j, hj⟩ := hfits
    have hcheck := (check_eq_ok_iff name).mpr hj
    obtain ⟨output, houtput⟩ := Option.isSome_iff_exists.mp (h ms j hcheck)
    refine .inl ⟨output, ?_⟩
    change (answerWith ps name reply (.object ms) d).2 = _
    rw [answerWith, hcheck]
    dsimp only
    rw [houtput]
  refuses ms hfits := by
    obtain ⟨message, hcheck⟩ := check_of_not_fits hfits name
    refine ⟨message, fun d => ?_⟩
    change answerWith ps name reply (.object ms) d = _
    rw [answerWith, hcheck]

theorem judges_proposePlan : Judges proposePlan planParameters := by
  refine judges_answerWith fun ms j h => ?_
  obtain ⟨l, rfl, hl⟩ := values_of_check h
  simp only [planParameters, List.map_cons, List.map_nil, Parameter.field,
    List.forall₂_cons_left_iff, List.forall₂_nil_left_iff] at hl
  obtain ⟨⟨_, _⟩, _, ⟨rfl, h₁⟩, ⟨⟨_, _⟩, _, ⟨rfl, h₂⟩, ⟨⟨_, _⟩, _, ⟨rfl, h₃⟩, ⟨⟨_, _⟩, _, ⟨rfl, h₄⟩,
    ⟨⟨_, _⟩, _, ⟨rfl, h₅⟩, rfl, rfl⟩, rfl⟩, rfl⟩, rfl⟩, rfl⟩ := hl
  obtain ⟨_, rfl⟩ := IsValueOf.text (by rfl) h₁
  obtain ⟨_, rfl⟩ := IsValueOf.text (by rfl) h₂
  obtain ⟨_, rfl⟩ := IsValueOf.text (by rfl) h₃
  obtain ⟨_, rfl⟩ := IsValueOf.list (by rfl) h₄
  obtain ⟨_, rfl⟩ := IsValueOf.list (by rfl) h₅
  rfl

theorem judges_askForClarification : Judges askForClarification clarificationParameters := by
  refine judges_answerWith fun ms j h => ?_
  obtain ⟨l, rfl, hl⟩ := values_of_check h
  simp only [clarificationParameters, List.map_cons, List.map_nil, Parameter.field,
    List.forall₂_cons_left_iff, List.forall₂_nil_left_iff] at hl
  obtain ⟨⟨_, _⟩, _, ⟨rfl, h₁⟩, ⟨⟨_, _⟩, _, ⟨rfl, h₂⟩, rfl, rfl⟩, rfl⟩ := hl
  obtain ⟨_, rfl⟩ := IsValueOf.text (by rfl) h₁
  obtain ⟨_, rfl⟩ := IsValueOf.list (by rfl) h₂
  rfl

theorem judges_writeFile (root : Workspace.Root) : Judges (writeFile root) writeParameters where
  schema := rfl
  takes ms hfits d := by
    obtain ⟨j, hj⟩ := hfits
    have hcheck := (check_eq_ok_iff writeFileName).mpr hj
    obtain ⟨l, rfl, hl⟩ := values_of_check hcheck
    simp only [writeParameters, List.map_cons, List.map_nil, Parameter.field,
      List.forall₂_cons_left_iff, List.forall₂_nil_left_iff] at hl
    obtain ⟨⟨_, _⟩, _, ⟨rfl, h₁⟩,
      ⟨⟨_, _⟩, _, ⟨rfl, h₂⟩, ⟨⟨_, description⟩, _, ⟨rfl, -⟩, rfl, rfl⟩, rfl⟩, rfl⟩ := hl
    obtain ⟨filename, rfl⟩ := IsValueOf.text (by rfl) h₁
    obtain ⟨content, rfl⟩ := IsValueOf.text (by rfl) h₂
    have hact : (writeFile root).act (.object ms) d = saveFile root filename content
        (((Json.optionalText? description).join).getD "") d := by
      change actWrite root (.object ms) d = _
      rw [actWrite, hcheck]
      rfl
    rw [hact, saveFile]
    rcases root.write d filename content with ⟨d', e | u⟩
    · exact .inr ⟨_, _, rfl⟩
    · exact .inl ⟨_, rfl⟩
  refuses ms hfits := by
    obtain ⟨message, hcheck⟩ := check_of_not_fits hfits writeFileName
    refine ⟨message, fun d => ?_⟩
    change actWrite root (.object ms) d = _
    rw [actWrite, hcheck]
    rfl

/-- What reading comes to once the arguments are checked. -/
theorem actRead_of_check {root : Workspace.Root} {filename : String}
    (h : readParameters.check readFileName v = .ok (.object [("filename", .text filename)]))
    (d : Disk) :
    actRead root v d = match root.read d filename with
      | .error e => (d, .error { error := .workspace e })
      | .ok content => (d, .ok { content }) := by
  rw [actRead, h]
  rfl

theorem judges_readFile (root : Workspace.Root) : Judges (readFile root) readParameters where
  schema := rfl
  takes ms hfits d := by
    obtain ⟨j, hj⟩ := hfits
    have hcheck := (check_eq_ok_iff readFileName).mpr hj
    obtain ⟨l, rfl, hl⟩ := values_of_check hcheck
    simp only [readParameters, List.map_cons, List.map_nil, Parameter.field,
      List.forall₂_cons_left_iff, List.forall₂_nil_left_iff] at hl
    obtain ⟨⟨_, _⟩, _, ⟨rfl, h₁⟩, rfl, rfl⟩ := hl
    obtain ⟨filename, rfl⟩ := IsValueOf.text (by rfl) h₁
    have hact : (readFile root).act (.object ms) d = _ := actRead_of_check hcheck d
    rw [hact]
    cases root.read d filename with
    | error e => exact .inr ⟨_, _, rfl⟩
    | ok content => exact .inl ⟨_, rfl⟩
  refuses ms hfits := by
    obtain ⟨message, hcheck⟩ := check_of_not_fits hfits readFileName
    refine ⟨message, fun d => ?_⟩
    change actRead root (.object ms) d = _
    rw [actRead, hcheck]
    rfl

/-- A tool cannot both take and refuse the same arguments. -/
theorem Takes.not_refuses (h : Takes t v) : ¬Refuses t v := by
  rintro ⟨message, hrefuses⟩
  rcases h .empty with ⟨output, houtput⟩ | ⟨e, files, herror⟩
  · rw [hrefuses] at houtput
    cases houtput
  · rw [hrefuses] at herror
    cases herror

theorem Judges.takes_iff (h : Judges t ps) :
    (Takes t (.object ms) ↔ ps.shape.Fits (.object ms)) ∧
      (Refuses t (.object ms) ↔ ¬ps.shape.Fits (.object ms)) := by
  by_cases hfits : ps.shape.Fits (.object ms)
  · have htakes := h.takes ms hfits
    exact ⟨iff_of_true htakes hfits, iff_of_false htakes.not_refuses (not_not_intro hfits)⟩
  · have hrefuses := h.refuses ms hfits
    exact ⟨iff_of_false (fun htakes => htakes.not_refuses hrefuses) hfits,
      iff_of_true hrefuses hfits⟩

/-- If the parameters of a tool are plain, it takes what is valid by its schema. -/
theorem Judges.valid_iff (h : Judges t ps) (hnames : (ps.fields.map Parameter.name).Nodup)
    (hplain : ∀ p ∈ ps.fields, IsPlain p.shape = true) :
    (Takes t (.object ms) ↔ Valid t.schema t.schema (.object ms)) ∧
      (Refuses t (.object ms) ↔ ¬Valid t.schema t.schema (.object ms)) := by
  rw [h.schema, ← Parameters.fits_iff_valid_of_plain hnames hplain]
  exact h.takes_iff

/-- Files that are valid are spelled out already. -/
theorem spellFiles_of_valid
    (hdef : definition? root "PlannedFile" = some (.ofMembers (recordSchema plannedFields)))
    (h : Valid root (.ofMembers (shapeSchema (.list plannedFileShape))) v) : spellFiles v = v := by
  obtain ⟨items, rfl, hitems⟩ := valid_list.mp h
  rw [spellFiles]
  congr 1
  refine (List.map_congr_left fun i hi => ?_).trans (List.map_id' items)
  have hi := hitems i hi
  rw [valid_ref_iff (by simp [shapeSchema, plannedFileShape, member?_ofMembers, findValue?])
    hdef] at hi
  cases i with
  | object ms => rfl
  | _ =>
    refine absurd hi (not_valid_record fun ms => ?_)
    rintro ⟨⟩

/-- A valid plan has its files spelled out already. -/
theorem spellPlan_of_valid
    (h : Valid planParameters.schema planParameters.schema (.object ms)) :
    spellPlan (.object ms) = .object ms := by
  obtain ⟨-, -, hproperties, -⟩ := (valid_iff ref?_schema).mp h
  rw [spellPlan]
  congr 1
  refine (List.map_congr_left fun m hm => ?_).trans (List.map_id' ms)
  refine Prod.ext rfl ?_
  change (if m.1 = "files" then spellFiles m.2 else m.2) = m.2
  split_ifs with hfiles
  · refine spellFiles_of_valid definition?_plannedFile ?_
    have hproperty : property? planParameters.schema m.1 =
        some (Parameter.schema
          ⟨"files", .default (.array []), .list plannedFileShape, none, none⟩) := by
      rw [property?_schema (by decide), hfiles]
      rfl
    exact (valid_parameter _).mp (hproperties m hm _ hproperty)
  · rfl

/-- **The schema and the check agree.**  Take any object.

* A plan is taken if it is valid by the schema that is shown once its files that are given as lists
  of two texts are spelled out, and is refused as invalid otherwise.
* A question, a file to write and a file to read are taken if they are valid by the schema that is
  shown, and are refused as invalid otherwise.
* So whatever is valid by the schema that is shown is taken. -/
theorem takes_iff_valid (root : Workspace.Root) (ms : List (String × Json)) :
    let v := Json.object ms
    ((Takes proposePlan v ↔ Valid proposePlan.schema proposePlan.schema (spellPlan v)) ∧
      (Refuses proposePlan v ↔ ¬Valid proposePlan.schema proposePlan.schema (spellPlan v))) ∧
    (∀ t ∈ [askForClarification, writeFile root, readFile root],
      (Takes t v ↔ Valid t.schema t.schema v) ∧ (Refuses t v ↔ ¬Valid t.schema t.schema v)) ∧
    ∀ t ∈ [proposePlan, askForClarification, writeFile root, readFile root],
      Valid t.schema t.schema v → Takes t v := by
  intro v
  have hplan : (Takes proposePlan v ↔
        Valid proposePlan.schema proposePlan.schema (spellPlan v)) ∧
      (Refuses proposePlan v ↔
        ¬Valid proposePlan.schema proposePlan.schema (spellPlan v)) := by
    rw [judges_proposePlan.schema, ← fits_plan]
    exact judges_proposePlan.takes_iff
  have hothers : ∀ t ∈ [askForClarification, writeFile root, readFile root],
      (Takes t v ↔ Valid t.schema t.schema v) ∧ (Refuses t v ↔ ¬Valid t.schema t.schema v) := by
    simp only [List.forall_mem_cons, List.not_mem_nil, IsEmpty.forall_iff, implies_true, and_true]
    refine ⟨judges_askForClarification.valid_iff ?_ ?_, (judges_writeFile root).valid_iff ?_ ?_,
      (judges_readFile root).valid_iff ?_ ?_⟩
    all_goals decide
  refine ⟨hplan, hothers, fun t ht hvalid => ?_⟩
  -- A plan that is valid is spelled the plain way already.
  rcases List.mem_cons.mp ht with rfl | ht
  · rw [hplan.1]
    rw [judges_proposePlan.schema] at hvalid ⊢
    rwa [spellPlan_of_valid hvalid]
  · exact (hothers t ht).1.mpr hvalid

end Colloquy.Tool
