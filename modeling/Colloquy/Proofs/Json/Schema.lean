import Colloquy.Json.Value
import Colloquy.Proofs.Data.Entries

/-!
# Validation by a JSON schema

A schema is a JSON value itself.  What it asks of a value is told by five keywords: `type`,
`properties`, `required` and `items`, and `$ref`, which stands for one of the definitions at the
root of the schema.  Everything else in a schema is a remark, and members of a value that the
schema does not name are allowed.

* `member?_ofMembers_eq_some_iff`: the members of an object that was built from a list;
* `valid_iff`, `valid_ref_iff`: what a schema asks for, without and with a reference;
* `valid_congr`: only the five keywords count.
-/

namespace Colloquy.Json

variable {root schema schema' v : Json} {name : String}

/-! ### Parts of a value -/

/-- The members of an object; whatever is none has no members. -/
def members : Json → List (String × Json)
  | .object ms => ms
  | _ => []

/-- The items of a list; whatever is none has no items. -/
def items : Json → List Json
  | .array l => l
  | _ => []

/-- The member of an object under a name. -/
def member? (j : Json) (name : String) : Option Json :=
  findValue? name j.members

/-- In an object that was built from a list, the last member of a name counts. -/
theorem member?_ofMembers (l : List (String × Json)) (name : String) :
    (ofMembers l).member? name = findValue? name l.reverse := by
  have hfold : ∀ acc : List (String × Json), acc.Pairwise (fun a b => a.1 < b.1) →
      findValue? name (l.foldl (fun l m => insertEntry m.1 m.2 l) acc) =
        (findValue? name l.reverse).or (findValue? name acc) := by
    induction l with
    | nil => exact fun acc _ => rfl
    | cons m rest ih =>
      intro acc hacc
      rw [List.foldl_cons, ih _ (pairwise_insertEntry m.1 m.2 hacc),
        findValue?_insertEntry _ _ _ hacc, List.reverse_cons, findValue?_append, Option.or_assoc]
      congr 1
      by_cases hm : m.1 = name <;> simp [findValue?, hm]
  exact (hfold [] List.Pairwise.nil).trans (Option.or_none ..)

theorem member?_ofMembers_eq_some_iff {l : List (String × Json)} (h : (l.map Prod.fst).Nodup) :
    (ofMembers l).member? name = some v ↔ (name, v) ∈ l := by
  have hreverse : (l.reverse.map Prod.fst).Nodup := by
    rwa [List.map_reverse, List.nodup_reverse]
  rw [member?_ofMembers, findValue?_eq_some_iff_of_nodup hreverse, List.mem_reverse]

theorem member?_ofMembers_eq_none_iff {l : List (String × Json)} :
    (ofMembers l).member? name = none ↔ name ∉ l.map Prod.fst := by
  rw [member?_ofMembers, findValue?_eq_none_iff, List.map_reverse, List.mem_reverse]

/-- An object with one member for each of some things that have different names. -/
theorem member?_ofMembers_map {α : Type} {nameOf : α → String} (value : α → Json) {l : List α}
    (h : (l.map nameOf).Nodup) (name : String) :
    (ofMembers (l.map fun a => (nameOf a, value a))).member? name =
      (l.find? fun a => nameOf a == name).map value := by
  have hfst : (l.map fun a => (nameOf a, value a)).map Prod.fst = l.map nameOf := by
    rw [List.map_map]
    rfl
  cases hfind : l.find? fun a => nameOf a == name with
  | none =>
    refine member?_ofMembers_eq_none_iff.mpr fun hmem => ?_
    rw [hfst] at hmem
    obtain ⟨a, ha, hname⟩ := List.mem_map.mp hmem
    exact List.find?_eq_none.mp hfind a ha (beq_iff_eq.mpr hname)
  | some a =>
    have hname : nameOf a = name := by simpa using List.find?_some hfind
    refine (member?_ofMembers_eq_some_iff (hfst.symm ▸ h)).mpr (List.mem_map.mpr ⟨a, ?_, ?_⟩)
    · exact List.mem_of_find?_eq_some hfind
    · rw [hname]

/-- Members under other names do not matter. -/
theorem member?_ofMembers_append {l l' : List (String × Json)} (h : name ∉ l'.map Prod.fst) :
    (ofMembers (l ++ l')).member? name = (ofMembers l).member? name := by
  rw [member?_ofMembers, member?_ofMembers, List.reverse_append, findValue?_append,
    findValue?_eq_none_iff.mpr, Option.none_or]
  rwa [List.map_reverse, List.mem_reverse]

/-! ### What a schema asks for -/

/-- Whether a number is an integer; one that is written with a point is none. -/
def isInteger : Number → Bool
  | .integer _ => true
  | _ => false

/-- Whether a value is of the type with a name. -/
def isOfType : Json → String → Bool
  | .null, type => type == "null"
  | .bool _, type => type == "boolean"
  | .number n, type => type == "number" || type == "integer" && isInteger n
  | .text _, type => type == "string"
  | .array _, type => type == "array"
  | .object _, type => type == "object"

/-- Whether a schema allows the type of a value: it may name one type, or several. -/
def AllowsType (schema v : Json) : Prop :=
  match schema.member? "type" with
  | some (.text type) => v.isOfType type = true
  | some (.array types) => ∃ type, .text type ∈ types ∧ v.isOfType type = true
  | _ => True

/-- The names that an object has to have. -/
def Requires (schema : Json) (name : String) : Prop :=
  ∃ names, schema.member? "required" = some names ∧ .text name ∈ names.items

/-- What a schema asks of the members of an object under a name. -/
def property? (schema : Json) (name : String) : Option Json :=
  (schema.member? "properties").bind (·.member? name)

/-- The definition under a name. -/
def definition? (root : Json) (name : String) : Option Json :=
  (root.member? "definitions").bind (·.member? name)

/-- A value is valid by a schema; `root` is the schema as a whole, which holds the definitions. -/
inductive Valid (root : Json) : Json → Json → Prop where
  /-- A schema that refers to a definition stands for it. -/
  | ref {schema v target : Json} {name : String}
      (href : schema.member? "$ref" = some (.text ("#/definitions/" ++ name)))
      (htarget : definition? root name = some target) (h : Valid root target v) :
      Valid root schema v
  /-- Any other schema is read keyword by keyword. -/
  | keywords {schema v : Json} (href : schema.member? "$ref" = none)
      (htype : AllowsType schema v)
      (hrequired : ∀ ms, v = .object ms → ∀ name, Requires schema name → name ∈ ms.map Prod.fst)
      (hproperties : ∀ m ∈ v.members, ∀ s, property? schema m.1 = some s → Valid root s m.2)
      (hitems : ∀ s, schema.member? "items" = some s → ∀ i ∈ v.items, Valid root s i) :
      Valid root schema v

/-- A schema without a reference. -/
theorem valid_iff (href : schema.member? "$ref" = none) :
    Valid root schema v ↔ AllowsType schema v ∧
      (∀ ms, v = .object ms → ∀ name, Requires schema name → name ∈ ms.map Prod.fst) ∧
      (∀ m ∈ v.members, ∀ s, property? schema m.1 = some s → Valid root s m.2) ∧
      ∀ s, schema.member? "items" = some s → ∀ i ∈ v.items, Valid root s i := by
  constructor
  · rintro (⟨href', -, -⟩ | ⟨-, htype, hrequired, hproperties, hitems⟩)
    · rw [href] at href'
      cases href'
    · exact ⟨htype, hrequired, hproperties, hitems⟩
  · rintro ⟨htype, hrequired, hproperties, hitems⟩
    exact .keywords href htype hrequired hproperties hitems

/-- A schema that refers to a definition. -/
theorem valid_ref_iff {target : Json}
    (href : schema.member? "$ref" = some (.text ("#/definitions/" ++ name)))
    (htarget : definition? root name = some target) :
    Valid root schema v ↔ Valid root target v := by
  refine ⟨?_, .ref href htarget⟩
  rintro (⟨href', htarget', h⟩ | ⟨href', -, -, -, -⟩)
  · rw [href, Option.some.injEq, Json.text.injEq] at href'
    rw [← (String.append_right_inj _).mp href', htarget, Option.some.injEq] at htarget'
    rwa [htarget']
  · rw [href] at href'
    cases href'

/-- Only the keywords count. -/
theorem valid_congr (h : ∀ key ∈ ["$ref", "type", "required", "properties", "items"],
    schema.member? key = schema'.member? key) : Valid root schema v ↔ Valid root schema' v := by
  simp only [List.forall_mem_cons, List.not_mem_nil, IsEmpty.forall_iff, implies_true,
    and_true] at h
  obtain ⟨href, htype, hrequired, hproperties, hitems⟩ := h
  -- Validity looks at these five members only.
  have hallows : AllowsType schema v ↔ AllowsType schema' v := by
    rw [AllowsType, htype, AllowsType]
  have hrequires : ∀ name, Requires schema name ↔ Requires schema' name := fun name => by
    rw [Requires, hrequired, Requires]
  have hproperty : ∀ name, property? schema name = property? schema' name := fun name => by
    rw [property?, hproperties, property?]
  cases hnone : schema'.member? "$ref" with
  | none =>
    rw [valid_iff (href.trans hnone), valid_iff hnone, hallows, hitems]
    simp only [hrequires, hproperty]
  -- A reference stands for its target, whatever else there is.
  | some r =>
    constructor
    · rintro (⟨href', htarget, h⟩ | ⟨href', -, -, -, -⟩)
      · exact .ref (href ▸ href') htarget h
      · rw [href, hnone] at href'
        cases href'
    · rintro (⟨href', htarget, h⟩ | ⟨href', -, -, -, -⟩)
      · exact .ref (href.trans href') htarget h
      · rw [hnone] at href'
        cases href'

end Colloquy.Json
