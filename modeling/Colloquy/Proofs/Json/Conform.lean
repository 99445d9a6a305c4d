import Colloquy.Json.Shape
import Colloquy.Proofs.Data.Attempts
import Colloquy.Proofs.Json.Schema

/-!
# Which values fit a shape

A value fits a shape if it can be brought into the normal form of the shape (`Shape.Fits`).

* `fits_text`, `fits_optional_text`, `fits_list`: single values and lists;
* `fits_record`: an object fits a record if its members fit the fields with their names, and no
  field is left out that has to be there;
* `fits_tuple`: a list fits a record if its items fit the fields;
* `conform_record_normal`: the normal form of an object has all fields in order, each with what a
  value was brought into or with its default.
-/

namespace Colloquy.Json

variable {ε α β : Type} {item : Shape} {fields : List (Field Shape)} {label : String}
  {ms : List (String × Json)} {v : Json}

/-! ### Shapes -/

/-- A value fits a shape if it has a normal form. -/
def Shape.Fits (shape : Shape) (v : Json) : Prop :=
  ∃ j, shape.conform v = .ok j

theorem conform_text {j : Json} :
    Shape.text.conform v = .ok j ↔ ∃ s, v = .text s ∧ j = .text s := by
  cases v <;> simp [Shape.conform, eq_comm]

theorem fits_text : Shape.text.Fits v ↔ ∃ s, v = .text s := by
  simp [Shape.Fits, conform_text]

theorem fits_optional_text : (Shape.optional .text).Fits v ↔ v = .null ∨ ∃ s, v = .text s := by
  cases v <;> simp [Shape.Fits, Shape.conform]

theorem conform_list {j : Json} : (Shape.list item).conform v = .ok j ↔
    ∃ items items', v = .array items ∧ j = .array items' ∧
      List.Forall₂ (fun i i' => item.conform i = .ok i') items items' := by
  cases v with
  | array items =>
    rw [Shape.conform]
    cases h : items.mapM item.conform with
    | error e =>
      refine ⟨fun h => (by cases h), ?_⟩
      rintro ⟨_, items', hv, rfl, hitems⟩
      obtain rfl := Json.array.inj hv
      rw [mapM_eq_ok_iff.mpr hitems] at h
      cases h
    | ok items' =>
      rw [mapM_eq_ok_iff] at h
      constructor
      · intro hj
        exact ⟨items, items', rfl, (Except.ok.inj hj).symm, h⟩
      · rintro ⟨_, items'', hv, rfl, hitems⟩
        obtain rfl := Json.array.inj hv
        rw [← mapM_eq_ok_iff] at h hitems
        rw [Except.ok.inj (h.symm.trans hitems)]
        rfl
  | _ => simp [Shape.conform]

/-- A list fits if each of its items does. -/
theorem fits_list : (Shape.list item).Fits v ↔
    ∃ items, v = .array items ∧ ∀ i ∈ items, item.Fits i := by
  simp only [Shape.Fits, conform_list]
  constructor
  · rintro ⟨_, items, items', rfl, rfl, h⟩
    exact ⟨items, rfl, exists_mapM_iff.mp ⟨items', mapM_eq_ok_iff.mpr h⟩⟩
  · rintro ⟨items, rfl, h⟩
    obtain ⟨items', hitems⟩ := exists_mapM_iff.mpr h
    exact ⟨_, items, items', rfl, rfl, mapM_eq_ok_iff.mp hitems⟩

/-! ### Records -/

/-- What becomes of a member of an object: nothing if it is no field, and otherwise its normal
form under the same name. -/
theorem conformNamed_eq_ok_iff {name : String} {r : Option (String × Json)} :
    conformNamed fields name v = .ok r ↔
      match fields.find? fun f => f.name == name with
      | none => r = none
      | some f => ∃ j, f.shape.conform v = .ok j ∧ r = some (name, j) := by
  induction fields with
  | nil => simp [conformNamed, eq_comm]
  | cons f rest ih =>
    rw [conformNamed]
    by_cases hname : f.name = name
    · rw [if_pos hname, List.find?_cons_of_pos (by simpa using hname)]
      obtain ⟨_, _, shape⟩ := f
      change Except.map _ (shape.conform v) = .ok r ↔ ∃ j, shape.conform v = .ok j ∧ _
      cases shape.conform v with
      | error e => simp [Except.map]
      | ok j => simp [Except.map, eq_comm]
    · rw [if_neg hname, List.find?_cons_of_neg (by simpa using hname)]
      exact ih

/-- The members that are fields, each in its normal form. -/
theorem mem_present_iff {present : List (Option (String × Json))}
    (h : ms.mapM (fun m => conformNamed fields m.1 m.2) = .ok present) {name : String}
    {value : Json} : (name, value) ∈ present.filterMap id ↔
      ∃ f w, (name, w) ∈ ms ∧ (fields.find? fun f => f.name == name) = some f ∧
        f.shape.conform w = .ok value := by
  rw [mapM_eq_ok_iff] at h
  simp only [List.mem_filterMap, id_eq, exists_eq_right]
  -- The induction is on the members beside what came of them.
  induction h with
  | nil => simp
  | @cons m r ms present hm _ ih =>
    simp only [List.mem_cons, or_and_right, exists_or, ih]
    refine or_congr_left ?_
    rw [conformNamed_eq_ok_iff] at hm
    cases hfind : fields.find? fun f => f.name == m.1 with
    | none =>
      rw [hfind] at hm
      subst hm
      refine ⟨fun h => (by cases h), ?_⟩
      rintro ⟨f, w, rfl, hf, -⟩
      rw [hf] at hfind
      cases hfind
    | some f =>
      rw [hfind] at hm
      obtain ⟨j, hj, rfl⟩ := hm
      constructor
      · intro hr
        obtain ⟨hname, hvalue⟩ := Prod.mk.inj (Option.some.inj hr)
        subst hname hvalue
        exact ⟨f, m.2, rfl, hfind, hj⟩
      · rintro ⟨f', w, rfl, hf', hw⟩
        rw [hfind, Option.some.injEq] at hf'
        subst hf'
        rw [Except.ok.inj (hj.symm.trans hw)]

theorem assemble_cons (present : List (String × Json)) (f : Field Shape) :
    assemble present (f :: fields) =
      match (findValue? f.name present).or f.presence.absent? with
      | some value => (assemble present fields).map fun l => (f.name, value) :: l
      | none => .error (.missingField f.name) := by
  rw [assemble]
  cases findValue? f.name present <;> cases f.presence.absent? <;> rfl

/-- The fields in order, each with what was found for it or with its default. -/
theorem assemble_eq_ok_iff {present l : List (String × Json)} :
    assemble present fields = .ok l ↔ List.Forall₂ (fun f m => m.1 = f.name ∧
      (findValue? f.name present).or f.presence.absent? = some m.2) fields l := by
  induction fields generalizing l with
  | nil => simp [assemble, eq_comm]
  | cons f rest ih =>
    rw [assemble_cons, List.forall₂_cons_left_iff]
    cases (findValue? f.name present).or f.presence.absent? with
    | none => simp
    | some value =>
      cases hrest : assemble present rest with
      | error e =>
        simp only [Except.map, reduceCtorEq, false_iff, not_exists, not_and]
        intro m l' _ hl'
        rw [← ih, hrest] at hl'
        cases hl'
      | ok l' =>
        simp only [Except.map, Except.ok.injEq, Option.some.injEq]
        constructor
        · rintro rfl
          exact ⟨_, _, ⟨rfl, rfl⟩, ih.mp hrest, rfl⟩
        · rintro ⟨⟨_, _⟩, l'', ⟨rfl, rfl⟩, hl'', rfl⟩
          rw [← ih, hrest] at hl''
          rw [Except.ok.inj hl'']

theorem exists_assemble_iff {present : List (String × Json)} :
    (∃ l, assemble present fields = .ok l) ↔
      ∀ f ∈ fields, f.presence.absent? = none → findValue? f.name present ≠ none := by
  induction fields with
  | nil => exact ⟨fun _ => nofun, fun _ => ⟨[], rfl⟩⟩
  | cons f rest ih =>
    rw [assemble_cons, List.forall_mem_cons, ← ih]
    cases hfound : findValue? f.name present with
    | some value => cases assemble present rest <;> simp [Except.map]
    | none => cases f.presence.absent? <;> cases assemble present rest <;> simp [Except.map]

theorem conform_record {j : Json} : (Shape.record label fields).conform (.object ms) = .ok j ↔
    ∃ present l, ms.mapM (fun m => conformNamed fields m.1 m.2) = .ok present ∧
      assemble (present.filterMap id) fields = .ok l ∧ j = .object l := by
  rw [Shape.conform]
  cases ms.mapM fun m => conformNamed fields m.1 m.2 with
  | error e => simp [bind, Except.bind]
  | ok present =>
    change (assemble (present.filterMap id) fields).bind _ = _ ↔ _
    simp only [Except.ok.injEq, exists_and_left, exists_eq_left']
    cases assemble (present.filterMap id) fields with
    | error e => simp [Except.bind]
    | ok l => simp [Except.bind, pure, Except.pure, eq_comm]

/-- **An object fits a record** if its members fit the fields with their names, and no field is left
out that has to be there. -/
theorem fits_record : (Shape.record label fields).Fits (.object ms) ↔
    (∀ m ∈ ms, ∀ f, (fields.find? fun f => f.name == m.1) = some f → f.shape.Fits m.2) ∧
      ∀ f ∈ fields, f.presence.absent? = none → f.name ∈ ms.map Prod.fst := by
  -- Each member is judged on its own, by the first field of its name.
  have hmembers : (∃ present, ms.mapM (fun m => conformNamed fields m.1 m.2) = .ok present) ↔
      ∀ m ∈ ms, ∀ f, (fields.find? fun f => f.name == m.1) = some f → f.shape.Fits m.2 := by
    rw [exists_mapM_iff]
    refine forall₂_congr fun m _ => ?_
    simp only [conformNamed_eq_ok_iff]
    cases fields.find? fun f => f.name == m.1 with
    | none => simp
    | some f => simp [Shape.Fits]
  rw [← hmembers, Shape.Fits]
  simp only [conform_record]
  constructor
  · rintro ⟨_, present, l, hpresent, hl, -⟩
    refine ⟨⟨present, hpresent⟩, fun f hf habsent => ?_⟩
    obtain ⟨value, hvalue⟩ :=
      Option.ne_none_iff_exists'.mp (exists_assemble_iff.mp ⟨l, hl⟩ f hf habsent)
    obtain ⟨_, w, hw, -⟩ := (mem_present_iff hpresent).mp (mem_of_findValue? hvalue)
    exact List.mem_map_of_mem (f := Prod.fst) hw
  · rintro ⟨⟨present, hpresent⟩, hnames⟩
    suffices h : ∃ l, assemble (present.filterMap id) fields = .ok l by
      obtain ⟨l, hl⟩ := h
      exact ⟨_, present, l, hpresent, hl, rfl⟩
    refine exists_assemble_iff.mpr fun f hf habsent hnone => ?_
    obtain ⟨m, hm, hname⟩ := List.mem_map.mp (hnames f hf habsent)
    rw [findValue?_eq_none_iff] at hnone
    -- A member of that name is present, so a field was found for it.
    obtain ⟨g, hg⟩ := Option.isSome_iff_exists.mp
      (List.find?_isSome (p := fun g : Field Shape => g.name == m.1).mpr
        ⟨f, hf, beq_iff_eq.mpr hname.symm⟩)
    obtain ⟨j, hj⟩ := hmembers.mp ⟨present, hpresent⟩ m hm g hg
    have hmem := (mem_present_iff hpresent).mpr ⟨g, m.2, hm, hg, hj⟩
    exact hnone (List.mem_map.mpr ⟨_, hmem, hname⟩)

theorem exists_conformTuple_iff (label : String)
    (hfields : ∀ f ∈ fields, f.presence.missing? = none)
    (count length index : Nat) (l : List Json) :
    (∃ r, conformTuple label count length index fields l = .ok r) ↔
      List.Forall₂ (fun f i => f.shape.Fits i) fields l := by
  induction fields generalizing l index with
  | nil => cases l <;> simp [conformTuple]
  | cons f rest ih =>
    obtain ⟨hf, hrest⟩ := List.forall_mem_cons.mp hfields
    cases l with
    | nil => simp [conformTuple, hf]
    | cons i l =>
      rw [List.forall₂_cons, ← ih hrest (index + 1) l, conformTuple]
      obtain ⟨name, presence, shape⟩ := f
      change (∃ r, (shape.conform i).bind _ = .ok r) ↔ (∃ j, shape.conform i = .ok j) ∧ _
      cases shape.conform i with
      | error e => simp [Except.bind]
      | ok j =>
        cases conformTuple label count length (index + 1) rest l with
        | error e => simp [Except.bind, bind]
        | ok r => simp [Except.bind, bind, pure, Except.pure]

/-- **A list fits a record** none of whose fields has a default if its items fit the fields one by
one. -/
theorem fits_tuple (hfields : ∀ f ∈ fields, f.presence.missing? = none) {l : List Json} :
    (Shape.record label fields).Fits (.array l) ↔
      List.Forall₂ (fun f i => f.shape.Fits i) fields l := by
  rw [← exists_conformTuple_iff label hfields fields.length l.length 0, Shape.Fits,
    Shape.conform]
  cases conformTuple label fields.length l.length 0 fields l <;> simp [Except.map]

/-- The normal form of an object has the fields in order, each with the normal form of some value or
with its default. -/
theorem conform_record_normal {j : Json}
    (h : (Shape.record label fields).conform (.object ms) = .ok j) :
    ∃ l, j = .object l ∧ List.Forall₂ (fun f m => m.1 = f.name ∧
      ((∃ g w, (fields.find? fun g => g.name == f.name) = some g ∧ g.shape.conform w = .ok m.2) ∨
        f.presence.absent? = some m.2)) fields l := by
  obtain ⟨present, l, hpresent, hl, rfl⟩ := conform_record.mp h
  refine ⟨l, rfl, (assemble_eq_ok_iff.mp hl).imp fun f m ⟨hname, hm⟩ => ⟨hname, ?_⟩⟩
  rcases Option.or_eq_some_iff.mp hm with hfound | ⟨-, habsent⟩
  · obtain ⟨g, w, -, hg, hw⟩ := (mem_present_iff hpresent).mp (mem_of_findValue? hfound)
    exact .inl ⟨g, w, hg, hw⟩
  · exact .inr habsent

end Colloquy.Json
