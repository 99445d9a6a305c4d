import Colloquy.Json.Wire
import Colloquy.Proofs.Json.Conform
import Colloquy.Proofs.Json.Tokens

/-!
# Values read back

A shape reads a value back if it reads the compact text of the value, at a depth that suffices and
before anything that may come after a value, as a value in normal form, and leaves what comes
after.  There is one statement of this kind for each shape, and those for lists and records take
the statements for what is inside them; so what is proved here holds of every value that is put
together from these shapes, whatever is inside it.

* `ReadsBack.list`: lists, whatever their length;
* `ReadsBack.record`: records; of the fields some are written, in the order of their declaration,
  and the others are left out and have a value nevertheless (`Filled`);
* `ReadsBack.parse`: a whole text.
-/

namespace Colloquy.Json

/-! ### What comes between values and after them -/

/-- What may come after a value: nothing, a comma, or the end of a list or of an object. -/
def Delimited (rest : List Char) : Prop :=
  ∀ c ∈ rest.head?, c = ',' ∨ c = ']' ∨ c = '\x7d'

theorem Delimited.endsNumber {rest : List Char} (h : Delimited rest) : EndsNumber rest := by
  intro c hc
  rcases h c hc with rfl | rfl | rfl <;> decide

/-- What stands before a piece of text: a comma, unless it is the first one. -/
def separator (first : Bool) : List Char :=
  if first then [] else [',']

/-- Pieces of text, one after the other. -/
def separated : Bool → List (List Char) → List Char
  | _, [] => []
  | first, p :: ps => separator first ++ (p ++ separated false ps)

theorem length_separated_cons (first : Bool) (p : List Char) (ps : List (List Char)) :
    (separated first (p :: ps)).length =
      (separator first).length + (p.length + (separated false ps).length) := by
  rw [separated, List.length_append, List.length_append]

theorem itemsChars_eq (items : List Json) :
    itemsChars items = separated true (items.map chars) := by
  induction items with
  | nil => rfl
  | cons j items ih =>
    cases items with
    | nil => simp [itemsChars, separated, separator]
    | cons k items =>
      rw [itemsChars, ih]
      rfl

theorem membersChars_eq (members : List (String × Json)) :
    membersChars members = separated true (members.map memberChars) := by
  induction members with
  | nil => rfl
  | cons m members ih =>
    cases members with
    | nil => simp [membersChars, separated, separator]
    | cons n members =>
      rw [membersChars, ih]
      rfl

/-- A piece that is not the first one, or the end, comes after a value. -/
theorem delimited_separated {close : Char} (hclose : close = ']' ∨ close = '\x7d')
    (ps : List (List Char)) (rest : List Char) :
    Delimited (separated false ps ++ close :: rest) := by
  intro c hc
  cases ps with
  | nil =>
    obtain rfl : close = c := Option.some.inj hc
    exact .inr hclose
  | cons p ps =>
    obtain rfl : ',' = c := Option.some.inj hc
    exact .inl rfl

theorem skipSpace_cons {c : Char} (hc : isSpace c = false) (cs : List Char) :
    skipSpace (c :: cs) = c :: cs := by
  rw [skipSpace, List.dropWhile_cons, hc]
  rfl

/-- After a comma there is a next item, unless the list ends there. -/
theorem nextItem?_comma (cs : List Char) :
    nextItem? false (',' :: cs) =
      match skipSpace cs with
      | [] => .error (.at .endInValue [])
      | ']' :: more => .error (.at .trailingComma (']' :: more))
      | more => .ok (some more) :=
  rfl

theorem nextItem?_separator (first : Bool) {c : Char} (hspace : isSpace c = false)
    (hend : c ≠ ']') (cs : List Char) :
    nextItem? first (separator first ++ c :: cs) = .ok (some (c :: cs)) := by
  have hskip := skipSpace_cons hspace cs
  cases first with
  | true =>
    change nextItem? true (c :: cs) = _
    rw [nextItem?, hskip]
    split
    · next h => cases h
    · next h => exact absurd (List.cons.inj h).1 hend
    · next h =>
      cases h
      rfl
  | false =>
    change nextItem? false (',' :: c :: cs) = _
    rw [nextItem?_comma, hskip]
    split
    · next h => cases h
    · next h => exact absurd (List.cons.inj h).1 hend
    · rfl

/-- The text of a name or of another text, before something else. -/
theorem textChars_append (s : String) (tail : List Char) :
    textChars s ++ tail = '"' :: (s.toList.flatMap escapedChar ++ '"' :: tail) := by
  simp [textChars]

theorem nextName?_separator (first : Bool) (name : String) (tail : List Char) :
    nextName? first (separator first ++ (textChars name ++ tail)) =
      .ok (some (name, tail)) := by
  have hname : nextName?.name (name.toList.flatMap escapedChar ++ '"' :: tail) =
      .ok (some (name, tail)) := by
    rw [nextName?.name, readText_written]
    exact congrArg (fun s => Except.ok (some (s, tail))) String.ofList_toList
  rw [textChars_append]
  cases first with
  | true => exact hname
  | false => exact hname

/-! ### Reading values back -/

/-- A shape reads the text of `j` back as `n`, if more than `levels` levels may still be nested. -/
structure ReadsBack (shape : Shape) (levels : Nat) (j n : Json) : Prop where
  /-- The text starts with something that is neither a blank nor the end of a list. -/
  start : ∃ c cs, j.chars = c :: cs ∧ isSpace c = false ∧ c ≠ ']'
  read : ∀ (fuel depth : Nat) (rest : List Char), 2 * j.chars.length + 2 ≤ fuel →
    levels < depth → Delimited rest →
    shape.read fuel depth (j.chars ++ rest) = .ok (n, rest)

namespace ReadsBack

variable {item : Shape} {levels : Nat}

theorem read_text (fuel depth : Nat) (s : String) (rest : List Char) :
    Shape.text.read (fuel + 1) depth (textChars s ++ rest) = .ok (.text s, rest) := by
  rw [textChars_append]
  change (do
    let r ← readText (s.toList.flatMap escapedChar ++ '"' :: rest)
    return (Json.text (String.ofList r.1), r.2)) = _
  rw [readText_written]
  exact congrArg (fun s => Except.ok (Json.text s, rest)) String.ofList_toList

/-- **A text** is read back, whatever its characters are. -/
theorem text (levels : Nat) (s : String) : ReadsBack .text levels (.text s) (.text s) where
  start := ⟨'"', _, rfl, rfl, by decide⟩
  read := by
    rintro (_ | fuel) depth rest hfuel _ _
    · omega
    · exact read_text fuel depth s rest

/-- A text that may be left out. -/
theorem optionalText (levels : Nat) (s : Option String) :
    ReadsBack (.optional .text) levels (ofOptionalText s) (ofOptionalText s) := by
  cases s with
  | none =>
    refine ⟨⟨'n', _, rfl, rfl, by decide⟩, ?_⟩
    rintro (_ | fuel) depth rest hfuel _ _
    · omega
    · rfl
  | some s =>
    refine ⟨⟨'"', _, rfl, rfl, by decide⟩, ?_⟩
    rintro (_ | _ | fuel) depth rest hfuel _ _
    · omega
    · omega
    · exact read_text fuel depth s rest

theorem flag (levels : Nat) (b : Bool) : ReadsBack .flag levels (.bool b) (.bool b) := by
  cases b
  all_goals
    refine ⟨⟨_, _, rfl, rfl, by decide⟩, ?_⟩
    rintro (_ | fuel) depth rest hfuel _ _
    · omega
    · rfl

theorem conformNatural_ofNat {bits n : Nat} (label : String) (hn : n < 2 ^ bits) :
    conformNatural bits label (.integer n) = .ok (ofNat n) := by
  have hlow : (0 : Int) ≤ n := Int.natCast_nonneg n
  have hhigh : (n : Int) < (Nat.pow 2 bits : Nat) := Int.ofNat_lt.mpr hn
  rw [conformNatural, decide_eq_true hlow, decide_eq_true hhigh]
  rfl

/-- **A whole number** is read back if it fits into its width. -/
theorem natural (levels : Nat) {bits : Nat} (hbits : bits ≤ 64) (label : String) {n : Nat}
    (hn : n < 2 ^ bits) : ReadsBack (.natural bits label) levels (ofNat n) (ofNat n) := by
  have hchars : (ofNat n).chars = Nat.toDigits 10 n := by
    change integerChars n = _
    rw [integerChars, if_neg (by omega), Int.natAbs_natCast]
  have hmax : n ≤ maxSignificand :=
    Nat.le_sub_one_of_lt (Nat.lt_of_lt_of_le hn (Nat.pow_le_pow_right (by decide) hbits))
  obtain ⟨c, cs, hc⟩ : ∃ c cs, Nat.toDigits 10 n = c :: cs :=
    List.exists_cons_of_ne_nil Nat.toDigits_ne_nil
  have hdigit : c.isDigit = true :=
    Nat.isDigit_of_mem_toDigits (b := 10) (n := n) (by decide) (by decide) (by simp [hc])
  -- The first digit is no space, no sign and no end of a list, so it starts a number.
  have hspace : isSpace c = false := by
    by_contra h
    rw [Bool.not_eq_false, isSpace] at h
    simp only [Bool.or_eq_true, beq_iff_eq] at h
    rcases h with ((rfl | rfl) | rfl) | rfl <;> exact absurd hdigit (by decide)
  have hsign : c ≠ '-' := by
    rintro rfl
    exact absurd hdigit (by decide)
  have hend : c ≠ ']' := by
    rintro rfl
    exact absurd hdigit (by decide)
  refine ⟨⟨c, cs, hchars.trans hc, hspace, hend⟩, ?_⟩
  rintro (_ | fuel) depth rest hfuel _ hrest
  · omega
  have hread := readNumber_written hmax hrest.endsNumber
  rw [hchars]
  rw [hc, List.cons_append] at hread ⊢
  have hskip := skipSpace_cons hspace (cs ++ rest)
  have hshape : (Shape.natural bits label).read (fuel + 1) depth (c :: (cs ++ rest)) =
      readNumberAs (conformNatural bits label) label (c :: (cs ++ rest)) := by
    simp only [Shape.read, hskip]
  rw [hshape, readNumberAs, if_neg hsign, if_pos hdigit, hread, readNumberAs.check,
    conformNatural_ofNat label hn]

/-- One of some words. -/
theorem choice (levels : Nat) {variants : List String} {s : String} (hs : s ∈ variants) :
    ReadsBack (.choice variants) levels (.text s) (.text s) where
  start := ⟨'"', _, rfl, rfl, by decide⟩
  read := by
    rintro (_ | fuel) depth rest hfuel _ _
    · omega
    have hknown : knownVariant variants s rest = .ok (s, rest) := by
      rw [knownVariant, if_pos (List.contains_iff_mem.mpr hs)]
    rw [chars, textChars_append]
    change (do
      let r ← (do
        let r ← readText (s.toList.flatMap escapedChar ++ '"' :: rest)
        knownVariant variants (String.ofList r.1) r.2)
      return (Json.text r.1, r.2)) = _
    rw [readText_written]
    change (do
      let r ← knownVariant variants (String.ofList s.toList) rest
      return (Json.text r.1, r.2)) = _
    rw [String.ofList_toList, hknown]
    rfl

/-! ### Lists -/

theorem readShapes_separated {js ns : List Json} (h : List.Forall₂ (ReadsBack item levels) js ns)
    (first : Bool) (fuel depth : Nat) (rest : List Char)
    (hfuel : 2 * (separated first (js.map chars)).length + 3 ≤ fuel) (hdepth : levels < depth) :
    readShapes fuel depth item first (separated first (js.map chars) ++ ']' :: rest) =
      .ok (ns, ']' :: rest) := by
  induction h generalizing first fuel with
  | nil =>
    obtain ⟨fuel, rfl⟩ : ∃ k, fuel = k + 1 := ⟨fuel - 1, by omega⟩
    cases first <;> rfl
  | @cons j n js ns hj _ ih =>
    obtain ⟨fuel, rfl⟩ : ∃ k, fuel = k + 1 := ⟨fuel - 1, by omega⟩
    obtain ⟨c, cs, hc, hspace, hend⟩ := hj.start
    rw [List.map_cons, length_separated_cons] at hfuel
    have hpos : 0 < j.chars.length := by simp [hc]
    have hitem : nextItem? first (separator first ++
        (j.chars ++ (separated false (js.map chars) ++ ']' :: rest))) =
          .ok (some (j.chars ++ (separated false (js.map chars) ++ ']' :: rest))) := by
      rw [hc]
      exact nextItem?_separator first hspace hend _
    have hread := hj.read fuel depth _ (by omega) hdepth
      (delimited_separated (.inl rfl) (js.map chars) rest)
    have hmore := ih false fuel (by omega)
    rw [List.map_cons, separated, List.append_assoc, List.append_assoc, readShapes, hitem]
    simp only [bind, Except.bind, hread, hmore]
    rfl

/-- **A list** is read back if its items are. -/
theorem list {js ns : List Json} (h : List.Forall₂ (ReadsBack item levels) js ns) :
    ReadsBack (.list item) (levels + 1) (.array js) (.array ns) where
  start := ⟨'[', _, rfl, rfl, by decide⟩
  read := by
    rintro (_ | fuel) depth rest hfuel hdepth _
    · omega
    have hchars : (Json.array js).chars ++ rest =
        '[' :: (separated true (js.map chars) ++ ']' :: rest) := by
      simp [chars, itemsChars_eq]
    have hlength : (Json.array js).chars.length = (separated true (js.map chars)).length + 2 := by
      simp [chars, itemsChars_eq]
    have hread := readShapes_separated h true fuel (depth - 1) rest (by omega) (by omega)
    rw [hchars]
    change (if depth ≤ 1 then _ else do
      let r ← readShapes fuel (depth - 1) item true
        (separated true (js.map chars) ++ ']' :: rest)
      return (Json.array r.1, ← closeList r.2)) = _
    rw [if_neg (by omega), hread]
    rfl

/-! ### Dictionaries -/

theorem memberChars_append (name : String) (j : Json) (tail : List Char) :
    memberChars (name, j) ++ tail = textChars name ++ ':' :: (j.chars ++ tail) := by
  simp [memberChars]

theorem length_memberChars (name : String) (j : Json) :
    j.chars.length < (memberChars (name, j)).length := by
  simp [memberChars]
  omega

/-- Entries of a dictionary as members of an object. -/
def textMembers (l : List (String × String)) : List (String × Json) :=
  l.map fun e => (e.1, .text e.2)

theorem readTexts_separated (first : Bool) {l : List (String × String)}
    (hl : l.Pairwise fun a b => a.1 < b.1) {members : List (String × Json)}
    (hmembers : ∀ e ∈ members, ∀ f ∈ l, e.1 < f.1) (fuel : Nat) (rest : List Char)
    (hfuel : (separated first ((textMembers l).map memberChars)).length < fuel) :
    readTexts fuel first members
        (separated first ((textMembers l).map memberChars) ++ '\x7d' :: rest) =
      .ok (members ++ textMembers l, '\x7d' :: rest) := by
  -- The induction is on what is still to be read; `members` is what has been read before.
  induction l generalizing first members fuel with
  | nil =>
    obtain ⟨fuel, rfl⟩ : ∃ k, fuel = k + 1 := ⟨fuel - 1, by omega⟩
    rw [textMembers, List.map_nil, List.map_nil, List.append_nil]
    cases first <;> rfl
  | cons e l ih =>
    obtain ⟨fuel, rfl⟩ : ∃ k, fuel = k + 1 := ⟨fuel - 1, by omega⟩
    obtain ⟨hfirst, hl⟩ := List.pairwise_cons.mp hl
    have hcons : textMembers (e :: l) = (e.1, .text e.2) :: textMembers l := rfl
    rw [hcons, List.map_cons, length_separated_cons] at hfuel
    have hpos := length_memberChars e.1 (.text e.2)
    -- Names ascend, so every member is put at the end.
    have hinsert : insertEntry e.1 (.text e.2) members = members ++ [(e.1, .text e.2)] :=
      insertEntry_eq_append fun x hx => hmembers x hx e List.mem_cons_self
    have hnext : ∀ x ∈ members ++ [(e.1, Json.text e.2)], ∀ f ∈ l, x.1 < f.1 := by
      intro x hx f hf
      rcases List.mem_append.mp hx with hx | hx
      · exact hmembers x hx f (List.mem_cons_of_mem e hf)
      · rw [List.mem_singleton.mp hx]
        exact hfirst f hf
    have hmore := ih false hl hnext fuel (by omega)
    rw [hcons, List.map_cons, separated, List.append_assoc, List.append_assoc,
      memberChars_append, readTexts, nextName?_separator, chars, textChars_append]
    change (do
      let r ← readText (e.2.toList.flatMap escapedChar ++ '"' ::
        (separated false ((textMembers l).map memberChars) ++ '\x7d' :: rest))
      readTexts fuel false (insertEntry e.1 (.text (String.ofList r.1)) members) r.2) = _
    rw [readText_written]
    change readTexts fuel false (insertEntry e.1 (.text (String.ofList e.2.toList)) members) _ = _
    rw [String.ofList_toList, hinsert, hmore, List.append_assoc]
    rfl

theorem object_append (members : List (String × Json)) (rest : List Char) :
    (Json.object members).chars ++ rest =
      '\x7b' :: (separated true (members.map memberChars) ++ '\x7d' :: rest) := by
  simp [chars, membersChars_eq]

theorem length_object (members : List (String × Json)) :
    (Json.object members).chars.length =
      (separated true (members.map memberChars)).length + 2 := by
  simp [chars, membersChars_eq]

/-- **A dictionary** is read back. -/
theorem dictionary (levels : Nat) (d : Dictionary String) :
    ReadsBack .dictionary (levels + 1) (ofDictionary d) (ofDictionary d) where
  start := ⟨'\x7b', _, rfl, rfl, by decide⟩
  read := by
    rintro (_ | fuel) depth rest hfuel hdepth _
    · omega
    have hobject : ofDictionary d = .object (textMembers d.entries) := rfl
    rw [hobject, length_object] at hfuel
    have hnone : ∀ e ∈ ([] : List (String × Json)), ∀ f ∈ d.entries, e.1 < f.1 :=
      fun e he => absurd he List.not_mem_nil
    have hread := readTexts_separated true d.ascending hnone fuel rest (by omega)
    rw [hobject, object_append]
    change (if depth ≤ 1 then _ else do
      let r ← readTexts fuel true []
        (separated true ((textMembers d.entries).map memberChars) ++ '\x7d' :: rest)
      return (Json.object r.1, ← closeObject r.2)) = _
    rw [if_neg (by omega), hread]
    rfl

/-! ### Records -/

/-- How the fields of a record are filled: some by the members that are `written`, in their order,
which are read as `present`; the others have a value if they are left out.  `filled` is the normal
form of the record. -/
inductive Filled (levels : Nat) : List (Field Shape) → (written present : List (String × Json)) →
    (filled : List (String × Json)) → Prop
  | nil : Filled levels [] [] [] []
  | field {f : Field Shape} {fields : List (Field Shape)} {j n : Json}
      {written present filled : List (String × Json)} (h : ReadsBack f.shape levels j n)
      (hmore : Filled levels fields written present filled) :
      Filled levels (f :: fields) ((f.name, j) :: written) ((f.name, n) :: present)
        ((f.name, n) :: filled)
  | absent {f : Field Shape} {fields : List (Field Shape)} {value : Json}
      {written present filled : List (String × Json)} (h : f.presence.absent? = some value)
      (hmore : Filled levels fields written present filled) :
      Filled levels (f :: fields) written present ((f.name, value) :: filled)

variable {label : String} {fields : List (Field Shape)}
  {written present filled : List (String × Json)}

theorem Filled.sublist (h : Filled levels fields written present filled) :
    (present.map Prod.fst).Sublist (fields.map Field.name) := by
  induction h with
  | nil => exact .slnil
  | field _ _ ih => exact ih.cons_cons _
  | absent _ _ ih => exact ih.cons _

/-- What was read is put together to the normal form. -/
theorem Filled.assemble (h : Filled levels fields written present filled)
    (hdistinct : (fields.map Field.name).Nodup) {l : List (String × Json)}
    (hl : ∀ f ∈ fields, findValue? f.name l = findValue? f.name present) :
    assemble l fields = .ok filled := by
  induction h with
  | nil => rfl
  | @field f fields j n written present filled _ hmore ih =>
    obtain ⟨hf, hdistinct⟩ := List.nodup_cons.mp hdistinct
    obtain ⟨hhead, hl⟩ := List.forall_mem_cons.mp hl
    have hvalue : findValue? f.name ((f.name, n) :: present) = some n := by simp [findValue?]
    have hrest := ih hdistinct fun g hg => (hl g hg).trans <|
      findValue?_cons_of_ne (name_ne Field.name hf hg) present
    rw [assemble_cons, hhead, hvalue, hrest]
    rfl
  | @absent f fields value written present filled habsent hmore ih =>
    obtain ⟨hf, hdistinct⟩ := List.nodup_cons.mp hdistinct
    obtain ⟨hhead, hl⟩ := List.forall_mem_cons.mp hl
    have hnone : findValue? f.name present = none :=
      findValue?_eq_none_iff.mpr fun hmem => hf (hmore.sublist.subset hmem)
    rw [assemble_cons, hhead, hnone, habsent, ih hdistinct hl]
    rfl

theorem readFields_separated {all : List (Field Shape)}
    (h : Filled levels fields written present filled) (first : Bool)
    (hdistinct : (fields.map Field.name).Nodup)
    (hall : ∀ f ∈ fields, all.find? (·.name == f.name) = some f) {l : List (String × Json)}
    (hl : ∀ f ∈ fields, findValue? f.name l = none) (fuel depth : Nat) (rest : List Char)
    (hfuel : 2 * (separated first (written.map memberChars)).length + 3 ≤ fuel)
    (hdepth : levels < depth) :
    readFields fuel depth all first l
        (separated first (written.map memberChars) ++ '\x7d' :: rest) =
      .ok (present.reverse ++ l, '\x7d' :: rest) := by
  -- The induction is along the fields: one is written or it is left out.
  induction h generalizing first l fuel with
  | nil =>
    obtain ⟨fuel, rfl⟩ : ∃ k, fuel = k + 1 := ⟨fuel - 1, by omega⟩
    cases first <;> rfl
  | @field f fields j n written present filled hj hmore ih =>
    obtain ⟨fuel, rfl⟩ : ∃ k, fuel = k + 1 := ⟨fuel - 1, by omega⟩
    obtain ⟨hf, hdistinct⟩ := List.nodup_cons.mp hdistinct
    obtain ⟨hfind, hall⟩ := List.forall_mem_cons.mp hall
    obtain ⟨hfresh, hl⟩ := List.forall_mem_cons.mp hl
    rw [List.map_cons, length_separated_cons] at hfuel
    have hpos := length_memberChars f.name j
    have hread := hj.read fuel depth _ (by omega) hdepth
      (delimited_separated (.inr rfl) (written.map memberChars) rest)
    -- Names are distinct, so no later field has been read yet.
    have hnext : ∀ g ∈ fields, findValue? g.name ((f.name, n) :: l) = none := fun g hg =>
      (findValue?_cons_of_ne (name_ne Field.name hf hg) l).trans (hl g hg)
    have hrest := ih false hdistinct hall hnext fuel (by omega)
    have hcolon : ∀ cs, readColon (':' :: cs) = .ok cs := fun _ => rfl
    rw [List.map_cons, separated, List.append_assoc, List.append_assoc, memberChars_append,
      readFields, nextName?_separator]
    simp only [bind, Except.bind, hfind, hfresh, hcolon, hread, hrest, Option.isSome_none,
      Bool.false_eq_true, if_false, List.reverse_cons, List.append_assoc, List.singleton_append]
  | absent _ _ ih =>
    exact ih first (List.nodup_cons.mp hdistinct).2 (List.forall_mem_cons.mp hall).2
      (List.forall_mem_cons.mp hl).2 fuel hfuel

/-- What reading a record comes to after its opening brace. -/
theorem read_record (fuel depth : Nat) (cs : List Char) :
    (Shape.record label fields).read (fuel + 1) depth ('\x7b' :: cs) =
      if depth ≤ 1 then .error (.at .tooDeep ('\x7b' :: cs))
      else do
        let (present, rest) ← readFields fuel (depth - 1) fields true [] cs
        match Json.assemble present fields with
        | .error cause => .error (.before cause (afterClose '\x7d' rest))
        | .ok members => return (Json.object members, ← closeObject rest) :=
  rfl

/-- **A record** is read back if its fields are. -/
theorem record (hdistinct : (fields.map Field.name).Nodup)
    (h : Filled levels fields written present filled) :
    ReadsBack (.record label fields) (levels + 1) (.object written) (.object filled) where
  start := ⟨'\x7b', _, rfl, rfl, by decide⟩
  read := by
    rintro (_ | fuel) depth rest hfuel hdepth _
    · omega
    rw [length_object] at hfuel
    have hread := readFields_separated h true hdistinct
      (fun _ => find?_name Field.name hdistinct) (l := []) (fun _ _ => rfl)
      fuel (depth - 1) rest (by omega) (by omega)
    have hassemble : Json.assemble present.reverse fields = .ok filled :=
      h.assemble hdistinct fun f _ => findValue?_reverse (hdistinct.sublist h.sublist) f.name
    rw [object_append]
    rw [List.append_nil] at hread
    rw [read_record, if_neg (by omega), hread]
    simp only [bind, Except.bind, hassemble]
    rfl

/-! ### Whole texts -/

/-- **A whole text** is read back if less levels are nested than may be. -/
theorem parse {shape : Shape} {j n : Json} (h : ReadsBack shape levels j n)
    (hlevels : levels < maxDepth) : shape.parse j.render = .ok n := by
  have hread := h.read (steps j.chars + 64) maxDepth [] (by rw [steps]; omega) hlevels
    fun _ hc => nomatch hc
  rw [List.append_nil] at hread
  rw [Shape.parse, Json.render, String.toList_ofList, hread]
  rfl

end ReadsBack

end Colloquy.Json
