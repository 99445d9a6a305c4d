import Colloquy.Proofs.Files.Frame
import Colloquy.Proofs.Workspace.Listing

/-!
# Ways as names

A text that is read as the name of a file has names in it, one in the other (`namesIn`).  A way is
listed as a text, and a text is read after the blanks around it and the `./` in front of it have been
taken off.  So the text of a way is a name with just this way if there is nothing to take off.  There
is nothing at the end if a file has been written to the way, because its name had no blanks there.
But after a `./` a way may start with a blank.

* `Name.namesOf_parts`: the names of a name that has been read are those in its text;
* `splitPath_join`: a way is read back from its text;
* `Root.Storable`: the ways that files are written to (`Root.storable_of_read?`);
* `Name.read?_join`: the text of such a way is a name with this way, unless it starts with a blank;
* `namesIn_join_ne`: if it does, there are other names in it.
-/

namespace Colloquy.Text

variable {cs : List Char}

/-! ### Blanks at the two ends -/

/-- Whether a text starts with a blank. -/
def startsBlank (s : String) : Bool :=
  s.toList.head?.any isBlank

theorem dropWhile_isBlank_eq_self (h : ∀ c ∈ cs.head?, isBlank c = false) :
    cs.dropWhile isBlank = cs := by
  cases cs with
  | nil => rfl
  | cons c cs => rw [List.dropWhile_cons_of_neg (by rw [h c rfl]; decide)]

/-- Without blanks at the two ends there is nothing to trim. -/
theorem trimChars_eq_self (hfirst : ∀ c ∈ cs.head?, isBlank c = false)
    (hlast : ∀ c ∈ cs.getLast?, isBlank c = false) : trimChars cs = cs := by
  rw [← List.head?_reverse] at hlast
  rw [trimChars, dropWhile_isBlank_eq_self hfirst, trimEndChars, dropWhile_isBlank_eq_self hlast,
    List.reverse_reverse]

/-- Trimming leaves no blank at the end. -/
theorem isBlank_getLast?_trimChars (cs : List Char) :
    ∀ c ∈ (trimChars cs).getLast?, isBlank c = false := by
  intro c hc
  rw [trimChars, trimEndChars, List.getLast?_reverse] at hc
  obtain ⟨rest, hrest⟩ := List.head?_eq_some_iff.mp hc
  exact head_dropWhile_isBlank hrest

theorem trimEndChars_along (cs : List Char) : trimEndChars cs <+: cs :=
  List.reverse_suffix.mp (by
    rw [trimEndChars, List.reverse_reverse]
    exact List.dropWhile_suffix _)

/-- A text that starts with a blank gets shorter when it is trimmed. -/
theorem utf8ByteSize_trim_lt {s : String} (h : startsBlank s = true) :
    (trim s).utf8ByteSize < s.utf8ByteSize := by
  rw [startsBlank, Option.any_eq_true] at h
  obtain ⟨c, hc, hblank⟩ := h
  obtain ⟨rest, hs⟩ := List.head?_eq_some_iff.mp hc
  -- What is left is somewhere after the blank.
  obtain ⟨before, after, hrest⟩ : trimChars s.toList <:+: rest := by
    rw [hs, trimChars, List.dropWhile_cons_of_pos hblank]
    exact (trimEndChars_along _).isInfix.trans (List.dropWhile_suffix _).isInfix
  have hsplit : s = String.ofList [c] ++ String.ofList before ++ trim s ++ String.ofList after := by
    rw [trim, ← String.ofList_append, ← String.ofList_append, ← String.ofList_append,
      List.append_assoc [c], List.append_assoc [c], hrest, List.singleton_append, ← hs,
      String.ofList_toList]
  have hpos : 0 < (String.ofList [c]).utf8ByteSize := by
    rw [Nat.pos_iff_ne_zero, Ne, String.utf8ByteSize_eq_zero_iff]
    exact String.singleton_ne_empty
  conv_rhs => rw [hsplit]
  rw [String.utf8ByteSize_append, String.utf8ByteSize_append, String.utf8ByteSize_append]
  omega

end Colloquy.Text

namespace Colloquy.Workspace

open Files Files.Disk

variable {r : Root} {n : Name} {way : Location} {name text : String} {cs : List Char}

/-! ### The names in a text -/

/-- The names in a text that is read as the name of a file, one in the other. -/
def namesIn (s : String) : List String :=
  namesOf (splitPath (Text.trim s))

theorem namesOf_dropHere (cs : List Char) :
    namesOf (splitPath (String.ofList (dropHere cs))) =
      namesOf (splitPath (String.ofList cs)) := by
  fun_induction dropHere cs with
  | case1 rest ih =>
    have hsplit : splitPath (String.ofList ('.' :: '/' :: rest)) =
        "." :: splitPath (String.ofList rest) := by
      simp [splitPath, splitPath.split]
    rw [ih, hsplit, namesOf_cons_here rfl]
  | case2 => rfl

/-- The names of a name are those in its text. -/
theorem Name.namesOf_parts (h : Name.read? name = some n) : namesOf n.parts = namesIn name := by
  rw [Name.read?] at h
  split at h
  · cases h
  rw [← Option.some.inj h]
  dsimp only
  rw [namesOf_upTo, namesOf_dropHere, namesIn, Text.trim]

/-- There are no slashes in the parts of a path. -/
theorem plain_splitPath (s : String) : Plain (splitPath s) := by
  have hsplit : ∀ cs, ∀ p ∈ splitPath.split cs, '/' ∉ p := by
    intro cs
    fun_induction splitPath.split cs with
    | case1 => simp
    | case2 cs ih => simpa using ih
    | case3 c cs hc hnil ih => simpa using Ne.symm hc
    | case4 c cs hc p ps hcons ih =>
      intro q hq
      rcases List.mem_cons.mp hq with rfl | hq
      · have hp := ih p (by rw [hcons]; exact List.mem_cons_self ..)
        rw [List.mem_cons, not_or]
        exact ⟨Ne.symm hc, hp⟩
      · exact ih q (by rw [hcons]; exact List.mem_cons_of_mem _ hq)
  intro part hpart
  obtain ⟨cs, hcs, rfl⟩ := List.mem_map.mp hpart
  rw [String.toList_ofList]
  exact hsplit _ cs hcs

theorem plain_namesIn (s : String) : Plain (namesIn s) :=
  fun name hname => plain_splitPath _ name (List.mem_filter.mp hname).1

/-! ### Ways and their texts -/

theorem split_eq_splitOn (cs : List Char) : splitPath.split cs = cs.splitOn '/' := by
  induction cs with
  | nil => rfl
  | cons c cs ih =>
    have hcons : (c :: cs).splitOn '/' = if c = '/' then [] :: cs.splitOn '/'
        else (cs.splitOn '/').modifyHead (c :: ·) := by
      simp [List.splitOn, List.splitOnP_cons_eq_if_modifyHead]
    rw [splitPath.split, ih, hcons]
    split_ifs with hslash
    · rfl
    · cases hsplit : cs.splitOn '/' with
      | nil => exact (List.splitOnP_ne_nil _ _ hsplit).elim
      | cons first rest => rfl

theorem join_splitPath (s : String) : join (splitPath s) = s := by
  have hslash : "/".toList = ['/'] := rfl
  apply String.toList_inj.mp
  rw [join, splitPath, String.toList_intercalate, hslash, split_eq_splitOn, List.map_map]
  have hid : String.toList ∘ String.ofList = id := funext fun cs => String.toList_ofList
  rw [hid, List.map_id, List.intercalate_splitOn]

/-- **A way is read back** from its text. -/
theorem splitPath_join (h : Plain way) (hne : way ≠ []) : splitPath (join way) = way := by
  have hid : String.ofList ∘ String.toList = id := funext fun s => String.ofList_toList
  rw [splitPath, split_eq_splitOn, splitOn_join h hne, List.map_map, hid, List.map_id]

theorem join_cons (name : String) (hne : way ≠ []) :
    join (name :: way) = name ++ "/" ++ join way :=
  String.intercalate_cons_of_ne_nil hne

theorem pathSize_eq_join (hne : way ≠ []) : pathSize way = (join way).utf8ByteSize + 1 := by
  induction way with
  | nil => exact absurd rfl hne
  | cons name way ih =>
    by_cases hway : way = []
    · rw [hway, join, String.intercalate_singleton, pathSize_cons]
      rfl
    · have hslash : "/".utf8ByteSize = 1 := rfl
      rw [pathSize_cons, ih hway, join_cons name hway, String.utf8ByteSize_append,
        String.utf8ByteSize_append, hslash]
      omega

theorem head?_join (hname : name ≠ "") (way : Location) :
    (join (name :: way)).toList.head? = name.toList.head? := by
  obtain ⟨c, cs, hcs⟩ := List.exists_cons_of_ne_nil (mt String.toList_eq_nil_iff.mp hname)
  cases way with
  | nil => rw [join, String.intercalate_singleton]
  | cons next way =>
    rw [join, String.intercalate_cons_cons, String.toList_append, String.toList_append, hcs]
    rfl

theorem getLast?_join (way : Location) (hname : name ≠ "") :
    (join (way ++ [name])).toList.getLast? = name.toList.getLast? := by
  induction way with
  | nil => rw [List.nil_append, join, String.intercalate_singleton]
  | cons first way ih =>
    have hlast : name.toList.getLast? ≠ none := fun hnone =>
      hname (String.toList_eq_nil_iff.mp (List.getLast?_eq_none_iff.mp hnone))
    obtain ⟨c, hc⟩ := Option.ne_none_iff_exists'.mp hlast
    rw [List.cons_append, join_cons first (by simp), String.toList_append, List.getLast?_append,
      ih, hc]
    rfl

theorem ne_empty_of_isName (h : IsName name) : name ≠ "" := by
  rintro rfl
  exact absurd h.1 (by decide)

/-! ### Ways that files are written to -/

/-- The ways that files can be written to. -/
structure Root.Storable (r : Root) (way : Location) : Prop where
  nonempty : way ≠ []
  isName : ∀ name ∈ way, IsName name
  plain : Plain way
  /-- There is no blank at the end. -/
  last : ∀ c ∈ (join way).toList.getLast?, Text.isBlank c = false
  accepted : refusal? (r.front ++ way) = none

theorem dropHere_suffix (cs : List Char) : dropHere cs <:+ cs := by
  fun_induction dropHere cs with
  | case1 rest ih => exact ih.trans (List.suffix_append ['.', '/'] rest)
  | case2 => exact List.suffix_rfl

/-- The text of a name that nothing comes after. -/
theorem Name.join_parts (h : Name.read? text = some n) (hending : n.ending.parts = []) :
    join n.parts = String.ofList (dropHere (Text.trimChars text.toList)) := by
  rw [Name.read?] at h
  split at h
  · cases h
  rw [← Option.some.inj h] at hending ⊢
  dsimp only at hending ⊢
  have hparts := upTo_append_after
    (splitPath (String.ofList (dropHere (Text.trimChars text.toList))))
  rw [hending, List.append_nil] at hparts
  rw [hparts, join_splitPath]

/-- A name that has been read ends without a blank. -/
theorem Name.isBlank_getLast? (h : Name.read? text = some n) (hending : n.ending.parts = []) :
    ∀ c ∈ (join n.parts).toList.getLast?, Text.isBlank c = false := by
  intro c hc
  rw [Name.join_parts h hending, String.toList_ofList] at hc
  refine Text.isBlank_getLast?_trimChars text.toList c ?_
  obtain ⟨before, hbefore⟩ := dropHere_suffix (Text.trimChars text.toList)
  rw [← hbefore, List.getLast?_append, Option.mem_def.mp hc]
  rfl

/-- The names in a name are a way that a file can be written to. -/
theorem Root.storable_of_read? (h : Name.read? text = some n) (hending : n.ending.parts = [])
    (haccepted : refusal? (r.wholePathOf n) = none) : r.Storable (namesIn text) := by
  have hproper := Name.proper_of_read? h
  have hnames := Name.namesOf_parts h
  obtain ⟨init, last, hparts, hlast⟩ := hproper.last fun hnil =>
    hproper.nonempty (by rw [hnil, hending]; rfl)
  have hsnoc : namesIn text = namesOf init ++ [last] := by
    rw [← hnames, hparts, namesOf_append, namesOf_cons_name hlast.1]
    rfl
  refine ⟨?_, fun name hname => ?_, plain_namesIn text, ?_, ?_⟩
  · rw [hsnoc]
    simp
  · rw [← hnames, namesOf, List.mem_filter, Bool.not_eq_true'] at hname
    refine ⟨hname.2, ?_⟩
    rintro rfl
    exact hproper.up (List.mem_append_left _ hname.1)
  · have hend := Name.isBlank_getLast? h hending
    rw [hparts, getLast?_join init (ne_empty_of_isName hlast)] at hend
    rwa [hsnoc, getLast?_join (namesOf init) (ne_empty_of_isName hlast)]
  · rw [r.wholePathOf_eq, hending, List.append_nil] at haccepted
    rw [← hnames]
    exact refusal?_of_sublist ((List.Sublist.refl _).append List.filter_sublist) haccepted

/-! ### Texts that are read as names -/

theorem after_of_isName (init : List String) {last : String} (hlast : isHere last = false) :
    ((init ++ [last]).reverse.takeWhile isHere).reverse = [] := by
  rw [List.reverse_append, List.reverse_singleton, List.singleton_append,
    List.takeWhile_cons_of_neg (by rw [hlast]; decide)]
  rfl

theorem dropHere_eq_self (h : cs.head? ≠ some '.') : dropHere cs = cs := by
  rw [dropHere]
  rintro rest rfl
  exact h rfl

namespace Root.Storable

/-- The text of a way without hidden names starts with neither a slash nor a dot. -/
theorem exists_head? (h : r.Storable way) (hvisible : ∀ name ∈ way, isHiddenName name = false) :
    ∃ c, (join way).toList.head? = some c ∧ c ≠ '/' ∧ c ≠ '.' := by
  obtain ⟨first, rest, hway⟩ := List.exists_cons_of_ne_nil h.nonempty
  have hmem : first ∈ way := by
    rw [hway]
    exact List.mem_cons_self ..
  have hfirst := ne_empty_of_isName (h.isName first hmem)
  obtain ⟨c, cs, hcs⟩ := List.exists_cons_of_ne_nil (mt String.toList_eq_nil_iff.mp hfirst)
  refine ⟨c, ?_, ?_, ?_⟩
  · rw [hway, head?_join hfirst, hcs]
    rfl
  · rintro rfl
    exact h.plain first hmem (by rw [hcs]; exact List.mem_cons_self ..)
  · have hshown := hvisible first hmem
    rw [isHiddenName, hcs] at hshown
    simpa using hshown

/-- Nothing comes after the last name of a way. -/
theorem after (h : r.Storable way) : (way.reverse.takeWhile isHere).reverse = [] := by
  obtain ⟨init, last, hway⟩ := (List.eq_nil_or_concat way).resolve_left h.nonempty
  rw [List.concat_eq_append] at hway
  subst hway
  exact after_of_isName init
    (h.isName last (List.mem_append_right _ (List.mem_singleton_self last))).1

end Root.Storable

/-- The text of a path is read as a name with just this path, if it starts with neither a blank nor
a slash nor a dot, ends in a name without a blank after it and goes up nowhere. -/
theorem Name.read?_of_plain {parts : List String} {c : Char} (hplain : Plain parts)
    (hhead : (join parts).toList.head? = some c) (hblank : Text.isBlank c = false)
    (hslash : c ≠ '/') (hdot : c ≠ '.')
    (hlast : ∀ c ∈ (join parts).toList.getLast?, Text.isBlank c = false)
    (hup : ".." ∉ parts) (hafter : (parts.reverse.takeWhile isHere).reverse = []) :
    Name.read? (join parts) = some ⟨parts, .name⟩ := by
  have hne : parts ≠ [] := by
    rintro rfl
    cases hhead
  have htrim : Text.trimChars (join parts).toList = (join parts).toList := by
    refine Text.trimChars_eq_self (fun c' hc' => ?_) hlast
    rw [hhead] at hc'
    rwa [← Option.some.inj hc']
  have hhere : dropHere (join parts).toList = (join parts).toList :=
    dropHere_eq_self (by rw [hhead]; simpa using hdot)
  have hnot : ¬((join parts).toList.isEmpty || (join parts).toList.head? = some '/' ||
      parts.contains "..") = true := by
    have htext : (join parts).toList ≠ [] := by
      intro hnil
      rw [hnil] at hhead
      cases hhead
    simp [hhead, hslash, hup, htext]
  have hupTo := upTo_append_after parts
  rw [hafter, List.append_nil] at hupTo
  rw [Name.read?, htrim, hhere, String.ofList_toList, splitPath_join hplain hne, if_neg hnot,
    hupTo, hafter]
  rfl

/-- **What is listed is a name**, unless it starts with a blank. -/
theorem Name.read?_join (h : r.Storable way) (hvisible : ∀ name ∈ way, isHiddenName name = false)
    (hblank : Text.startsBlank (join way) = false) :
    Name.read? (join way) = some ⟨way, .name⟩ := by
  obtain ⟨c, hhead, hslash, hdot⟩ := h.exists_head? hvisible
  rw [Text.startsBlank, hhead] at hblank
  exact Name.read?_of_plain h.plain hhead hblank hslash hdot h.last
    (fun hup => (h.isName ".." hup).2 rfl) h.after

/-- A text that starts with a blank has other names in it than it has been joined from. -/
theorem namesIn_join_ne (hne : way ≠ []) (hblank : Text.startsBlank (join way) = true) :
    namesIn (join way) ≠ way := by
  intro hsame
  have hsize : pathSize (namesIn (join way)) ≤ pathSize (splitPath (Text.trim (join way))) :=
    pathSize_le_of_sublist List.filter_sublist
  rw [hsame, pathSize_eq_join hne, pathSize_eq_join (splitPath_ne_nil _), join_splitPath] at hsize
  have hshorter := Text.utf8ByteSize_trim_lt hblank
  omega

end Colloquy.Workspace
