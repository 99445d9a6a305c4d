import Colloquy.Proofs.Files.Path
import Mathlib.Tactic.Push

/-!
# Where paths lead

A walk reads the parts of a path one by one.  `Way` is the walk as a relation: which parts lead from
where to where if all links are followed, and how many links that takes.

* `Way.walkFrom_append`: after a way, a walk goes on with the rest of the path;
* `exists_way`: a walk that goes well has come along a way to the end of each part of its path;
* `locate_eq_ok_iff`: a path is located where its way ends;
* `Way.extend`: what is added to a disk leaves the ways that there are as they are;
* `BreaksOff`: a path that leads to a directory in which its next name is missing.
-/

namespace Colloquy.Files.Disk

variable {d d' : Disk} {f : Bool} {k k' n : Nat} {l m m' : Location} {p q : List String}
  {part : String} {place : Place} {e : Entry}

@[simp]
theorem find?_top (d : Disk) : d.find? [] = some .directory := rfl

/-- The top is no file. -/
theorem ne_nil_of_file {bytes : ByteArray} (h : d.find? l = some (.file bytes)) : l ≠ [] := by
  rintro rfl
  cases h

/-! ### The steps of a walk -/

/-- Where a link in a directory starts from. -/
def origin (l : Location) (target : String) : Location :=
  if target.toList.head? == some '/' then [] else l

/-- How a walk goes on from a link. -/
def follow (d : Disk) (f : Bool) : Nat → Location → List String → Except SystemError Place
  | 0, _, _ => .error .tooManyLinks
  | n + 1, l, p => d.walkFrom f n l p

/-- The walk by its first part. -/
theorem walkFrom_cons (hdir : d.find? l = some .directory) :
    d.walkFrom f n l (part :: p) =
      if isHere part then d.walkFrom f n l p
      else if part = ".." then d.walkFrom f n l.dropLast p
      else if maxName < part.utf8ByteSize then .error .nameTooLong
      else match d.find? (l ++ [part]) with
        | none => if p.isEmpty then .ok (.vacant l part) else .error .noSuchFile
        | some (.link target) =>
          if p.isEmpty && !f then .ok (.found (l ++ [part]))
          else d.follow f n (origin l target) (splitPath target ++ p)
        | some _ => d.walkFrom f n (l ++ [part]) p := by
  cases n <;> (rw [walkFrom, walkWith, hdir]; rfl)

@[simp]
theorem walkFrom_nil : d.walkFrom f n l [] = .ok (.found l) := by
  cases n <;> rfl

/-- Only from a directory does a walk go on. -/
theorem directory_of_walkFrom (h : d.walkFrom f n l (part :: p) = .ok place) :
    d.find? l = some .directory := by
  cases n <;>
  · rw [walkFrom, walkWith] at h
    split at h
    · assumption
    · cases h

/-- What a walk does at a part of its path if it goes well. -/
inductive Step (d : Disk) (f : Bool) (place : Place) (n : Nat) (l : Location) (part : String)
    (p : List String) : Prop where
  | here (hpart : isHere part = true) (h : d.walkFrom f n l p = .ok place)
  | up (hpart : part = "..") (h : d.walkFrom f n l.dropLast p = .ok place)
  | vacant (hpart : IsName part) (hsize : part.utf8ByteSize ≤ maxName)
      (he : d.find? (l ++ [part]) = none) (hp : p = []) (hplace : place = .vacant l part)
  | down (hpart : IsName part) (hsize : part.utf8ByteSize ≤ maxName) (e : Entry)
      (he : d.find? (l ++ [part]) = some e) (hlink : ∀ target, e ≠ .link target)
      (h : d.walkFrom f n (l ++ [part]) p = .ok place)
  | last (hpart : IsName part) (hsize : part.utf8ByteSize ≤ maxName) (target : String)
      (he : d.find? (l ++ [part]) = some (.link target)) (hp : p = []) (hf : f = false)
      (hplace : place = .found (l ++ [part]))
  | link (hpart : IsName part) (hsize : part.utf8ByteSize ≤ maxName) (target : String)
      (he : d.find? (l ++ [part]) = some (.link target)) (hgo : p ≠ [] ∨ f = true) (n' : Nat)
      (hn : n = n' + 1) (h : d.walkFrom f n' (origin l target) (splitPath target ++ p) = .ok place)

theorem step_of_walkFrom (h : d.walkFrom f n l (part :: p) = .ok place) :
    Step d f place n l part p := by
  rw [walkFrom_cons (directory_of_walkFrom h)] at h
  -- One case for each branch of the walk, in its order.
  by_cases hhere : isHere part = true
  · rw [if_pos hhere] at h
    exact .here hhere h
  by_cases hup : part = ".."
  · rw [if_neg hhere, if_pos hup] at h
    exact .up hup h
  by_cases hsize : maxName < part.utf8ByteSize
  · rw [if_neg hhere, if_neg hup, if_pos hsize] at h
    cases h
  rw [if_neg hhere, if_neg hup, if_neg hsize] at h
  have hpart : IsName part := ⟨(Bool.not_eq_true _).mp hhere, hup⟩
  have hsize : part.utf8ByteSize ≤ maxName := Nat.le_of_not_lt hsize
  cases he : d.find? (l ++ [part]) with
  | none =>
    simp only [he] at h
    split_ifs at h with hp
    exact .vacant hpart hsize he (List.isEmpty_iff.mp hp) (Except.ok.inj h).symm
  | some e =>
    cases e with
    | link target =>
      simp only [he] at h
      split_ifs at h with hp
      · simp only [Bool.and_eq_true, List.isEmpty_iff, Bool.not_eq_true'] at hp
        exact .last hpart hsize target he hp.1 hp.2 (Except.ok.inj h).symm
      · cases n with
        | zero => cases h
        | succ n =>
          -- A link at the end is followed only if that is asked for.
          have hgo : p ≠ [] ∨ f = true := by
            by_contra hstop
            push Not at hstop
            exact hp (by rw [hstop.1, (Bool.not_eq_true _).mp hstop.2]; rfl)
          exact .link hpart hsize target he hgo n rfl h
    | file content =>
      simp only [he] at h
      exact .down hpart hsize _ he nofun h
    | directory =>
      simp only [he] at h
      exact .down hpart hsize _ he nofun h

/-! ### Ways -/

/-- The parts of a path lead from one location to another, with so many links on the way. -/
inductive Way (d : Disk) : Nat → Location → List String → Location → Prop where
  | stop (l : Location) : Way d 0 l [] l
  | here {k : Nat} {l m : Location} {part : String} {p : List String}
      (hdir : d.find? l = some .directory) (hpart : isHere part = true) (h : Way d k l p m) :
      Way d k l (part :: p) m
  | up {k : Nat} {l m : Location} {p : List String}
      (hdir : d.find? l = some .directory) (h : Way d k l.dropLast p m) :
      Way d k l (".." :: p) m
  | down {k : Nat} {l m : Location} {part : String} {p : List String} {e : Entry}
      (hdir : d.find? l = some .directory) (hpart : IsName part)
      (hsize : part.utf8ByteSize ≤ maxName) (he : d.find? (l ++ [part]) = some e)
      (hlink : ∀ target, e ≠ .link target) (h : Way d k (l ++ [part]) p m) :
      Way d k l (part :: p) m
  | link {k : Nat} {l m : Location} {part target : String} {p : List String}
      (hdir : d.find? l = some .directory) (hpart : IsName part)
      (hsize : part.utf8ByteSize ≤ maxName) (he : d.find? (l ++ [part]) = some (.link target))
      (h : Way d k (origin l target) (splitPath target ++ p) m) :
      Way d (k + 1) l (part :: p) m

/-- The way down into a directory. -/
theorem way_directory (hdir : d.find? l = some .directory) (hpart : IsName part)
    (hsize : part.utf8ByteSize ≤ maxName) (hthere : d.find? (l ++ [part]) = some .directory) :
    Way d 0 l [part] (l ++ [part]) :=
  .down hdir hpart hsize hthere nofun (.stop _)

/-- A walk from the start of a way goes on from its end. -/
theorem Way.walkFrom_append (h : Way d k l p m) (hq : q ≠ [] ∨ f = true) :
    d.walkFrom f (k + n) l (p ++ q) = d.walkFrom f n m q := by
  induction h generalizing n with
  | stop l => rw [Nat.zero_add, List.nil_append]
  | here hdir hpart _ ih => rw [List.cons_append, walkFrom_cons hdir, if_pos hpart, ih]
  | up hdir _ ih =>
    rw [List.cons_append, walkFrom_cons hdir, if_neg (by decide), if_pos rfl, ih]
  | @down _ _ _ part p e hdir hpart hsize he hlink _ ih =>
    rw [List.cons_append, walkFrom_cons hdir, if_neg (by rw [hpart.1]; decide), if_neg hpart.2,
      if_neg (Nat.not_lt.mpr hsize), he]
    cases e with
    | link target => exact absurd rfl (hlink target)
    | file content => exact ih
    | directory => exact ih
  | @link k l _ part target p hdir hpart hsize he _ ih =>
    -- The link is not the end of the path, or else it is followed all the same.
    have hlast : ((p ++ q).isEmpty && !f) = false := by
      rcases hq with hq | rfl
      · cases p <;> cases q <;> simp_all
      · exact Bool.and_false _
    rw [List.cons_append, walkFrom_cons hdir, if_neg (by rw [hpart.1]; decide), if_neg hpart.2,
      if_neg (Nat.not_lt.mpr hsize), he, hlast, Nat.add_right_comm]
    have hnext := ih (n := n)
    rw [List.append_assoc] at hnext
    exact hnext

/-- A walk that goes well has come along a way to the end of each part of its path, and of the whole
path if it has followed all links and found something. -/
theorem exists_way (n : Nat) (l : Location) (p : List String)
    (h : d.walkFrom f n l (p ++ q) = .ok place)
    (hq : q ≠ [] ∨ f = true ∧ ∃ m, place = .found m) :
    ∃ k m, k ≤ n ∧ Way d k l p m ∧ d.walkFrom f (n - k) m q = .ok place := by
  -- A link puts the parts of its target in front of the rest, so the path may get longer; but then
  -- there are fewer links left to follow.
  match p with
  | [] => exact ⟨0, l, Nat.zero_le n, .stop l, h⟩
  | part :: p =>
    rw [List.cons_append] at h
    have hdir := directory_of_walkFrom h
    cases step_of_walkFrom h with
    | here hpart h =>
      obtain ⟨k, m, hk, hway, hrest⟩ := exists_way n l p h hq
      exact ⟨k, m, hk, .here hdir hpart hway, hrest⟩
    | up hpart h =>
      obtain ⟨k, m, hk, hway, hrest⟩ := exists_way n l.dropLast p h hq
      subst hpart
      exact ⟨k, m, hk, .up hdir hway, hrest⟩
    | vacant _ _ _ hp hplace =>
      obtain ⟨-, rfl⟩ := List.append_eq_nil_iff.mp hp
      rcases hq with hq | ⟨-, m, rfl⟩
      · exact absurd rfl hq
      · cases hplace
    | down hpart hsize e he hlink h =>
      obtain ⟨k, m, hk, hway, hrest⟩ := exists_way n (l ++ [part]) p h hq
      exact ⟨k, m, hk, .down hdir hpart hsize he hlink hway, hrest⟩
    | last _ _ _ _ hp hf _ =>
      obtain ⟨-, rfl⟩ := List.append_eq_nil_iff.mp hp
      rcases hq with hq | ⟨hf', -⟩
      · exact absurd rfl hq
      · exact absurd hf (by rw [hf']; decide)
    | link hpart hsize target he _ n' hn hlink =>
      subst hn
      rw [← List.append_assoc] at hlink
      obtain ⟨k, m, hk, hway, hrest⟩ := exists_way n' (origin l target) (splitPath target ++ p)
        hlink hq
      refine ⟨k + 1, m, Nat.succ_le_succ hk, .link hdir hpart hsize he hway, ?_⟩
      rwa [Nat.add_sub_add_right]
termination_by (n, p.length)

/-- Parts lead to one location only. -/
theorem Way.unique (h : Way d k l p m) (h' : Way d k' l p m') : m = m' := by
  have hm := h.walkFrom_append (n := k') (q := []) (Or.inr rfl)
  have hm' := h'.walkFrom_append (n := k) (q := []) (Or.inr rfl)
  rw [Nat.add_comm, hm, walkFrom_nil, walkFrom_nil] at hm'
  exact Place.found.inj (Except.ok.inj hm')

theorem Way.append (h : Way d k l p m) (h' : Way d k' m q m') : Way d (k' + k) l (p ++ q) m' := by
  induction h with
  | stop l => exact h'
  | here hdir hpart _ ih => exact .here hdir hpart (ih h')
  | up hdir _ ih => exact .up hdir (ih h')
  | down hdir hpart hsize he hlink _ ih => exact .down hdir hpart hsize he hlink (ih h')
  | link hdir hpart hsize he _ ih =>
    have hnext := ih h'
    rw [List.append_assoc] at hnext
    exact .link hdir hpart hsize he hnext

/-- A way by its parts. -/
theorem Way.split (h : Way d k l (p ++ q) m') :
    ∃ k₁ k₂ m, k₁ + k₂ ≤ k ∧ Way d k₁ l p m ∧ Way d k₂ m q m' ∧
      (q ≠ [] → d.find? m = some .directory) := by
  have hwalk := h.walkFrom_append (n := 0) (q := []) (f := true) (Or.inr rfl)
  rw [walkFrom_nil, List.append_nil] at hwalk
  obtain ⟨k₁, m, hk₁, hway, hrest⟩ := exists_way _ _ _ hwalk (Or.inr ⟨rfl, m', rfl⟩)
  rw [← List.append_nil q] at hrest
  obtain ⟨k₂, m₂, hk₂, hway₂, hend⟩ := exists_way _ _ _ hrest (Or.inr ⟨rfl, m', rfl⟩)
  rw [walkFrom_nil] at hend
  cases hend
  refine ⟨k₁, k₂, m, by omega, hway, hway₂, fun hq => ?_⟩
  cases hway₂ with
  | stop => exact absurd rfl hq
  | here hdir => exact hdir
  | up hdir => exact hdir
  | down hdir => exact hdir
  | link hdir => exact hdir

/-- Parts that stand for nothing lead nowhere else. -/
theorem Way.eq_of_namesOf (h : Way d k l p m) (hp : namesOf p = []) : m = l := by
  rw [namesOf_eq_nil_iff] at hp
  induction h with
  | stop l => rfl
  | here _ _ _ ih => exact ih fun x hx => hp x (List.mem_cons_of_mem _ hx)
  | up => exact absurd (hp _ (List.mem_cons_self ..)) (by decide)
  | down _ hpart => exact absurd (hp _ (List.mem_cons_self ..)) (by rw [hpart.1]; decide)
  | link _ hpart => exact absurd (hp _ (List.mem_cons_self ..)) (by rw [hpart.1]; decide)

/-- Without links and without parts that go up, a way goes down along the names of the path. -/
theorem Way.eq_append (h : Way d 0 l p m) (hup : ".." ∉ p) : m = l ++ namesOf p := by
  generalize hk : 0 = k at h
  induction h with
  | stop l => exact (List.append_nil l).symm
  | here _ hpart _ ih =>
    rw [namesOf_cons_here hpart]
    exact ih (fun h => hup (List.mem_cons_of_mem _ h)) hk
  | up => exact absurd (List.mem_cons_self ..) hup
  | down _ hpart _ _ _ _ ih =>
    rw [namesOf_cons_name hpart.1, List.append_cons]
    exact ih (fun h => hup (List.mem_cons_of_mem _ h)) hk
  | link => cases hk

/-- A location that is led to is made of names. -/
theorem Way.isName (h : Way d k l p m) (hl : ∀ name ∈ l, IsName name) :
    ∀ name ∈ m, IsName name := by
  have hsnoc : ∀ {l : Location} {part : String}, (∀ name ∈ l, IsName name) → IsName part →
      ∀ name ∈ l ++ [part], IsName name := by
    intro l part hl hpart name hname
    rcases List.mem_append.mp hname with hname | hname
    · exact hl name hname
    · rwa [List.mem_singleton.mp hname]
  induction h with
  | stop l => exact hl
  | here _ _ _ ih => exact ih hl
  | up _ _ ih => exact ih fun name hname => hl name ((List.dropLast_sublist _).subset hname)
  | down _ hpart _ _ _ _ ih => exact ih (hsnoc hl hpart)
  | @link _ l _ _ target _ _ _ _ _ _ ih =>
    refine ih fun name hname => hl name ?_
    unfold origin at hname
    split_ifs at hname
    · cases hname
    · exact hname

/-- Without following a link at its very end, a walk along a way finds something, too. -/
theorem Way.exists_found (h : Way d k l p m) (n : Nat) (f : Bool) :
    ∃ m', d.walkFrom f (k + n) l p = .ok (.found m') := by
  induction h with
  | stop l => exact ⟨l, walkFrom_nil⟩
  | here hdir hpart _ ih => rwa [walkFrom_cons hdir, if_pos hpart]
  | up hdir _ ih => rwa [walkFrom_cons hdir, if_neg (by decide), if_pos rfl]
  | @down _ _ _ _ _ e hdir hpart hsize he hlink _ ih =>
    rw [walkFrom_cons hdir, if_neg (by rw [hpart.1]; decide), if_neg hpart.2,
      if_neg (Nat.not_lt.mpr hsize), he]
    cases e with
    | link target => exact absurd rfl (hlink target)
    | file content => exact ih
    | directory => exact ih
  | link hdir hpart hsize he _ ih =>
    rw [walkFrom_cons hdir, if_neg (by rw [hpart.1]; decide), if_neg hpart.2,
      if_neg (Nat.not_lt.mpr hsize), he, Nat.add_right_comm]
    dsimp only
    split_ifs
    · exact ⟨_, rfl⟩
    · exact ih

/-- Parts that go down through directories, without a link on the way. -/
theorem way_down (hup : ".." ∉ q) (hsize : ∀ name ∈ namesOf q, name.utf8ByteSize ≤ maxName)
    (hdirs : ∀ z, z <+: namesOf q → d.find? (l ++ z) = some .directory) :
    Way d 0 l q (l ++ namesOf q) := by
  induction q generalizing l with
  | nil =>
    rw [show namesOf [] = [] from rfl, List.append_nil]
    exact .stop l
  | cons part q ih =>
    obtain ⟨hpart, hup⟩ : ".." ≠ part ∧ ".." ∉ q := by simpa using hup
    have hdir : d.find? l = some .directory := by simpa using hdirs [] List.nil_prefix
    cases hhere : isHere part with
    | true =>
      rw [namesOf_cons_here hhere] at hsize hdirs ⊢
      exact .here hdir hhere (ih hup hsize hdirs)
    | false =>
      rw [namesOf_cons_name hhere] at hsize hdirs ⊢
      have hnext := hdirs [part] (by simp)
      have hrest : Way d 0 (l ++ [part]) q (l ++ [part] ++ namesOf q) := by
        refine ih hup (fun x hx => hsize x (List.mem_cons_of_mem _ hx)) fun z hz => ?_
        rw [List.append_assoc]
        exact hdirs _ (List.cons_prefix_cons.mpr ⟨rfl, hz⟩)
      rw [List.append_cons]
      exact .down hdir ⟨hhere, Ne.symm hpart⟩ (hsize part (List.mem_cons_self ..)) hnext nofun hrest

/-! ### Disks that go on from one another -/

/-- What is on a disk stays there, but files may get other contents. -/
def Extends (d d' : Disk) : Prop :=
  ∀ l e, d.find? l = some e →
    d'.find? l = some e ∨ ∃ old new, e = .file old ∧ d'.find? l = some (.file new)

theorem Extends.directory (h : Extends d d') (hl : d.find? l = some .directory) :
    d'.find? l = some .directory := by
  rcases h l _ hl with hl' | ⟨_, _, he, _⟩
  · exact hl'
  · cases he

theorem Extends.eq_none (h : Extends d d') (hl : d'.find? l = none) : d.find? l = none := by
  cases he : d.find? l with
  | none => rfl
  | some e =>
    rcases h l e he with he' | ⟨_, _, _, he'⟩ <;>
    · rw [hl] at he'
      cases he'

theorem Extends.trans {d'' : Disk} (h : Extends d d') (h' : Extends d' d'') : Extends d d'' := by
  intro l e he
  rcases h l e he with he' | ⟨old, new, rfl, he'⟩
  · exact h' l e he'
  · rcases h' l _ he' with he'' | ⟨_, new', _, he''⟩
    · exact .inr ⟨old, new, rfl, he''⟩
    · exact .inr ⟨old, new', rfl, he''⟩

/-- Setting a file where nothing or a file is. -/
theorem extends_put (hl : l ≠ [])
    (h : d.find? l = none ∨ ∃ old, d.find? l = some (.file old)) (content : ByteArray) :
    Extends d (d.put l (.file content)) := by
  intro m e he
  rw [find?_put hl]
  by_cases hm : l = m
  · subst hm
    rcases h with h | ⟨old, h⟩
    · rw [h] at he
      cases he
    · rw [h] at he
      exact .inr ⟨old, content, (Option.some.inj he).symm, if_pos rfl⟩
  · rw [if_neg hm]
    exact .inl he

/-- What is added to a disk leaves the ways that there are as they are. -/
theorem Way.extend (h : Way d k l p m) (hext : Extends d d') : Way d' k l p m := by
  induction h with
  | stop l => exact .stop l
  | here hdir hpart _ ih => exact .here (hext.directory hdir) hpart ih
  | up hdir _ ih => exact .up (hext.directory hdir) ih
  | down hdir hpart hsize he hlink _ ih =>
    rcases hext _ _ he with he' | ⟨_, _, -, he'⟩
    · exact .down (hext.directory hdir) hpart hsize he' hlink ih
    · exact .down (hext.directory hdir) hpart hsize he' nofun ih
  | link hdir hpart hsize he _ ih =>
    rcases hext _ _ he with he' | ⟨_, _, he', _⟩
    · exact .link (hext.directory hdir) hpart hsize he' ih
    · cases he'

/-- A walk that ends at a free name: once there is a file at the name, the path leads to it. -/
theorem way_of_vacant (n : Nat) (l : Location) (p : List String)
    (h : d.walkFrom true n l p = .ok (.vacant m part)) :
    d.find? (m ++ [part]) = none ∧
      ∃ k ≤ n, ∀ {d'}, Extends d d' → ∀ {content}, d'.find? (m ++ [part]) = some (.file content) →
        Way d' k l p (m ++ [part]) := by
  -- The recursion is that of the walk: fewer links, then a shorter path.
  match p with
  | [] =>
    rw [walkFrom_nil] at h
    cases h
  | next :: p =>
    have hdir := directory_of_walkFrom h
    cases step_of_walkFrom h with
    | here hpart h =>
      obtain ⟨hnone, k, hk, hway⟩ := way_of_vacant n l p h
      exact ⟨hnone, k, hk, fun hext _ hfile =>
        .here (hext.directory hdir) hpart (hway hext hfile)⟩
    | up hpart h =>
      obtain ⟨hnone, k, hk, hway⟩ := way_of_vacant n l.dropLast p h
      subst hpart
      exact ⟨hnone, k, hk, fun hext _ hfile => .up (hext.directory hdir) (hway hext hfile)⟩
    | vacant hpart hsize he hp hplace =>
      subst hp
      cases hplace
      exact ⟨he, 0, Nat.zero_le n, fun hext _ hfile =>
        .down (hext.directory hdir) hpart hsize hfile nofun (.stop _)⟩
    | down hpart hsize e he hlink h =>
      obtain ⟨hnone, k, hk, hway⟩ := way_of_vacant n (l ++ [next]) p h
      refine ⟨hnone, k, hk, fun hext _ hfile => ?_⟩
      -- What lies on the way is still there; only a file may have got other contents.
      rcases hext _ _ he with he' | ⟨_, _, -, he'⟩
      · exact .down (hext.directory hdir) hpart hsize he' hlink (hway hext hfile)
      · exact .down (hext.directory hdir) hpart hsize he' nofun (hway hext hfile)
    | last _ _ _ _ _ _ hplace => cases hplace
    | link hpart hsize target he _ n' hn hlink =>
      subst hn
      obtain ⟨hnone, k, hk, hway⟩ :=
        way_of_vacant n' (origin l target) (splitPath target ++ p) hlink
      refine ⟨hnone, k + 1, Nat.succ_le_succ hk, fun hext _ hfile => ?_⟩
      rcases hext _ _ he with he' | ⟨_, _, he', _⟩
      · exact .link (hext.directory hdir) hpart hsize he' (hway hext hfile)
      · cases he'
termination_by (n, p.length)

/-! ### Paths from the top -/

/-- A path leads from the top to a location, with no more links than a walk may follow. -/
def Reaches (d : Disk) (p : List String) (m : Location) : Prop :=
  ∃ k ≤ maxLinks, Way d k [] p m

theorem reaches_nil (d : Disk) : d.Reaches [] [] := ⟨0, Nat.zero_le _, .stop []⟩

theorem Reaches.unique (h : d.Reaches p m) (h' : d.Reaches p m') : m = m' := by
  obtain ⟨k, -, h⟩ := h
  obtain ⟨k', -, h'⟩ := h'
  exact h.unique h'

theorem Reaches.extend (h : d.Reaches p m) (hext : Extends d d') : d'.Reaches p m := by
  obtain ⟨k, hk, h⟩ := h
  exact ⟨k, hk, h.extend hext⟩

theorem Reaches.append (h : d.Reaches p m) (h' : Way d 0 m q m') : d.Reaches (p ++ q) m' := by
  obtain ⟨k, hk, h⟩ := h
  exact ⟨0 + k, by omega, h.append h'⟩

theorem Reaches.split (h : d.Reaches (p ++ q) m') :
    ∃ m, d.Reaches p m ∧ (∃ k, Way d k m q m') ∧ (q ≠ [] → d.find? m = some .directory) := by
  obtain ⟨k, hk, h⟩ := h
  obtain ⟨k₁, k₂, m, hle, h₁, h₂, hdir⟩ := h.split
  exact ⟨m, ⟨k₁, by omega, h₁⟩, ⟨k₂, h₂⟩, hdir⟩

/-- Walking on from where a path leads. -/
theorem Reaches.walk_append (h : d.Reaches p m) (hpath : refusal? (p ++ q) = none)
    (hq : q ≠ [] ∨ f = true) : ∃ n, d.walk f (p ++ q) = d.walkFrom f n m q := by
  obtain ⟨k, hk, h⟩ := h
  obtain ⟨n, hn⟩ := Nat.exists_eq_add_of_le hk
  refine ⟨n, ?_⟩
  rw [walk, hpath, hn]
  exact h.walkFrom_append hq

/-- A walk that goes well has come to where each part of its path leads. -/
theorem exists_reaches (h : d.walk f (p ++ q) = .ok place) (hq : q ≠ []) :
    refusal? (p ++ q) = none ∧
      ∃ n m, d.Reaches p m ∧ d.walkFrom f n m q = .ok place := by
  rw [walk] at h
  cases hpath : refusal? (p ++ q) with
  | some e => rw [hpath] at h; cases h
  | none =>
    rw [hpath] at h
    obtain ⟨k, m, hk, hway, hrest⟩ := exists_way _ _ _ h (Or.inl hq)
    exact ⟨rfl, maxLinks - k, m, ⟨k, hk, hway⟩, hrest⟩

/-- A walk that ends in a name, whatever there is at it, has come to the directory of that name. -/
theorem walk_name_cases (h : d.walk f (p ++ [part]) = .ok place) (hpart : IsName part) :
    refusal? (p ++ [part]) = none ∧
      ∃ m, d.Reaches p m ∧ d.find? m = some .directory ∧ part.utf8ByteSize ≤ maxName ∧
        (d.find? (m ++ [part]) = none → place = .vacant m part) ∧
        (f = false → d.find? (m ++ [part]) ≠ none → place = .found (m ++ [part])) := by
  obtain ⟨hpath, n, m, hm, hrest⟩ := exists_reaches h (List.cons_ne_nil _ _)
  refine ⟨hpath, m, hm, directory_of_walkFrom hrest, ?_⟩
  cases step_of_walkFrom hrest with
  | here hhere _ => exact absurd hhere (by rw [hpart.1]; decide)
  | up hup _ => exact absurd hup hpart.2
  | vacant _ hsize he _ hplace => exact ⟨hsize, fun _ => hplace, fun _ hne => absurd he hne⟩
  | down _ hsize e he _ hend =>
    rw [walkFrom_nil] at hend
    exact ⟨hsize, fun hnone => absurd (he.symm.trans hnone) nofun,
      fun _ _ => (Except.ok.inj hend).symm⟩
  | last _ hsize target he _ _ hplace =>
    exact ⟨hsize, fun hnone => absurd (he.symm.trans hnone) nofun, fun _ _ => hplace⟩
  | link _ hsize target he hgo =>
    refine ⟨hsize, fun hnone => absurd (he.symm.trans hnone) nofun, fun hf => ?_⟩
    exact absurd (hgo.resolve_left (· rfl)) (by rw [hf]; decide)

/-- Where a path that leads to a directory goes on with a name, a walk ends there. -/
theorem Reaches.walk_name (h : d.Reaches p l) (hdir : d.find? l = some .directory)
    (hpath : refusal? (p ++ [part]) = none) (hpart : IsName part) :
    d.walk false (p ++ [part]) =
      if maxName < part.utf8ByteSize then .error .nameTooLong
      else if (d.find? (l ++ [part])).isNone then .ok (.vacant l part)
      else .ok (.found (l ++ [part])) := by
  obtain ⟨n, hn⟩ := h.walk_append (f := false) hpath (Or.inl (List.cons_ne_nil _ _))
  rw [hn, walkFrom_cons hdir, if_neg (by rw [hpart.1]; decide), if_neg hpart.2]
  by_cases hsize : maxName < part.utf8ByteSize
  · rw [if_pos hsize, if_pos hsize]
  rw [if_neg hsize, if_neg hsize]
  cases d.find? (l ++ [part]) with
  | none => rfl
  | some e =>
    cases e with
    | link target => rfl
    | file content => exact walkFrom_nil
    | directory => exact walkFrom_nil

/-- A path that ends in something that stands for the directory itself leads to a directory. -/
theorem exists_of_walk_here (h : d.walk f (p ++ q) = .ok place) (hq : namesOf q = [])
    (hne : q ≠ []) : ∃ m, place = .found m ∧ d.find? m = some .directory := by
  obtain ⟨init, last, hconcat⟩ := (List.eq_nil_or_concat q).resolve_left hne
  rw [List.concat_eq_append] at hconcat
  subst hconcat
  have hlast : isHere last = true :=
    namesOf_eq_nil_iff.mp hq last (List.mem_append_right _ (List.mem_singleton_self last))
  rw [← List.append_assoc] at h
  obtain ⟨-, n, m, -, hrest⟩ := exists_reaches h (List.cons_ne_nil _ _)
  have hdir := directory_of_walkFrom hrest
  rw [walkFrom_cons hdir, if_pos hlast, walkFrom_nil] at hrest
  exact ⟨m, (Except.ok.inj hrest).symm, hdir⟩

/-- A path is located where it leads, unless it is refused. -/
theorem locate_eq_ok_iff : d.locate p = .ok m ↔ refusal? p = none ∧ d.Reaches p m := by
  constructor
  · intro h
    rw [locate] at h
    split at h
    · next hwalk =>
      cases h
      rw [walk] at hwalk
      split at hwalk
      · cases hwalk
      · next hpath =>
        rw [← List.append_nil p] at hwalk
        -- A walk that follows its last link, too, ends where its way does.
        obtain ⟨k, m', hk, hway, hend⟩ := exists_way _ _ _ hwalk (Or.inr ⟨rfl, _, rfl⟩)
        rw [walkFrom_nil] at hend
        cases hend
        exact ⟨hpath, k, hk, hway⟩
    · cases h
    · cases h
  · rintro ⟨hpath, hm⟩
    rw [← List.append_nil p] at hpath
    obtain ⟨n, hn⟩ := hm.walk_append (f := true) hpath (Or.inr rfl)
    rw [List.append_nil, walkFrom_nil] at hn
    rw [locate, hn]

theorem walk_of_locate (h : d.locate p = .ok m) : d.walk true p = .ok (.found m) := by
  rw [locate] at h
  split at h
  · next hwalk =>
    rw [hwalk, Except.ok.inj h]
  · cases h
  · cases h

theorem Extends.locate (hext : Extends d d') (h : d.locate p = .ok m) : d'.locate p = .ok m := by
  obtain ⟨hpath, hreach⟩ := locate_eq_ok_iff.mp h
  exact locate_eq_ok_iff.mpr ⟨hpath, hreach.extend hext⟩

/-- There is an entry wherever a path leads. -/
theorem Reaches.hasEntry (h : d.Reaches p m) (hpath : refusal? p = none) : d.hasEntry p = true := by
  obtain ⟨k, hk, h⟩ := h
  obtain ⟨n, hn⟩ := Nat.exists_eq_add_of_le hk
  obtain ⟨m', hfound⟩ := h.exists_found n false
  rw [Disk.hasEntry, walk, hpath, hn]
  dsimp only
  rw [hfound]

/-! ### Paths that break off -/

/-- A path leads to a directory, but the name that comes next is missing there. -/
structure BreaksOff (d : Disk) (p : List String) (part : String) (l : Location) : Prop where
  reaches : d.Reaches p l
  directory : d.find? l = some .directory
  name : IsName part
  missing : d.find? (l ++ [part]) = none

/-- There is no entry at a path that has broken off. -/
theorem BreaksOff.not_hasEntry (h : BreaksOff d p part l) : d.hasEntry (p ++ part :: q) ≠ true := by
  intro hentry
  rw [hasEntry] at hentry
  split at hentry
  · next place hwalk =>
    obtain ⟨-, n, m, hm, hrest⟩ := exists_reaches hwalk (List.cons_ne_nil _ _)
    obtain rfl := h.reaches.unique hm
    cases step_of_walkFrom hrest with
    | here hhere _ => exact absurd hhere (by rw [h.name.1]; decide)
    | up hup _ => exact absurd hup h.name.2
    | vacant _ _ _ _ hplace => cases hplace
    | down _ _ e he _ _ => exact nomatch h.missing.symm.trans he
    | last _ _ target he _ _ _ => exact nomatch h.missing.symm.trans he
    | link _ _ target he _ _ _ _ => exact nomatch h.missing.symm.trans he
  · cases hentry

/-- Nor does it lead anywhere. -/
theorem BreaksOff.not_locate (h : BreaksOff d p part l) : d.locate (p ++ part :: q) ≠ .ok m := by
  intro hm
  obtain ⟨hpath, hm⟩ := locate_eq_ok_iff.mp hm
  exact h.not_hasEntry (hm.hasEntry hpath)

end Colloquy.Files.Disk
