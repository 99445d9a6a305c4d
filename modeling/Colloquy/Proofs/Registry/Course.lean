import Colloquy.Proofs.Registry.Delivery

/-!
# Operations without errands

While no maker has an errand left, the operations that may need a new backend run straight through:
a backend is supplied for an entry, which is the one that the entry has or a new one, and then
prepared; if it lets itself be prepared, the entry gets it.  `Supplied` says what the first part
does to the registry.

* `supplied_of_make`: a backend that is made and prepared has been supplied;
* `register_course`, `activateWith_course`, `prepareWith_course`: the whole operations.
-/

namespace Colloquy.Registry

open Provider (Backend Options)

variable {r r' r'' : Registry} {name : String} {e : Entry}

/-! ### Makers of new backends -/

/-- Whether a maker gives a new backend in each call. -/
def Maker.Fresh (k : Maker) : Prop :=
  ∀ p ∈ k.products, ∃ plan, p = .new plan

/-- Whether all makers give a new backend in each call. -/
def Fresh (r : Registry) : Prop :=
  ∀ k ∈ r.makers, k.Fresh

theorem Maker.Fresh.nextProduct {k : Maker} (h : k.Fresh) : ∃ plan, k.nextProduct = .new plan := by
  rw [Maker.nextProduct]
  cases hp : k.products with
  | nil => exact ⟨k.plan, rfl⟩
  | cons p rest => exact h p (hp ▸ List.mem_cons_self)

theorem Maker.Fresh.start {k : Maker} (h : k.Fresh) : k.start.Fresh :=
  fun p hp => h p (List.mem_of_mem_tail hp)

theorem Fresh.congr (h : r.Fresh) (hmakers : r'.makers = r.makers) : r'.Fresh := by
  rwa [Fresh, hmakers]

theorem Fresh.modify (h : r.Fresh) {m : MakerId} {f : Maker → Maker}
    (hf : ∀ k : Maker, k.Fresh → (f k).Fresh) (hmakers : r'.makers = r.makers.modify m f) :
    r'.Fresh := by
  intro k hk
  rw [hmakers] at hk
  obtain ⟨i, hi⟩ := List.getElem?_of_mem hk
  rw [List.getElem?_modify] at hi
  cases hget : r.makers[i]? with
  | none => rw [hget] at hi; cases hi
  | some k' =>
    rw [hget] at hi
    obtain rfl := Option.some.inj hi
    have hk' := h k' (List.mem_of_getElem? hget)
    split
    · exact hf k' hk'
    · exact hk'

theorem Fresh.getD (h : r.Fresh) (m : MakerId) : (r.makers[m]?.getD default).Fresh := by
  cases hget : r.makers[m]? with
  | none => exact fun p hp => absurd hp List.not_mem_nil
  | some k => exact h k (List.mem_of_getElem? hget)

/-- A maker without errands makes a new backend. -/
theorem make_made (hquiet : r.pending = 0) (hfresh : r.Fresh) (depth n : Nat) (m : MakerId) :
    ∃ plan call, make depth r n (.made m) =
      ((((r.startCall m).addBackend plan).1.noteMade m call r.backends.length).deliver n (.made m)
        r.backends.length, r.backends.length) := by
  obtain ⟨plan, hplan⟩ := (hfresh.getD m).nextProduct
  refine ⟨plan, (r.makers[m]?.getD default).calls, ?_⟩
  have hnil := nextErrands_eq_nil hquiet m
  unfold make
  cases depth with
  | zero =>
    dsimp only
    rw [hplan]
    rfl
  | succ depth =>
    dsimp only
    rw [hplan, hnil]
    rfl

/-- What is made: a backend that is there, and the delivery of it is noted. -/
structure Makes (r : Registry) (n : Nat) (source : Source) (x : Registry × BackendId) : Prop where
  still : Still r x.1
  fresh : x.1.Fresh
  there : x.2 < x.1.backends.length
  shared : ∀ j, source = .shared j → j < r.backends.length → x.2 = j
  made : ∀ m, source = .made m → x.2 = r.backends.length
  deliveries : x.1.deliveries = r.deliveries ++ [⟨n, source, x.2⟩]

theorem makes_make (hquiet : r.pending = 0) (hfresh : r.Fresh) (depth n : Nat) (source : Source) :
    Makes r n source (make depth r n source) := by
  have hstill := make_still hquiet depth n source
  cases source with
  -- A shared backend is handed out as it is, where there is one of that number.
  | shared id =>
    refine ⟨hstill, ?_, ?_, fun j hj hlt => ?_, fun m hm => (by cases hm), ?_⟩
    · refine hfresh.congr ?_
      rw [make]
      dsimp only [obtain, deliver]
      split_ifs <;> rfl
    · rw [make]
      exact obtain_lt r id
    · obtain rfl := Source.shared.inj hj
      rw [make]
      dsimp only [obtain]
      rw [if_pos hlt]
    · rw [make]
      dsimp only [obtain, deliver]
      split_ifs <;> rfl
  | made m =>
    -- A fresh maker gives a new backend, which is noted among its products.
    obtain ⟨plan, call, hmake⟩ := make_made hquiet hfresh depth n m
    rw [hmake] at hstill ⊢
    refine ⟨hstill, ?_, by simp [addBackend, startCall, noteMade, deliver],
      fun j hj => (by cases hj), fun _ _ => rfl, rfl⟩
    have hstart : (r.startCall m).Fresh := hfresh.modify (fun _ => Maker.Fresh.start) rfl
    exact hstart.modify (f := fun k => { k with made := k.made ++ [(call, r.backends.length)] })
      (fun _ h => h) rfl

/-! ### Supplying a backend -/

/-- What happens to a registry when a backend is supplied for an entry and prepared: the backend
that the entry has, the one that its source shares, or a new one. -/
structure Supplied (r : Registry) (e : Entry) (r' : Registry) (id : BackendId) (accepted : Bool) :
    Prop where
  books : r'.books = r.books
  fresh : r'.Fresh
  backends : r.backends.length ≤ r'.backends.length
  there : id < r'.backends.length
  /-- No other backend is changed, and this one only if it lets itself be prepared. -/
  changed : ∀ j < r.backends.length, r'.backend j ≠ r.backend j → accepted = true ∧ j = id
  held : ∀ j, e.backend = some j → id = j
  shared : ∀ j, e.backend = none → e.source = .shared j → j < r.backends.length → id = j
  made : ∀ m, e.backend = none → e.source = .made m → id = r.backends.length
  deliveries : ∃ new, r'.deliveries = r.deliveries ++ new ∧
    ∀ d ∈ new, e.backend = none ∧ d.registration = e.registration

theorem length_prepareBackend (r : Registry) (id : BackendId) (o : Options) :
    (r.prepareBackend id o).1.backends.length = r.backends.length :=
  List.length_set

/-- A preparation changes the backend that is prepared, and only if that lets itself be prepared. -/
theorem changed_prepareBackend {id j : BackendId} {o : Options} {accepted : Bool}
    (h : r.prepareBackend id o = (r', accepted)) (hlt : j < r.backends.length)
    (hj : r'.backend j ≠ r.backend j) : accepted = true ∧ j = id := by
  cases accepted with
  | false => exact absurd ((still_of_refused h).backend_eq hlt) hj
  | true =>
    refine ⟨rfl, ?_⟩
    by_contra hne
    have hset : (r.prepareBackend id o).1.backend j = _ := backend_setBackend ..
    rw [h, if_neg fun hboth => hne hboth.1.symm] at hset
    exact hj hset

theorem supplied_of_make (hquiet : r.pending = 0) (hfresh : r.Fresh) (he : e.backend = none)
    {depth : Nat} {id : BackendId} {o : Options} {accepted : Bool}
    (hmake : make depth r e.registration e.source = (r', id))
    (hprep : r'.prepareBackend id o = (r'', accepted)) : Supplied r e r'' id accepted := by
  have h := makes_make hquiet hfresh depth e.registration e.source
  rw [hmake] at h
  have hlength : r''.backends.length = r'.backends.length := by
    rw [← length_prepareBackend r' id o, hprep]
  have hfresh' : (r'.prepareBackend id o).1.Fresh := h.fresh.congr rfl
  have hdeliveries : (r'.prepareBackend id o).1.deliveries = r'.deliveries := rfl
  rw [hprep] at hfresh' hdeliveries
  have hle := h.still.backends.length_le
  refine ⟨(books_prepared hquiet hmake hprep).1, hfresh', hlength ▸ hle, hlength ▸ h.there,
    fun j hj hchanged => ?_, fun j hj => ?_, fun j _ => h.shared j, fun m _ => h.made m, _,
    hdeliveries.trans h.deliveries, fun d hd => ?_⟩
  · rw [← h.still.backend_eq hj] at hchanged
    exact changed_prepareBackend hprep (hj.trans_le hle) hchanged
  · rw [he] at hj
    cases hj
  · obtain rfl := List.mem_singleton.mp hd
    exact ⟨he, rfl⟩

theorem supplied_of_backend (hfresh : r.Fresh) {id : BackendId} (he : e.backend = some id)
    (hlt : id < r.backends.length) {o : Options} {accepted : Bool}
    (hprep : r.prepareBackend id o = (r', accepted)) : Supplied r e r' id accepted := by
  have hlength : r'.backends.length = r.backends.length := by
    rw [← length_prepareBackend r id o, hprep]
  have hbooks : (r.prepareBackend id o).1.books = r.books := rfl
  have hfresh' : (r.prepareBackend id o).1.Fresh := hfresh.congr rfl
  have hdeliveries : (r.prepareBackend id o).1.deliveries = r.deliveries := rfl
  rw [hprep] at hbooks hfresh' hdeliveries
  refine ⟨hbooks, hfresh', hlength.ge, hlength ▸ hlt, fun j => changed_prepareBackend hprep,
    fun j hj => Option.some.inj (he.symm.trans hj), fun j hnone => ?_, fun m hnone => ?_, [],
    hdeliveries.trans (List.append_nil _).symm, fun d hd => absurd hd List.not_mem_nil⟩
  · rw [he] at hnone
    cases hnone
  · rw [he] at hnone
    cases hnone

/-! ### Whole operations -/

/-- The entry of a registration before it has a backend. -/
def newEntry (name : String) (source : Source) (registration : Nat) : Entry :=
  ⟨Text.trim name, source, registration, none, none⟩

theorem registerWith_course (hquiet : r.pending = 0) (hfresh : r.Fresh) {bound again n : Nat}
    {source : Source} :
    let e := newEntry name source n
    let x := registerWith (make bound) name source n again r
    x = (r.setEntry name e, .ok ()) ∨
    (∃ r' id error, Supplied r e r' id false ∧ x = (r', .error error)) ∨
    ∃ r' id, Supplied r e r' id true ∧
      x = ((r'.setEntry name (e.withBackend id)).tellProvider (Text.trim name), .ok ()) := by
  intro e x
  subst x
  fun_induction registerWith (make bound) name source n again r with
  | case1 again r hact previous r₁ id hmake options r₂ accepted hprep hrej =>
    have hs : Supplied r e r₂ id accepted := supplied_of_make hquiet hfresh rfl hmake hprep
    obtain rfl : accepted = false := by simpa using hrej
    exact .inr (.inl ⟨r₂, id, _, hs, rfl⟩)
  | case2 again r entry hact previous r₁ id hmake options r₂ accepted hprep hacc hact' =>
    have hs : Supplied r e r₂ id accepted := supplied_of_make hquiet hfresh rfl hmake hprep
    obtain rfl : accepted = true := by simpa using hacc
    exact .inr (.inr ⟨r₂, id, hs, rfl⟩)
  | case3 r hact previous r₁ id hmake options r₂ accepted hprep hacc hact' =>
    rw [isActive_congr (books_prepared hquiet hmake hprep).1] at hact'
    exact absurd hact hact'
  | case4 r hact previous r₁ id hmake options r₂ accepted hprep hacc hact' again ih =>
    rw [isActive_congr (books_prepared hquiet hmake hprep).1] at hact'
    exact absurd hact hact'
  | case5 again r entry hact => exact .inl rfl

/-- A number for a registration does not count. -/
theorem Supplied.of_newRegistration {id : BackendId} {accepted : Bool}
    (h : Supplied r.newRegistration.1 e r' id accepted) : Supplied r e r' id accepted :=
  ⟨h.books, h.fresh, h.backends, h.there, h.changed, h.held, h.shared, h.made, h.deliveries⟩

/-- **A registration**: it writes an entry down at once, or it has a backend supplied for it. -/
theorem register_course (hquiet : r.pending = 0) (hfresh : r.Fresh) (name : String)
    (source : Source) :
    let e := newEntry name source r.nextRegistration
    let x := r.register name source
    x = (r.newRegistration.1.setEntry name e, .ok ()) ∨
    (∃ r' id error, Supplied r e r' id false ∧ x = (r', .error error)) ∨
    ∃ r' id, Supplied r e r' id true ∧
      x = ((r'.setEntry name (e.withBackend id)).tellProvider (Text.trim name), .ok ()) := by
  rcases registerWith_course (r := r.newRegistration.1) hquiet (hfresh.congr rfl) with
    h | ⟨r', id, error, hs, h⟩ | ⟨r', id, hs, h⟩
  · exact .inl h
  · exact .inr (.inl ⟨r', id, error, hs.of_newRegistration, h⟩)
  · exact .inr (.inr ⟨r', id, hs.of_newRegistration, h⟩)

/-- Behind the books an entry stays the one that it was. -/
theorem entry_eq {now : Entry} (hbooks : r'.books = r.books) (hfind : r.find? name = some e)
    (hnow : r'.find? name = some now) : e = now :=
  Option.some.inj (hfind.symm.trans ((find?_congr hbooks name).symm.trans hnow))

/-- **An activation**: the provider has a backend already, or one is supplied for it. -/
theorem activateWith_course (hquiet : r.pending = 0) (hfresh : r.Fresh) {bound again : Nat} :
    let x := activateWith (make bound) name again r
    (∃ error, x = (r, .error error)) ∨ ∃ e, r.find? name = some e ∧
      ((∃ id, e.backend = some id ∧
          x = (({ r with active := some (keyOf name) } : Registry).tellProvider e.displayName,
            .ok ())) ∨
        (∃ r' id error, Supplied r e r' id false ∧ x = (r', .error error)) ∨
        ∃ r' id, Supplied r e r' id true ∧
          x = (({ r'.setEntry name (e.withBackend id) with
            active := some (keyOf name) } : Registry).tellProvider e.displayName, .ok ())) := by
  intro x
  subst x
  fun_induction activateWith (make bound) name again r with
  | case1 again r hfind => exact .inl ⟨_, rfl⟩
  | case2 again r e hfind id hid => exact .inr ⟨e, hfind, .inl ⟨id, hid, rfl⟩⟩
  | case3 again r e hfind hnone r₁ id hmake r₂ accepted hprep hrej =>
    have hs := supplied_of_make hquiet hfresh hnone hmake hprep
    obtain rfl : accepted = false := by simpa using hrej
    exact .inr ⟨e, hfind, .inr (.inl ⟨r₂, id, _, hs, rfl⟩)⟩
  | case4 again r e hfind hnone r₁ id hmake r₂ accepted hprep hacc hgone =>
    -- Nothing interferes without errands, so the entry is still there and it is the same one.
    rw [find?_congr (books_prepared hquiet hmake hprep).1, hfind] at hgone
    cases hgone
  | case5 again r e hfind hnone r₁ id hmake r₂ accepted hprep hacc now hnow hsame r₃ =>
    have hs := supplied_of_make hquiet hfresh hnone hmake hprep
    obtain rfl : accepted = true := by simpa using hacc
    obtain rfl := entry_eq hs.books hfind hnow
    exact .inr ⟨e, hfind, .inr (.inr ⟨r₂, id, hs, rfl⟩)⟩
  | case6 r e hfind hnone r₁ id hmake r₂ accepted hprep hacc now hnow hother =>
    obtain rfl := entry_eq (books_prepared hquiet hmake hprep).1 hfind hnow
    exact absurd rfl hother
  | case7 r e hfind hnone r₁ id hmake r₂ accepted hprep hacc now hnow hother again ih =>
    obtain rfl := entry_eq (books_prepared hquiet hmake hprep).1 hfind hnow
    exact absurd rfl hother

/-- The backend of an entry, which is made if there is none yet. -/
theorem supplied_of_entry (hquiet : r.pending = 0) (hfresh : r.Fresh)
    (hthere : ∀ id, e.backend = some id → id < r.backends.length) {depth : Nat} {id : BackendId}
    {o : Options} {accepted : Bool}
    (hmake : (match e.backend with
      | some id => (r, id)
      | none => make depth r e.registration e.source) = (r', id))
    (hprep : r'.prepareBackend id o = (r'', accepted)) : Supplied r e r'' id accepted := by
  cases hb : e.backend with
  | none =>
    rw [hb] at hmake
    exact supplied_of_make hquiet hfresh hb hmake hprep
  | some j =>
    rw [hb] at hmake
    obtain ⟨rfl, rfl⟩ := Prod.mk.inj hmake
    exact supplied_of_backend hfresh hb (hthere j hb) hprep

/-- **A preparation**: a backend is supplied for the provider, perhaps the one that it has. -/
theorem prepareWith_course (hquiet : r.pending = 0) (hfresh : r.Fresh)
    (hthere : ∀ e id, r.find? name = some e → e.backend = some id → id < r.backends.length)
    {bound again : Nat} {o : Options} :
    let x := prepareWith (make bound) name o again r
    (∃ error, x = (r, .error error)) ∨ ∃ e, r.find? name = some e ∧
      ((∃ r' id error, Supplied r e r' id false ∧ x = (r', .error error)) ∨
        ∃ r' id, Supplied r e r' id true ∧
          x = (r'.setEntry name (e.withBackend id), .ok ())) := by
  intro x
  subst x
  fun_induction prepareWith (make bound) name o again r with
  | case1 again r hfind => exact .inl ⟨_, rfl⟩
  | case2 again r e hfind r₁ id hmake r₂ accepted hprep hrej =>
    have hs := supplied_of_entry hquiet hfresh (hthere e · hfind) hmake hprep
    obtain rfl : accepted = false := by simpa using hrej
    exact .inr ⟨e, hfind, .inl ⟨r₂, id, _, hs, rfl⟩⟩
  | case3 again r e hfind r₁ id hmake r₂ accepted hprep hacc hgone =>
    rw [find?_congr (books_preparedEntry hquiet hmake hprep).1, hfind] at hgone
    cases hgone
  | case4 again r e hfind r₁ id hmake r₂ accepted hprep hacc now hnow hsame =>
    have hs := supplied_of_entry hquiet hfresh (hthere e · hfind) hmake hprep
    obtain rfl : accepted = true := by simpa using hacc
    obtain rfl := entry_eq hs.books hfind hnow
    exact .inr ⟨e, hfind, .inr ⟨r₂, id, hs, rfl⟩⟩
  | case5 r e hfind r₁ id hmake r₂ accepted hprep hacc now hnow hother =>
    obtain rfl := entry_eq (books_preparedEntry hquiet hmake hprep).1 hfind hnow
    exact absurd rfl hother
  | case6 r e hfind r₁ id hmake r₂ accepted hprep hacc now hnow hother again ih =>
    obtain rfl := entry_eq (books_preparedEntry hquiet hmake hprep).1 hfind hnow
    exact absurd rfl hother

end Colloquy.Registry
