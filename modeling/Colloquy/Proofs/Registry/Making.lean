import Colloquy.Proofs.Registry.Invariant

/-!
# Operations that wait for a maker

Registering, activating and preparing a provider have two phases: an entry is looked at, a backend
is made for it, and then the entry is looked at again.  While the backend is made, its maker may
register and activate providers itself, under any name, and the makers that this needs may do the
same.

The operations are first shown to keep a registry sound over any way of making backends that does
(`registerWith_sound`, `activateWith_sound`, `prepareWith_sound`); then `make` is such a way
(`make_sound`), by induction on how many makers may be at work at once.
-/

namespace Colloquy.Registry

open Provider (Backend Options)

variable {r r' : Registry} {n : Nat} {mk : Making}

/-! ### Operations over a way of making backends -/

/-- What is asked of a way of making backends: it may do anything to the registry that leaves it
sound and undoes nothing, and the backend that it gives is there. -/
def MakesSound (mk : Making) : Prop :=
  ∀ r n source, r.Sound → n < r.nextRegistration →
    (mk r n source).1.Sound ∧ Grows r.nextRegistration r (mk r n source).1 ∧
      ⟨n, source, (mk r n source).2⟩ ∈ (mk r n source).1.deliveries ∧
      (mk r n source).2 < (mk r n source).1.backends.length

/-- A backend that was made for a registration and then prepared: the registry stays sound, and the
backend is ready if it has let itself be prepared. -/
theorem MakesSound.prepare (hmk : MakesSound mk) (hr : r.Sound)
    (hn : n < r.nextRegistration) {source : Source} {r₁ r₂ : Registry} {id : BackendId}
    {o : Options} {accepted : Bool} (hmake : mk r n source = (r₁, id))
    (hprep : r₁.prepareBackend id o = (r₂, accepted)) :
    r₂.Sound ∧ Grows r.nextRegistration r r₂ ∧ (accepted = true → r₂.Ready n source id) := by
  obtain ⟨hs, hg, hmem, hlt⟩ := hmk r n source hr hn
  rw [hmake] at hs hg hmem hlt
  have hq := quiet_prepareBackend r₁ id o
  have hready : (r₁.prepareBackend id o).2 = true → _ := fun h => prepared_prepareBackend h hlt
  rw [hprep] at hq hready
  exact ⟨hq.sound hs, hg.trans (hq.grows _) le_rfl, fun h =>
    ⟨hq.deliveries hmem, hready h⟩⟩

theorem isActive_iff (r : Registry) (name : String) :
    r.isActive name = true ↔ r.active = some (keyOf name) := beq_iff_eq

theorem keyOf_trim (name : String) : keyOf (Text.trim name) = keyOf name := by
  rw [keyOf, Text.trim_trim, keyOf]

/-- Whether no entry comes from a registration. -/
def Unused (r : Registry) (registration : Nat) : Prop :=
  ∀ key e, r.entries.find? key = some e → e.registration ≠ registration

theorem Unused.grows {k : Nat} (h : r.Unused k) (hg : Grows n r r') (hk : k < n) :
    r'.Unused k := by
  rintro key e' he' rfl
  obtain ⟨e, he, heq, _⟩ := hg.old key e' he' hk
  exact h key e he heq

/-- The entry of a new registration takes its place. -/
theorem Sound.register (hr : r.Sound) (hn : n < r.nextRegistration) (hnew : r.Unused n)
    {name : String} {source : Source} {backend : Option BackendId}
    (hready : ∀ id, backend = some id → r.Ready n source id)
    (hactive : r.isActive name = true → ∃ id, backend = some id) :
    (r.setEntry name ⟨Text.trim name, source, n, backend, none⟩).Sound :=
  hr.setEntry (keyOf_trim name) hn (fun key e he heq => absurd heq (hnew key e he)) hready
    fun h => hactive ((isActive_iff r name).mpr h)

theorem registerWith_sound (hmk : MakesSound mk) {name : String} {source : Source}
    {again : Nat} (hr : r.Sound) (hn : n < r.nextRegistration) (hnew : r.Unused n) :
    (registerWith mk name source n again r).1.Sound ∧
      Grows n r (registerWith mk name source n again r).1 := by
  fun_induction registerWith mk name source n again r with
  | case1 again r hact previous r₁ id hmake options r₂ accepted hprep hrej =>
    obtain ⟨hs, hg, _⟩ := hmk.prepare hr hn hmake hprep
    exact ⟨hs, hg.mono hn.le⟩
  | case2 again r entry hact previous r₁ id hmake options r₂ accepted hprep hacc hact' =>
    obtain ⟨hs, hg, hready⟩ := hmk.prepare hr hn hmake hprep
    have hready : r₂.Ready n source id := hready (by simpa using hacc)
    have hs' : (r₂.setEntry name (entry (some id))).Sound :=
      hs.register (hn.trans_le hg.registrations) (hnew.grows hg hn)
        (fun _ h => Option.some.inj h ▸ hready) fun _ => ⟨id, rfl⟩
    have hg' : Grows n r₂ (r₂.setEntry name (entry (some id))) :=
      grows_setEntry (Or.inl (Nat.le_refl n))
    have hq := quiet_tellProvider (r₂.setEntry name (entry (some id))) (Text.trim name)
    exact ⟨hq.sound hs', ((hg.mono hn.le).trans hg' le_rfl).trans (hq.grows n) le_rfl⟩
  | case3 r hact previous r₁ id hmake options r₂ accepted hprep hacc hact' =>
    obtain ⟨hs, hg, _⟩ := hmk.prepare hr hn hmake hprep
    exact ⟨hs, hg.mono hn.le⟩
  | case4 r hact previous r₁ id hmake options r₂ accepted hprep hacc hact' again ih =>
    -- The entry that was worked on is not active any more: the registration starts over.
    obtain ⟨hs, hg, _⟩ := hmk.prepare hr hn hmake hprep
    obtain ⟨hs', hg'⟩ := ih hs (hn.trans_le hg.registrations) (hnew.grows hg hn)
    exact ⟨hs', (hg.mono hn.le).trans hg' le_rfl⟩
  | case5 again r entry hact =>
    exact ⟨hr.register hn hnew (fun _ h => nomatch h) fun h => absurd h hact,
      grows_setEntry (Or.inl le_rfl)⟩

/-- An entry that is still the one that was worked on gets the backend that was made for it. -/
theorem Sound.withBackend (hr : r.Sound) {name : String} {now : Entry} {id : BackendId}
    (hnow : r.find? name = some now) (hready : r.Ready now.registration now.source id) :
    (r.setEntry name (now.withBackend id)).Sound := by
  refine hr.setEntry (hr.keyed _ now hnow).symm (hr.numbered _ now hnow)
    (fun key e' he' heq => hr.distinct _ e' _ now he' hnow heq) (fun j hj => ?_) fun _ => ⟨_, rfl⟩
  cases hb : now.backend with
  | none =>
    rw [Entry.withBackend, hb] at hj
    exact Option.some.inj hj ▸ hready
  | some k =>
    rw [Entry.withBackend, hb] at hj
    exact hr.ready (keyOf name) now j hnow (hb.trans hj)

/-- The same when the entry was looked at before its backend was made. -/
theorem Sound.store (hr : r.Sound) {name : String} {e now : Entry} {id : BackendId}
    (hs : r'.Sound) (hg : Grows r.nextRegistration r r') (he : r.find? name = some e)
    (hready : r'.Ready e.registration e.source id) (hnow : r'.find? name = some now)
    (hsame : now.registration = e.registration) :
    (r'.setEntry name (now.withBackend id)).Sound ∧
      Grows r.nextRegistration r (r'.setEntry name (now.withBackend id)) := by
  have hsource : now.source = e.source :=
    hg.source_eq he hnow hsame (hr.numbered (keyOf name) e he)
  rw [← hsame, ← hsource] at hready
  have hset : Grows r.nextRegistration r' (r'.setEntry name (now.withBackend id)) :=
    grows_setEntry (Or.inr ⟨now, hnow, rfl, rfl⟩)
  exact ⟨hs.withBackend hnow hready, hg.trans hset le_rfl⟩

theorem activateWith_sound (hmk : MakesSound mk) {name : String} {again : Nat}
    (hr : r.Sound) :
    (activateWith mk name again r).1.Sound ∧
      Grows r.nextRegistration r (activateWith mk name again r).1 := by
  fun_induction activateWith mk name again r with
  | case1 again r hfind => exact ⟨hr, Grows.refl _ r⟩
  | case2 again r e hfind id hid =>
    have hq := quiet_tellProvider { r with active := some (keyOf name) } e.displayName
    exact ⟨hq.sound (hr.setActive hfind hid),
      (grows_setActive _ r _).trans (hq.grows _) le_rfl⟩
  | case3 again r e hfind hnone r₁ id hmake r₂ accepted hprep hrej =>
    obtain ⟨hs, hg, _⟩ := hmk.prepare hr (hr.numbered _ _ hfind) hmake hprep
    exact ⟨hs, hg⟩
  | case4 again r e hfind hnone r₁ id hmake r₂ accepted hprep hacc hgone =>
    obtain ⟨hs, hg, _⟩ := hmk.prepare hr (hr.numbered _ _ hfind) hmake hprep
    exact ⟨hs, hg⟩
  | case5 again r e hfind hnone r₁ id hmake r₂ accepted hprep hacc now hnow hsame =>
    obtain ⟨hs, hg, hready⟩ := hmk.prepare hr (hr.numbered _ _ hfind) hmake hprep
    obtain ⟨hs', hg'⟩ := hr.store hs hg hfind (hready (by simpa using hacc)) hnow hsame
    have hact := hs'.setActive (Dictionary.find?_insert_self ..) rfl
    have hq := quiet_tellProvider
      { r₂.setEntry name (now.withBackend id) with active := some (keyOf name) } now.displayName
    exact ⟨hq.sound hact, (hg'.trans (grows_setActive _ _ (keyOf name)) le_rfl).trans
      (hq.grows r.nextRegistration) le_rfl⟩
  | case6 r e hfind hnone r₁ id hmake r₂ accepted hprep hacc now hnow hother =>
    obtain ⟨hs, hg, _⟩ := hmk.prepare hr (hr.numbered _ _ hfind) hmake hprep
    exact ⟨hs, hg⟩
  | case7 r e hfind hnone r₁ id hmake r₂ accepted hprep hacc now hnow hother again ih =>
    -- The entry has been replaced meanwhile: the activation starts over.
    obtain ⟨hs, hg, _⟩ := hmk.prepare hr (hr.numbered _ _ hfind) hmake hprep
    obtain ⟨hs', hg'⟩ := ih hs
    exact ⟨hs', hg.trans hg' hg.registrations⟩

/-- The backend of an entry, which is made if there is none yet, after it was prepared. -/
theorem MakesSound.prepareEntry (hmk : MakesSound mk) (hr : r.Sound) {key : String}
    {e : Entry} (he : r.entries.find? key = some e) {r₁ r₂ : Registry} {id : BackendId}
    {o : Options} {accepted : Bool}
    (hmake : (match e.backend with
      | some id => (r, id)
      | none => mk r e.registration e.source) = (r₁, id))
    (hprep : r₁.prepareBackend id o = (r₂, accepted)) :
    r₂.Sound ∧ Grows r.nextRegistration r r₂ ∧
      (accepted = true → r₂.Ready e.registration e.source id) := by
  cases hb : e.backend with
  | none =>
    rw [hb] at hmake
    exact hmk.prepare hr (hr.numbered key e he) hmake hprep
  | some j =>
    rw [hb] at hmake
    obtain ⟨rfl, rfl⟩ := Prod.mk.inj hmake
    have hq := quiet_prepareBackend r j o
    rw [hprep] at hq
    exact ⟨hq.sound hr, hq.grows _, fun _ => (hr.ready key e j he hb).grows (hq.grows 0)⟩

theorem prepareWith_sound (hmk : MakesSound mk) {name : String} {o : Options}
    {again : Nat} (hr : r.Sound) :
    (prepareWith mk name o again r).1.Sound ∧
      Grows r.nextRegistration r (prepareWith mk name o again r).1 := by
  fun_induction prepareWith mk name o again r with
  | case1 again r hfind => exact ⟨hr, Grows.refl _ r⟩
  | case2 again r e hfind r₁ id hmake r₂ accepted hprep hrej =>
    obtain ⟨hs, hg, _⟩ := hmk.prepareEntry hr hfind hmake hprep
    exact ⟨hs, hg⟩
  | case3 again r e hfind r₁ id hmake r₂ accepted hprep hacc hgone =>
    obtain ⟨hs, hg, _⟩ := hmk.prepareEntry hr hfind hmake hprep
    exact ⟨hs, hg⟩
  | case4 again r e hfind r₁ id hmake r₂ accepted hprep hacc now hnow hsame =>
    obtain ⟨hs, hg, hready⟩ := hmk.prepareEntry hr hfind hmake hprep
    exact hr.store hs hg hfind (hready (by simpa using hacc)) hnow hsame
  | case5 r e hfind r₁ id hmake r₂ accepted hprep hacc now hnow hother =>
    obtain ⟨hs, hg, _⟩ := hmk.prepareEntry hr hfind hmake hprep
    exact ⟨hs, hg⟩
  | case6 r e hfind r₁ id hmake r₂ accepted hprep hacc now hnow hother again ih =>
    -- The entry has been replaced meanwhile: the preparation starts over.
    obtain ⟨hs, hg, _⟩ := hmk.prepareEntry hr hfind hmake hprep
    obtain ⟨hs', hg'⟩ := ih hs
    exact ⟨hs', hg.trans hg' hg.registrations⟩

/-! ### Making backends -/

theorem newRegistration_sound (hr : r.Sound) : r.newRegistration.1.Sound where
  keyed := hr.keyed
  numbered key e he := (hr.numbered key e he).trans (Nat.lt_succ_self _)
  distinct := hr.distinct
  ready := hr.ready
  active := hr.active

theorem grows_newRegistration (n : Nat) (r : Registry) : Grows n r r.newRegistration.1 :=
  { Grows.refl n r with registrations := Nat.le_succ _ }

/-- The next number has not been used. -/
theorem Sound.unused (hr : r.Sound) : r.newRegistration.1.Unused r.nextRegistration :=
  fun key e he => (hr.numbered key e he).ne

theorem registerNew_sound (hmk : MakesSound mk) {name : String} {source : Source}
    {again : Nat} (hr : r.Sound) :
    (registerWith mk name source r.nextRegistration again r.newRegistration.1).1.Sound ∧
      Grows r.nextRegistration r
        (registerWith mk name source r.nextRegistration again r.newRegistration.1).1 := by
  obtain ⟨hs, hg⟩ := registerWith_sound hmk (newRegistration_sound hr)
    (Nat.lt_succ_self r.nextRegistration) hr.unused
  exact ⟨hs, (grows_newRegistration _ r).trans hg le_rfl⟩

theorem doErrand_sound (hmk : MakesSound mk) {again : Nat} (e : Errand)
    (hr : r.Sound) :
    (doErrand mk again r e).Sound ∧ Grows r.nextRegistration r (doErrand mk again r e) := by
  cases e with
  | register name source => exact registerNew_sound hmk hr
  | activate name => exact activateWith_sound hmk hr

theorem doErrands_sound (hmk : MakesSound mk) (again : Nat) (es : List Errand)
    (hr : r.Sound) :
    (es.foldl (doErrand mk again) r).Sound ∧
      Grows r.nextRegistration r (es.foldl (doErrand mk again) r) := by
  induction es generalizing r with
  | nil => exact ⟨hr, Grows.refl _ r⟩
  | cons e es ih =>
    obtain ⟨hs, hg⟩ := doErrand_sound hmk e hr
    obtain ⟨hs', hg'⟩ := ih hs
    exact ⟨hs', hg.trans hg' hg.registrations⟩

/-- A backend that is there is given for a registration. -/
theorem deliver_sound {r₀ : Registry} {id : BackendId} (hs : r.Sound) (hg : Grows n r₀ r)
    (hid : id < r.backends.length) (k : Nat) (source : Source) :
    (r.deliver k source id).Sound ∧ Grows n r₀ (r.deliver k source id) ∧
      ⟨k, source, id⟩ ∈ (r.deliver k source id).deliveries ∧
      id < (r.deliver k source id).backends.length := by
  have hq := quiet_deliver r k source id
  exact ⟨hq.sound hs, hg.trans (hq.grows n) le_rfl, by simp [deliver], hid⟩

/-- A maker that has done its errands gives a backend. -/
theorem finish_sound {r₀ : Registry} (hs : r.Sound) (hg : Grows n r₀ r) (k : MakerId)
    (call : Nat) (p : Product) :
    ((r.produce p).1.noteMade k call (r.produce p).2).Sound ∧
      Grows n r₀ ((r.produce p).1.noteMade k call (r.produce p).2) :=
  have hq := (quiet_produce r p).trans (quiet_noteMade _ k call (r.produce p).2)
  ⟨hq.sound hs, hg.trans (hq.grows n) le_rfl⟩

/-- **Making a backend**: whatever a maker does with the registry meanwhile leaves it sound, and
the backend is noted as given for the registration. -/
theorem make_sound (depth : Nat) : MakesSound (make depth) := by
  -- A call at one depth carries out errands whose calls are at smaller depths.
  induction depth using Nat.strong_induction_on with
  | _ depth ih =>
    intro r n source hr hn
    unfold make
    cases source with
    | shared id =>
      have hq := quiet_obtain r id
      exact deliver_sound (hq.sound hr) (hq.grows _) (obtain_lt r id) n _
    | made k =>
      have hq := quiet_startCall r k
      have hs := hq.sound hr
      have hg := hq.grows r.nextRegistration
      cases depth with
      | zero =>
        obtain ⟨hs', hg'⟩ := finish_sound hs hg k (r.makers[k]?.getD default).calls
          (r.makers[k]?.getD default).nextProduct
        exact deliver_sound hs' hg' (produce_lt ..) n _
      | succ depth =>
        obtain ⟨hs₁, hg₁⟩ := doErrands_sound (ih depth (Nat.lt_succ_self depth))
          (depth + 1) (r.makers[k]?.getD default).nextErrands hs
        obtain ⟨hs', hg'⟩ := finish_sound hs₁ (hg.trans hg₁ le_rfl) k
          (r.makers[k]?.getD default).calls (r.makers[k]?.getD default).nextProduct
        exact deliver_sound hs' hg' (produce_lt ..) n _

end Colloquy.Registry
