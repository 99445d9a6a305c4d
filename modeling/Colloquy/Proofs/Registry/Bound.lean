import Colloquy.Proofs.Registry.Operation
import Mathlib.Order.Nat
import Mathlib.Tactic.SplitIfs

/-!
# Operations are not cut short

Registering, activating and preparing a provider start over when a maker has got in their way, and
makers need other makers.  Both are bounded by the number of errands that are still to be done.  The
bound is never met: with any other bounds that are at least this number the operations do the same
(`register_eq`, `activate_eq`, `prepare_eq`).

The reason is that every errand is done once.  A maker that does none of its errands leaves entries
and the active provider alone (`Spends`), so nothing starts over without an errand having been done
meanwhile.
-/

namespace Colloquy.Registry

open Provider (Backend Options)

variable {r r' r'' : Registry} {n p : Nat} {mk mk' : Making}

/-! ### Errands -/

/-- Errands are done and not added, and without one being done entries and the active provider stay
as they are. -/
structure Spends (r r' : Registry) : Prop where
  pending : r'.pending ≤ r.pending
  same : r'.pending = r.pending → r'.entries = r.entries ∧ r'.active = r.active

theorem Spends.trans (h : Spends r r') (h' : Spends r' r'') : Spends r r'' := by
  refine ⟨h'.pending.trans h.pending, fun heq => ?_⟩
  have hle := h.pending
  have hle' := h'.pending
  obtain ⟨he, ha⟩ := h.same (by omega)
  obtain ⟨he', ha'⟩ := h'.same (by omega)
  exact ⟨he'.trans he, ha'.trans ha⟩

/-- A way of making backends that does errands and does not add any. -/
def Thrifty (mk : Making) : Prop :=
  ∀ r n source, Spends r (mk r n source).1

theorem pending_congr (h : r'.makers = r.makers) : r'.pending = r.pending := by
  rw [pending, pending, h]

theorem Spends.of_same (hm : r'.makers = r.makers) (he : r'.entries = r.entries)
    (ha : r'.active = r.active) : Spends r r' :=
  ⟨(pending_congr hm).le, fun _ => ⟨he, ha⟩⟩

theorem spends_prepareBackend (r : Registry) (id : BackendId) (o : Options) :
    Spends r (r.prepareBackend id o).1 :=
  .of_same rfl rfl rfl

/-- A backend is made and prepared. -/
theorem Thrifty.prepare (hmk : Thrifty mk) {source : Source} {r₁ r₂ : Registry} {id : BackendId}
    {o : Options} {accepted : Bool} (hmake : mk r n source = (r₁, id))
    (hprep : r₁.prepareBackend id o = (r₂, accepted)) : Spends r r₂ := by
  have h := hmk r n source
  have h' := spends_prepareBackend r₁ id o
  rw [hmake] at h
  rw [hprep] at h'
  exact h.trans h'

theorem registerWith_pending_le (hmk : Thrifty mk) {name : String} {source : Source}
    {again : Nat} : (registerWith mk name source n again r).1.pending ≤ r.pending := by
  fun_induction registerWith mk name source n again r with
  | case1 again r hact previous r₁ id hmake options r₂ accepted hprep hrej =>
    exact (hmk.prepare hmake hprep).pending
  | case2 again r entry hact previous r₁ id hmake options r₂ accepted hprep hacc hact' =>
    exact (hmk.prepare hmake hprep).pending
  | case3 r hact previous r₁ id hmake options r₂ accepted hprep hacc hact' =>
    exact (hmk.prepare hmake hprep).pending
  | case4 r hact previous r₁ id hmake options r₂ accepted hprep hacc hact' again ih =>
    exact ih.trans (hmk.prepare hmake hprep).pending
  | case5 again r entry hact => exact Nat.le_refl _

theorem activateWith_pending_le (hmk : Thrifty mk) {name : String} {again : Nat} :
    (activateWith mk name again r).1.pending ≤ r.pending := by
  fun_induction activateWith mk name again r with
  | case1 again r hfind => exact Nat.le_refl _
  | case2 again r e hfind id hid => exact Nat.le_refl _
  | case3 again r e hfind hnone r₁ id hmake r₂ accepted hprep hrej =>
    exact (hmk.prepare hmake hprep).pending
  | case4 again r e hfind hnone r₁ id hmake r₂ accepted hprep hacc hgone =>
    exact (hmk.prepare hmake hprep).pending
  | case5 again r e hfind hnone r₁ id hmake r₂ accepted hprep hacc now hnow hsame =>
    exact (hmk.prepare hmake hprep).pending
  | case6 r e hfind hnone r₁ id hmake r₂ accepted hprep hacc now hnow hother =>
    exact (hmk.prepare hmake hprep).pending
  | case7 r e hfind hnone r₁ id hmake r₂ accepted hprep hacc now hnow hother again ih =>
    exact ih.trans (hmk.prepare hmake hprep).pending

theorem doErrand_pending_le (hmk : Thrifty mk) (again : Nat) (r : Registry) (e : Errand) :
    (doErrand mk again r e).pending ≤ r.pending := by
  cases e with
  | register name source => exact registerWith_pending_le hmk
  | activate name => exact activateWith_pending_le hmk

theorem doErrands_pending_le (hmk : Thrifty mk) (again : Nat) (es : List Errand) (r : Registry) :
    (es.foldl (doErrand mk again) r).pending ≤ r.pending := by
  induction es generalizing r with
  | nil => exact Nat.le_refl _
  | cons e es ih => exact (ih _).trans (doErrand_pending_le hmk again r e)

/-! ### Bounds -/

/-- Two ways of making backends that do the same while no more than some errands are left. -/
def Agree (p : Nat) (mk mk' : Making) : Prop :=
  ∀ r n source, r.pending ≤ p → mk r n source = mk' r n source

/-- If another provider is active than before, an errand has been done. -/
theorem Spends.lt_of_isActive {name : String} (h : Spends r r') (hact : r.isActive name = true)
    (hact' : ¬ r'.isActive name = true) : r'.pending < r.pending := by
  refine lt_of_le_of_ne h.pending fun heq => hact' ?_
  rw [isActive, (h.same heq).2]
  exact hact

/-- If an entry has been replaced, an errand has been done. -/
theorem Spends.lt_of_find? {name : String} {e now : Entry} (h : Spends r r')
    (hfind : r.find? name = some e) (hnow : r'.find? name = some now)
    (hother : ¬ now.registration = e.registration) : r'.pending < r.pending := by
  refine lt_of_le_of_ne h.pending fun heq => hother ?_
  rw [find?, (h.same heq).1] at hnow
  rw [Option.some.inj (hnow.symm.trans hfind)]

theorem registerWith_agree (hmk : Thrifty mk) (hagree : Agree p mk mk') {name : String}
    {source : Source} {again : Nat} (hp : r.pending ≤ p) (h : r.pending ≤ again) :
    ∀ again', r.pending ≤ again' →
      registerWith mk name source n again r = registerWith mk' name source n again' r := by
  fun_induction registerWith mk name source n again r with
  | case1 again r hact previous r₁ id hmake options r₂ accepted hprep hrej =>
    intro again' _
    rw [hagree r n source hp] at hmake
    rw [registerWith]
    simp only [hact, hmake, hprep, hrej, if_true, previous, options]
  | case2 again r entry hact previous r₁ id hmake options r₂ accepted hprep hacc hact' =>
    intro again' _
    rw [hagree r n source hp] at hmake
    rw [registerWith]
    simp only [hact, hmake, hprep, if_neg hacc, hact', if_true, previous, options, entry]
  | case3 r hact previous r₁ id hmake options r₂ accepted hprep hacc hact' =>
    -- Without errands left nothing starts over.
    have hlt := (hmk.prepare hmake hprep).lt_of_isActive hact hact'
    omega
  | case4 r hact previous r₁ id hmake options r₂ accepted hprep hacc hact' again ih =>
    -- An errand has been done, so fewer turns are enough from here on.
    intro again' h'
    have hlt := (hmk.prepare hmake hprep).lt_of_isActive hact hact'
    obtain ⟨again', rfl⟩ : ∃ k, again' = k + 1 := ⟨again' - 1, by omega⟩
    have hrest := ih (by omega) (by omega) again' (by omega)
    rw [hagree r n source hp] at hmake
    rw [hrest, eq_comm, registerWith]
    simp only [hact, hmake, hprep, if_neg hacc, if_neg hact', if_true, previous, options]
  | case5 again r entry hact =>
    intro again' _
    rw [registerWith]
    simp only [if_neg hact, entry]

theorem activateWith_agree (hmk : Thrifty mk) (hagree : Agree p mk mk') {name : String}
    {again : Nat} (hp : r.pending ≤ p) (h : r.pending ≤ again) :
    ∀ again', r.pending ≤ again' →
      activateWith mk name again r = activateWith mk' name again' r := by
  fun_induction activateWith mk name again r with
  | case1 again r hfind =>
    intro again' _
    rw [activateWith]
    simp only [hfind]
  | case2 again r e hfind id hid =>
    intro again' _
    rw [activateWith]
    simp only [hfind, hid]
  | case3 again r e hfind hnone r₁ id hmake r₂ accepted hprep hrej =>
    intro again' _
    rw [hagree r _ _ hp] at hmake
    rw [activateWith]
    simp only [hfind, hnone, hmake, hprep, hrej, if_true]
  | case4 again r e hfind hnone r₁ id hmake r₂ accepted hprep hacc hgone =>
    intro again' _
    rw [hagree r _ _ hp] at hmake
    rw [activateWith]
    simp only [hfind, hnone, hmake, hprep, if_neg hacc, hgone]
  | case5 again r e hfind hnone r₁ id hmake r₂ accepted hprep hacc now hnow hsame =>
    intro again' _
    rw [hagree r _ _ hp] at hmake
    rw [activateWith]
    simp only [hfind, hnone, hmake, hprep, if_neg hacc, hnow, if_pos hsame]
    rfl
  -- The bound is met: but a repetition has spent an errand, and there was none.
  | case6 r e hfind hnone r₁ id hmake r₂ accepted hprep hacc now hnow hother =>
    have hlt := (hmk.prepare hmake hprep).lt_of_find? hfind hnow hother
    omega
  | case7 r e hfind hnone r₁ id hmake r₂ accepted hprep hacc now hnow hother again ih =>
    intro again' h'
    have hlt := (hmk.prepare hmake hprep).lt_of_find? hfind hnow hother
    -- The other bound is not met either: it exceeds the errands that are left.
    obtain ⟨again', rfl⟩ : ∃ k, again' = k + 1 := ⟨again' - 1, by omega⟩
    have hrest := ih (by omega) (by omega) again' (by omega)
    rw [hagree r _ _ hp] at hmake
    rw [hrest, eq_comm, activateWith]
    simp only [hfind, hnone, hmake, hprep, if_neg hacc, hnow, if_neg hother]

/-- The backend of an entry, which is made if there is none yet, is prepared. -/
theorem Thrifty.prepareEntry (hmk : Thrifty mk) {e : Entry} {r₁ r₂ : Registry} {id : BackendId}
    {o : Options} {accepted : Bool}
    (hmake : (match e.backend with
      | some id => (r, id)
      | none => mk r e.registration e.source) = (r₁, id))
    (hprep : r₁.prepareBackend id o = (r₂, accepted)) : Spends r r₂ := by
  cases hb : e.backend with
  | none =>
    rw [hb] at hmake
    exact hmk.prepare hmake hprep
  | some j =>
    rw [hb] at hmake
    obtain ⟨rfl, rfl⟩ := Prod.mk.inj hmake
    have h := spends_prepareBackend r j o
    rwa [hprep] at h

theorem prepareWith_agree (hmk : Thrifty mk) (hagree : Agree p mk mk') {name : String}
    {o : Options} {again : Nat} (hp : r.pending ≤ p) (h : r.pending ≤ again) :
    ∀ again', r.pending ≤ again' →
      prepareWith mk name o again r = prepareWith mk' name o again' r := by
  fun_induction prepareWith mk name o again r with
  | case1 again r hfind =>
    intro again' _
    rw [prepareWith]
    simp only [hfind]
  | case2 again r e hfind r₁ id hmake r₂ accepted hprep hrej =>
    intro again' _
    rw [hagree r _ _ hp] at hmake
    rw [prepareWith]
    simp only [hfind, hmake, hprep, hrej, if_true]
  | case3 again r e hfind r₁ id hmake r₂ accepted hprep hacc hgone =>
    intro again' _
    rw [hagree r _ _ hp] at hmake
    rw [prepareWith]
    simp only [hfind, hmake, hprep, if_neg hacc, hgone]
  | case4 again r e hfind r₁ id hmake r₂ accepted hprep hacc now hnow hsame =>
    intro again' _
    rw [hagree r _ _ hp] at hmake
    rw [prepareWith]
    simp only [hfind, hmake, hprep, if_neg hacc, hnow, if_pos hsame]
  -- The bound is met: but a repetition has spent an errand, and there was none.
  | case5 r e hfind r₁ id hmake r₂ accepted hprep hacc now hnow hother =>
    have hlt := (hmk.prepareEntry hmake hprep).lt_of_find? hfind hnow hother
    omega
  | case6 r e hfind r₁ id hmake r₂ accepted hprep hacc now hnow hother again ih =>
    intro again' h'
    have hlt := (hmk.prepareEntry hmake hprep).lt_of_find? hfind hnow hother
    obtain ⟨again', rfl⟩ : ∃ k, again' = k + 1 := ⟨again' - 1, by omega⟩
    have hrest := ih (by omega) (by omega) again' (by omega)
    rw [hagree r _ _ hp] at hmake
    rw [hrest, eq_comm, prepareWith]
    simp only [hfind, hmake, hprep, if_neg hacc, hnow, if_neg hother]

theorem prepareWith_pending_le (hmk : Thrifty mk) {name : String} {o : Options} {again : Nat} :
    (prepareWith mk name o again r).1.pending ≤ r.pending := by
  fun_induction prepareWith mk name o again r with
  | case1 again r hfind => exact Nat.le_refl _
  | case2 again r e hfind r₁ id hmake r₂ accepted hprep hrej =>
    exact (hmk.prepareEntry hmake hprep).pending
  | case3 again r e hfind r₁ id hmake r₂ accepted hprep hacc hgone =>
    exact (hmk.prepareEntry hmake hprep).pending
  | case4 again r e hfind r₁ id hmake r₂ accepted hprep hacc now hnow hsame =>
    exact (hmk.prepareEntry hmake hprep).pending
  | case5 r e hfind r₁ id hmake r₂ accepted hprep hacc now hnow hother =>
    exact (hmk.prepareEntry hmake hprep).pending
  | case6 r e hfind r₁ id hmake r₂ accepted hprep hacc now hnow hother again ih =>
    exact ih.trans (hmk.prepareEntry hmake hprep).pending

theorem doErrands_agree (hmk : Thrifty mk) (hagree : Agree p mk mk') {again again' : Nat}
    (hagain : p ≤ again) (hagain' : p ≤ again') (es : List Errand) (hp : r.pending ≤ p) :
    es.foldl (doErrand mk again) r = es.foldl (doErrand mk' again') r := by
  induction es generalizing r with
  | nil => rfl
  | cons e es ih =>
    have hle := (doErrand_pending_le hmk again r e).trans hp
    have hstep : doErrand mk again r e = doErrand mk' again' r e := by
      cases e with
      | register name source =>
        exact congrArg Prod.fst (registerWith_agree hmk hagree (r := r.newRegistration.1) hp
          (hp.trans hagain) again' (hp.trans hagain'))
      | activate name =>
        exact congrArg Prod.fst (activateWith_agree hmk hagree hp (hp.trans hagain) again'
          (hp.trans hagain'))
    rw [List.foldl_cons, List.foldl_cons, ← hstep]
    exact ih hle

/-! ### Making backends -/

theorem length_errands_modify (ks : List Maker) (m : MakerId) :
    ((ks.modify m Maker.start).flatMap fun k => k.errands.flatten).length +
        (ks[m]?.getD default).nextErrands.length =
      (ks.flatMap fun k => k.errands.flatten).length := by
  induction ks generalizing m with
  | nil => simp [Maker.nextErrands, default]
  | cons k ks ih =>
    cases m with
    | zero =>
      simp only [List.modify_zero_cons, List.flatMap_cons, List.length_append,
        List.getElem?_cons_zero, Option.getD_some, Maker.start, Maker.nextErrands]
      cases k.errands with
      | nil => simp
      | cons es rest => simp; omega
    | succ m =>
      have hrest := ih m
      simp only [List.modify_succ_cons, List.flatMap_cons, List.length_append,
        List.getElem?_cons_succ] at hrest ⊢
      omega

/-- When a call starts, its errands are not among those of later calls any more. -/
theorem pending_startCall (r : Registry) (m : MakerId) :
    (r.startCall m).pending + (r.makers[m]?.getD default).nextErrands.length = r.pending :=
  length_errands_modify r.makers m

theorem pending_noteMade (r : Registry) (m : MakerId) (call : Nat) (id : BackendId) :
    (r.noteMade m call id).pending = r.pending := by
  have h : ∀ ks : List Maker,
      (ks.modify m fun k => { k with made := k.made ++ [(call, id)] }).flatMap
        (fun k => k.errands.flatten) = ks.flatMap fun k => k.errands.flatten := by
    intro ks
    induction ks generalizing m with
    | nil => simp
    | cons k ks ih => cases m <;> simp [ih]
  exact congrArg List.length (h r.makers)

theorem spends_obtain (r : Registry) (id : BackendId) : Spends r (r.obtain id).1 := by
  unfold obtain
  split_ifs <;> exact .of_same rfl rfl rfl

theorem spends_produce (r : Registry) (p : Product) : Spends r (r.produce p).1 := by
  cases p with
  | new plan => exact .of_same rfl rfl rfl
  | existing id => exact spends_obtain r id

/-- A maker that has done its errands gives a backend. -/
theorem spends_finish (r : Registry) (p : Product) (m : MakerId) (call n : Nat)
    (source : Source) :
    Spends r (((r.produce p).1.noteMade m call (r.produce p).2).deliver n source
      (r.produce p).2) := by
  have hnote : Spends (r.produce p).1 ((r.produce p).1.noteMade m call (r.produce p).2) :=
    ⟨(pending_noteMade ..).le, fun _ => ⟨rfl, rfl⟩⟩
  exact ((spends_produce r p).trans hnote).trans (.of_same rfl rfl rfl)

theorem thrifty_make (depth : Nat) : Thrifty (make depth) := by
  induction depth using Nat.strong_induction_on with
  | _ depth ih =>
    intro r n source
    unfold make
    cases source with
    | shared id => exact (spends_obtain r id).trans (.of_same rfl rfl rfl)
    | made m =>
      have hstart := pending_startCall r m
      refine Spends.trans ?_ (spends_finish _ _ m _ n _)
      have hle : (r.startCall m).pending ≤ r.pending := by omega
      cases depth with
      | zero => exact ⟨hle, fun _ => ⟨rfl, rfl⟩⟩
      | succ depth =>
        have hdone := doErrands_pending_le (ih depth (Nat.lt_succ_self depth)) (depth + 1)
          (r.makers[m]?.getD default).nextErrands (r.startCall m)
        refine ⟨hdone.trans hle, fun heq => ?_⟩
        -- If no errand was left out of the count, there was none to do.
        have hnil : (r.makers[m]?.getD default).nextErrands = [] :=
          List.eq_nil_of_length_eq_zero (by dsimp only at heq hdone; omega)
        rw [hnil]
        exact ⟨rfl, rfl⟩

/-- A backend is made in the same way, however many makers may be at work at once, if only as many
may as there are errands. -/
theorem make_agree (depth depth' : Nat) : Agree (min depth depth') (make depth) (make depth') := by
  induction depth using Nat.strong_induction_on generalizing depth' with
  | _ depth ih =>
    intro r n source hp
    unfold make
    cases source with
    | shared id => rfl
    | made m =>
      have hstart := pending_startCall r m
      by_cases hnil : (r.makers[m]?.getD default).nextErrands = []
      · cases depth <;> cases depth' <;> simp only [hnil, List.foldl_nil]
      · have hpos := List.length_pos_iff.mpr hnil
        obtain ⟨k, rfl⟩ : ∃ k, depth = k + 1 := ⟨depth - 1, by omega⟩
        obtain ⟨k', rfl⟩ : ∃ k', depth' = k' + 1 := ⟨depth' - 1, by omega⟩
        have hagain : min k k' ≤ k + 1 := by omega
        have hagain' : min k k' ≤ k' + 1 := by omega
        have herrands := doErrands_agree (r := r.startCall m) (thrifty_make k)
          (ih k (Nat.lt_succ_self k) k') hagain hagain' (r.makers[m]?.getD default).nextErrands
          (by omega)
        simp only [herrands]

/-! ### Operations -/

variable {bound again : Nat}

theorem agree_of_le (h : r.pending ≤ bound) :
    Agree r.pending (make (r.pending + 1)) (make bound) := fun r' n source hp =>
  make_agree (r.pending + 1) bound r' n source (by omega)

/-- **A registration** is not cut short. -/
theorem register_eq (name : String) (source : Source) (hbound : r.pending ≤ bound)
    (hagain : r.pending ≤ again) :
    r.register name source =
      registerWith (make bound) name source r.nextRegistration again r.newRegistration.1 :=
  registerWith_agree (r := r.newRegistration.1) (thrifty_make _) (agree_of_le hbound)
    (Nat.le_refl _) (Nat.le_succ _) again hagain

/-- **An activation** is not cut short. -/
theorem activate_eq (name : String) (hbound : r.pending ≤ bound) (hagain : r.pending ≤ again) :
    r.activate name = activateWith (make bound) name again r :=
  activateWith_agree (thrifty_make _) (agree_of_le hbound) (Nat.le_refl _) (Nat.le_succ _) again
    hagain

/-- **A preparation** is not cut short. -/
theorem prepare_eq (name : String) (o : Options) (hbound : r.pending ≤ bound)
    (hagain : r.pending ≤ again) :
    r.prepare name o = prepareWith (make bound) name o again r :=
  prepareWith_agree (thrifty_make _) (agree_of_le hbound) (Nat.le_refl _) (Nat.le_succ _) again
    hagain

end Colloquy.Registry
