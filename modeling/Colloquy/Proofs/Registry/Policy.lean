import Colloquy.Proofs.Registry.Books
import Mathlib.Data.List.Basic

/-!
# The policy that requests follow

A policy is set for a provider and stays until the provider is registered anew.  In between, makers
may be at work that register other providers, or the same one once more, so what an operation does
to the policy under one key is told from the number of the registration that the entry comes from:

* `make_keeps`, over `registerWith_keeps` and `activateWith_keeps`: while a backend is made, the
  entry under a key keeps its registration and its policy, or it comes from a new registration that
  some maker was to make, without a policy;
* `perform_keeps`: the same of every operation but a change of a policy and a registration under the
  key that goes well;
* `policyOf_performAll`: the last operation that matters decides.

`requests_policy` says so of the requests after a run from the start.
-/

namespace Colloquy.Registry

open Provider (Backend Options)

variable {r r' r'' : Registry} {key name : String} {E : List Errand} {n m : Nat} {mk : Making}

/-! ### What may happen under a key -/

/-- The errands that makers still have to do. -/
def errands (r : Registry) : List Errand :=
  r.makers.flatMap fun m => m.errands.flatten

/-- Whether an errand is a registration under a key. -/
def Errand.registers (key : String) : Errand → Prop
  | .register name _ => keyOf name = key
  | .activate _ => False

/-- The registration under a key and the policy that was set for it. -/
def held? (r : Registry) (key : String) : Option (Nat × Option Retry.Policy) :=
  (r.entries.find? key).map fun e => (e.registration, e.policy)

/-- Under a key there is a registration from some number on, and no policy was set for it. -/
def Renewed (r : Registry) (key : String) (n : Nat) : Prop :=
  ∃ number, r.held? key = some (number, none) ∧ n ≤ number

/-- What happens under a key while a backend is made.  Nothing changes, or a maker that was to
register a provider under the key has done so, with a number from `n` on. -/
structure Keeps (key : String) (E : List Errand) (n : Nat) (r r' : Registry) : Prop where
  registrations : r.nextRegistration ≤ r'.nextRegistration
  errands : r'.errands ⊆ r.errands
  held : r'.held? key = r.held? key ∨ (∃ e ∈ E, e.registers key) ∧ r'.Renewed key n

theorem Keeps.refl (r : Registry) : Keeps key E n r r :=
  ⟨le_rfl, fun _ h => h, Or.inl rfl⟩

theorem Keeps.trans (h : Keeps key E n r r') (h' : Keeps key E m r' r'') (hnm : n ≤ m) :
    Keeps key E n r r'' := by
  refine ⟨h.registrations.trans h'.registrations, fun _ he => h.errands (h'.errands he), ?_⟩
  rcases h'.held with hsame | ⟨herrand, number, hnumber, hle⟩
  · rw [hsame, Renewed, hsame]
    exact h.held
  · exact Or.inr ⟨herrand, number, hnumber, hnm.trans hle⟩

/-- Backends, listeners, the active provider and what is noted do not count. -/
theorem keeps_of_entries (hentries : r'.entries = r.entries)
    (hregistrations : r.nextRegistration ≤ r'.nextRegistration)
    (herrands : r'.errands ⊆ r.errands) :
    Keeps key E n r r' :=
  ⟨hregistrations, herrands, Or.inl (by rw [held?, held?, hentries])⟩

theorem keeps_of_makers (hentries : r'.entries = r.entries)
    (hregistrations : r'.nextRegistration = r.nextRegistration) (hmakers : r'.makers = r.makers) :
    Keeps key E n r r' := by
  have herrands : r'.errands = r.errands := by rw [errands, errands, hmakers]
  exact keeps_of_entries hentries hregistrations.ge (herrands ▸ List.Subset.refl _)

theorem held?_setEntry (r : Registry) (name : String) (e : Entry) (key : String) :
    (r.setEntry name e).held? key =
      if keyOf name = key then some (e.registration, e.policy) else r.held? key := by
  rw [held?, setEntry, Dictionary.find?_insert]
  split_ifs <;> rfl

/-- An entry gets a backend. -/
theorem keeps_withBackend {now : Entry} (hnow : r.find? name = some now) (id : BackendId) :
    Keeps key E n r (r.setEntry name (now.withBackend id)) := by
  refine ⟨le_rfl, fun _ h => h, Or.inl ?_⟩
  rw [held?_setEntry]
  split_ifs with hkey
  · rw [held?, ← hkey, show r.entries.find? (keyOf name) = some now from hnow]
    rfl
  · rfl

/-- An entry is replaced by one without a policy. -/
theorem keeps_setEntry {e : Entry} (hkey : keyOf name ≠ key ∨ ∃ e ∈ E, e.registers key)
    (hn : n ≤ e.registration) (hpolicy : e.policy = none) :
    Keeps key E n r (r.setEntry name e) := by
  refine ⟨le_rfl, fun _ h => h, ?_⟩
  rw [Renewed, held?_setEntry]
  split_ifs with hname
  · exact Or.inr ⟨hkey.resolve_left (absurd hname), e.registration, by rw [hpolicy], hn⟩
  · exact Or.inl rfl

/-! ### Operations over a way of making backends -/

/-- What is asked of a way of making backends whose errands are known. -/
def Keeping (E : List Errand) (mk : Making) : Prop :=
  ∀ key r n source, r.errands ⊆ E → Keeps key E r.nextRegistration r (mk r n source).1

/-- A backend is made and prepared. -/
theorem Keeping.prepare (hmk : Keeping E mk) (hE : r.errands ⊆ E) (hm : m ≤ r.nextRegistration)
    {source : Source} {r₁ r₂ : Registry} {id : BackendId} {o : Options} {accepted : Bool}
    (hmake : mk r n source = (r₁, id)) (hprep : r₁.prepareBackend id o = (r₂, accepted)) :
    Keeps key E m r r₂ := by
  have h := hmk key r n source hE
  have h' : Keeps key E r.nextRegistration r₁ (r₁.prepareBackend id o).1 :=
    keeps_of_makers rfl rfl rfl
  rw [hmake] at h
  rw [hprep] at h'
  have htrans := h.trans h' le_rfl
  -- A later number will do, too.
  refine ⟨htrans.registrations, htrans.errands, htrans.held.imp_right ?_⟩
  rintro ⟨herrand, number, hheld, hle⟩
  exact ⟨herrand, number, hheld, hm.trans hle⟩

/-- A registration under another key, one that is refused, and one that is an errand. -/
theorem registerWith_keeps (hmk : Keeping E mk) {source : Source} {again : Nat}
    (hE : r.errands ⊆ E) (hm : m ≤ r.nextRegistration) (hn : m ≤ n) :
    ((registerWith mk name source n again r).2 = .ok () →
      keyOf name ≠ key ∨ ∃ e ∈ E, e.registers key) →
    Keeps key E m r (registerWith mk name source n again r).1 := by
  fun_induction registerWith mk name source n again r with
  | case1 again r hact previous r₁ id hmake options r₂ accepted hprep hrej =>
    exact fun _ => hmk.prepare hE hm hmake hprep
  | case2 again r entry hact previous r₁ id hmake options r₂ accepted hprep hacc hact' =>
    intro hown
    have hset : Keeps key E m r₂ (r₂.setEntry name (entry (some id))) :=
      keeps_setEntry (hown rfl) hn rfl
    have htell : Keeps key E m (r₂.setEntry name (entry (some id)))
        ((r₂.setEntry name (entry (some id))).tellProvider (Text.trim name)) :=
      keeps_of_makers rfl rfl rfl
    exact ((hmk.prepare hE hm hmake hprep).trans hset le_rfl).trans htell le_rfl
  | case3 r hact previous r₁ id hmake options r₂ accepted hprep hacc hact' =>
    exact fun _ => hmk.prepare hE hm hmake hprep
  | case4 r hact previous r₁ id hmake options r₂ accepted hprep hacc hact' again ih =>
    intro hown
    have h : Keeps key E m r r₂ := hmk.prepare hE hm hmake hprep
    exact h.trans (ih (List.Subset.trans h.errands hE) (hm.trans h.registrations) hown) le_rfl
  | case5 again r entry hact => exact fun hown => keeps_setEntry (hown rfl) hn rfl

/-- A registration that goes well sets an entry without a policy. -/
theorem registerWith_held {source : Source} {again : Nat} :
    (registerWith mk name source n again r).2 = .ok () →
      (registerWith mk name source n again r).1.held? (keyOf name) = some (n, none) := by
  have hset : ∀ (r : Registry) (backend : Option BackendId),
      (r.setEntry name ⟨Text.trim name, source, n, backend, none⟩).held? (keyOf name) =
        some (n, none) := fun r backend => by
    rw [held?_setEntry, if_pos rfl]
  fun_induction registerWith mk name source n again r with
  | case1 =>
    intro hok
    cases hok
  | case2 again r entry hact previous r₁ id hmake options r₂ accepted hprep hacc hact' =>
    exact fun _ => hset r₂ (some id)
  | case3 =>
    intro hok
    cases hok
  | case4 r hact previous r₁ id hmake options r₂ accepted hprep hacc hact' again ih => exact ih
  | case5 again r entry hact => exact fun _ => hset r none

theorem activateWith_keeps (hmk : Keeping E mk) {again : Nat} (hE : r.errands ⊆ E)
    (hm : m ≤ r.nextRegistration) : Keeps key E m r (activateWith mk name again r).1 := by
  fun_induction activateWith mk name again r with
  | case1 again r hfind => exact Keeps.refl r
  | case2 again r e hfind id hid => exact keeps_of_makers rfl rfl rfl
  | case3 again r e hfind hnone r₁ id hmake r₂ accepted hprep hrej =>
    exact hmk.prepare hE hm hmake hprep
  | case4 again r e hfind hnone r₁ id hmake r₂ accepted hprep hacc hgone =>
    exact hmk.prepare hE hm hmake hprep
  | case5 again r e hfind hnone r₁ id hmake r₂ accepted hprep hacc now hnow hsame =>
    have hactive : Keeps key E m (r₂.setEntry name (now.withBackend id))
        (({ r₂.setEntry name (now.withBackend id) with active := some (keyOf name) } :
          Registry).tellProvider now.displayName) := keeps_of_makers rfl rfl rfl
    exact ((hmk.prepare hE hm hmake hprep).trans (keeps_withBackend hnow id) le_rfl).trans
      hactive le_rfl
  | case6 r e hfind hnone r₁ id hmake r₂ accepted hprep hacc now hnow hother =>
    exact hmk.prepare hE hm hmake hprep
  | case7 r e hfind hnone r₁ id hmake r₂ accepted hprep hacc now hnow hother again ih =>
    have h : Keeps key E m r r₂ := hmk.prepare hE hm hmake hprep
    exact h.trans (ih (List.Subset.trans h.errands hE) (hm.trans h.registrations)) le_rfl

/-- The backend of an entry, which is made if there is none yet, is prepared. -/
theorem Keeping.prepareEntry (hmk : Keeping E mk) (hE : r.errands ⊆ E)
    (hm : m ≤ r.nextRegistration) {e : Entry} {r₁ r₂ : Registry} {id : BackendId} {o : Options}
    {accepted : Bool}
    (hmake : (match e.backend with
      | some id => (r, id)
      | none => mk r e.registration e.source) = (r₁, id))
    (hprep : r₁.prepareBackend id o = (r₂, accepted)) : Keeps key E m r r₂ := by
  cases hb : e.backend with
  | none =>
    rw [hb] at hmake
    exact hmk.prepare hE hm hmake hprep
  | some j =>
    rw [hb] at hmake
    obtain ⟨rfl, rfl⟩ := Prod.mk.inj hmake
    have h : Keeps key E m r (r.prepareBackend j o).1 := keeps_of_makers rfl rfl rfl
    rwa [hprep] at h

theorem prepareWith_keeps (hmk : Keeping E mk) {o : Options} {again : Nat} (hE : r.errands ⊆ E)
    (hm : m ≤ r.nextRegistration) : Keeps key E m r (prepareWith mk name o again r).1 := by
  fun_induction prepareWith mk name o again r with
  | case1 again r hfind => exact Keeps.refl r
  | case2 again r e hfind r₁ id hmake r₂ accepted hprep hrej =>
    exact hmk.prepareEntry hE hm hmake hprep
  | case3 again r e hfind r₁ id hmake r₂ accepted hprep hacc hgone =>
    exact hmk.prepareEntry hE hm hmake hprep
  | case4 again r e hfind r₁ id hmake r₂ accepted hprep hacc now hnow hsame =>
    exact (hmk.prepareEntry hE hm hmake hprep).trans (keeps_withBackend hnow id) le_rfl
  | case5 r e hfind r₁ id hmake r₂ accepted hprep hacc now hnow hother =>
    exact hmk.prepareEntry hE hm hmake hprep
  | case6 r e hfind r₁ id hmake r₂ accepted hprep hacc now hnow hother again ih =>
    have h : Keeps key E m r r₂ := hmk.prepareEntry hE hm hmake hprep
    exact h.trans (ih (List.Subset.trans h.errands hE) (hm.trans h.registrations)) le_rfl

/-! ### Making backends -/

theorem keeps_newRegistration (r : Registry) : Keeps key E n r r.newRegistration.1 :=
  keeps_of_entries rfl (Nat.le_succ _) fun _ h => h

theorem doErrand_keeps (hmk : Keeping E mk) {again : Nat} {e : Errand} (he : e ∈ E)
    (hE : r.errands ⊆ E) (hm : m ≤ r.nextRegistration) :
    Keeps key E m r (doErrand mk again r e) := by
  cases e with
  | register name source =>
    have hown : keyOf name ≠ key ∨ ∃ e ∈ E, e.registers key := by
      by_cases hkey : keyOf name = key
      · exact Or.inr ⟨_, he, hkey⟩
      · exact Or.inl hkey
    have h : Keeps key E m r.newRegistration.1
        (registerWith mk name source r.nextRegistration again r.newRegistration.1).1 :=
      registerWith_keeps hmk hE (hm.trans (Nat.le_succ _)) hm fun _ => hown
    exact (keeps_newRegistration r).trans h le_rfl
  | activate name => exact activateWith_keeps hmk hE hm

theorem doErrands_keeps (hmk : Keeping E mk) (again : Nat) {es : List Errand} (hes : es ⊆ E)
    (hE : r.errands ⊆ E) (hm : m ≤ r.nextRegistration) :
    Keeps key E m r (es.foldl (doErrand mk again) r) := by
  induction es generalizing r with
  | nil => exact Keeps.refl r
  | cons e es ih =>
    obtain ⟨he, hes⟩ := List.cons_subset.mp hes
    have h : Keeps key E m r (doErrand mk again r e) := doErrand_keeps hmk he hE hm
    exact h.trans (ih hes (List.Subset.trans h.errands hE) (hm.trans h.registrations)) le_rfl

theorem errands_modify_subset (ks : List Maker) (m : MakerId) {f : Maker → Maker}
    (hf : ∀ k, (f k).errands.flatten ⊆ k.errands.flatten) :
    ((ks.modify m f).flatMap fun k => k.errands.flatten) ⊆
      ks.flatMap fun k => k.errands.flatten := by
  induction ks generalizing m with
  | nil => simp
  | cons k ks ih =>
    intro e he
    cases m with
    | zero =>
      rw [List.modify_zero_cons, List.flatMap_cons, List.mem_append] at he
      rw [List.flatMap_cons, List.mem_append]
      exact he.imp_left fun he => hf k he
    | succ m =>
      rw [List.modify_succ_cons, List.flatMap_cons, List.mem_append] at he
      rw [List.flatMap_cons, List.mem_append]
      exact he.imp_right fun he => ih m he

theorem keeps_startCall (r : Registry) (k : MakerId) : Keeps key E n r (r.startCall k) := by
  refine keeps_of_entries rfl le_rfl (errands_modify_subset r.makers k fun k e he => ?_)
  rw [Maker.start] at he
  cases hk : k.errands with
  | nil => simp [hk] at he
  | cons es rest =>
    rw [hk, List.tail_cons] at he
    rw [List.flatten_cons]
    exact List.mem_append_right _ he

theorem nextErrands_subset (r : Registry) (k : MakerId) :
    (r.makers[k]?.getD default).nextErrands ⊆ r.errands := by
  intro e he
  cases hk : r.makers[k]? with
  | none => simp [hk, Maker.nextErrands, default] at he
  | some maker =>
    rw [hk, Option.getD_some, Maker.nextErrands] at he
    refine List.mem_flatMap.mpr ⟨maker, List.mem_of_getElem? hk, ?_⟩
    cases hes : maker.errands with
    | nil => simp [hes] at he
    | cons es rest =>
      rw [hes] at he
      exact List.mem_append_left _ he

/-- A maker that has done its errands gives a backend. -/
theorem keeps_finish (r : Registry) (p : Product) (k : MakerId) (call number : Nat)
    (source : Source) :
    Keeps key E n r (((r.produce p).1.noteMade k call (r.produce p).2).deliver number source
      (r.produce p).2) := by
  have hproduce : (r.produce p).1.makers = r.makers := by
    cases p with
    | new plan => rfl
    | existing id =>
      rw [produce, obtain]
      split_ifs <;> rfl
  have hnote : Keeps key E n (r.produce p).1 ((r.produce p).1.noteMade k call (r.produce p).2) :=
    keeps_of_entries rfl le_rfl (errands_modify_subset _ k fun _ _ he => he)
  have hq := quiet_produce r p
  have hdone : Keeps key E n r (r.produce p).1 :=
    keeps_of_makers hq.entries hq.registrations hproduce
  exact (hdone.trans hnote le_rfl).trans (keeps_of_makers rfl rfl rfl) le_rfl

/-- **Making a backend**: whatever a maker does meanwhile, what is under a key is kept or comes from
a new registration that was an errand. -/
theorem make_keeps (E : List Errand) (depth : Nat) : Keeping E (make depth) := by
  -- A call at one depth carries out errands whose calls are at smaller depths.
  induction depth using Nat.strong_induction_on with
  | _ depth ih =>
    intro key r n source hE
    unfold make
    cases source with
    | shared id =>
      have hq := quiet_obtain r id
      have hmakers : (r.obtain id).1.makers = r.makers := by
        rw [obtain]
        split_ifs <;> rfl
      exact (keeps_of_makers hq.entries hq.registrations hmakers).trans
        (keeps_of_makers rfl rfl rfl) le_rfl
    | made k =>
      have hstart : Keeps key E r.nextRegistration r (r.startCall k) := keeps_startCall r k
      cases depth with
      | zero => exact hstart.trans (keeps_finish ..) le_rfl
      | succ depth =>
        have hes := List.Subset.trans (nextErrands_subset r k) hE
        have herrands : Keeps key E r.nextRegistration (r.startCall k)
            ((r.makers[k]?.getD default).nextErrands.foldl (doErrand (make depth) (depth + 1))
              (r.startCall k)) :=
          doErrands_keeps (ih depth (Nat.lt_succ_self depth)) (depth + 1) hes
            (List.Subset.trans hstart.errands hE) hstart.registrations
        exact (hstart.trans herrands le_rfl).trans (keeps_finish ..) le_rfl

/-! ### Operations -/

/-- The number of the registration under a key. -/
def registration? (r : Registry) (key : String) : Option Nat :=
  (r.held? key).map Prod.fst

/-- The policy that was set for the provider under a key. -/
def policy? (r : Registry) (key : String) : Option Retry.Policy :=
  (r.held? key).bind Prod.snd

/-- What an operation means for the policy under a key. -/
inductive Mark where
  | policy (p : Retry.Policy)
  | registration
deriving DecidableEq

/-- The policy that a key has after an operation that means something for it. -/
def Mark.policy? : Mark → Option Retry.Policy
  | policy p => some p
  | registration => none

/-- What an operation means for the policy under a key, if anything: the policy has been set, with
any spelling of the name, or there is another registration under the key than before. -/
def mark (r : Registry) (key : String) : Operation → Option Mark
  | .setPolicy name p =>
    if keyOf name = key ∧ (r.perform (.setPolicy name p)).2 = none then some (.policy p) else none
  | op =>
    if (r.perform op).1.registration? key = r.registration? key then none else some .registration

/-- What a run means for the policy under a key. -/
def marks (r : Registry) (key : String) : List Operation → List Mark
  | [] => []
  | op :: ops => (r.mark key op).toList ++ (r.perform op).1.marks key ops

theorem held?_of_entries (h : r'.entries = r.entries) : r'.held? key = r.held? key := by
  rw [held?, held?, h]

/-- Whether an operation is a registration under a key that goes well. -/
def Registers (r : Registry) (key : String) (op : Operation) : Prop :=
  ∃ name source, op = .register name source ∧ keyOf name = key ∧ (r.perform op).2 = none

theorem held?_of_registers {op : Operation} (h : r.Registers key op) :
    (r.perform op).1.held? key = some (r.nextRegistration, none) := by
  obtain ⟨name, source, rfl, rfl, hok⟩ := h
  exact registerWith_held (errorOf_eq_none_iff.mp hok)

/-- An operation that neither sets a policy nor registers a provider under the key. -/
theorem perform_keeps {op : Operation} (hpolicy : ∀ name p, op ≠ .setPolicy name p)
    (hop : ¬r.Registers key op) : (r.perform op).1.held? key = r.held? key ∨
      (∃ e ∈ r.errands, e.registers key) ∧ (r.perform op).1.Renewed key r.nextRegistration := by
  have hmake := make_keeps r.errands (r.pending + 1)
  cases op with
  | register name source =>
    -- The registration itself is that of another key, but its maker may have errands for this one.
    have h : Keeps key r.errands r.nextRegistration r.newRegistration.1
        (r.register name source).1 :=
      registerWith_keeps hmake (fun _ he => he) (Nat.le_succ _) le_rfl fun hok =>
        Or.inl fun hkey => hop ⟨name, source, rfl, hkey, errorOf_eq_none_iff.mpr hok⟩
    exact h.held
  | activate name =>
    exact (activateWith_keeps (m := r.nextRegistration) hmake (fun _ he => he) le_rfl).held
  | prepare name o =>
    exact (prepareWith_keeps (m := r.nextRegistration) hmake (fun _ he => he) le_rfl).held
  | setPolicy name p => exact absurd rfl (hpolicy name p)
  | setModel id => exact Or.inl (held?_of_entries (quiet_setModel r id).entries)
  | setTemplate id => exact Or.inl (held?_of_entries (quiet_setTemplate r id).entries)
  | setOptions o => exact Or.inl (held?_of_entries (quiet_setOptions r o).entries)
  | listen kind answer => exact Or.inl (held?_of_entries (quiet_listen r kind answer).entries)
  | unlisten id => exact Or.inl (held?_of_entries (quiet_unlisten r id).entries)
  | complete messages tools =>
    exact Or.inl (held?_of_entries (quiet_complete r messages tools).entries)
  | embed text => exact Or.inl (held?_of_entries (quiet_embed r text).entries)
  | _ => exact Or.inl rfl

/-- A renewed registration has another number. -/
theorem Renewed.registration?_ne (hr : r.Sound) (h : r'.Renewed key r.nextRegistration) :
    r'.registration? key ≠ r.registration? key := by
  obtain ⟨number, hnumber, hle⟩ := h
  rw [registration?, hnumber, registration?, held?, Option.map_map]
  intro heq
  obtain ⟨e, he, hnum⟩ := Option.map_eq_some_iff.mp heq.symm
  have hlt := hr.numbered key e he
  have hnum : e.registration = number := hnum
  omega

theorem mark_of_ne_setPolicy {op : Operation} (hpolicy : ∀ name p, op ≠ .setPolicy name p) :
    r.mark key op = if (r.perform op).1.registration? key = r.registration? key then none
      else some .registration := by
  cases op with
  | setPolicy name p => exact absurd rfl (hpolicy name p)
  | _ => rfl

/-- **One operation**: the policy under a key stays as it is or is what the operation says. -/
theorem policy?_perform (hr : r.Sound) (op : Operation) (key : String) :
    (r.perform op).1.policy? key = (r.mark key op).elim (r.policy? key) Mark.policy? := by
  by_cases hpolicy : ∀ name p, op ≠ .setPolicy name p
  · -- Another operation keeps the registration or renews it; a new one starts without a policy.
    have hcases : (r.perform op).1.held? key = r.held? key ∨
        (r.perform op).1.Renewed key r.nextRegistration := by
      by_cases hop : r.Registers key op
      · exact Or.inr ⟨_, held?_of_registers hop, le_rfl⟩
      · exact (perform_keeps hpolicy hop).imp_right And.right
    rw [mark_of_ne_setPolicy hpolicy]
    rcases hcases with hsame | hrenewed
    · rw [if_pos (by rw [registration?, registration?, hsame]), policy?, hsame]
      rfl
    · rw [if_neg (hrenewed.registration?_ne hr)]
      obtain ⟨number, hnumber, -⟩ := hrenewed
      rw [policy?, hnumber]
      rfl
  · push Not at hpolicy
    obtain ⟨name, p, rfl⟩ := hpolicy
    rw [mark]
    cases hresult : (r.setPolicy name p).2 with
    | error e =>
      -- A policy that is refused leaves no mark.
      have herror : (r.perform (.setPolicy name p)).2 = some e := by
        rw [perform, report, hresult]
        rfl
      have hsame : (r.perform (.setPolicy name p)).1 = r := setPolicy_error hresult
      rw [hsame, if_neg fun h => by rw [herror] at h; cases h.2]
      rfl
    | ok u =>
      have hok : (r.perform (.setPolicy name p)).2 = none := by
        rw [perform, report, hresult]
        rfl
      obtain ⟨e, -, hafter⟩ := setPolicy_ok hresult
      have hafter : (r.perform (.setPolicy name p)).1 = _ := hafter
      rw [hafter, policy?, held?_setEntry]
      by_cases hkey : keyOf name = key
      · rw [if_pos hkey, if_pos ⟨hkey, hok⟩]
        rfl
      · rw [if_neg hkey, if_neg fun h => hkey h.1]
        rfl

/-- **A run**: the last operation that means something for the key decides. -/
theorem policy?_performAll (hr : r.Sound) (ops : List Operation) (key : String) :
    (r.performAll ops).policy? key =
      (r.marks key ops).getLast?.elim (r.policy? key) Mark.policy? := by
  induction ops generalizing r with
  | nil => rfl
  | cons op ops ih =>
    rw [performAll_cons, ih (perform_sound op hr).1, policy?_perform hr, marks,
      List.getLast?_append]
    cases ((r.perform op).1.marks key ops).getLast? with
    | some mark => rfl
    | none => cases r.mark key op <;> rfl

/-- A registration that goes well counts for its key. -/
theorem mark_of_registers (hr : r.Sound) {op : Operation} (h : r.Registers key op) :
    r.mark key op = some .registration := by
  have hrenewed : (r.perform op).1.Renewed key r.nextRegistration :=
    ⟨_, held?_of_registers h, le_rfl⟩
  obtain ⟨name, source, rfl, -, -⟩ := h
  rw [mark_of_ne_setPolicy (by simp), if_neg (hrenewed.registration?_ne hr)]

/-- Another registration than before comes from the operation itself or from an errand. -/
theorem registers_of_mark {op : Operation} (h : r.mark key op = some .registration) :
    r.Registers key op ∨ ∃ e ∈ r.errands, e.registers key := by
  have hpolicy : ∀ name p, op ≠ .setPolicy name p := by
    rintro name p rfl
    rw [mark] at h
    split_ifs at h
    cases h
  rw [or_iff_not_imp_left]
  intro hop
  rcases perform_keeps hpolicy hop with hsame | ⟨herrand, -⟩
  · rw [mark_of_ne_setPolicy hpolicy, if_pos (by rw [registration?, registration?, hsame])] at h
    cases h
  · exact herrand

/-- The active provider goes by the policy that was set for it, or by that of its backend. -/
theorem policy_of_active? {a : Active} (h : r.active? = .ok a) :
    ∃ key, r.active = some key ∧
      a.policy = (r.policy? key).getD (r.backend a.backend).retryPolicy := by
  unfold active? at h
  split at h
  · cases h
  · next e he =>
    obtain ⟨key, hkey, hfind⟩ := Option.bind_eq_some_iff.mp he
    split at h
    · cases h
    · next id hid =>
      obtain rfl := Except.ok.inj h
      refine ⟨key, hkey, ?_⟩
      rw [policy?, held?, hfind]
      rfl

/-- **The policy of requests** is the one that the history of operations says, whatever the makers
have done with the registry meanwhile.  Let a registry be told some operations, from the start.

* A completion and an embedding follow the policy that was set last for the active key, with any
  spelling of the name, if no provider was registered under this key since; otherwise they follow
  the policy that the backend of the active provider has at that moment.
* In the same way the policy of each other provider is the one that was set last since it was
  registered.
* An operation that neither sets the policy of a key nor brings another registration under it leaves
  the policy of the key as it is.
* A registration that goes well counts as another registration, and so does nothing else but what
  a maker registers under the key in an errand. -/
theorem requests_policy (enabled : Bool) (statistics : Retry.Statistics) (draws : Nat → Float)
    (ops : List Operation) :
    let first := start enabled statistics draws
    let r := first.performAll ops
    (∀ a, r.active? = .ok a → ∃ key, r.active = some key ∧
      let own := (r.backend a.backend).retryPolicy
      let policy := ((first.marks key ops).getLast?.bind Mark.policy?).getD own
      (∀ messages tools, (r.complete messages tools).1 =
        (r.call { a with policy } "completion" (Backend.complete messages tools)).1) ∧
      ∀ text, (r.embed text).1 =
        (r.call { a with policy } "embedding" (Backend.embed text)).1) ∧
    (∀ key, r.policy? key = (first.marks key ops).getLast?.bind Mark.policy?) ∧
    (∀ op key, r.mark key op = none → (r.perform op).1.policy? key = r.policy? key) ∧
    (∀ op key, r.Registers key op → r.mark key op = some .registration) ∧
    ∀ op key, r.mark key op = some .registration →
      r.Registers key op ∨ ∃ e ∈ r.errands, e.registers key := by
  intro first r
  have hr : r.Sound := after_sound enabled statistics draws ops
  -- The policies of all keys are told by the marks; at the start there are none.
  have hpolicy : ∀ key, r.policy? key = (first.marks key ops).getLast?.bind Mark.policy? := by
    intro key
    have h := policy?_performAll (sound_start enabled statistics draws) ops key
    rw [show r.policy? key = _ from h]
    cases (first.marks key ops).getLast? <;> rfl
  refine ⟨fun a ha => ?_, hpolicy, fun op key hmark => ?_, fun op key => mark_of_registers hr,
    fun op key => registers_of_mark⟩
  · obtain ⟨key, hkey, hactive⟩ := policy_of_active? ha
    refine ⟨key, hkey, ?_⟩
    rw [← hpolicy key]
    dsimp only
    rw [← hactive]
    exact ⟨complete_eq_call ha, embed_eq_call ha⟩
  · rw [policy?_perform hr, hmark]
    rfl

/-- A maker that registers its provider anew while it makes the first backend: the policy that was
set before does not outlive this. -/
example :
    (start true .empty fun _ => 0.5).marks "mock"
      [.takeMaker ⟨Backend.named "mock", 0, [[.register "MOCK" (.made 0)]], [], []⟩,
        .register "Mock" (.made 0), .setPolicy " mock" .disabled, .activate "mock",
        .setPolicy "mocks" .disabled, .setOptions {}] =
      [.registration, .policy .disabled, .registration] := by
  decide +kernel

end Colloquy.Registry
