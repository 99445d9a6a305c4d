import Colloquy.Proofs.Registry.Making
import Colloquy.Proofs.Retry.Run

/-!
# What a registry always is

Every operation keeps a registry sound and undoes nothing (`perform_sound`), so a run does
(`performAll_sound`).  In a sound registry with an active provider there is a backend to send
requests to, and a registry with an active provider keeps one: once a provider has been activated,
nothing is refused for want of one (`perform_ne_noActiveProvider`).

`performAll_representation` puts this together for every run from the start.
-/

namespace Colloquy.Registry

open Provider (Backend Completion Failure Options)

variable {r r' : Registry}

/-! ### Requests and settings -/

theorem prepared_complete (messages : List Message) (tools : List Provider.ToolDefinition)
    (b : Backend) : (b.complete messages tools).2.prepared = b.prepared := by
  unfold Backend.complete
  dsimp only
  split <;> rfl

theorem prepared_embed (text : String) (b : Backend) :
    (b.embed text).2.prepared = b.prepared := by
  unfold Backend.embed
  split <;> rfl

theorem prepared_setModel (b : Backend) (id : String) :
    (b.setModel id).2.prepared = b.prepared := by
  unfold Backend.setModel
  split_ifs
  · rfl
  · split <;> rfl

theorem prepared_setTemplate (b : Backend) (id : String) :
    (b.setTemplate id).2.prepared = b.prepared := by
  unfold Backend.setTemplate
  split_ifs <;> rfl

/-- A request changes nothing but the backend that it is sent to and what is noted of it. -/
theorem quiet_call {α : Type} (r : Registry) (a : Active) (operation : String)
    {request : Backend → Except Failure α × Backend}
    (hrequest : ∀ b, (request b).2.prepared = b.prepared) :
    Quiet r (r.call a operation request).1 := by
  have hset : Quiet r (r.setBackend a.backend (Retry.execute (a.policy.effective r.retriesEnabled)
      r.draws request (r.backend a.backend)).state) :=
    quiet_setBackend fun h =>
      Retry.loop_state (P := fun b => Backend.prepared b = true) _ _
        (fun b hb => (hrequest b).trans hb) h
  exact hset.congr rfl rfl rfl rfl rfl

theorem quiet_complete (r : Registry) (messages : List Message)
    (tools : List Provider.ToolDefinition) : Quiet r (r.complete messages tools).1 := by
  unfold complete
  split
  · exact Quiet.refl r
  · next a _ =>
    have hq := quiet_call r a "completion" (prepared_complete messages tools)
    split <;> next h => rwa [h] at hq

theorem quiet_embed (r : Registry) (text : String) : Quiet r (r.embed text).1 := by
  unfold embed
  split
  · exact Quiet.refl r
  · next a _ =>
    have hq := quiet_call r a "embedding" (prepared_embed text)
    split <;> next h => rwa [h] at hq

/-- The registry after a request is the one after the run of its calls. -/
theorem complete_eq_call {a : Active} (h : r.active? = .ok a) (messages : List Message)
    (tools : List Provider.ToolDefinition) :
    (r.complete messages tools).1 =
      (r.call a "completion" (Backend.complete messages tools)).1 := by
  rw [complete, h]
  dsimp only
  split <;> next hc => rw [hc]

theorem embed_eq_call {a : Active} (h : r.active? = .ok a) (text : String) :
    (r.embed text).1 = (r.call a "embedding" (Backend.embed text)).1 := by
  rw [embed, h]
  dsimp only
  split <;> next hc => rw [hc]

/-- What is answered is what the run of the calls ends with. -/
theorem complete_result {a : Active} (h : r.active? = .ok a) (messages : List Message)
    (tools : List Provider.ToolDefinition) :
    (r.complete messages tools).2 = .ok
      (match (r.call a "completion" (Backend.complete messages tools)).2 with
        | .ok answer => answer
        | .error g => giveUp a.displayName g) := by
  rw [complete, h]
  dsimp only
  split <;> next hc => rw [hc]

theorem embed_result {a : Active} (h : r.active? = .ok a) (text : String) :
    (r.embed text).2 =
      match (r.call a "embedding" (Backend.embed text)).2 with
        | .ok v => .ok v
        | .error g => .error (.provider g.message) := by
  rw [embed, h]
  dsimp only
  split <;> next hc => rw [hc]

theorem quiet_setModel (r : Registry) (id : String) : Quiet r (r.setModel id).1 := by
  unfold setModel
  split
  · exact Quiet.refl r
  · next a _ =>
    dsimp only
    split_ifs
    · exact Quiet.refl r
    · split
      · exact Quiet.refl r
      · next b hb =>
        have hprep := prepared_setModel (r.backend a.backend) id
        rw [hb] at hprep
        have hset := quiet_setBackend hprep.trans
        exact hset.congr rfl rfl rfl rfl rfl

theorem quiet_setTemplate (r : Registry) (id : String) : Quiet r (r.setTemplate id).1 := by
  unfold setTemplate
  split
  · exact Quiet.refl r
  · next a _ =>
    dsimp only
    split_ifs
    · exact Quiet.refl r
    · split
      · exact Quiet.refl r
      · next b hb =>
        have hprep := prepared_setTemplate (r.backend a.backend) id
        rw [hb] at hprep
        have hset := quiet_setBackend hprep.trans
        exact hset.congr rfl rfl rfl rfl rfl

theorem quiet_setOptions (r : Registry) (o : Options) : Quiet r (r.setOptions o).1 := by
  unfold setOptions
  split
  · exact Quiet.refl r
  · exact quiet_setBackend fun h => h

theorem quiet_listen (r : Registry) (kind : Kind) (answer : Answer) :
    Quiet r (r.listen kind answer).1 := by
  cases kind <;> exact (Quiet.refl r).congr rfl rfl rfl rfl rfl

theorem quiet_unlisten (r : Registry) (id : Nat) : Quiet r (r.unlisten id).1 := by
  unfold unlisten
  dsimp only
  split_ifs <;> exact (Quiet.refl r).congr rfl rfl rfl rfl rfl

/-! ### Operations -/

theorem setPolicy_sound (name : String) (p : Retry.Policy) (hr : r.Sound) :
    (r.setPolicy name p).1.Sound ∧ Grows r.nextRegistration r (r.setPolicy name p).1 := by
  unfold setPolicy
  split
  · exact ⟨hr, Grows.refl _ r⟩
  · next e he =>
    refine ⟨hr.setEntry (hr.keyed _ e he).symm (hr.numbered _ e he) ?_ (hr.ready _ e · he) ?_,
      grows_setEntry (Or.inr ⟨e, he, rfl, rfl⟩)⟩
    · intro key e' he' heq
      exact hr.distinct key e' _ e he' he heq
    · intro hactive
      obtain ⟨e', id, he', hid⟩ := hr.active _ hactive
      obtain rfl : e' = e := Option.some.inj (he'.symm.trans he)
      exact ⟨id, hid⟩

/-- **One operation** keeps a registry sound and undoes nothing. -/
theorem perform_sound (op : Operation) (hr : r.Sound) :
    (r.perform op).1.Sound ∧ Grows r.nextRegistration r (r.perform op).1 := by
  have hsame : ∀ r' : Registry, Quiet r r' → r'.Sound ∧ Grows r.nextRegistration r r' :=
    fun r' h => ⟨h.sound hr, h.grows _⟩
  -- Makers are at work in the first three, a policy changes an entry, the rest leave entries alone.
  cases op with
  | register name source => exact registerNew_sound (make_sound _) hr
  | prepare name o => exact prepareWith_sound (make_sound _) hr
  | activate name => exact activateWith_sound (make_sound _) hr
  | setPolicy name p => exact setPolicy_sound name p hr
  | addBackend b => exact hsame _ (quiet_addBackend r b)
  | takeMaker k => exact hsame _ ((Quiet.refl r).congr rfl rfl rfl rfl rfl)
  | setModel id => exact hsame _ (quiet_setModel r id)
  | setTemplate id => exact hsame _ (quiet_setTemplate r id)
  | setOptions o => exact hsame _ (quiet_setOptions r o)
  | listen kind answer => exact hsame _ (quiet_listen r kind answer)
  | unlisten id => exact hsame _ (quiet_unlisten r id)
  | complete messages tools => exact hsame _ (quiet_complete r messages tools)
  | embed text => exact hsame _ (quiet_embed r text)
  | ask q => exact hsame _ (Quiet.refl r)
  | record reason success retries =>
    exact hsame _ ((Quiet.refl r).congr rfl rfl rfl rfl rfl)
  | resetStatistics => exact hsame _ ((Quiet.refl r).congr rfl rfl rfl rfl rfl)
  | prepareBackend id o => exact hsame _ (quiet_prepareBackend r id o)
  | adjust id change => exact hsame _ (quiet_setBackend fun h => h)

theorem performAll_sound (ops : List Operation) (hr : r.Sound) :
    (r.performAll ops).Sound ∧ Grows r.nextRegistration r (r.performAll ops) := by
  induction ops generalizing r with
  | nil => exact ⟨hr, Grows.refl _ r⟩
  | cons op ops ih =>
    obtain ⟨hs, hg⟩ := perform_sound op hr
    obtain ⟨hs', hg'⟩ := ih hs
    exact ⟨hs', hg.trans hg' hg.registrations⟩

/-! ### The active provider -/

/-- The backend of the active provider is the one of its entry. -/
theorem exists_of_active? {a : Active} (h : r.active? = .ok a) :
    ∃ key e, r.active = some key ∧ r.entries.find? key = some e ∧ e.backend = some a.backend := by
  unfold active? at h
  split at h
  · cases h
  · next e he =>
    obtain ⟨key, hkey, hfind⟩ := Option.bind_eq_some_iff.mp he
    split at h
    · cases h
    · next id hid =>
      obtain rfl := Except.ok.inj h
      exact ⟨key, e, hkey, hfind, hid⟩

/-- The backend of the active provider is there. -/
theorem Sound.lt_of_active? (hr : r.Sound) {a : Active} (h : r.active? = .ok a) :
    a.backend < r.backends.length := by
  obtain ⟨key, e, _, he, hid⟩ := exists_of_active? h
  exact lt_of_prepared (hr.ready key e a.backend he hid).2

/-- With an active provider a sound registry has a backend for requests. -/
theorem Sound.active?_ok (hr : r.Sound) (h : r.active.isSome) :
    ∃ a, r.active? = .ok a := by
  obtain ⟨key, hkey⟩ := Option.isSome_iff_exists.mp h
  obtain ⟨e, id, he, hid⟩ := hr.active key hkey
  refine ⟨⟨e.displayName, id, e.policy.getD (r.backend id).retryPolicy⟩, ?_⟩
  rw [active?, hkey, Option.bind_some, he]
  dsimp only
  rw [hid]

/-- An activation that succeeds makes the provider the active one. -/
theorem active_of_activateWith {mk : Making} {name : String} {again : Nat}
    (h : (activateWith mk name again r).2 = .ok ()) :
    (activateWith mk name again r).1.active = some (keyOf name) := by
  fun_induction activateWith mk name again r with
  | case2 again r e hfind id hid => rfl
  | case5 again r e hfind hnone r₁ id hmake r₂ accepted hprep hacc now hnow hsame => rfl
  | case7 r e hfind hnone r₁ id hmake r₂ accepted hprep hacc now hnow hother again ih => exact ih h
  | _ => cases h

theorem registerWith_ne_noActiveProvider {mk : Making} {name : String} {source : Source} {n : Nat}
    {again : Nat} : (registerWith mk name source n again r).2 ≠ .error .noActiveProvider := by
  fun_induction registerWith mk name source n again r with
  | case4 r hact previous r₁ id hmake options r₂ accepted hprep hacc hact' again ih => exact ih
  | _ => simp

theorem activateWith_ne_noActiveProvider {mk : Making} {name : String} {again : Nat} :
    (activateWith mk name again r).2 ≠ .error .noActiveProvider := by
  fun_induction activateWith mk name again r with
  | case7 r e hfind hnone r₁ id hmake r₂ accepted hprep hacc now hnow hother again ih => exact ih
  | _ => simp

theorem prepareWith_ne_noActiveProvider {mk : Making} {name : String} {o : Options} {again : Nat} :
    (prepareWith mk name o again r).2 ≠ .error .noActiveProvider := by
  fun_induction prepareWith mk name o again r with
  | case6 r e hfind r₁ id hmake r₂ accepted hprep hacc now hnow hother again ih => exact ih
  | _ => simp

theorem errorOf_eq_some_iff {α : Type} {x : Except Error α} {e : Error} :
    errorOf x = some e ↔ x = .error e := by
  cases x <;> simp [errorOf]

theorem errorOf_eq_none_iff {x : Except Error Unit} : errorOf x = none ↔ x = .ok () := by
  cases x <;> simp [errorOf]

/-- **With an active provider** nothing is refused for want of one. -/
theorem perform_ne_noActiveProvider (hr : r.Sound) (h : r.active.isSome) (op : Operation) :
    (r.perform op).2 ≠ some .noActiveProvider := by
  obtain ⟨a, ha⟩ := hr.active?_ok h
  have hb : r.activeBackend? = .ok (r.backend a.backend) := by
    rw [activeBackend?, ha]
    rfl
  cases op with
  -- These three look a provider up by its name and never ask for the active one.
  | register name source =>
    exact fun hop => registerWith_ne_noActiveProvider (errorOf_eq_some_iff.mp hop)
  | prepare name o =>
    exact fun hop => prepareWith_ne_noActiveProvider (errorOf_eq_some_iff.mp hop)
  | activate name =>
    exact fun hop => activateWith_ne_noActiveProvider (errorOf_eq_some_iff.mp hop)
  -- The others ask for it and find it.
  | setPolicy name p =>
    simp only [perform, report, setPolicy]
    split <;> simp [errorOf]
  | setModel id =>
    simp only [perform, report, setModel, ha]
    split_ifs
    · simp [errorOf]
    · split <;> simp [errorOf]
  | setTemplate id =>
    simp only [perform, report, setTemplate, ha]
    split_ifs
    · simp [errorOf]
    · split <;> simp [errorOf]
  | setOptions o => simp [perform, report, setOptions, ha, errorOf]
  | complete messages tools =>
    simp only [perform, report, complete, ha]
    split <;> simp [errorOf]
  | embed text =>
    simp only [perform, report, embed, ha]
    split <;> simp [errorOf]
  | ask q =>
    cases q <;>
      simp [perform, askError, models?, model?, templates?, template?, options?, hb, Except.map,
        errorOf]
  | _ => simp [perform]

/-! ### Runs from the start -/

/-- The registry after a run from the start. -/
def after (enabled : Bool) (statistics : Retry.Statistics) (draws : Nat → Float)
    (ops : List Operation) : Registry :=
  (start enabled statistics draws).performAll ops

theorem after_append (enabled : Bool) (statistics : Retry.Statistics) (draws : Nat → Float)
    (ops ops' : List Operation) :
    after enabled statistics draws (ops ++ ops') =
      (after enabled statistics draws ops).performAll ops' :=
  performAll_append ..

theorem after_sound (enabled : Bool) (statistics : Retry.Statistics) (draws : Nat → Float)
    (ops : List Operation) : (after enabled statistics draws ops).Sound :=
  (performAll_sound ops (sound_start enabled statistics draws)).1

/-- A registry that some run leads to. -/
def Reachable (r : Registry) : Prop :=
  ∃ enabled statistics draws ops, r = after enabled statistics draws ops

theorem Reachable.sound (h : r.Reachable) : r.Sound := by
  obtain ⟨enabled, statistics, draws, ops, rfl⟩ := h
  exact after_sound enabled statistics draws ops

/-- A provider that is registered stays so, though another one may take its place. -/
theorem Sound.registered (hr : r.Sound) (ops : List Operation) {name : String}
    (h : (r.find? name).isSome) : ((r.performAll ops).find? name).isSome :=
  (performAll_sound ops hr).2.entries (keyOf name) h

/-- There is at most one entry for a name, whatever the case of its letters. -/
theorem Sound.eq_of_keyOf_eq (hr : r.Sound) {x y : String × Entry} (hx : x ∈ r.entries.entries)
    (hy : y ∈ r.entries.entries) (h : keyOf x.2.displayName = keyOf y.2.displayName) : x = y := by
  obtain ⟨key, e⟩ := x
  obtain ⟨key', e'⟩ := y
  have hx := Dictionary.find?_eq_some_iff.mpr hx
  have hy := Dictionary.find?_eq_some_iff.mpr hy
  obtain rfl : key = key' := (hr.keyed key e hx).trans (h.trans (hr.keyed key' e' hy).symm)
  rw [Option.some.inj (hx.symm.trans hy)]

/-- After an activation that has succeeded there is always an active provider. -/
theorem Sound.active_of_activate (hr : r.Sound) {name : String}
    (h : (r.perform (.activate name)).2 = none) (ops : List Operation) :
    (r.performAll (.activate name :: ops)).active.isSome := by
  have hkey : (r.perform (.activate name)).1.active = some (keyOf name) :=
    active_of_activateWith (errorOf_eq_none_iff.mp h)
  obtain ⟨_, hg⟩ := performAll_sound ops (perform_sound (.activate name) hr).1
  exact hg.active (Option.isSome_of_mem hkey)

/-- A registration leaves traces in one entry only, at all times: what comes from it later is under
the same key and has the same source, so an entry that has been replaced does not come back. -/
theorem Sound.same_registration (hr : r.Sound) (ops : List Operation) {key key' : String}
    {e e' : Entry} (he : r.entries.find? key = some e)
    (he' : (r.performAll ops).entries.find? key' = some e')
    (heq : e'.registration = e.registration) :
    key = key' ∧ e.source = e'.source := by
  obtain ⟨_, hg⟩ := performAll_sound ops hr
  obtain ⟨e₀, he₀, heq₀, hsource⟩ := hg.old key' e' he' (heq ▸ hr.numbered key e he)
  obtain rfl : key = key' := hr.distinct key e key' e₀ he he₀ (heq.symm.trans heq₀.symm)
  obtain rfl : e = e₀ := Option.some.inj (he.symm.trans he₀)
  exact ⟨rfl, hsource⟩

/-- **What a registry always is.**  After every run from the start, whatever the makers have done
with the registry meanwhile:

* the key of an entry is its name in lower case without blanks around it, so there is at most one
  entry for a name;
* an entry belongs to one registration, which no other entry belongs to, then or at any earlier
  moment, unless it is the same entry with the same source;
* the backend of an entry was given by the source of this entry for its registration, and it has let
  itself be prepared;
* the active provider has an entry with a backend.

Once an activation has succeeded, no operation is ever refused for want of an active provider. -/
theorem performAll_representation (enabled : Bool) (statistics : Retry.Statistics)
    (draws : Nat → Float) (ops : List Operation) :
    let r := after enabled statistics draws ops
    (∀ key e, (key, e) ∈ r.entries.entries → key = keyOf e.displayName) ∧
    (∀ x ∈ r.entries.entries, ∀ y ∈ r.entries.entries,
      keyOf x.2.displayName = keyOf y.2.displayName → x = y) ∧
    (∀ before rest, ops = before ++ rest →
      ∀ x ∈ (after enabled statistics draws before).entries.entries, ∀ y ∈ r.entries.entries,
        y.2.registration = x.2.registration → x.1 = y.1 ∧ x.2.source = y.2.source) ∧
    (∀ key e id, (key, e) ∈ r.entries.entries → e.backend = some id →
      ⟨e.registration, e.source, id⟩ ∈ r.deliveries ∧ (r.backend id).prepared = true) ∧
    (∀ key, r.active = some key → ∃ e, (key, e) ∈ r.entries.entries ∧ e.backend.isSome) ∧
    (∀ before name rest, ops = before ++ .activate name :: rest →
      ((after enabled statistics draws before).perform (.activate name)).2 = none →
      ∀ op, (r.perform op).2 ≠ some .noActiveProvider) := by
  intro r
  have hr : r.Sound := after_sound enabled statistics draws ops
  refine ⟨fun key e he => hr.keyed key e (Dictionary.find?_eq_some_iff.mpr he), ?_, ?_,
    fun key e id he hid => hr.ready key e id (Dictionary.find?_eq_some_iff.mpr he) hid, ?_, ?_⟩
  · exact fun x hx y hy => hr.eq_of_keyOf_eq hx hy
  · rintro before rest hops ⟨key, e⟩ hx ⟨key', e'⟩ hy heq
    have hx := Dictionary.find?_eq_some_iff.mpr hx
    have hy : r.entries.find? key' = some e' := Dictionary.find?_eq_some_iff.mpr hy
    -- From any point of the run to its end a registration stands for one source.
    have hsplit : r = (after enabled statistics draws before).performAll rest := by
      rw [← after_append, ← hops]
    rw [hsplit] at hy
    exact (after_sound enabled statistics draws before).same_registration rest hx hy heq
  · intro key hkey
    obtain ⟨e, id, he, hid⟩ := hr.active key hkey
    exact ⟨e, Dictionary.find?_eq_some_iff.mp he, Option.isSome_iff_exists.mpr ⟨id, hid⟩⟩
  · intro before name rest hops hok op
    -- Once a provider has been active, there is always one.
    have hactive := (after_sound enabled statistics draws before).active_of_activate hok rest
    rw [← after_append, ← hops] at hactive
    exact perform_ne_noActiveProvider hr hactive op

end Colloquy.Registry
