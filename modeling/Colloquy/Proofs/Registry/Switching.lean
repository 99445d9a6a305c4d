import Colloquy.Proofs.Registry.Apart

/-!
# Switching between providers

A provider keeps its backend until it is registered anew, and its source is not asked for another
one.  While it is not active, nothing that is done to other providers changes its backend, so a
provider that is left and activated again is as it was.

* `Serves.perform`, `Serves.target?_iff`: what one operation does to a provider that has a backend;
* `Serves.backend_performAll`, `Serves.performAll`: what a run does;
* `switching_lossless`: the conclusion for every run from the start.
-/

namespace Colloquy.Registry

open Provider (Backend)

variable {r r' : Registry} {key name : String} {e : Entry} {id : BackendId}

/-! ### A provider that has its backend -/

/-- Whether the provider under a key has got a backend, for the registration with a number. -/
def Serves (r : Registry) (key : String) (n : Nat) (source : Source) (id : BackendId) : Prop :=
  ∃ e, r.entries.find? key = some e ∧ e.registration = n ∧ e.source = source ∧ e.backend = some id

variable {n : Nat} {source : Source} {op : Operation}

/-- The backend is kept. -/
theorem Serves.perform (hserves : r.Serves key n source id) (h : r.Apart) (htidy : r.Tidy op)
    (hreg : ¬r.Registers key op) : (r.perform op).1.Serves key n source id := by
  obtain ⟨e, he, rfl, rfl, hid⟩ := hserves
  have hbears := perform_bears h htidy
  by_cases htarget : r.target? op = some key
  · exact (hbears.kept key e id htarget he hid).resolve_left hreg
  · exact ⟨e, (hbears.others key htarget).trans he, rfl, rfl, hid⟩

/-- A backend that is changed is the one of the provider that the operation is about, and only
that. -/
theorem Serves.target?_iff (hserves : r.Serves key n source id) (h : r.Apart) (htidy : r.Tidy op)
    (hreg : ¬r.Registers key op) {j : BackendId} (hj : j < r.backends.length)
    (houtside : ¬op.Touches j) (hchanged : (r.perform op).1.backend j ≠ r.backend j) :
    r.target? op = some key ↔ j = id := by
  obtain ⟨e', he', -, -, hid⟩ := hserves.perform h htidy hreg
  obtain ⟨key', e, htarget, he, hbackend⟩ :=
    ((perform_bears h htidy).changed j hj hchanged).resolve_left houtside
  constructor
  · intro hkey
    obtain rfl := Option.some.inj (htarget.symm.trans hkey)
    obtain rfl := Option.some.inj (he.symm.trans he')
    exact Option.some.inj (hbackend.symm.trans hid)
  · rintro rfl
    by_contra hother
    -- Otherwise two providers would use this backend afterwards.
    have hne : key ≠ key' := fun heq => hother (heq ▸ htarget)
    exact ((perform_apart h htidy).fits key' e he).apart key e' j hne he' (.inl hbackend) (.inl hid)

/-- What is not about the provider leaves its backend as it is. -/
theorem Serves.backend_perform (hserves : r.Serves key n source id) (h : r.Apart)
    (htidy : r.Tidy op) (htarget : r.target? op ≠ some key) (houtside : ¬op.Touches id) :
    (r.perform op).1.backend id = r.backend id := by
  by_contra hchanged
  obtain ⟨e, he, -, -, hid⟩ := hserves
  have hreg : ¬r.Registers key op := by
    rintro ⟨name, source, rfl, rfl, -⟩
    exact htarget rfl
  have hlt := (h.fits key e he).there id (.inl hid)
  exact htarget ((Serves.target?_iff ⟨e, he, rfl, rfl, hid⟩ h htidy hreg hlt houtside hchanged).mpr
    rfl)

/-- Its source is not asked for another one. -/
theorem Serves.deliveries_perform (hserves : r.Serves key n source id) (hs : r.Sound) (h : r.Apart)
    (htidy : r.Tidy op) :
    (r.perform op).1.deliveries.filter (·.registration = n) =
      r.deliveries.filter (·.registration = n) := by
  obtain ⟨e, he, rfl, -, hid⟩ := hserves
  obtain ⟨new, hnew, hall⟩ := (perform_bears h htidy).deliveries
  rw [hnew, List.filter_append, List.append_right_eq_self, List.filter_eq_nil_iff]
  intro d hd
  simp only [decide_eq_true_eq]
  intro hnumber
  rcases hall d hd with hnext | ⟨key', e', he', hnone, hnumber'⟩
  · exact (hs.numbered key e he).ne (hnumber.symm.trans hnext)
  · obtain rfl := hs.distinct key e key' e' he he' (hnumber.symm.trans hnumber')
    obtain rfl := Option.some.inj (he.symm.trans he')
    rw [hid] at hnone
    cases hnone

/-- Requests to the provider go to its backend. -/
theorem Serves.active? (hserves : r.Serves key n source id) (hactive : r.active = some key) :
    ∃ a, r.active? = .ok a ∧ a.backend = id := by
  obtain ⟨e, he, -, -, hid⟩ := hserves
  refine ⟨⟨e.displayName, id, e.policy.getD (r.backend id).retryPolicy⟩, ?_, rfl⟩
  rw [Registry.active?, hactive, Option.bind_some, he]
  dsimp only
  rw [hid]

/-- A provider that has a backend is activated without more ado. -/
theorem Serves.activate (hserves : r.Serves key n source id) (hname : keyOf name = key) :
    (r.activate name).2 = .ok () ∧ (r.activate name).1.activeBackend? = .ok (r.backend id) := by
  subst hname
  obtain ⟨e, he, hn, hsource, hid⟩ := hserves
  let r' : Registry :=
    ({ r with active := some (keyOf name) } : Registry).tellProvider e.displayName
  have hactivate : r.activate name = (r', .ok ()) := by
    rw [Registry.activate, activateWith, show r.find? name = _ from he]
    dsimp only
    rw [hid]
  have hserves' : r'.Serves (keyOf name) n source id := ⟨e, he, hn, hsource, hid⟩
  obtain ⟨a, ha, ha'⟩ := hserves'.active? rfl
  rw [hactivate]
  refine ⟨rfl, ?_⟩
  rw [activeBackend?, ha, ← ha']
  rfl

/-! ### The active provider -/

/-- Only an activation makes another provider the active one. -/
theorem perform_active (hquiet : r.pending = 0) (hop : ∀ name, op ≠ .activate name) :
    (r.perform op).1.active = r.active := by
  cases op with
  | activate name => exact absurd rfl (hop name)
  -- Only an activation changes which provider is active, also where makers are at work.
  | register name source =>
    change (r.register name source).1.active = r.active
    cases hx : (r.register name source).2 with
    | error error => exact congrArg Books.active (register_error hquiet hx).books
    | ok =>
      obtain ⟨backend, hbooks⟩ := register_ok hquiet hx
      exact congrArg Books.active hbooks
  | prepare name o =>
    change (r.prepare name o).1.active = r.active
    cases hx : (r.prepare name o).2 with
    | error error => exact congrArg Books.active (prepare_error hquiet hx).books
    | ok => exact congrArg Books.active (prepare_ok hquiet hx)
  | setPolicy name p =>
    change (r.setPolicy name p).1.active = r.active
    rw [setPolicy]
    split <;> rfl
  | setModel id => exact (quiet_setModel r id).active
  | setTemplate id => exact (quiet_setTemplate r id).active
  | setOptions o => exact (quiet_setOptions r o).active
  | listen kind answer => exact (quiet_listen r kind answer).active
  | unlisten id => exact (quiet_unlisten r id).active
  | complete messages tools => exact (quiet_complete r messages tools).active
  | embed text => exact (quiet_embed r text).active
  | _ => rfl

/-- An activation of another provider leaves a provider inactive. -/
theorem activate_active_ne (hquiet : r.pending = 0) (hname : keyOf name ≠ key)
    (hactive : r.active ≠ some key) : (r.activate name).1.active ≠ some key := by
  cases hx : (r.activate name).2 with
  | error error =>
    have hsame : (r.activate name).1.active = r.active :=
      congrArg Books.active (activate_error hquiet hx).books
    rwa [hsame]
  | ok =>
    have hother : (r.activate name).1.active = some (keyOf name) := active_of_activateWith hx
    rw [hother]
    exact fun h => hname (Option.some.inj h)

/-! ### Runs -/

/-- Whether something holds of each operation of a run, in the state that it meets. -/
def Throughout (P : Registry → Operation → Prop) (r : Registry) : List Operation → Prop
  | [] => True
  | op :: ops => P r op ∧ (r.perform op).1.Throughout P ops

theorem performAll_apart {ops : List Operation} (h : r.Apart) (hops : r.Throughout Tidy ops) :
    (r.performAll ops).Apart := by
  induction ops generalizing r with
  | nil => exact h
  | cons op ops ih => exact ih (perform_apart h hops.1) hops.2

/-- Whether an operation registers, prepares or activates the provider under a key. -/
def Operation.Names (key : String) : Operation → Prop
  | .register name _ => keyOf name = key
  | .prepare name _ => keyOf name = key
  | .activate name => keyOf name = key
  | _ => False

theorem not_registers_of_not_names (hop : ¬op.Names key) : ¬r.Registers key op := by
  rintro ⟨name, source, rfl, hkey, -⟩
  exact hop hkey

/-- An operation that does not name an inactive provider is not about its backend. -/
theorem Serves.backend_perform_of_not_names (hserves : r.Serves key n source id) (h : r.Apart)
    (htidy : r.Tidy op) (hactive : r.active ≠ some key) (hop : ¬op.Names key)
    (houtside : ¬op.Touches id) : (r.perform op).1.backend id = r.backend id := by
  have hother : ∀ name, keyOf name ≠ key → some (keyOf name) ≠ some key :=
    fun name hname heq => hname (Option.some.inj heq)
  cases op with
  | setPolicy name p =>
    -- It may be about this provider, but not about the backend.
    have hbackends : (r.setPolicy name p).1.backends = r.backends := by
      rw [setPolicy]
      split <;> rfl
    exact congrArg (fun bs : List Backend => bs[id]?.getD default) hbackends
  | register name source => exact hserves.backend_perform h htidy (hother name hop) houtside
  | prepare name o => exact hserves.backend_perform h htidy (hother name hop) houtside
  | activate name => exact hserves.backend_perform h htidy (hother name hop) houtside
  | setModel _ | setTemplate _ | setOptions _ | complete _ _ | embed _ | ask _ =>
    exact hserves.backend_perform h htidy hactive houtside
  | _ => exact hserves.backend_perform h htidy (Option.some_ne_none key).symm houtside

theorem perform_active_ne (hquiet : r.pending = 0) (hop : ¬op.Names key)
    (hactive : r.active ≠ some key) : (r.perform op).1.active ≠ some key := by
  by_cases hactivate : ∀ name, op ≠ .activate name
  · rwa [perform_active hquiet hactivate]
  · push Not at hactivate
    obtain ⟨name, rfl⟩ := hactivate
    exact activate_active_ne hquiet hop hactive

/-- While a provider is not active, and neither named nor changed from outside, its backend stays as
it is. -/
theorem Serves.backend_performAll {ops : List Operation} (hserves : r.Serves key n source id)
    (h : r.Apart) (htidy : r.Throughout Tidy ops) (hactive : r.active ≠ some key)
    (hops : ∀ op ∈ ops, ¬op.Names key ∧ ¬op.Touches id) :
    (r.performAll ops).Serves key n source id ∧ (r.performAll ops).backend id = r.backend id := by
  induction ops generalizing r with
  | nil => exact ⟨hserves, rfl⟩
  | cons op ops ih =>
    obtain ⟨⟨hop, houtside⟩, hops⟩ := List.forall_mem_cons.mp hops
    have hbackend := hserves.backend_perform_of_not_names h htidy.1 hactive hop houtside
    have hserves' := hserves.perform h htidy.1 (not_registers_of_not_names hop)
    obtain ⟨hlast, hrest⟩ := ih hserves' (perform_apart h htidy.1) htidy.2
      (perform_active_ne h.quiet hop hactive) hops
    exact ⟨hlast, hrest.trans hbackend⟩

/-- Without a registration under its key a provider keeps its backend, and its source is not asked
for another one. -/
theorem Serves.performAll {ops : List Operation} (hserves : r.Serves key n source id)
    (hs : r.Sound) (h : r.Apart) (hops : r.Throughout
      (fun r op => r.Tidy op ∧ ¬r.Registers key op) ops) :
    (r.performAll ops).Serves key n source id ∧ (r.performAll ops).Apart ∧
      (r.performAll ops).deliveries.filter (·.registration = n) =
        r.deliveries.filter (·.registration = n) := by
  induction ops generalizing r with
  | nil => exact ⟨hserves, h, rfl⟩
  | cons op ops ih =>
    obtain ⟨⟨htidy, hreg⟩, hops⟩ := hops
    obtain ⟨hlast, hapart, hrest⟩ := ih (hserves.perform h htidy hreg) (perform_sound op hs).1
      (perform_apart h htidy) hops
    exact ⟨hlast, hapart, hrest.trans (hserves.deliveries_perform hs h htidy)⟩

theorem Serves.activeBackend? (hserves : r.Serves key n source id)
    (hactive : r.active = some key) : r.activeBackend? = .ok (r.backend id) := by
  obtain ⟨a, ha, rfl⟩ := hserves.active? hactive
  rw [Registry.activeBackend?, ha]
  rfl

/-- A provider that is left and activated again has the backend that it had. -/
theorem Serves.activate_again {other again : String} {away : List Operation}
    (hserves : r.Serves key n source id) (h : r.Apart) (hother : keyOf other ≠ key)
    (hleft : (r.perform (.activate other)).2 = none)
    (htidy : r.Throughout Tidy (.activate other :: away))
    (haway : ∀ op ∈ away, ¬op.Names key ∧ ¬op.Touches id) (hagain : keyOf again = key) :
    let t := r.performAll (.activate other :: away)
    (t.perform (.activate again)).2 = none ∧
      (t.perform (.activate again)).1.activeBackend? = .ok (r.backend id) := by
  intro t
  let r' := (r.perform (.activate other)).1
  have hactive : r'.active = some (keyOf other) :=
    active_of_activateWith (errorOf_eq_none_iff.mp hleft)
  have hinactive : r'.active ≠ some key := by
    rw [hactive]
    exact fun heq => hother (Option.some.inj heq)
  have hserves' : r'.Serves key n source id :=
    hserves.perform h htidy.1 (not_registers_of_not_names hother)
  have htarget : r.target? (.activate other) ≠ some key := fun heq => hother (Option.some.inj heq)
  have houtside : ¬(Operation.activate other).Touches id := fun h => h
  have hleaving : r'.backend id = r.backend id :=
    hserves.backend_perform h htidy.1 htarget houtside
  obtain ⟨hlast, hbackend⟩ :=
    hserves'.backend_performAll (perform_apart h htidy.1) htidy.2 hinactive haway
  obtain ⟨hok, hactivated⟩ := hlast.activate hagain
  exact ⟨errorOf_eq_none_iff.mpr hok, hactivated.trans (by rw [hbackend, hleaving])⟩

/-- **Switching between providers loses nothing.**  Let a run from the start keep the providers
apart and give one of them its backend, and let the run go on without another registration of this
provider.  Then, at any time:

* The provider has its backend still.  Requests go there when the provider is active, and its source
  has not been asked for another one.
* An operation that is about the provider changes no other backend, and one that is not about it
  does not change this one, unless somebody else does.
* Let the provider be active and another one be activated.  Whatever is done meanwhile to others, if
  it is neither registered nor prepared before it is activated again, it is activated and is as it
  was when it was left: its options, its model, its template, its script and all it has noted. -/
theorem switching_lossless {enabled : Bool} {statistics : Retry.Statistics} {draws : Nat → Float}
    {before during : List Operation} {name : String} {e : Entry} {id : BackendId}
    (hbefore : (start enabled statistics draws).Throughout Tidy before)
    (he : (after enabled statistics draws before).find? name = some e) (hid : e.backend = some id)
    (hduring : (after enabled statistics draws before).Throughout
      (fun r op => r.Tidy op ∧ ¬r.Registers (keyOf name) op) during) :
    let key := keyOf name
    let r := after enabled statistics draws before
    let s := r.performAll during
    ((∃ now, s.find? name = some now ∧ now.registration = e.registration ∧
        now.source = e.source ∧ now.backend = some id) ∧
      (s.active = some key → s.active?.map Active.backend = .ok id) ∧
      s.deliveries.filter (·.registration = e.registration) =
        r.deliveries.filter (·.registration = e.registration)) ∧
    (∀ op, s.Tidy op → ¬s.Registers key op → ∀ j < s.backends.length, ¬op.Touches j →
      (s.perform op).1.backend j ≠ s.backend j → (s.target? op = some key ↔ j = id)) ∧
    ∀ other away again, s.active = some key → keyOf other ≠ key →
      (s.perform (.activate other)).2 = none → s.Throughout Tidy (.activate other :: away) →
      (∀ op ∈ away, ¬op.Names key ∧ ¬op.Touches id) → keyOf again = key →
      let t := s.performAll (.activate other :: away)
      (t.perform (.activate again)).2 = none ∧
        (t.perform (.activate again)).1.activeBackend? = s.activeBackend? := by
  intro key r s
  -- The registration with its source and its backend is what the operations keep.
  have hserves : r.Serves key e.registration e.source id := ⟨e, he, rfl, rfl, hid⟩
  have hsound : r.Sound := after_sound ..
  have hstart : r.Apart := performAll_apart (apart_start ..) hbefore
  obtain ⟨hserves', hapart, hdeliveries⟩ := hserves.performAll hsound hstart hduring
  refine ⟨⟨hserves', fun hactive => ?_, hdeliveries⟩, fun op htidy hreg j hj houtside hchanged =>
    hserves'.target?_iff hapart htidy hreg hj houtside hchanged,
    fun other away again hactive hother hleft htidy haway hagain => ?_⟩
  · obtain ⟨a, ha, rfl⟩ := hserves'.active? hactive
    rw [ha]
    rfl
  · rw [hserves'.activeBackend? hactive]
    exact hserves'.activate_again hapart hother hleft htidy haway hagain

/-- Two providers, one with a backend that is there and one with a maker, which is active. -/
def pair : List Operation :=
  [.addBackend (.named "b"), .register "b" (.shared 0), .takeMaker ⟨.named "a", 0, [], [], []⟩,
    .register "a" (.made 0), .activate "a"]

/-- The model that was chosen for a provider is still chosen after another one has been active. -/
theorem switching_lossless_pair :
    let r := after true .empty (fun _ => 0.5) pair
    let during : List Operation := [.setModel "mock-large"]
    let away : List Operation := [.setTemplate "code", .activate "c", .prepare "B" {}]
    let t := (r.performAll during).performAll (.activate "b" :: away)
    (start true .empty fun _ => 0.5).Throughout Tidy pair ∧
      (∃ e, r.find? "a" = some e ∧ e.backend = some 1) ∧
      r.Throughout (fun r op => r.Tidy op ∧ ¬r.Registers (keyOf "a") op) during ∧
      (t.perform (.activate " A")).1.activeBackend?.map (·.currentModel.id) =
        .ok "mock-large" := by
  intro r during away t
  have hbefore : (start true .empty fun _ => 0.5).Throughout Tidy pair :=
    ⟨trivial, fun _ => ⟨by decide, fun _ _ _ he => nomatch he⟩,
      ⟨rfl, fun _ hp => absurd hp List.not_mem_nil⟩, trivial, trivial, trivial⟩
  have hfind : r.find? "a" = some ⟨"a", .made 0, 1, some 1, none⟩ := by rfl
  have hduring : r.Throughout (fun r op => r.Tidy op ∧ ¬r.Registers (keyOf "a") op) during :=
    ⟨⟨trivial, fun ⟨_, _, hop, _⟩ => nomatch hop⟩, trivial⟩
  have haway : ∀ op ∈ away, ¬op.Names (keyOf "a") ∧ ¬op.Touches 1 := by
    simp only [away, List.forall_mem_cons, Operation.Names, Operation.Touches]
    exact ⟨⟨not_false, not_false⟩, ⟨by decide +kernel, not_false⟩, ⟨by decide +kernel, not_false⟩,
      fun _ hop => absurd hop List.not_mem_nil⟩
  obtain ⟨-, -, hagain⟩ := switching_lossless hbefore hfind rfl hduring
  obtain ⟨-, hbackend⟩ := hagain "b" away " A" rfl (by decide +kernel) rfl
    ⟨trivial, trivial, trivial, trivial, trivial⟩ haway (by decide +kernel)
  refine ⟨hbefore, ⟨_, hfind, rfl⟩, hduring, ?_⟩
  rw [hbackend]
  rfl

end Colloquy.Registry
