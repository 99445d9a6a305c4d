import Colloquy.Proofs.Registry.Operation
import Mathlib.Order.Nat
import Mathlib.Tactic.ByContra
import Mathlib.Tactic.SplitIfs

/-!
# The invariant of a registry

`Sound` says what holds of a registry whatever has happened to it, `Grows` what happens to one
between two moments, seen from the first.  A maker that is at work may do a lot with the registry,
so an operation that has waited for a maker knows no more than these two about what it finds.

* `Quiet` changes leave the entries and the active provider alone: `Quiet.sound`, `Quiet.grows`;
* `Sound.setEntry` and `grows_setEntry` are about an entry that is set, `Sound.setActive` and
  `grows_setActive` about a provider that becomes active.
-/

namespace Colloquy.Registry

open Provider (Backend Options)

/-! ### Sound registries -/

/-- A backend that the source of a registration has given and that has let itself be prepared. -/
def Ready (r : Registry) (registration : Nat) (source : Source) (id : BackendId) : Prop :=
  ⟨registration, source, id⟩ ∈ r.deliveries ∧ (r.backend id).prepared = true

/-- What holds of a registry between two operations, whatever has happened to it. -/
structure Sound (r : Registry) : Prop where
  /-- A provider is found under its name in lower case without blanks around it. -/
  keyed : ∀ key e, r.entries.find? key = some e → key = keyOf e.displayName
  /-- Registrations are numbered in order. -/
  numbered : ∀ key e, r.entries.find? key = some e → e.registration < r.nextRegistration
  /-- No two entries come from the same registration. -/
  distinct : ∀ key e key' e', r.entries.find? key = some e → r.entries.find? key' = some e' →
    e.registration = e'.registration → key = key'
  /-- The backend of an entry was given by the source of the entry, for the registration that the
  entry comes from, and it has let itself be prepared. -/
  ready : ∀ key e id, r.entries.find? key = some e → e.backend = some id →
    r.Ready e.registration e.source id
  /-- The active provider is there and has a backend. -/
  active : ∀ key, r.active = some key →
    ∃ e id, r.entries.find? key = some e ∧ e.backend = some id

theorem sound_start (enabled : Bool) (statistics : Retry.Statistics) (draws : Nat → Float) :
    (start enabled statistics draws).Sound where
  keyed _ _ h := by cases h
  numbered _ _ h := by cases h
  distinct _ _ _ _ h := by cases h
  ready _ _ _ h := by cases h
  active _ h := by cases h

/-! ### Growth -/

/-- What no operation undoes: backends stay, with their numbers and prepared if they were, entries
may be replaced but are not removed, and a registry with an active provider keeps one.  An entry
that comes from a registration before the `n`-th was there before, with the same source. -/
structure Grows (n : Nat) (r r' : Registry) : Prop where
  backends : r.backends.length ≤ r'.backends.length
  prepared : ∀ id, (r.backend id).prepared = true → (r'.backend id).prepared = true
  deliveries : r.deliveries ⊆ r'.deliveries
  registrations : r.nextRegistration ≤ r'.nextRegistration
  entries : ∀ key, (r.entries.find? key).isSome → (r'.entries.find? key).isSome
  old : ∀ key e', r'.entries.find? key = some e' → e'.registration < n →
    ∃ e, r.entries.find? key = some e ∧ e.registration = e'.registration ∧ e.source = e'.source
  active : r.active.isSome → r'.active.isSome

variable {r r' r'' : Registry} {n m : Nat}

theorem Grows.refl (n : Nat) (r : Registry) : Grows n r r :=
  ⟨le_rfl, fun _ h => h, fun _ h => h, le_rfl, fun _ h => h, fun _ e h _ => ⟨e, h, rfl, rfl⟩,
    fun h => h⟩

theorem Grows.trans (h : Grows n r r') (h' : Grows m r' r'') (hnm : n ≤ m) : Grows n r r'' where
  backends := h.backends.trans h'.backends
  prepared id hid := h'.prepared id (h.prepared id hid)
  deliveries _ hx := h'.deliveries (h.deliveries hx)
  registrations := h.registrations.trans h'.registrations
  entries key hkey := h'.entries key (h.entries key hkey)
  old key e'' he'' hn := by
    obtain ⟨e', he', heq', hsource'⟩ := h'.old key e'' he'' (hn.trans_le hnm)
    obtain ⟨e, he, heq, hsource⟩ := h.old key e' he' (heq' ▸ hn)
    exact ⟨e, he, heq.trans heq', hsource.trans hsource'⟩
  active ha := h'.active (h.active ha)

theorem Grows.mono (h : Grows n r r') (hmn : m ≤ n) : Grows m r r' :=
  { h with old := fun key e' he' hm => h.old key e' he' (hm.trans_le hmn) }

theorem Ready.grows {k : Nat} {source : Source} {id : BackendId} (h : r.Ready k source id)
    (hg : Grows n r r') : r'.Ready k source id :=
  ⟨hg.deliveries h.1, hg.prepared id h.2⟩

/-- An entry that still comes from an old registration still has its source. -/
theorem Grows.source_eq (hg : Grows n r r') {key : String} {e now : Entry}
    (he : r.entries.find? key = some e) (hnow : r'.entries.find? key = some now)
    (hsame : now.registration = e.registration) (hn : e.registration < n) :
    now.source = e.source := by
  obtain ⟨e', he', _, hsource⟩ := hg.old key now hnow (hsame ▸ hn)
  obtain rfl : e' = e := Option.some.inj (he'.symm.trans he)
  exact hsource.symm

/-! ### Changes behind the entries -/

/-- A change that leaves the entries and the active provider as they are. -/
structure Quiet (r r' : Registry) : Prop where
  entries : r'.entries = r.entries
  active : r'.active = r.active
  registrations : r'.nextRegistration = r.nextRegistration
  backends : r.backends.length ≤ r'.backends.length
  prepared : ∀ id, (r.backend id).prepared = true → (r'.backend id).prepared = true
  deliveries : r.deliveries ⊆ r'.deliveries

theorem Quiet.refl (r : Registry) : Quiet r r :=
  ⟨rfl, rfl, rfl, le_rfl, fun _ h => h, fun _ h => h⟩

theorem Quiet.trans (h : Quiet r r') (h' : Quiet r' r'') : Quiet r r'' :=
  ⟨h'.entries.trans h.entries, h'.active.trans h.active, h'.registrations.trans h.registrations,
    h.backends.trans h'.backends, fun id hid => h'.prepared id (h.prepared id hid),
    fun _ hx => h'.deliveries (h.deliveries hx)⟩

/-- Listeners, makers and what is noted of requests do not count. -/
theorem Quiet.congr (h : Quiet r r') (hentries : r''.entries = r'.entries)
    (hactive : r''.active = r'.active) (hreg : r''.nextRegistration = r'.nextRegistration)
    (hbackends : r''.backends = r'.backends) (hdeliveries : r''.deliveries = r'.deliveries) :
    Quiet r r'' where
  entries := hentries.trans h.entries
  active := hactive.trans h.active
  registrations := hreg.trans h.registrations
  backends := by
    rw [hbackends]
    exact h.backends
  prepared id hid := by
    rw [backend, hbackends]
    exact h.prepared id hid
  deliveries := by
    rw [hdeliveries]
    exact h.deliveries

theorem Quiet.grows (h : Quiet r r') (n : Nat) : Grows n r r' where
  backends := h.backends
  prepared := h.prepared
  deliveries := h.deliveries
  registrations := h.registrations.ge
  entries key hkey := by rwa [h.entries]
  old key e' he' _ := ⟨e', h.entries ▸ he', rfl, rfl⟩
  active ha := by rwa [h.active]

theorem Quiet.sound (h : Quiet r r') (hr : r.Sound) : r'.Sound where
  keyed key e he := hr.keyed key e (h.entries ▸ he)
  numbered key e he := by
    rw [h.registrations]
    exact hr.numbered key e (h.entries ▸ he)
  distinct key e key' e' he he' := hr.distinct key e key' e' (h.entries ▸ he) (h.entries ▸ he')
  ready key e id he hid := (hr.ready key e id (h.entries ▸ he) hid).grows (h.grows 0)
  active key hkey := by
    rw [h.entries]
    exact hr.active key (h.active ▸ hkey)

theorem backend_setBackend (r : Registry) (id j : BackendId) (b : Backend) :
    (r.setBackend id b).backend j = if id = j ∧ j < r.backends.length then b else r.backend j := by
  rw [setBackend, backend, List.getElem?_set]
  by_cases h : id = j
  · subst h
    by_cases hlt : id < r.backends.length
    · simp [hlt]
    · simp [hlt, backend]
  · simp [h, backend]

/-- A number that no backend has stands for one that has not been prepared. -/
theorem lt_of_prepared {id : BackendId} (h : (r.backend id).prepared = true) :
    id < r.backends.length := by
  by_contra hlt
  rw [backend, List.getElem?_eq_none (Nat.le_of_not_lt hlt)] at h
  exact Bool.false_ne_true h

theorem quiet_setBackend {id : BackendId} {b : Backend}
    (h : (r.backend id).prepared = true → b.prepared = true) : Quiet r (r.setBackend id b) := by
  refine ⟨rfl, rfl, rfl, (List.length_set ..).ge, fun j hj => ?_, fun _ h => h⟩
  rw [backend_setBackend]
  split_ifs with hid
  · exact h (hid.1 ▸ hj)
  · exact hj

theorem quiet_addBackend (r : Registry) (b : Backend) : Quiet r (r.addBackend b).1 := by
  refine ⟨rfl, rfl, rfl, ?_, fun j hj => ?_, fun _ h => h⟩
  · simp [addBackend]
  · have hlt := lt_of_prepared hj
    rw [backend] at hj
    simpa [addBackend, backend, List.getElem?_append_left hlt] using hj

theorem quiet_obtain (r : Registry) (id : BackendId) : Quiet r (r.obtain id).1 := by
  unfold obtain
  split_ifs
  · exact Quiet.refl r
  · exact quiet_addBackend r default

theorem obtain_lt (r : Registry) (id : BackendId) :
    (r.obtain id).2 < (r.obtain id).1.backends.length := by
  unfold obtain
  split_ifs with h
  · exact h
  · simp [addBackend]

theorem quiet_produce (r : Registry) (p : Product) : Quiet r (r.produce p).1 := by
  cases p with
  | new plan => exact quiet_addBackend r plan
  | existing id => exact quiet_obtain r id

theorem produce_lt (r : Registry) (p : Product) :
    (r.produce p).2 < (r.produce p).1.backends.length := by
  cases p with
  | new plan => simp [produce, addBackend]
  | existing id => exact obtain_lt r id

theorem quiet_startCall (r : Registry) (k : MakerId) : Quiet r (r.startCall k) :=
  (Quiet.refl r).congr rfl rfl rfl rfl rfl

theorem quiet_noteMade (r : Registry) (k : MakerId) (call : Nat) (id : BackendId) :
    Quiet r (r.noteMade k call id) :=
  (Quiet.refl r).congr rfl rfl rfl rfl rfl

theorem quiet_deliver (r : Registry) (k : Nat) (source : Source) (id : BackendId) :
    Quiet r (r.deliver k source id) :=
  ⟨rfl, rfl, rfl, le_rfl, fun _ h => h, List.subset_append_left _ _⟩

theorem quiet_tellProvider (r : Registry) (name : String) : Quiet r (r.tellProvider name) :=
  (Quiet.refl r).congr rfl rfl rfl rfl rfl

theorem prepared_prepare {b : Backend} {o : Options}
    (h : b.prepared = true ∨ (b.prepare o).1 = true) : (b.prepare o).2.prepared = true := by
  unfold Backend.prepare at h ⊢
  split_ifs at h ⊢
  · simpa using h
  · rfl

theorem quiet_prepareBackend (r : Registry) (id : BackendId) (o : Options) :
    Quiet r (r.prepareBackend id o).1 :=
  quiet_setBackend fun h => prepared_prepare (Or.inl h)

/-- A backend that has let itself be prepared has been prepared. -/
theorem prepared_prepareBackend {id : BackendId} {o : Options}
    (h : (r.prepareBackend id o).2 = true) (hid : id < r.backends.length) :
    ((r.prepareBackend id o).1.backend id).prepared = true := by
  simp only [prepareBackend, backend_setBackend]
  rw [if_pos ⟨trivial, hid⟩]
  exact prepared_prepare (Or.inr h)

/-! ### Changes of entries -/

/-- An entry is set: it belongs to the name, its registration belongs to nobody else, its backend is
ready, and it has one if it is active. -/
theorem Sound.setEntry (hr : r.Sound) {name : String} {e : Entry}
    (hname : keyOf e.displayName = keyOf name) (hnum : e.registration < r.nextRegistration)
    (hdist : ∀ key e', r.entries.find? key = some e' → e'.registration = e.registration →
      key = keyOf name)
    (hready : ∀ id, e.backend = some id → r.Ready e.registration e.source id)
    (hactive : r.active = some (keyOf name) → ∃ id, e.backend = some id) :
    (r.setEntry name e).Sound := by
  -- A look-up finds the new entry under its key, and under any other key what was there before.
  have hfind : ∀ key e', (r.setEntry name e).entries.find? key = some e' →
      keyOf name = key ∧ e' = e ∨ keyOf name ≠ key ∧ r.entries.find? key = some e' := by
    intro key e' h
    rw [Registry.setEntry, Dictionary.find?_insert] at h
    split_ifs at h with hkey
    · exact Or.inl ⟨hkey, (Option.some.inj h).symm⟩
    · exact Or.inr ⟨hkey, h⟩
  refine ⟨fun key e' h => ?_, fun key e' h => ?_, fun key e' key' e'' h h' heq => ?_,
    fun key e' id h hid => ?_, fun key h => ?_⟩
  · rcases hfind key e' h with ⟨rfl, rfl⟩ | ⟨_, h⟩
    · exact hname.symm
    · exact hr.keyed key e' h
  · rcases hfind key e' h with ⟨rfl, rfl⟩ | ⟨_, h⟩
    · exact hnum
    · exact hr.numbered key e' h
  · rcases hfind key e' h with ⟨hkey, he⟩ | ⟨_, hold⟩ <;>
      rcases hfind key' e'' h' with ⟨hkey', he'⟩ | ⟨_, hold'⟩
    · exact hkey.symm.trans hkey'
    · exact hkey.symm.trans (hdist key' e'' hold' (he ▸ heq.symm)).symm
    · exact (hdist key e' hold (he' ▸ heq)).trans hkey'
    · exact hr.distinct key e' key' e'' hold hold' heq
  · rcases hfind key e' h with ⟨rfl, rfl⟩ | ⟨_, h⟩
    · exact hready id hid
    · exact hr.ready key e' id h hid
  · by_cases hkey : keyOf name = key
    · obtain ⟨id, hid⟩ := hactive (hkey ▸ h)
      exact ⟨e, id, by rw [Registry.setEntry, hkey, Dictionary.find?_insert_self], hid⟩
    · obtain ⟨e', id, he', hid⟩ := hr.active key h
      refine ⟨e', id, ?_, hid⟩
      rw [Registry.setEntry, Dictionary.find?_insert, if_neg hkey]
      exact he'

theorem grows_setEntry {name : String} {e : Entry}
    (h : n ≤ e.registration ∨ ∃ e', r.find? name = some e' ∧
      e'.registration = e.registration ∧ e'.source = e.source) :
    Grows n r (r.setEntry name e) := by
  refine ⟨le_rfl, fun _ h => h, fun _ h => h, le_rfl, fun key hkey => ?_, fun key e' he' hn => ?_,
    fun h => h⟩
  · rw [setEntry, Dictionary.find?_insert]
    split_ifs
    · rfl
    · exact hkey
  · rw [setEntry, Dictionary.find?_insert] at he'
    split_ifs at he' with hkey
    · obtain rfl := Option.some.inj he'
      rcases h with h | ⟨e', he', heq⟩
      · exact absurd hn (Nat.not_lt.mpr h)
      · exact ⟨e', hkey ▸ he', heq⟩
    · exact ⟨e', he', rfl, rfl⟩

/-- A provider that has a backend is activated. -/
theorem Sound.setActive (hr : r.Sound) {key : String} {e : Entry} {id : BackendId}
    (he : r.entries.find? key = some e) (hid : e.backend = some id) :
    ({ r with active := some key } : Registry).Sound :=
  ⟨hr.keyed, hr.numbered, hr.distinct, hr.ready, fun key' h => by
    obtain rfl : key = key' := Option.some.inj h
    exact ⟨e, id, he, hid⟩⟩

theorem grows_setActive (n : Nat) (r : Registry) (key : String) :
    Grows n r { r with active := some key } :=
  ⟨le_rfl, fun _ h => h, fun _ h => h, le_rfl, fun _ h => h, fun _ e h _ => ⟨e, h, rfl, rfl⟩,
    fun _ => rfl⟩

end Colloquy.Registry
