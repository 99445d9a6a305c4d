import Colloquy.Proofs.Registry.Course
import Colloquy.Proofs.Registry.Policy

/-!
# Providers that share no backend

Let every maker give a new backend in each call and do no errands, and let no backend be registered
for a provider while another one uses it (`Tidy`).  Then no two providers ever use the same backend
(`Apart`), and an operation is about one provider at most: it changes no entry but the one of this
provider, no backend but the one that this entry has afterwards, and it asks a source for a backend
only if there is none (`Bears`).

* `Supplied.bears`: a backend that is supplied for an entry is used under no other key;
* `perform_bears`, `perform_apart`: every operation.
-/

namespace Colloquy.Registry

open Provider (Backend)

variable {r r' r'' : Registry} {key name : String} {e : Entry} {id : BackendId}

/-! ### Providers that share no backend -/

/-- Whether a provider uses a backend, or will do so once it needs one. -/
def Entry.Uses (e : Entry) (id : BackendId) : Prop :=
  e.backend = some id ∨ e.source = .shared id

/-- Whether what an entry uses is there and is not used under any other key. -/
structure Fits (r : Registry) (key : String) (e : Entry) : Prop where
  there : ∀ id, e.Uses id → id < r.backends.length
  /-- A source that shares a backend gives this one. -/
  own : ∀ id j, e.source = .shared id → e.backend = some j → j = id
  apart : ∀ other e' id, other ≠ key → r.entries.find? other = some e' → e.Uses id → ¬e'.Uses id

/-- What holds of a registry whose providers share no backend and whose makers keep out of it. -/
structure Apart (r : Registry) : Prop where
  quiet : r.pending = 0
  fresh : r.Fresh
  fits : ∀ key e, r.entries.find? key = some e → r.Fits key e

theorem apart_start (enabled : Bool) (statistics : Retry.Statistics) (draws : Nat → Float) :
    (start enabled statistics draws).Apart where
  quiet := rfl
  fresh _ h := absurd h List.not_mem_nil
  fits _ _ h := by cases h

theorem Fits.congr (h : r.Fits key e) (hentries : r'.entries = r.entries)
    (hlength : r.backends.length ≤ r'.backends.length) : r'.Fits key e where
  there id hid := (h.there id hid).trans_le hlength
  own := h.own
  apart other e' id hother he' := h.apart other e' id hother (hentries ▸ he')

/-! ### What an operation is about -/

/-- Whether sources have only been asked for a new registration, or for an entry that has no
backend. -/
def AskedIfNeeded (r r' : Registry) : Prop :=
  ∃ new, r'.deliveries = r.deliveries ++ new ∧ ∀ d ∈ new, d.registration = r.nextRegistration ∨
    ∃ key e, r.entries.find? key = some e ∧ e.backend = none ∧ d.registration = e.registration

theorem askedIfNeeded_of_eq (h : r'.deliveries = r.deliveries) : AskedIfNeeded r r' :=
  ⟨[], h.trans (List.append_nil _).symm, fun _ hd => absurd hd List.not_mem_nil⟩

/-- What an operation does that is about one provider at most.

`renewed` says under which key a provider is registered anew, `outside` which backends are changed
by somebody else. -/
structure Bears (r r' : Registry) (target : Option String) (renewed : String → Prop)
    (outside : BackendId → Prop) : Prop where
  fresh : r'.Fresh
  length : r.backends.length ≤ r'.backends.length
  others : ∀ key, target ≠ some key → r'.entries.find? key = r.entries.find? key
  fits : ∀ key e, target = some key → r'.entries.find? key = some e → r'.Fits key e
  /-- A backend that is changed is the one of the provider that the operation is about. -/
  changed : ∀ id < r.backends.length, r'.backend id ≠ r.backend id → outside id ∨
    ∃ key e, target = some key ∧ r'.entries.find? key = some e ∧ e.backend = some id
  /-- A backend is kept until its provider is registered anew. -/
  kept : ∀ key e id, target = some key → r.entries.find? key = some e → e.backend = some id →
    renewed key ∨ ∃ e', r'.entries.find? key = some e' ∧ e'.registration = e.registration ∧
      e'.source = e.source ∧ e'.backend = some id
  deliveries : AskedIfNeeded r r'

variable {target : Option String} {renewed : String → Prop} {outside : BackendId → Prop}

/-- Listeners, the active provider and what is noted do not count. -/
theorem Bears.congr (h : Bears r r' target renewed outside) (hmakers : r''.makers = r'.makers)
    (hentries : r''.entries = r'.entries) (hbackends : r''.backends = r'.backends)
    (hdeliveries : r''.deliveries = r'.deliveries) : Bears r r'' target renewed outside where
  fresh := h.fresh.congr hmakers
  length := hbackends ▸ h.length
  others key hkey := hentries ▸ h.others key hkey
  fits key e hkey he := (h.fits key e hkey (hentries ▸ he)).congr hentries (hbackends ▸ le_rfl)
  changed id hid hchanged := by
    rw [backend, hbackends] at hchanged
    rw [hentries]
    exact h.changed id hid hchanged
  kept key e id hkey he hid := by
    rw [hentries]
    exact h.kept key e id hkey he hid
  deliveries := by
    rw [AskedIfNeeded, hdeliveries]
    exact h.deliveries

/-- Providers that share no backend share none afterwards. -/
theorem Apart.bears (h : r.Apart) (hb : Bears r r' target renewed outside)
    (hquiet : r'.pending = 0) : r'.Apart := by
  refine ⟨hquiet, hb.fresh, fun key e he => ?_⟩
  by_cases hkey : target = some key
  · exact hb.fits key e hkey he
  · have hold := h.fits key e (hb.others key hkey ▸ he)
    refine ⟨fun id hid => (hold.there id hid).trans_le hb.length, hold.own,
      fun other e' id hother he' hid hid' => ?_⟩
    by_cases htarget : target = some other
    · exact (hb.fits other e' htarget he').apart key e id hother.symm he hid' hid
    · exact hold.apart other e' id hother (hb.others other htarget ▸ he') hid hid'

/-- No entry is changed. -/
theorem bears_of_entries (h : r.Apart) (hfresh : r'.Fresh) (hentries : r'.entries = r.entries)
    (hlength : r.backends.length ≤ r'.backends.length)
    (hchanged : ∀ id < r.backends.length, r'.backend id ≠ r.backend id → outside id ∨
      ∃ key e, target = some key ∧ r.entries.find? key = some e ∧ e.backend = some id)
    (hdeliveries : AskedIfNeeded r r') : Bears r r' target renewed outside where
  fresh := hfresh
  length := hlength
  others key _ := by rw [hentries]
  fits key e _ he := (h.fits key e (hentries ▸ he)).congr hentries hlength
  changed := hentries ▸ hchanged
  kept key e id _ he hid := .inr ⟨e, hentries ▸ he, rfl, rfl, hid⟩
  deliveries := hdeliveries

/-- Nothing that counts is changed. -/
theorem bears_of_same (h : r.Apart) (hmakers : r'.makers = r.makers)
    (hentries : r'.entries = r.entries) (hbackends : r'.backends = r.backends)
    (hdeliveries : r'.deliveries = r.deliveries) : Bears r r' target renewed outside := by
  refine bears_of_entries h (h.fresh.congr hmakers) hentries (hbackends ▸ le_rfl)
    (fun id _ hchanged => ?_) (askedIfNeeded_of_eq hdeliveries)
  rw [backend, hbackends] at hchanged
  exact absurd rfl hchanged

/-- A backend is replaced, by somebody else or by its provider. -/
theorem bears_setBackend (h : r.Apart) (b : Backend) (hid : outside id ∨
      ∃ key e, target = some key ∧ r.entries.find? key = some e ∧ e.backend = some id) :
    Bears r (r.setBackend id b) target renewed outside := by
  refine bears_of_entries h (h.fresh.congr rfl) rfl (List.length_set ..).ge
    (fun j hj hchanged => ?_) (askedIfNeeded_of_eq rfl)
  rw [backend_setBackend] at hchanged
  split_ifs at hchanged with hset
  · exact hset.1 ▸ hid
  · exact absurd rfl hchanged

/-- One entry is set. -/
theorem bears_of_insert (hfresh : r'.Fresh) (hlength : r.backends.length ≤ r'.backends.length)
    (hentries : r'.entries = r.entries.insert (keyOf name) e) (hfits : r'.Fits (keyOf name) e)
    (hchanged : ∀ id < r.backends.length, r'.backend id ≠ r.backend id → e.backend = some id)
    (hkept : ∀ e₀ id, r.entries.find? (keyOf name) = some e₀ → e₀.backend = some id →
      renewed (keyOf name) ∨
        e.registration = e₀.registration ∧ e.source = e₀.source ∧ e.backend = some id)
    (hdeliveries : AskedIfNeeded r r') :
    Bears r r' (some (keyOf name)) renewed outside := by
  have hfind : r'.entries.find? (keyOf name) = some e := by
    rw [hentries, Dictionary.find?_insert_self]
  refine ⟨hfresh, hlength, fun key hkey => ?_, fun key e' hkey he' => ?_, fun id hid hne => ?_,
    fun key e₀ id hkey he₀ hid => ?_, hdeliveries⟩
  · rw [hentries, Dictionary.find?_insert, if_neg fun h => hkey (congrArg some h)]
  · obtain rfl := Option.some.inj hkey
    obtain rfl := Option.some.inj (hfind.symm.trans he')
    exact hfits
  · exact .inr ⟨_, e, rfl, hfind, hchanged id hid hne⟩
  · obtain rfl := Option.some.inj hkey
    exact (hkept e₀ id he₀ hid).imp_right fun h => ⟨e, hfind, h⟩

/-- One entry is set, and nothing else. -/
theorem bears_setEntry (h : r.Apart) (hfits : r.Fits (keyOf name) e)
    (hkept : ∀ e₀ id, r.entries.find? (keyOf name) = some e₀ → e₀.backend = some id →
      renewed (keyOf name) ∨
        e.registration = e₀.registration ∧ e.source = e₀.source ∧ e.backend = some id) :
    Bears r (r.setEntry name e) (some (keyOf name)) renewed outside := by
  refine bears_of_insert (h.fresh.congr rfl) le_rfl rfl ⟨hfits.there, hfits.own, ?_⟩
    (fun _ _ hne => absurd rfl hne) hkept (askedIfNeeded_of_eq rfl)
  intro other e' id hother he'
  rw [setEntry, Dictionary.find?_insert, if_neg hother.symm] at he'
  exact hfits.apart other e' id hother he'

/-! ### Backends that are supplied -/

theorem Supplied.askedIfNeeded {accepted : Bool} (h : Supplied r e r' id accepted)
    (horigin : e.registration = r.nextRegistration ∨ ∃ key, r.entries.find? key = some e) :
    AskedIfNeeded r r' := by
  obtain ⟨new, hnew, hall⟩ := h.deliveries
  refine ⟨new, hnew, fun d hd => ?_⟩
  obtain ⟨hnone, hnumber⟩ := hall d hd
  exact horigin.imp hnumber.trans fun ⟨key, he⟩ => ⟨key, e, he, hnone, hnumber⟩

/-- A backend that does not let itself be prepared leaves all others as they are. -/
theorem Supplied.bears_refused (hs : Supplied r e r' id false) (h : r.Apart)
    (horigin : e.registration = r.nextRegistration ∨ ∃ key, r.entries.find? key = some e) :
    Bears r r' target renewed outside :=
  bears_of_entries h hs.fresh (congrArg Books.entries hs.books) hs.backends
    (fun j hj hchanged => absurd (hs.changed j hj hchanged).1 Bool.false_ne_true)
    (hs.askedIfNeeded horigin)

/-- What an entry uses that has got a backend. -/
theorem Supplied.uses {accepted : Bool} (hs : Supplied r e r' id accepted) (hfits : r.Fits key e)
    {j : BackendId} (hj : (e.withBackend id).Uses j) :
    e.Uses j ∨ j = r.backends.length ∧ j = id := by
  rcases hj with hj | hj
  · -- Only a backend that was made now is not one that the entry used before.
    have hj : e.backend.getD id = j := Option.some.inj hj
    cases hb : e.backend with
    | some i => exact .inl (.inl (by rw [hb] at hj; rw [hb]; exact congrArg some hj))
    | none =>
      obtain rfl : id = j := by rwa [hb] at hj
      cases hsource : e.source with
      | shared i =>
        have hlt := hfits.there i (.inr hsource)
        exact .inl (.inr (by rw [hsource, hs.shared i hb hsource hlt]))
      | made m => exact .inr ⟨hs.made m hb hsource, rfl⟩
  · exact .inl (.inr hj)

theorem Supplied.fits {accepted : Bool} (hs : Supplied r e r' id accepted) (h : r.Apart)
    (hfits : r.Fits (keyOf name) e) :
    (r'.setEntry name (e.withBackend id)).Fits (keyOf name) (e.withBackend id) := by
  refine ⟨fun j hj => ?_, fun i j hi hj => ?_, fun other e' j hother he' hj hj' => ?_⟩
  · rcases hs.uses hfits hj with hj | ⟨-, rfl⟩
    · exact (hfits.there j hj).trans_le hs.backends
    · exact hs.there
  · have hj : e.backend.getD id = j := Option.some.inj hj
    cases hb : e.backend with
    | some k =>
      rw [hb] at hj
      exact hj ▸ hfits.own i k hi hb
    | none =>
      rw [hb] at hj
      exact hj ▸ hs.shared i hb hi (hfits.there i (.inr hi))
  · rw [setEntry, Dictionary.find?_insert, if_neg hother.symm,
      show r'.entries = r.entries from congrArg Books.entries hs.books] at he'
    rcases hs.uses hfits hj with hj | ⟨rfl, -⟩
    · exact hfits.apart other e' j hother he' hj hj'
    · -- A backend that was made now is used by nobody else.
      exact lt_irrefl _ ((h.fits other e' he').there _ hj')

/-- An entry gets a backend that has let itself be prepared. -/
theorem Supplied.bears (hs : Supplied r e r' id true) (h : r.Apart)
    (hfits : r.Fits (keyOf name) e)
    (horigin : e.registration = r.nextRegistration ∧ renewed (keyOf name) ∨
      r.entries.find? (keyOf name) = some e) :
    Bears r (r'.setEntry name (e.withBackend id)) (some (keyOf name)) renewed outside := by
  have hid : e.backend.getD id = id := by
    cases hb : e.backend with
    | none => rfl
    | some j => exact (hs.held j hb).symm
  refine bears_of_insert (hs.fresh.congr rfl) hs.backends ?_ (hs.fits h hfits) (fun j hj hne => ?_)
    (fun e₀ j he₀ hj => ?_) (hs.askedIfNeeded (horigin.imp And.left fun he => ⟨_, he⟩))
  · rw [setEntry, show r'.entries = r.entries from congrArg Books.entries hs.books]
  · rw [(hs.changed j hj hne).2]
    exact congrArg some hid
  · refine horigin.imp And.right fun he => ?_
    obtain rfl := Option.some.inj (he.symm.trans he₀)
    exact ⟨rfl, rfl, congrArg some (hid.trans (hs.held j hj))⟩

/-! ### Operations -/

/-- The key of the provider that an operation is about. -/
def target? (r : Registry) : Operation → Option String
  | .register name _ => some (keyOf name)
  | .prepare name _ => some (keyOf name)
  | .activate name => some (keyOf name)
  | .setPolicy name _ => some (keyOf name)
  | .setModel _ => r.active
  | .setTemplate _ => r.active
  | .setOptions _ => r.active
  | .complete _ _ => r.active
  | .embed _ => r.active
  | .ask _ => r.active
  | _ => none

/-- Whether somebody else does something to a backend. -/
def Operation.Touches : Operation → BackendId → Prop
  | .prepareBackend id _, j => id = j
  | .adjust id _, j => id = j
  | _, _ => False

/-- Whether an operation keeps providers apart: a maker that comes with it has no errands and gives
a new backend in each call, and a backend that is registered is not used by another provider. -/
def Tidy (r : Registry) : Operation → Prop
  | .takeMaker k => k.errands.flatten = [] ∧ k.Fresh
  | .register name (.shared id) => (r.register name (.shared id)).2 = .ok () →
    id < r.backends.length ∧
      ∀ other e, other ≠ keyOf name → r.entries.find? other = some e → ¬e.Uses id
  | _ => True

theorem Tidy.discreet {op : Operation} (h : r.Tidy op) : op.Discreet := by
  cases op with
  | takeMaker k => exact h.1
  | _ => trivial

/-- The entry of a registration that goes well. -/
theorem Tidy.fits {source : Source} (h : r.Tidy (.register name source))
    (hok : (r.register name source).2 = .ok ()) (n : Nat) :
    r.Fits (keyOf name) (newEntry name source n) := by
  have huses : ∀ id, (newEntry name source n).Uses id → source = .shared id :=
    fun id hid => hid.resolve_left nofun
  refine ⟨fun id hid => ?_, nofun, fun other e id hother he hid => ?_⟩
  · obtain rfl := huses id hid
    exact (h hok).1
  · obtain rfl := huses id hid
    exact (h hok).2 other e hother he

theorem register_bears (h : r.Apart) {source : Source} (htidy : r.Tidy (.register name source))
    (hrenewed : (r.register name source).2 = .ok () → renewed (keyOf name)) :
    Bears r (r.register name source).1 (some (keyOf name)) renewed outside := by
  rcases register_course h.quiet h.fresh name source with hx | ⟨r', id, error, hs, hx⟩ |
    ⟨r', id, hs, hx⟩
  · have hok : (r.register name source).2 = .ok () := congrArg Prod.snd hx
    have hset : Bears r (r.setEntry name (newEntry name source r.nextRegistration))
        (some (keyOf name)) renewed outside :=
      bears_setEntry h (htidy.fits hok _) fun _ _ _ _ => .inl (hrenewed hok)
    rw [hx]
    exact hset.congr rfl rfl rfl rfl
  · rw [hx]
    exact hs.bears_refused h (.inl rfl)
  · have hok : (r.register name source).2 = .ok () := congrArg Prod.snd hx
    let e := newEntry name source r.nextRegistration
    have hset : Bears r (r'.setEntry name (e.withBackend id)) (some (keyOf name)) renewed outside :=
      hs.bears h (htidy.fits hok _) (.inl ⟨rfl, hrenewed hok⟩)
    rw [hx]
    exact hset.congr rfl rfl rfl rfl

theorem activate_bears (h : r.Apart) (name : String) :
    Bears r (r.activate name).1 (some (keyOf name)) renewed outside := by
  rw [activate]
  rcases activateWith_course h.quiet h.fresh with ⟨error, hx⟩ | ⟨e, he, ⟨id, hid, hx⟩ |
    ⟨r', id, error, hs, hx⟩ | ⟨r', id, hs, hx⟩⟩ <;> rw [hx]
  · exact bears_of_same h rfl rfl rfl rfl
  · exact bears_of_same h rfl rfl rfl rfl
  · exact hs.bears_refused h (.inr ⟨_, he⟩)
  · have hset : Bears r (r'.setEntry name (e.withBackend id)) (some (keyOf name)) renewed outside :=
      hs.bears h (h.fits _ e he) (.inr he)
    exact hset.congr rfl rfl rfl rfl

theorem prepare_bears (h : r.Apart) (name : String) (o : Provider.Options) :
    Bears r (r.prepare name o).1 (some (keyOf name)) renewed outside := by
  have hthere : ∀ e id, r.find? name = some e → e.backend = some id → id < r.backends.length :=
    fun e id he hid => (h.fits _ e he).there id (.inl hid)
  rw [prepare]
  rcases prepareWith_course h.quiet h.fresh hthere with ⟨error, hx⟩ | ⟨e, he,
    ⟨r', id, error, hs, hx⟩ | ⟨r', id, hs, hx⟩⟩ <;> rw [hx]
  · exact bears_of_same h rfl rfl rfl rfl
  · exact hs.bears_refused h (.inr ⟨_, he⟩)
  · exact hs.bears h (h.fits _ e he) (.inr he)

theorem setPolicy_bears (h : r.Apart) (name : String) (p : Retry.Policy) :
    Bears r (r.setPolicy name p).1 (some (keyOf name)) renewed outside := by
  cases hx : (r.setPolicy name p).2 with
  | error error =>
    rw [setPolicy_error hx]
    exact bears_of_same h rfl rfl rfl rfl
  | ok =>
    obtain ⟨e, he, hafter⟩ := setPolicy_ok hx
    have hfits := h.fits _ e he
    rw [hafter]
    refine bears_setEntry h ⟨hfits.there, hfits.own, hfits.apart⟩ fun e₀ id he₀ hid => .inr ?_
    obtain rfl := Option.some.inj ((show r.entries.find? _ = _ from he).symm.trans he₀)
    exact ⟨rfl, rfl, hid⟩

/-- A request or a setting of the active provider changes the backend of that one. -/
theorem bears_active (h : r.Apart) {a : Active} (ha : r.active? = .ok a) (b : Backend) :
    Bears r (r.setBackend a.backend b) r.active renewed outside :=
  bears_setBackend h b (.inr (exists_of_active? ha))

theorem complete_bears (h : r.Apart) (messages : List Message)
    (tools : List Provider.ToolDefinition) :
    Bears r (r.complete messages tools).1 r.active renewed outside := by
  cases ha : r.active? with
  | error error =>
    rw [complete, ha]
    exact bears_of_same h rfl rfl rfl rfl
  | ok a =>
    rw [complete_eq_call ha]
    exact (bears_active h ha _).congr rfl rfl rfl rfl

theorem embed_bears (h : r.Apart) (text : String) :
    Bears r (r.embed text).1 r.active renewed outside := by
  cases ha : r.active? with
  | error error =>
    rw [embed, ha]
    exact bears_of_same h rfl rfl rfl rfl
  | ok a =>
    rw [embed_eq_call ha]
    exact (bears_active h ha _).congr rfl rfl rfl rfl

theorem setModel_bears (h : r.Apart) (id : String) :
    Bears r (r.setModel id).1 r.active renewed outside := by
  cases hx : (r.setModel id).2 with
  | error error =>
    rw [setModel_error hx]
    exact bears_of_same h rfl rfl rfl rfl
  | ok info =>
    obtain ⟨a, b, ha, -, -, hafter⟩ := setModel_ok hx
    rw [hafter]
    exact (bears_active h ha b).congr rfl rfl rfl rfl

theorem setTemplate_bears (h : r.Apart) (id : String) :
    Bears r (r.setTemplate id).1 r.active renewed outside := by
  cases hx : (r.setTemplate id).2 with
  | error error =>
    rw [setTemplate_error hx]
    exact bears_of_same h rfl rfl rfl rfl
  | ok =>
    obtain ⟨a, b, ha, -, hafter⟩ := setTemplate_ok hx
    rw [hafter]
    exact (bears_active h ha b).congr rfl rfl rfl rfl

theorem setOptions_bears (h : r.Apart) (o : Provider.Options) :
    Bears r (r.setOptions o).1 r.active renewed outside := by
  rw [setOptions]
  split
  · exact bears_of_same h rfl rfl rfl rfl
  · next a ha => exact bears_active h ha _

/-- **One operation** changes no backend but the one of the provider that it is about. -/
theorem perform_bears (h : r.Apart) {op : Operation} (htidy : r.Tidy op) :
    Bears r (r.perform op).1 (r.target? op) (fun key => r.Registers key op) op.Touches := by
  cases op with
  | addBackend b =>
    -- A backend that is added has an identity of its own, which no entry has yet.
    have hstill : Still r (r.addBackend b).1 := ⟨rfl, List.prefix_append .., rfl, rfl⟩
    exact bears_of_entries h (h.fresh.congr rfl) rfl hstill.backends.length_le
      (fun id hid hne => absurd (hstill.backend_eq hid) hne) (askedIfNeeded_of_eq rfl)
  | takeMaker k =>
    -- A tidy maker gives new backends only.
    have hfresh : (r.takeMaker k).1.Fresh := fun k' hk' =>
      (List.mem_append.mp hk').elim (h.fresh k') fun hk' => List.mem_singleton.mp hk' ▸ htidy.2
    exact bears_of_entries h hfresh rfl le_rfl (fun id hid hne => absurd rfl hne)
      (askedIfNeeded_of_eq rfl)
  | register name source =>
    exact register_bears h htidy fun hok =>
      ⟨name, source, rfl, rfl, errorOf_eq_none_iff.mpr hok⟩
  | prepare name o => exact prepare_bears h name o
  | activate name => exact activate_bears h name
  | setPolicy name p => exact setPolicy_bears h name p
  | setModel id => exact setModel_bears h id
  | setTemplate id => exact setTemplate_bears h id
  | setOptions o => exact setOptions_bears h o
  | listen kind answer => cases kind <;> exact bears_of_same h rfl rfl rfl rfl
  | unlisten id =>
    simp only [perform, unlisten]
    split_ifs <;> exact bears_of_same h rfl rfl rfl rfl
  | complete messages tools => exact complete_bears h messages tools
  | embed text => exact embed_bears h text
  | ask q => exact bears_of_same h rfl rfl rfl rfl
  | record reason success retries => exact bears_of_same h rfl rfl rfl rfl
  | resetStatistics => exact bears_of_same h rfl rfl rfl rfl
  | prepareBackend id o => exact bears_setBackend h _ (.inl rfl)
  | adjust id change => exact bears_setBackend h _ (.inl rfl)

theorem perform_apart (h : r.Apart) {op : Operation} (htidy : r.Tidy op) : (r.perform op).1.Apart :=
  h.bears (perform_bears h htidy) (perform_pending h.quiet htidy.discreet)

end Colloquy.Registry
