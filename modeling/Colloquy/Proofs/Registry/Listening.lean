import Colloquy.Proofs.Registry.Atomicity
import Mathlib.Data.List.Nodup

/-!
# What listeners are told

An operation has `news` for the listeners of one kind or for none.  Which listeners there are, and
in which order they are told, follows from what the registry was told to do, by its `Roll`; nothing
that they answer plays a part in it.

* `perform_tells`: an operation passes on its news and changes nothing of the listeners;
* `news_isSome_iff`: when there is something to tell;
* `enrolled_perform`: the listeners of a registry stay those on the roll.
-/

namespace Colloquy.Registry

open Provider (Backend Options)

variable {r r' : Registry}

/-! ### News -/

/-- The kind of listeners that an event is for. -/
def Event.kind : Event → Kind
  | .provider _ => .provider
  | .model _ => .model
  | .template _ => .template

/-- Whether listeners are to be told of an operation, if it goes well. -/
def Announces (r : Registry) : Operation → Prop
  | .activate _ | .setModel _ | .setTemplate _ => True
  | .register name _ => r.isActive name = true
  | _ => False

/-- What an operation gives to tell when it has gone well and led from a registry to another: after
an activation, and after the active provider has been registered anew, the name of the provider that
is active then; after a change of the model or of the template, the new one. -/
def tidings (r r' : Registry) : Operation → Option Event
  | .activate _ => r'.activeName?.map .provider
  | .register name _ => if r.isActive name then r'.activeName?.map .provider else none
  | .setModel _ => r'.model?.toOption.map .model
  | .setTemplate id => some (.template id)
  | _ => none

/-- What an operation gives to tell: nothing if it goes wrong. -/
def news (r : Registry) (op : Operation) : Option Event :=
  if (r.perform op).2.isSome then none else tidings r (r.perform op).1 op

theorem activeName?_of_books {key : String} {e : Entry} (hactive : r.active = some key)
    (he : r.entries.find? key = some e) : r.activeName? = some e.displayName := by
  simp [activeName?, hactive, he]

/-- The backend of the active provider has been changed, and no entry. -/
theorem model?_of_setBackend (hr : r.Sound) {a : Active} (ha : r.active? = .ok a) {b : Backend}
    (hentries : r'.entries = r.entries) (hactive : r'.active = r.active)
    (hbackends : r'.backends = (r.setBackend a.backend b).backends) :
    r'.model? = .ok b.currentModel := by
  obtain ⟨key, e, hkey, he, hid⟩ := exists_of_active? ha
  have hget : r'.backend a.backend = b := by
    have h := backend_setBackend r a.backend a.backend b
    rw [if_pos ⟨rfl, hr.lt_of_active? ha⟩] at h
    rw [backend, hbackends]
    exact h
  simp [model?, activeBackend?, active?, hactive, hkey, hentries, he, hid, hget, Except.map]

/-- A change in which the listeners stay the same and are told of an event, or of none. -/
structure Tells (r r' : Registry) (news : Option Event) : Prop where
  listeners : r'.listeners = r.listeners
  nextListener : r'.nextListener = r.nextListener
  notices : r'.notices = r.notices ++ news.elim [] fun e => notify (r.listeners e.kind) e

section

variable {entries : Dictionary Entry} {active : Option String}

theorem tells_none
    (h : r'.books = ⟨entries, active, r.listeners, r.nextListener, r.notices⟩) :
    Tells r r' none :=
  ⟨congrArg Books.listeners h, congrArg Books.nextListener h,
    (congrArg Books.notices h).trans (List.append_nil _).symm⟩

theorem tells_some {e : Event} (h : r'.books = ⟨entries, active, r.listeners, r.nextListener,
      r.notices ++ notify (r.listeners e.kind) e⟩) : Tells r r' (some e) :=
  ⟨congrArg Books.listeners h, congrArg Books.nextListener h, congrArg Books.notices h⟩

end

/-- Whether an operation adds or removes a listener. -/
def Operation.enrols : Operation → Bool
  | .listen .. | .unlisten _ => true
  | _ => false

/-- An operation that goes well passes on its news, and it has some if it is to be announced. -/
theorem tells_of_ok (hr : r.Sound) (hquiet : r.pending = 0) {op : Operation}
    (hop : op.enrols = false) (hok : (r.perform op).2 = none) :
    Tells r (r.perform op).1 (tidings r (r.perform op).1 op) ∧
      (r.Announces op → (tidings r (r.perform op).1 op).isSome) := by
  cases op with
  | register name source =>
    obtain ⟨backend, hbooks⟩ := register_ok hquiet (errorOf_eq_none_iff.mp hok)
    have hactive : (r.register name source).1.active = r.active := congrArg Books.active hbooks
    have hentries : (r.register name source).1.entries = _ := congrArg Books.entries hbooks
    change Tells r (r.register name source).1 _ ∧ _
    rw [tidings]
    -- A registration is told of if it replaces the active provider.
    by_cases hact : r.isActive name = true
    · have hname : (r.register name source).1.activeName? = some (Text.trim name) :=
        activeName?_of_books (hactive.trans ((isActive_iff r name).mp hact))
          (by rw [hentries, Dictionary.find?_insert_self])
      rw [if_pos hact, show (r.perform (.register name source)).1.activeName? = _ from hname]
      rw [if_pos hact] at hbooks
      exact ⟨tells_some hbooks, fun _ => rfl⟩
    · rw [if_neg hact]
      rw [if_neg hact, List.append_nil] at hbooks
      exact ⟨tells_none hbooks, fun h => absurd h hact⟩
  | activate name =>
    obtain ⟨e, now, -, hname, hnow, hbooks⟩ := activate_ok hquiet (errorOf_eq_none_iff.mp hok)
    rw [tidings, show (r.perform (.activate name)).1.activeName? = some now.displayName from
      activeName?_of_books (congrArg Books.active hbooks) hnow, hname]
    exact ⟨tells_some hbooks, fun _ => rfl⟩
  -- A provider is prepared in silence.
  | prepare name o =>
    exact ⟨tells_none (prepare_ok hquiet (errorOf_eq_none_iff.mp hok)), False.elim⟩
  | setModel id =>
    cases h : (r.setModel id).2 with
    | error e =>
      rw [perform, report, h] at hok
      cases hok
    | ok info =>
      obtain ⟨a, b, ha, -, rfl, hafter⟩ := setModel_ok h
      have hmodel : (r.setModel id).1.model? = .ok b.currentModel := by
        rw [hafter]
        exact model?_of_setBackend hr ha rfl rfl rfl
      rw [tidings, show (r.perform (.setModel id)).1.model? = _ from hmodel]
      exact ⟨tells_some (congrArg books hafter), fun _ => rfl⟩
  | setTemplate id =>
    obtain ⟨a, b, -, -, hafter⟩ := setTemplate_ok (errorOf_eq_none_iff.mp hok)
    exact ⟨tells_some (congrArg books hafter), fun _ => rfl⟩
  | complete messages tools => exact ⟨tells_none (complete_books ..), False.elim⟩
  | embed text => exact ⟨tells_none (embed_books r text), False.elim⟩
  | setOptions o => exact ⟨tells_none (setOptions_books r o), False.elim⟩
  | setPolicy name p =>
    obtain ⟨e, -, hafter⟩ := setPolicy_ok (errorOf_eq_none_iff.mp hok)
    exact ⟨tells_none ((congrArg books hafter).trans (books_setEntry ..)), False.elim⟩
  | unlisten id => cases hop
  | listen kind answer => cases hop
  | _ => exact ⟨tells_none rfl, False.elim⟩

theorem refuses_of_isSome {op : Operation} (h : (r.perform op).2.isSome) : r.Refuses op := by
  cases op with
  | unlisten id => cases h
  | _ => exact h

/-- **An operation** passes on its news to the listeners of the right kind, and nothing else. -/
theorem perform_tells (hr : r.Sound) (hquiet : r.pending = 0) {op : Operation}
    (hop : op.enrols = false) : Tells r (r.perform op).1 (r.news op) := by
  cases h : (r.perform op).2 with
  | none =>
    rw [news, h]
    exact (tells_of_ok hr hquiet hop h).1
  | some e =>
    have hrefuses : (r.perform op).2.isSome := by rw [h]; rfl
    rw [news, if_pos hrefuses]
    exact tells_none (books_of_refuses hquiet (refuses_of_isSome hrefuses))

/-- There is something to tell if an operation that is announced goes well, and only then. -/
theorem news_isSome_iff (hr : r.Sound) (hquiet : r.pending = 0) (op : Operation) :
    (r.news op).isSome ↔ (r.perform op).2 = none ∧ r.Announces op := by
  cases h : (r.perform op).2 with
  | some e => simp [news, h]
  | none =>
    have henrols : r.Announces op → op.enrols = false := by
      cases op <;> simp [Announces, Operation.enrols]
    simp only [news, h, Option.isSome_none, Bool.false_eq_true, if_false, true_and]
    refine ⟨fun hnews => ?_, fun hop => (tells_of_ok hr hquiet (henrols hop) h).2 hop⟩
    cases op with
    | register name source =>
      by_contra hact
      rw [tidings, if_neg (show ¬r.isActive name = true from hact)] at hnews
      cases hnews
    | activate name => trivial
    | setModel id => trivial
    | setTemplate id => trivial
    | _ => cases hnews

/-! ### The roll of listeners -/

/-- The listeners of a run, told from what was added and removed: how many were added, and those of
them that are left, with their kinds, in the order in which they were added. -/
structure Roll where
  added : Nat
  members : List (Nat × Kind)

namespace Roll

/-- The roll after one more operation. -/
def enrol (ρ : Roll) : Operation → Roll
  | .listen kind _ => ⟨ρ.added + 1, ρ.members ++ [(ρ.added + 1, kind)]⟩
  | .unlisten id => { ρ with members := ρ.members.filter (·.1 != id) }
  | _ => ρ

theorem enrol_of_other {ρ : Roll} {op : Operation} (hop : op.enrols = false) :
    ρ.enrol op = ρ := by
  cases op with
  | listen kind answer => cases hop
  | unlisten id => cases hop
  | _ => rfl

/-- The roll of a run from the start. -/
def ofRun (ops : List Operation) : Roll :=
  ops.foldl enrol ⟨0, []⟩

/-- The numbers of the members of a kind. -/
def ofKind (ρ : Roll) (kind : Kind) : List Nat :=
  (ρ.members.filter (·.2 == kind)).map Prod.fst

end Roll

/-- The listeners of a registry are those on a roll. -/
structure Enrolled (r : Registry) (ρ : Roll) : Prop where
  added : r.nextListener = ρ.added
  listed : ∀ kind, (r.listeners kind).map Listener.id = ρ.ofKind kind
  distinct : (ρ.members.map Prod.fst).Nodup
  bounded : ∀ x ∈ ρ.members, x.1 ≤ ρ.added
  told : ∀ n ∈ r.notices, n.listener ≤ ρ.added

variable {ρ : Roll} {id : Nat} {kind : Kind}

theorem Roll.mem_ofKind : id ∈ ρ.ofKind kind ↔ (id, kind) ∈ ρ.members := by
  simp [Roll.ofKind]

theorem enrolled_start (enabled : Bool) (statistics : Retry.Statistics) (draws : Nat → Float) :
    Enrolled (start enabled statistics draws) ⟨0, []⟩ :=
  ⟨rfl, fun kind => by cases kind <;> rfl, List.nodup_nil, nofun, nofun⟩

/-- A new listener goes to the end of the roll. -/
theorem Enrolled.listen (h : Enrolled r ρ) (kind : Kind) (answer : Answer) :
    Enrolled (r.listen kind answer).1 (ρ.enrol (.listen kind answer)) := by
  -- Numbers are bounded by how many were given, so the next one is new.
  have hnew : ρ.added + 1 ∉ ρ.members.map Prod.fst := by
    intro hmem
    obtain ⟨x, hx, hid⟩ := List.mem_map.mp hmem
    have hle := h.bounded x hx
    omega
  refine ⟨?_, fun k => ?_, ?_, fun x hx => ?_, fun n hn => ?_⟩
  · rw [Roll.enrol, ← h.added]
    cases kind <;> rfl
  · have hlisteners : (r.listen kind answer).1.listeners k =
        r.listeners k ++ if kind = k then [⟨r.nextListener + 1, answer⟩] else [] := by
      cases kind <;> cases k <;> simp [Registry.listen, listeners]
    have hofKind : (ρ.enrol (.listen kind answer)).ofKind k =
        ρ.ofKind k ++ if kind = k then [ρ.added + 1] else [] := by
      by_cases hk : kind = k <;> simp [Roll.enrol, Roll.ofKind, List.filter_append, hk]
    rw [hlisteners, hofKind, List.map_append, h.listed, h.added]
    split_ifs <;> rfl
  · rw [Roll.enrol, List.map_append]
    exact List.nodup_append_comm.mp (List.nodup_cons.mpr ⟨hnew, h.distinct⟩)
  · rcases List.mem_append.mp hx with hx | hx
    · exact (h.bounded x hx).trans (Nat.le_succ _)
    · rw [List.mem_singleton.mp hx]
      exact Nat.le_refl _
  · have hsame : (r.listen kind answer).1.notices = r.notices := by cases kind <;> rfl
    rw [hsame] at hn
    exact (h.told n hn).trans (Nat.le_succ _)

/-- A listener is found where it is listed. -/
theorem Enrolled.any_iff (h : Enrolled r ρ) :
    (r.listeners kind).any (·.id == id) = true ↔ (id, kind) ∈ ρ.members := by
  rw [← Roll.mem_ofKind, ← h.listed]
  simp

/-- A listener is listed once. -/
theorem Enrolled.kind_unique (h : Enrolled r ρ) {kind' : Kind} (hmem : (id, kind) ∈ ρ.members)
    (hmem' : (id, kind') ∈ ρ.members) : kind = kind' :=
  congrArg Prod.snd (List.inj_on_of_nodup_map h.distinct hmem hmem' rfl)

/-- Removing a listener takes it off the list of its kind; the other lists do not have it. -/
theorem Enrolled.listeners_unlisten (h : Enrolled r ρ) (id : Nat) (kind : Kind) :
    (r.unlisten id).1.listeners kind = (r.listeners kind).filter (·.id != id) := by
  have hkeep : ∀ k, ¬(r.listeners k).any (·.id == id) = true →
      r.listeners k = (r.listeners k).filter (·.id != id) := by
    intro k hk
    refine (List.filter_eq_self.mpr fun l hl => ?_).symm
    rw [bne_iff_ne]
    rintro rfl
    exact hk (List.any_eq_true.mpr ⟨l, hl, BEq.rfl⟩)
  have hother : ∀ k k' : Kind, (r.listeners k).any (·.id == id) = true → k ≠ k' →
      r.listeners k' = (r.listeners k').filter (·.id != id) := fun _ _ hk hne =>
    hkeep _ fun hk' => hne (h.kind_unique (h.any_iff.mp hk) (h.any_iff.mp hk'))
  -- The lists are searched one after the other, and only the first that has the listener is changed.
  unfold unlisten
  dsimp only
  split_ifs with hprovider hmodel htemplate
  · cases kind with
    | provider => rfl
    | model => exact hother .provider .model hprovider nofun
    | template => exact hother .provider .template hprovider nofun
  · cases kind with
    | provider => exact hkeep .provider hprovider
    | model => rfl
    | template => exact hother .model .template hmodel nofun
  · cases kind with
    | provider => exact hkeep .provider hprovider
    | model => exact hkeep .model hmodel
    | template => rfl
  · cases kind with
    | provider => exact hkeep .provider hprovider
    | model => exact hkeep .model hmodel
    | template => exact hkeep .template htemplate

/-- A listener is removed if it is on the roll. -/
theorem Enrolled.unlisten_iff (h : Enrolled r ρ) (id : Nat) :
    (r.unlisten id).2 = true ↔ ∃ kind, (id, kind) ∈ ρ.members := by
  have hany : (r.unlisten id).2 = true ↔ ∃ kind, (r.listeners kind).any (·.id == id) = true := by
    unfold unlisten
    dsimp only
    split_ifs with hprovider hmodel htemplate
    · exact ⟨fun _ => ⟨.provider, hprovider⟩, fun _ => rfl⟩
    · exact ⟨fun _ => ⟨.model, hmodel⟩, fun _ => rfl⟩
    · exact ⟨fun _ => ⟨.template, htemplate⟩, fun _ => rfl⟩
    · refine ⟨nofun, ?_⟩
      rintro ⟨kind, hkind⟩
      cases kind with
      | provider => exact absurd hkind hprovider
      | model => exact absurd hkind hmodel
      | template => exact absurd hkind htemplate
  rw [hany]
  exact exists_congr fun kind => h.any_iff

theorem unlisten_books (r : Registry) (id : Nat) : (r.unlisten id).1.books = { r.books with
    listeners := (r.unlisten id).1.listeners } := by
  unfold unlisten
  dsimp only
  split_ifs <;> rfl

theorem Enrolled.unlisten (h : Enrolled r ρ) (id : Nat) :
    Enrolled (r.unlisten id).1 (ρ.enrol (.unlisten id)) := by
  have hsub : (ρ.members.filter (·.1 != id)).Sublist ρ.members := List.filter_sublist
  have hbooks := unlisten_books r id
  refine ⟨(congrArg Books.nextListener hbooks).trans h.added, fun kind => ?_,
    h.distinct.sublist (hsub.map _), fun x hx => h.bounded x (hsub.subset hx), fun n hn => ?_⟩
  · have hmap : ∀ ls : List Listener,
        (ls.filter (·.id != id)).map Listener.id = (ls.map Listener.id).filter (· != id) :=
      fun ls => by rw [List.filter_map]; rfl
    have hmap' : ∀ xs : List (Nat × Kind),
        (xs.filter (·.1 != id)).map Prod.fst = (xs.map Prod.fst).filter (· != id) :=
      fun xs => by rw [List.filter_map]; rfl
    rw [h.listeners_unlisten, hmap, h.listed, Roll.enrol, Roll.ofKind, Roll.ofKind,
      List.filter_comm, hmap']
  · rw [show (r.unlisten id).1.notices = r.notices from congrArg Books.notices hbooks] at hn
    exact h.told n hn

/-- The roll is kept by every operation. -/
theorem enrolled_perform (hr : r.Sound) (hquiet : r.pending = 0) (h : Enrolled r ρ)
    (op : Operation) : Enrolled (r.perform op).1 (ρ.enrol op) := by
  -- The roll changes by the operations on listeners; all others may only add notices.
  cases hop : op.enrols with
  | true =>
    cases op with
    | listen kind answer => exact h.listen kind answer
    | unlisten id => exact h.unlisten id
    | _ => cases hop
  | false =>
    have htells := perform_tells hr hquiet hop
    rw [Roll.enrol_of_other hop]
    refine ⟨htells.nextListener.trans h.added, fun kind => by rw [htells.listeners, h.listed],
      h.distinct, h.bounded, fun n hn => ?_⟩
    rw [htells.notices] at hn
    rcases List.mem_append.mp hn with hn | hn
    · exact h.told n hn
    · cases hnews : r.news op with
      | none =>
        rw [hnews] at hn
        cases hn
      | some e =>
        rw [hnews] at hn
        obtain ⟨l, hl, rfl⟩ := List.mem_map.mp hn
        -- Whoever is told something is listed at that moment, so its number is in use.
        have hmem : l.id ∈ ρ.ofKind e.kind := by
          rw [← h.listed]
          exact List.mem_map_of_mem hl
        exact h.bounded (l.id, e.kind) (Roll.mem_ofKind.mp hmem)

end Colloquy.Registry
