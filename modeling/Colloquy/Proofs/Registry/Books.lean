import Colloquy.Proofs.Registry.Bound
import Colloquy.Proofs.Registry.Representation

/-!
# The books of a registry

`Registry.books` is all that a registry has written down of its providers and its listeners.  While
no maker has an errand left (`pending = 0`), nobody but the operation itself writes into them, and
what it writes depends on how it ends:

* an operation that goes wrong writes nothing (`register_error`, `activate_error`,
  `prepare_error`), and what it does behind the books is without effect on requests (`Still`);
* `register_ok`, `activate_ok`, `prepare_ok`, `setModel_ok`, `setTemplate_ok`: what an operation
  writes that goes well.
-/

namespace Colloquy.Registry

open Provider (Backend Options)

variable {r r' r'' : Registry} {n : Nat} {name : String} {e : Error}

/-! ### Books -/

/-- The listeners of a kind, in the order in which they are told. -/
def listeners (r : Registry) : Kind → List Listener
  | .provider => r.providerListeners
  | .model => r.modelListeners
  | .template => r.templateListeners

/-- What is written down of providers and listeners. -/
structure Books where
  entries : Dictionary Entry
  active : Option String
  listeners : Kind → List Listener
  nextListener : Nat
  /-- All that the listeners have been told. -/
  notices : List Notice

/-- The books of a registry. -/
def books (r : Registry) : Books :=
  ⟨r.entries, r.active, r.listeners, r.nextListener, r.notices⟩

theorem books_setEntry (r : Registry) (name : String) (e : Entry) :
    (r.setEntry name e).books =
      { r.books with entries := r.books.entries.insert (keyOf name) e } := rfl

theorem books_tellProvider (r : Registry) (displayName : String) :
    (r.tellProvider displayName).books = { r.books with
      notices := r.books.notices ++
        notify (r.books.listeners .provider) (.provider displayName) } :=
  rfl

theorem isActive_congr (h : r'.books = r.books) (name : String) :
    r'.isActive name = r.isActive name := by
  rw [isActive, isActive, show r'.active = r.active from congrArg Books.active h]

theorem find?_congr (h : r'.books = r.books) (name : String) : r'.find? name = r.find? name := by
  rw [find?, find?, show r'.entries = r.entries from congrArg Books.entries h]

/-! ### Changes behind the books -/

/-- A change that is not written down and that requests do not notice: there may be new backends,
and that is all. -/
structure Still (r r' : Registry) : Prop where
  books : r'.books = r.books
  backends : r.backends <+: r'.backends
  retriesEnabled : r'.retriesEnabled = r.retriesEnabled
  draws : r'.draws = r.draws

theorem Still.refl (r : Registry) : Still r r :=
  ⟨rfl, List.prefix_rfl, rfl, rfl⟩

theorem Still.trans (h : Still r r') (h' : Still r' r'') : Still r r'' :=
  ⟨h'.books.trans h.books, h.backends.trans h'.backends,
    h'.retriesEnabled.trans h.retriesEnabled, h'.draws.trans h.draws⟩

theorem still_obtain (r : Registry) (id : BackendId) : Still r (r.obtain id).1 := by
  unfold obtain
  split_ifs
  · exact Still.refl r
  · exact ⟨rfl, List.prefix_append .., rfl, rfl⟩

theorem still_produce (r : Registry) (p : Product) : Still r (r.produce p).1 := by
  cases p with
  | new plan => exact ⟨rfl, List.prefix_append .., rfl, rfl⟩
  | existing id => exact still_obtain r id

theorem nextErrands_eq_nil (h : r.pending = 0) (m : MakerId) :
    (r.makers[m]?.getD default).nextErrands = [] := by
  have hsum := pending_startCall r m
  exact List.eq_nil_of_length_eq_zero (by omega)

/-- A maker without errands makes a backend, and that is all. -/
theorem make_still (h : r.pending = 0) (depth n : Nat) (source : Source) :
    Still r (make depth r n source).1 := by
  unfold make
  cases source with
  | shared id => exact (still_obtain r id).trans ⟨rfl, List.prefix_rfl, rfl, rfl⟩
  | made m =>
    have hstart : Still r (r.startCall m) := ⟨rfl, List.prefix_rfl, rfl, rfl⟩
    -- Without errands the depth makes no difference.
    have hnil := nextErrands_eq_nil h m
    have hfinish : ∀ r₁ : Registry, Still r r₁ → ∀ call p,
        Still r (((r₁.produce p).1.noteMade m call (r₁.produce p).2).deliver n (.made m)
          (r₁.produce p).2) :=
      fun r₁ hr₁ call p => (hr₁.trans (still_produce r₁ p)).trans ⟨rfl, List.prefix_rfl, rfl, rfl⟩
    cases depth with
    | zero => exact hfinish _ hstart ..
    | succ depth =>
      dsimp only
      rw [hnil]
      exact hfinish _ hstart ..

theorem set_getD_self {α : Type} (l : List α) (i : Nat) (a : α) : l.set i (l[i]?.getD a) = l := by
  by_cases h : i < l.length
  · rw [List.getElem?_eq_getElem h, Option.getD_some, List.set_getElem_self]
  · exact List.set_eq_of_length_le (Nat.le_of_not_lt h)

/-- A backend that does not let itself be prepared stays as it is. -/
theorem still_of_refused {id : BackendId} {o : Options}
    (h : r.prepareBackend id o = (r', false)) : Still r r' := by
  have hsame : ∀ b : Backend, (b.prepare o).1 = false → (b.prepare o).2 = b := by
    intro b hb
    unfold Backend.prepare at hb ⊢
    split_ifs at hb ⊢
    rfl
  have hrefused : ((r.backend id).prepare o).1 = false := congrArg Prod.snd h
  have hr' : r.setBackend id ((r.backend id).prepare o).2 = r' := congrArg Prod.fst h
  rw [← hr', hsame _ hrefused, setBackend, backend, set_getD_self]
  exact Still.refl r

/-- The books when a backend has been made and prepared, whether it let itself be prepared or
not. -/
theorem books_prepared (h : r.pending = 0) {depth : Nat} {source : Source} {id : BackendId}
    {o : Options} {accepted : Bool} (hmake : make depth r n source = (r', id))
    (hprep : r'.prepareBackend id o = (r'', accepted)) :
    r''.books = r.books ∧ (accepted = false → Still r r'') := by
  have hstill := make_still h depth n source
  rw [hmake] at hstill
  have hbooks : (r'.prepareBackend id o).1.books = r'.books := rfl
  rw [hprep] at hbooks
  exact ⟨hbooks.trans hstill.books, fun haccepted =>
    hstill.trans (still_of_refused (haccepted ▸ hprep))⟩

/-! ### Registrations -/

theorem registerWith_books (h : r.pending = 0) {bound again : Nat} {source : Source} :
    let x := registerWith (make bound) name source n again r
    (∀ e, x.2 = .error e → Still r x.1) ∧
    (x.2 = .ok () → ∃ backend, x.1.books = { r.books with
      entries := r.entries.insert (keyOf name) ⟨Text.trim name, source, n, backend, none⟩
      notices := r.notices ++ if r.isActive name then
        notify (r.listeners .provider) (.provider (Text.trim name)) else [] }) := by
  intro x
  subst x
  fun_induction registerWith (make bound) name source n again r with
  | case1 again r hact previous r₁ id hmake options r₂ accepted hprep hrej =>
    refine ⟨fun _ _ => (books_prepared h hmake hprep).2 (by simpa using hrej), fun hok => ?_⟩
    cases hok
  | case2 again r entry hact previous r₁ id hmake options r₂ accepted hprep hacc hact' =>
    obtain ⟨hbooks, -⟩ := books_prepared h hmake hprep
    refine ⟨fun _ he => ?_, fun _ => ⟨some id, ?_⟩⟩
    · cases he
    · rw [books_tellProvider, books_setEntry, hbooks, hact]
      rfl
  | case3 r hact previous r₁ id hmake options r₂ accepted hprep hacc hact' =>
    -- Nobody but a maker could have activated another provider.
    rw [isActive_congr (books_prepared h hmake hprep).1] at hact'
    exact absurd hact hact'
  | case4 r hact previous r₁ id hmake options r₂ accepted hprep hacc hact' again ih =>
    rw [isActive_congr (books_prepared h hmake hprep).1] at hact'
    exact absurd hact hact'
  | case5 again r entry hact =>
    refine ⟨fun _ he => ?_, fun _ => ⟨none, ?_⟩⟩
    · cases he
    · rw [books_setEntry, if_neg hact, List.append_nil]
      rfl

/-- A registration that goes wrong. -/
theorem register_error (h : r.pending = 0) {source : Source}
    (he : (r.register name source).2 = .error e) : Still r (r.register name source).1 :=
  have hnew : Still r r.newRegistration.1 := ⟨rfl, List.prefix_rfl, rfl, rfl⟩
  hnew.trans ((registerWith_books (r := r.newRegistration.1) h).1 e he)

/-- A registration that goes well.  The provider is written down anew; if it is the active one, its
listeners are told. -/
theorem register_ok (h : r.pending = 0) {source : Source}
    (hok : (r.register name source).2 = .ok ()) :
    ∃ backend, (r.register name source).1.books = { r.books with
      entries := r.entries.insert (keyOf name)
        ⟨Text.trim name, source, r.nextRegistration, backend, none⟩
      notices := r.notices ++ if r.isActive name then
        notify (r.listeners .provider) (.provider (Text.trim name)) else [] } :=
  (registerWith_books (r := r.newRegistration.1) h).2 hok

/-! ### Activations and preparations -/

theorem activateWith_books (h : r.pending = 0) {bound again : Nat} :
    let x := activateWith (make bound) name again r
    (∀ e, x.2 = .error e → Still r x.1) ∧
    (x.2 = .ok () → ∃ e now, r.find? name = some e ∧ now.displayName = e.displayName ∧
      x.1.find? name = some now ∧ x.1.books = { r.books with
        entries := x.1.entries
        active := some (keyOf name)
        notices := r.notices ++
          notify (r.listeners .provider) (.provider e.displayName) }) := by
  intro x
  subst x
  fun_induction activateWith (make bound) name again r with
  | case1 again r hfind =>
    refine ⟨fun _ _ => Still.refl r, fun hok => ?_⟩
    cases hok
  | case2 again r e hfind id hid =>
    refine ⟨fun _ he => ?_, fun _ => ⟨e, e, hfind, rfl, hfind, rfl⟩⟩
    cases he
  | case3 again r e hfind hnone r₁ id hmake r₂ accepted hprep hrej =>
    refine ⟨fun _ _ => (books_prepared h hmake hprep).2 (by simpa using hrej), fun hok => ?_⟩
    cases hok
  | case4 again r e hfind hnone r₁ id hmake r₂ accepted hprep hacc hgone =>
    -- The entry is still there, and it is the same one: only a maker could have replaced it.
    rw [find?_congr (books_prepared h hmake hprep).1, hfind] at hgone
    cases hgone
  | case5 again r e hfind hnone r₁ id hmake r₂ accepted hprep hacc now hnow hsame r₃ =>
    obtain ⟨hbooks, -⟩ := books_prepared h hmake hprep
    rw [find?_congr hbooks, hfind] at hnow
    obtain rfl := Option.some.inj hnow
    have hset : r₃.books = { r.books with entries := r₃.entries } := by
      rw [← hbooks]
      rfl
    have hactive : ({ r₃ with active := some (keyOf name) } : Registry).books =
        { r₃.books with active := some (keyOf name) } := rfl
    refine ⟨fun _ he => ?_, fun _ =>
      ⟨e, e.withBackend id, hfind, rfl, Dictionary.find?_insert_self .., ?_⟩⟩
    · cases he
    · rw [books_tellProvider, hactive, hset]
      rfl
  | case6 r e hfind hnone r₁ id hmake r₂ accepted hprep hacc now hnow hother =>
    rw [find?_congr (books_prepared h hmake hprep).1, hfind] at hnow
    exact absurd (congrArg Entry.registration (Option.some.inj hnow.symm)) hother
  | case7 r e hfind hnone r₁ id hmake r₂ accepted hprep hacc now hnow hother again ih =>
    rw [find?_congr (books_prepared h hmake hprep).1, hfind] at hnow
    exact absurd (congrArg Entry.registration (Option.some.inj hnow.symm)) hother

/-- An activation that goes wrong. -/
theorem activate_error (h : r.pending = 0) (he : (r.activate name).2 = .error e) :
    Still r (r.activate name).1 :=
  (activateWith_books h).1 e he

/-- An activation that goes well.  The provider is the active one, and its listeners are told. -/
theorem activate_ok (h : r.pending = 0) (hok : (r.activate name).2 = .ok ()) :
    ∃ e now, r.find? name = some e ∧ now.displayName = e.displayName ∧
      (r.activate name).1.find? name = some now ∧ (r.activate name).1.books = { r.books with
        entries := (r.activate name).1.entries
        active := some (keyOf name)
        notices := r.notices ++ notify (r.listeners .provider) (.provider e.displayName) } :=
  (activateWith_books h).2 hok

/-- The books when the backend of an entry, which is made if there is none yet, has been
prepared. -/
theorem books_preparedEntry (h : r.pending = 0) {depth : Nat} {entry : Entry} {id : BackendId}
    {o : Options} {accepted : Bool}
    (hmake : (match entry.backend with
      | some id => (r, id)
      | none => make depth r entry.registration entry.source) = (r', id))
    (hprep : r'.prepareBackend id o = (r'', accepted)) :
    r''.books = r.books ∧ (accepted = false → Still r r'') := by
  cases hb : entry.backend with
  | none =>
    rw [hb] at hmake
    exact books_prepared h hmake hprep
  | some j =>
    rw [hb] at hmake
    obtain ⟨rfl, rfl⟩ := Prod.mk.inj hmake
    have hbooks : (r.prepareBackend j o).1.books = r.books := rfl
    rw [hprep] at hbooks
    exact ⟨hbooks, fun haccepted => still_of_refused (haccepted ▸ hprep)⟩

theorem prepareWith_books (h : r.pending = 0) {bound again : Nat} {o : Options} :
    let x := prepareWith (make bound) name o again r
    (∀ e, x.2 = .error e → Still r x.1) ∧
    (x.2 = .ok () → x.1.books = { r.books with entries := x.1.entries }) := by
  intro x
  subst x
  fun_induction prepareWith (make bound) name o again r with
  | case1 again r hfind =>
    refine ⟨fun _ _ => Still.refl r, fun hok => ?_⟩
    cases hok
  | case2 again r e hfind r₁ id hmake r₂ accepted hprep hrej =>
    refine ⟨fun _ _ => (books_preparedEntry h hmake hprep).2 (by simpa using hrej), fun hok => ?_⟩
    cases hok
  | case3 again r e hfind r₁ id hmake r₂ accepted hprep hacc hgone =>
    -- Nothing interferes without errands, so the entry is still there and it is the same one.
    rw [find?_congr (books_preparedEntry h hmake hprep).1, hfind] at hgone
    cases hgone
  | case4 again r e hfind r₁ id hmake r₂ accepted hprep hacc now hnow hsame =>
    refine ⟨fun _ he => ?_, fun _ => ?_⟩
    · cases he
    · rw [← (books_preparedEntry h hmake hprep).1]
      rfl
  | case5 r e hfind r₁ id hmake r₂ accepted hprep hacc now hnow hother =>
    rw [find?_congr (books_preparedEntry h hmake hprep).1, hfind] at hnow
    exact absurd (congrArg Entry.registration (Option.some.inj hnow.symm)) hother
  | case6 r e hfind r₁ id hmake r₂ accepted hprep hacc now hnow hother again ih =>
    rw [find?_congr (books_preparedEntry h hmake hprep).1, hfind] at hnow
    exact absurd (congrArg Entry.registration (Option.some.inj hnow.symm)) hother

/-- A preparation that goes wrong. -/
theorem prepare_error (h : r.pending = 0) {o : Options}
    (he : (r.prepare name o).2 = .error e) : Still r (r.prepare name o).1 :=
  (prepareWith_books h).1 e he

/-- A preparation that goes well.  No listener is told. -/
theorem prepare_ok (h : r.pending = 0) {o : Options} (hok : (r.prepare name o).2 = .ok ()) :
    (r.prepare name o).1.books = { r.books with entries := (r.prepare name o).1.entries } :=
  (prepareWith_books h).2 hok

/-! ### Requests and settings -/

/-- Requests are not written down. -/
theorem complete_books (r : Registry) (messages : List Message)
    (tools : List Provider.ToolDefinition) : (r.complete messages tools).1.books = r.books := by
  cases ha : r.active? with
  | error e => rw [complete, ha]
  | ok a =>
    rw [complete_eq_call ha]
    rfl

theorem embed_books (r : Registry) (text : String) : (r.embed text).1.books = r.books := by
  cases ha : r.active? with
  | error e => rw [embed, ha]
  | ok a =>
    rw [embed_eq_call ha]
    rfl

theorem setOptions_books (r : Registry) (o : Options) : (r.setOptions o).1.books = r.books := by
  unfold setOptions
  split <;> rfl

theorem setPolicy_error {p : Retry.Policy} (he : (r.setPolicy name p).2 = .error e) :
    (r.setPolicy name p).1 = r := by
  unfold setPolicy at he ⊢
  split at he
  · rfl
  · cases he

theorem setModel_error {id : String} (he : (r.setModel id).2 = .error e) :
    (r.setModel id).1 = r := by
  unfold setModel at he ⊢
  split at he
  · rfl
  · dsimp only at he ⊢
    split_ifs at he ⊢
    · rfl
    · split at he
      · rfl
      · cases he

theorem setPolicy_ok {p : Retry.Policy} (hok : (r.setPolicy name p).2 = .ok ()) :
    ∃ e, r.find? name = some e ∧
      (r.setPolicy name p).1 = r.setEntry name { e with policy := some p } := by
  unfold setPolicy at hok ⊢
  split at hok
  · cases hok
  · next e he => exact ⟨e, he, rfl⟩

/-- A change of the model that goes well.  Its listeners are told. -/
theorem setModel_ok {id : String} {info : Provider.ModelInfo}
    (hok : (r.setModel id).2 = .ok info) :
    ∃ a b, r.active? = .ok a ∧ (r.backend a.backend).setModel id = (true, b) ∧
      info = b.currentModel ∧ (r.setModel id).1 = { r.setBackend a.backend b with
        notices := r.notices ++ notify (r.listeners .model) (.model info) } := by
  unfold setModel at hok ⊢
  split at hok
  · cases hok
  · next a ha =>
    dsimp only at hok ⊢
    split_ifs at hok ⊢
    split at hok
    · cases hok
    · next b hb =>
      obtain rfl := Except.ok.inj hok
      exact ⟨a, b, ha, hb, rfl, rfl⟩

theorem setTemplate_error {id : String} (he : (r.setTemplate id).2 = .error e) :
    (r.setTemplate id).1 = r := by
  unfold setTemplate at he ⊢
  split at he
  · rfl
  · dsimp only at he ⊢
    split_ifs at he ⊢
    · rfl
    · split at he
      · rfl
      · cases he

/-- A change of the template that goes well.  Its listeners are told. -/
theorem setTemplate_ok {id : String} (hok : (r.setTemplate id).2 = .ok ()) :
    ∃ a b, r.active? = .ok a ∧ (r.backend a.backend).setTemplate id = (true, b) ∧
      (r.setTemplate id).1 = { r.setBackend a.backend b with
        notices := r.notices ++ notify (r.listeners .template) (.template id) } := by
  unfold setTemplate at hok ⊢
  split at hok
  · cases hok
  · next a ha =>
    dsimp only at hok ⊢
    split_ifs at hok ⊢
    split at hok
    · cases hok
    · next b hb => exact ⟨a, b, ha, hb, rfl⟩

theorem setOptions_error {o : Options} (he : (r.setOptions o).2 = .error e) :
    (r.setOptions o).1 = r := by
  unfold setOptions at he ⊢
  split at he
  · rfl
  · cases he

/-- A listener that is not there is not removed. -/
theorem unlisten_false {id : Nat} (h : (r.unlisten id).2 = false) : (r.unlisten id).1 = r := by
  unfold unlisten at h ⊢
  dsimp only at h ⊢
  split_ifs at h ⊢
  rfl

end Colloquy.Registry
