import Colloquy.Proofs.Registry.Books

/-!
# What goes wrong leaves no traces

An operation that a registry refuses may have built a backend and tried to prepare it before it was
refused.  None of this is written down, no listener is told, and requests go on as before
(`perform_atomic`), unless a maker has used the registry meanwhile.
-/

namespace Colloquy.Registry

open Provider (Backend)

variable {r r' : Registry}

/-! ### Requests after a change behind the books -/

/-- The backends that were there are as they were. -/
theorem Still.backend_eq (h : Still r r') {id : BackendId} (hid : id < r.backends.length) :
    r'.backend id = r.backend id := by
  obtain ⟨new, hnew⟩ := h.backends
  rw [backend, backend, ← hnew, List.getElem?_append_left hid]

/-- The active provider, its backend and the policy for requests are as they were. -/
theorem Still.active? (h : Still r r') (hr : r.Sound) : r'.active? = r.active? := by
  have hentries : r'.entries = r.entries := congrArg Books.entries h.books
  have hactive : r'.active = r.active := congrArg Books.active h.books
  unfold Registry.active?
  rw [hentries, hactive]
  split
  · rfl
  · next e he =>
    obtain ⟨key, hkey, hfind⟩ := Option.bind_eq_some_iff.mp he
    split
    · rfl
    · next id hid =>
      rw [h.backend_eq (lt_of_prepared (hr.ready key e id hfind hid).2)]

theorem Still.activeBackend? (h : Still r r') (hr : r.Sound) :
    r'.activeBackend? = r.activeBackend? := by
  unfold Registry.activeBackend?
  rw [h.active? hr]
  cases ha : r.active? with
  | error e => rfl
  | ok a => exact congrArg Except.ok (h.backend_eq (hr.lt_of_active? ha))

/-- A request is made in the same way and gets the same answer. -/
theorem Still.call (h : Still r r') (hr : r.Sound) {a : Active} (ha : r.active? = .ok a)
    {α : Type} (operation : String)
    (request : Backend → Except Provider.Failure α × Backend) :
    (r'.call a operation request).2 = (r.call a operation request).2 := by
  unfold Registry.call
  dsimp only
  rw [h.backend_eq (hr.lt_of_active? ha), h.retriesEnabled, h.draws]

theorem Still.complete (h : Still r r') (hr : r.Sound) (messages : List Message)
    (tools : List Provider.ToolDefinition) :
    (r'.complete messages tools).2 = (r.complete messages tools).2 := by
  have hactive := h.active? hr
  cases ha : r.active? with
  | error e =>
    rw [ha] at hactive
    rw [Registry.complete, Registry.complete, ha, hactive]
  | ok a =>
    rw [complete_result (hactive.trans ha), complete_result ha, h.call hr ha]

theorem Still.embed (h : Still r r') (hr : r.Sound) (text : String) :
    (r'.embed text).2 = (r.embed text).2 := by
  have hactive := h.active? hr
  cases ha : r.active? with
  | error e =>
    rw [ha] at hactive
    rw [Registry.embed, Registry.embed, ha, hactive]
  | ok a =>
    rw [embed_result (hactive.trans ha), embed_result ha, h.call hr ha]

/-! ### Operations that are refused -/

/-- Whether an operation is refused: an error is reported, or there is no listener to remove. -/
def Refuses (r : Registry) : Operation → Prop
  | .unlisten id => (r.unlisten id).2 = false
  | op => (r.perform op).2.isSome

theorem errorOf_isSome_iff {α : Type} {x : Except Error α} :
    (errorOf x).isSome ↔ ∃ e, x = .error e := by
  cases x <;> simp [errorOf]

theorem complete_error {messages : List Message} {tools : List Provider.ToolDefinition} {e : Error}
    (he : (r.complete messages tools).2 = .error e) : (r.complete messages tools).1 = r := by
  unfold complete at he ⊢
  split at he
  · rfl
  · split at he <;> cases he

/-- An operation that is refused changes nothing of what is written down and nothing for requests,
but for an embedding that fails. -/
theorem perform_still (hquiet : r.pending = 0) {op : Operation} (h : r.Refuses op)
    (hembed : ∀ text, op ≠ .embed text) : Still r (r.perform op).1 := by
  have hsame : ∀ {r' : Registry}, r' = r → Still r r' := fun h => h ▸ Still.refl r
  -- The first three may leave new backends behind, which nothing refers to; the others nothing.
  cases op with
  | register name source =>
    obtain ⟨e, he⟩ := errorOf_isSome_iff.mp h
    exact register_error hquiet he
  | prepare name o =>
    obtain ⟨e, he⟩ := errorOf_isSome_iff.mp h
    exact prepare_error hquiet he
  | activate name =>
    obtain ⟨e, he⟩ := errorOf_isSome_iff.mp h
    exact activate_error hquiet he
  | setPolicy name p =>
    obtain ⟨e, he⟩ := errorOf_isSome_iff.mp h
    exact hsame (setPolicy_error he)
  | setModel id =>
    obtain ⟨e, he⟩ := errorOf_isSome_iff.mp h
    exact hsame (setModel_error he)
  | setTemplate id =>
    obtain ⟨e, he⟩ := errorOf_isSome_iff.mp h
    exact hsame (setTemplate_error he)
  | setOptions o =>
    obtain ⟨e, he⟩ := errorOf_isSome_iff.mp h
    exact hsame (setOptions_error he)
  | unlisten id => exact hsame (unlisten_false h)
  | complete messages tools =>
    obtain ⟨e, he⟩ := errorOf_isSome_iff.mp h
    exact hsame (complete_error he)
  | embed text => exact absurd rfl (hembed text)
  | ask q => exact Still.refl r
  | _ => cases h

/-- An operation that is refused writes nothing. -/
theorem books_of_refuses (hquiet : r.pending = 0) {op : Operation} (h : r.Refuses op) :
    (r.perform op).1.books = r.books := by
  cases op with
  | embed text =>
    -- The backend may have used up an answer, but backends are not in the books.
    exact embed_books r text
  | _ => exact (perform_still hquiet h nofun).books

/-- **What is refused leaves no traces.**  Let a registry be in a state that some run leads to, with
makers that have no errands left, and let it refuse an operation: it reports an error, or it finds
no listener to remove.

* The books are as before: the names under which providers are registered and shown, what each entry
  says of the source, the backend and the policy of its provider, which one is active, and who
  listens.  No listener is told anything.
* Unless the operation was an embedding that failed, every backend is as before, with its options,
  and so is what requests go by: the active provider with its backend and its policy.  The next
  request gets the answer that it would have got. -/
theorem perform_atomic (hr : r.Reachable) (hquiet : r.pending = 0) {op : Operation}
    (h : r.Refuses op) :
    let r' := (r.perform op).1
    r'.books = r.books ∧ r'.names = r.names ∧
    ((∀ text, op ≠ .embed text) →
      r.backends <+: r'.backends ∧ r'.active? = r.active? ∧
      r'.activeBackend? = r.activeBackend? ∧
      (∀ messages tools, (r'.complete messages tools).2 = (r.complete messages tools).2) ∧
      ∀ text, (r'.embed text).2 = (r.embed text).2) := by
  intro r'
  have hbooks : r'.books = r.books := books_of_refuses hquiet h
  refine ⟨hbooks, ?_, fun hembed => ?_⟩
  · rw [names, names, show r'.entries = r.entries from congrArg Books.entries hbooks]
  · have hs := hr.sound
    have hstill : Still r r' := perform_still hquiet h hembed
    exact ⟨hstill.backends, hstill.active? hs, hstill.activeBackend? hs, hstill.complete hs,
      hstill.embed hs⟩

/-- A registry whose active provider follows a policy of its own; somebody listens, and there is a
backend that does not let itself be prepared. -/
def contested : Registry :=
  after true .empty (fun _ => 0.5)
    [.addBackend { Backend.named "mock" with options := { maxRetries := 7 } },
      .register "mock" (.shared 0), .activate "mock", .setPolicy "Mock " .disabled,
      .listen .provider .fine, .addBackend { Backend.named "late" with rejects := true }]

/-- The backend does not get into the place of the active one, and neither the options nor the
policy of that one are lost. -/
theorem contested_atomic :
    let op := Operation.register " MOCK" (.shared 1)
    let r' := (contested.perform op).1
    contested.Reachable ∧ contested.pending = 0 ∧ contested.Refuses op ∧
      (∀ text, op ≠ .embed text) ∧ r'.books = contested.books ∧
      (r'.activeBackend?.map fun b => b.options.maxRetries) = .ok 7 ∧
      r'.active?.map Active.policy = .ok .disabled := by
  intro op r'
  have hreach : contested.Reachable := ⟨_, _, _, _, rfl⟩
  have hpending : contested.pending = 0 := rfl
  have hrefuses : contested.Refuses op := rfl
  obtain ⟨hbooks, -, hrest⟩ := perform_atomic hreach hpending hrefuses
  obtain ⟨-, hactive, hbackend, -⟩ := hrest nofun
  refine ⟨hreach, hpending, hrefuses, nofun, hbooks, ?_, ?_⟩
  · rw [show r'.activeBackend? = contested.activeBackend? from hbackend]
    rfl
  · rw [show r'.active? = contested.active? from hactive]
    rfl

end Colloquy.Registry
