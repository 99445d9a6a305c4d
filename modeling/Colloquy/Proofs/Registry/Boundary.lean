import Colloquy.Proofs.Registry.Books
import Colloquy.Proofs.Retry.Attempts

/-!
# What a request comes back with

A request is a run of attempts at one backend.  `Backend.reply` and `Backend.embeddingAt` are what
the backend answers one attempt after the other, `Backend.asked` and `Backend.embedded` what it is
then, so that a request is told without the loop: `Served`.

* `served_call`: what any request does to a registry;
* `complete_served`, `embed_served`: the answer of the last attempt is handed on as it is, its
  failure is made into an answer or into an error;
* `complete_error_iff`, `embed_error_iff`: requests are refused for want of an active provider only;
* `requests_boundary`: which errors a request gives, and when, in every registry.
-/

namespace Colloquy

open Provider (Backend Completion Failure GivenUp ToolDefinition)
open Retry (outcomeAt stateAfter)

/-! ### What a backend answers -/

namespace Provider.Backend

/-- The answer to a request that is made after so many others. -/
def reply (b : Backend) (messages : List Message) (calls : Nat) : Except Failure Completion :=
  b.script[calls]?.getD (.ok (echo messages))

/-- The backend when it has been asked so many times, at least once, for the same completion. -/
def asked (b : Backend) (messages : List Message) (tools : List ToolDefinition) (calls : Nat) :
    Backend :=
  { b with
    calls := b.calls + calls
    lastMessages := messages
    lastTools := tools.map ToolDefinition.name
    script := b.script.drop calls }

/-- The answer to a request for an embedding that is made after so many others. -/
def embeddingAt (b : Backend) (text : String) (calls : Nat) : Except Failure (List Float32) :=
  match b.embeddingFailures[calls]? with
  | some f => .error f
  | none => .ok (embedding text.toUTF8.toList)

/-- The backend when it has been asked so many times for an embedding. -/
def embedded (b : Backend) (calls : Nat) : Backend :=
  { b with embeddingFailures := b.embeddingFailures.drop calls }

variable (b : Backend) (messages : List Message) (tools : List ToolDefinition) (text : String)

theorem complete_eq (b : Backend) :
    b.complete messages tools = (b.reply messages 0, b.asked messages tools 1) := by
  rw [complete, reply, asked]
  cases b.script <;> rfl

theorem embed_eq (b : Backend) : b.embed text = (b.embeddingAt text 0, b.embedded 1) := by
  cases h : b.embeddingFailures with
  | nil =>
    have hsame : b.embedded 1 = b := by rw [embedded, h, List.drop_nil, ← h]
    rw [hsame, embed, embeddingAt, h]
    rfl
  | cons f rest =>
    rw [embed, embeddingAt, embedded, h]
    rfl

theorem asked_asked (calls : Nat) :
    (b.asked messages tools calls).asked messages tools 1 = b.asked messages tools (calls + 1) := by
  rw [asked, asked, asked, List.drop_drop, Nat.add_assoc]

theorem embedded_embedded (calls : Nat) :
    (b.embedded calls).embedded 1 = b.embedded (calls + 1) := by
  rw [embedded, embedded, embedded, List.drop_drop]

theorem reply_asked (calls : Nat) :
    (b.asked messages tools calls).reply messages 0 = b.reply messages calls := by
  rw [reply, reply, asked, List.getElem?_drop, Nat.add_zero]

theorem embeddingAt_embedded (calls : Nat) :
    (b.embedded calls).embeddingAt text 0 = b.embeddingAt text calls := by
  rw [embeddingAt, embeddingAt, embedded, List.getElem?_drop, Nat.add_zero]

theorem stateAfter_complete (calls : Nat) :
    stateAfter (Backend.complete messages tools) b (calls + 1) =
      b.asked messages tools (calls + 1) := by
  induction calls with
  | zero => rw [Retry.stateAfter_succ, complete_eq]; rfl
  | succ calls ih => rw [Retry.stateAfter_succ, ih, complete_eq, asked_asked]

theorem stateAfter_embed (calls : Nat) :
    stateAfter (Backend.embed text) b calls = b.embedded calls := by
  induction calls with
  | zero => rfl
  | succ calls ih => rw [Retry.stateAfter_succ, ih, embed_eq, embedded_embedded]

theorem outcomeAt_complete (calls : Nat) :
    outcomeAt (Backend.complete messages tools) b calls = b.reply messages calls := by
  cases calls with
  | zero => rw [outcomeAt, complete_eq]; rfl
  | succ calls => rw [outcomeAt, stateAfter_complete, complete_eq, reply_asked]

theorem outcomeAt_embed (calls : Nat) :
    outcomeAt (Backend.embed text) b calls = b.embeddingAt text calls := by
  rw [outcomeAt, stateAfter_embed, embed_eq, embeddingAt_embedded]

end Provider.Backend

/-! ### Reports of failures -/

/-- The message of a failure; if there were retries before it, their number is added. -/
def Provider.Failure.account (f : Failure) (retries : Nat) : String :=
  f.message ++ if retries = 0 then "" else s!" (Retried {retries} times)"

theorem Provider.GivenUp.message_eq (f : Failure) (retries : Nat) :
    (⟨f, retries⟩ : GivenUp).message = f.account retries := by
  unfold message Failure.account
  by_cases h : retries = 0
  · rw [if_neg (by simp [h]), if_pos h, String.append_empty]
  · rw [if_pos (Nat.pos_of_ne_zero h), if_neg h]
    simp [toString, String.append_assoc]

namespace Registry

variable {r : Registry} {α : Type}

/-- What an answer notes that is made of a failure. -/
theorem entries_giveUp (displayName : String) (f : Failure) (retries : Nat) :
    (giveUp displayName ⟨f, retries⟩).metadata.entries =
      [("error_kind", f.kind.reason), ("provider", displayName), ("retries", toString retries)] :=
  rfl

/-! ### Requests -/

/-- A request to a backend, in a registry that becomes another one: the backend answers the same
request `retries + 1` times, up to the first answer that settles the matter under the policy, and
only it is changed.  Besides, the request is noted in the ledger and the retries are announced and
waited for. -/
structure Served (r r' : Registry) (id : BackendId) (p : Retry.Policy)
    (request : Backend → Except Failure α × Backend) (answer : Nat → Except Failure α)
    (state : Nat → Backend) (retries : Nat) : Prop where
  settled : IsLeast {k | p.Settles (answer k) k} retries
  attempts : Retry.visited p r.draws request (r.backend id) =
    (List.range (retries + 1)).map fun k => state (k + 1)
  backend : r'.backend id = state (retries + 1)
  others : ∀ j, j ≠ id → r'.backend j = r.backend j
  kept : r' = { r with
    backends := r'.backends
    statistics := r'.statistics
    announcements := r'.announcements
    waited := r'.waited }

/-- **A request** to a backend that is there, whatever the backend does: it is served, and what it
gives is what the last attempt gives. -/
theorem served_call {a : Active} (ha : a.backend < r.backends.length) (operation : String)
    {request : Backend → Except Failure α × Backend} {answer : Nat → Except Failure α}
    {state : Nat → Backend} (hanswer : ∀ k, outcomeAt request (r.backend a.backend) k = answer k)
    (hstate : ∀ k, stateAfter request (r.backend a.backend) (k + 1) = state (k + 1)) :
    ∃ retries, Served r (r.call a operation request).1 a.backend
        (a.policy.effective r.retriesEnabled) request answer state retries ∧
      (r.call a operation request).2 = Retry.conclude (answer retries) retries := by
  obtain ⟨hleast, hend, hresult⟩ := Retry.execute_attempts (a.policy.effective r.retriesEnabled)
    r.draws request (r.backend a.backend)
  have hvisited := Retry.visited_eq_map (a.policy.effective r.retriesEnabled) r.draws request
    (r.backend a.backend)
  simp only [hanswer] at hleast hresult
  simp only [hstate] at hend hvisited
  refine ⟨_, ⟨hleast, hvisited, ?_, ?_, rfl⟩, hresult⟩
  · show (r.setBackend a.backend _).backend a.backend = _
    rw [backend_setBackend, if_pos ⟨rfl, ha⟩, hend]
  · intro j hj
    show (r.setBackend a.backend _).backend j = _
    rw [backend_setBackend, if_neg fun h => hj h.1.symm]

/-- The active provider is the one of its entry, with its backend and its policy. -/
theorem active?_eq {key : String} {e : Entry} {id : BackendId} (hkey : r.active = some key)
    (he : r.entries.find? key = some e) (hid : e.backend = some id) :
    r.active? = .ok ⟨e.displayName, id, e.policy.getD (r.backend id).retryPolicy⟩ := by
  rw [active?, hkey, Option.bind_some, he]
  dsimp only
  rw [hid]

/-- Without an active provider there is nothing to send requests to. -/
theorem active?_of_none (h : r.active = none) : r.active? = .error .noActiveProvider := by
  rw [active?, h]
  rfl

/-- What a request for a completion comes back with that is made after the attempts. -/
theorem complete_served {a : Active} (h : r.active? = .ok a) (ha : a.backend < r.backends.length)
    (messages : List Message) (tools : List ToolDefinition) :
    let b := r.backend a.backend
    ∃ retries, Served r (r.complete messages tools).1 a.backend
        (a.policy.effective r.retriesEnabled) (Backend.complete messages tools) (b.reply messages)
        (b.asked messages tools) retries ∧
      (r.complete messages tools).2 = .ok
        (match b.reply messages retries with
          | .ok answer => answer
          | .error f => giveUp a.displayName ⟨f, retries⟩) := by
  intro b
  obtain ⟨retries, hserved, hresult⟩ := served_call ha "completion"
    (b.outcomeAt_complete messages tools) (b.stateAfter_complete messages tools)
  refine ⟨retries, ?_, ?_⟩
  · rw [complete_eq_call h]
    exact hserved
  · rw [complete_result h, hresult]
    cases b.reply messages retries <;> rfl

/-- What a request for an embedding comes back with that is made after the attempts. -/
theorem embed_served {a : Active} (h : r.active? = .ok a) (ha : a.backend < r.backends.length)
    (text : String) :
    let b := r.backend a.backend
    ∃ retries, Served r (r.embed text).1 a.backend (a.policy.effective r.retriesEnabled)
        (Backend.embed text) (b.embeddingAt text) b.embedded retries ∧
      (r.embed text).2 =
        match b.embeddingAt text retries with
          | .ok v => .ok v
          | .error f => .error (.provider (f.account retries)) := by
  intro b
  obtain ⟨retries, hserved, hresult⟩ := served_call ha "embedding"
    (b.outcomeAt_embed text) fun k => b.stateAfter_embed text (k + 1)
  refine ⟨retries, ?_, ?_⟩
  · rw [embed_eq_call h]
    exact hserved
  · rw [embed_result h, hresult]
    cases b.embeddingAt text retries with
    | ok v => rfl
    | error f => simp only [Retry.conclude, Except.mapError, GivenUp.message_eq]

/-! ### Without an active provider -/

theorem complete_of_none (h : r.active = none) (messages : List Message)
    (tools : List ToolDefinition) :
    r.complete messages tools = (r, .error .noActiveProvider) := by
  rw [complete, active?_of_none h]

theorem embed_of_none (h : r.active = none) (text : String) :
    r.embed text = (r, .error .noActiveProvider) := by
  rw [embed, active?_of_none h]

/-! ### With one or without -/

variable {messages : List Message} {tools : List ToolDefinition} {text : String}

/-- With an active provider there is a backend to send requests to. -/
theorem Sound.exists_active (h : r.Sound) {key : String} (hkey : r.active = some key) :
    ∃ a, r.active? = .ok a ∧ a.backend < r.backends.length := by
  obtain ⟨a, ha⟩ := h.active?_ok (Option.isSome_of_mem hkey)
  exact ⟨a, ha, h.lt_of_active? ha⟩

theorem complete_error_iff (h : r.Sound) {e : Error} :
    (r.complete messages tools).2 = .error e ↔ e = .noActiveProvider ∧ r.active = none := by
  cases hkey : r.active with
  | none =>
    rw [complete_of_none hkey, Except.error.injEq, eq_comm]
    exact (and_iff_left rfl).symm
  | some key =>
    obtain ⟨a, ha, hlt⟩ := h.exists_active hkey
    obtain ⟨retries, -, hresult⟩ := complete_served ha hlt messages tools
    rw [hresult]
    simp

theorem embed_error_iff (h : r.Sound) :
    (r.embed text).2 = .error .noActiveProvider ↔ r.active = none := by
  cases hkey : r.active with
  | none => rw [embed_of_none hkey]; exact iff_of_true rfl rfl
  | some key =>
    obtain ⟨a, ha, hlt⟩ := h.exists_active hkey
    obtain ⟨retries, -, hresult⟩ := embed_served ha hlt text
    rw [hresult]
    split <;> simp

/-! ### The boundary -/

/-- **What requests come back with**, after any run.

* Without an active provider both kinds of requests are refused for want of one, and nothing
  happens.  This is the only error of a request for a completion.
* Otherwise all attempts go to the backend that the active provider has when the request is made,
  and they ask it for the same thing; the first answer that settles the matter under the policy of
  the provider is the last one.  Of the registry nothing but this backend is changed, and what is
  noted of retries.
* A last answer that is a completion or an embedding is handed on as it is.  A failure is given the
  same account in both cases: as the message of an answer that is an error, without a content and
  calls of tools, with just the provider, the reason and the number of retries as remarks; and as an
  error of the provider. -/
theorem requests_boundary (enabled : Bool) (statistics : Retry.Statistics) (draws : Nat → Float)
    (ops : List Operation) :
    let r := after enabled statistics draws ops
    (∀ messages tools e, (r.complete messages tools).2 = .error e ↔
      e = .noActiveProvider ∧ r.active = none) ∧
    (∀ text, (r.embed text).2 = .error .noActiveProvider ↔ r.active = none) ∧
    (r.active = none → ∀ messages tools text,
      (r.complete messages tools).1 = r ∧ (r.embed text).1 = r) ∧
    ∀ key, r.active = some key → ∃ e id, r.entries.find? key = some e ∧ e.backend = some id ∧
      let b := r.backend id
      let p := (e.policy.getD b.retryPolicy).effective r.retriesEnabled
      (∀ messages tools, ∃ retries,
        Served r (r.complete messages tools).1 id p (Backend.complete messages tools)
          (b.reply messages) (b.asked messages tools) retries ∧
        (∀ answer, b.reply messages retries = .ok answer →
          (r.complete messages tools).2 = .ok answer) ∧
        ∀ f, b.reply messages retries = .error f → ∃ remarks,
          (r.complete messages tools).2 = .ok ⟨.apiError, "", [], f.account retries, remarks⟩ ∧
          remarks.entries = [("error_kind", f.kind.reason), ("provider", e.displayName),
            ("retries", toString retries)]) ∧
      ∀ text, ∃ retries,
        Served r (r.embed text).1 id p (Backend.embed text) (b.embeddingAt text) b.embedded
          retries ∧
        (r.embed text).2 = match b.embeddingAt text retries with
          | .ok v => .ok v
          | .error f => .error (.provider (f.account retries)) := by
  intro r
  have hsound : r.Sound := after_sound enabled statistics draws ops
  refine ⟨fun messages tools e => complete_error_iff hsound, fun text => embed_error_iff hsound,
    fun h messages tools text => ?_, fun key hkey => ?_⟩
  · rw [complete_of_none h, embed_of_none h]
    exact ⟨rfl, rfl⟩
  · -- An active provider is registered and has a backend, so the request is made.
    obtain ⟨e, id, he, hid⟩ := hsound.active key hkey
    have ha := active?_eq hkey he hid
    have hlt := hsound.lt_of_active? ha
    refine ⟨e, id, he, hid, fun messages tools => ?_, fun text => embed_served ha hlt text⟩
    obtain ⟨retries, hserved, hresult⟩ := complete_served ha hlt messages tools
    refine ⟨retries, hserved, fun answer hanswer => ?_, fun f hf => ?_⟩
    · rw [hresult, hanswer]
    · rw [hresult, hf]
      have haccount := GivenUp.message_eq f retries
      refine ⟨(giveUp e.displayName ⟨f, retries⟩).metadata, ?_, entries_giveUp ..⟩
      rw [← haccount]
      rfl

end Registry

end Colloquy
