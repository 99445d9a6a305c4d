import Colloquy.Proofs.Registry.Representation

/-!
# Failures that a registry absorbs

If the policy of the active provider covers all failures between two answers of a script, and there
are no more of them than retries, nobody who asks the registry sees them.

A script is `Padded` for some answers if it gives these answers with such failures in between.  Two
registries are `Twins` if they differ in nothing but the script of the active backend, padded for
the same answers, and what is left of the retries so far; `complete_twins` says that they answer
alike and stay twins.
-/

namespace Colloquy

open Provider (Backend Completion Failure ToolDefinition)

namespace Retry

/-! ### Padded scripts -/

/-- Failures between two answers that a policy passes over. -/
structure Absorbable (p : Policy) (failures : List Failure) : Prop where
  few : failures.length ≤ p.maxRetries.toNat
  covered : ∀ f ∈ failures, p.Covers f.kind

theorem Absorbable.nil (p : Policy) : Absorbable p [] :=
  ⟨Nat.zero_le _, fun _ h => absurd h List.not_mem_nil⟩

/-- Scripts that give some answers, with failures in between that a policy passes over. -/
inductive Padded (p : Policy) : List Completion → List (Except Failure Completion) → Prop
  /-- Failures after the last answer. -/
  | last {failures : List Failure} (h : Absorbable p failures) :
    Padded p [] (failures.map .error)
  /-- Failures and an answer. -/
  | next {failures : List Failure} {answer : Completion} {answers : List Completion}
      {script : List (Except Failure Completion)} (h : Absorbable p failures)
      (hscript : Padded p answers script) :
    Padded p (answer :: answers) (failures.map .error ++ .ok answer :: script)

/-- Without failures a script is padded, too. -/
theorem padded_map_ok (p : Policy) (answers : List Completion) :
    Padded p answers (answers.map .ok) := by
  induction answers with
  | nil => exact .last (Absorbable.nil p)
  | cons a answers ih => exact .next (Absorbable.nil p) ih

/-! ### One request -/

/-- The failures at the beginning of a script are given one after the other. -/
theorem fails_complete (messages : List Message) (tools : List ToolDefinition)
    {failures : List Failure} {rest : List (Except Failure Completion)} {b : Backend}
    (hb : b.script = failures.map .error ++ rest) :
    ∃ calls lastMessages lastTools, Fails (Backend.complete messages tools) b failures
      { b with calls, lastMessages, lastTools, script := rest } := by
  induction failures generalizing b with
  | nil =>
    obtain rfl : b.script = rest := hb
    exact ⟨_, _, _, rfl⟩
  | cons f fs ih =>
    have hstep : Backend.complete messages tools b = (.error f, { b with
        calls := b.calls + 1
        lastMessages := messages
        lastTools := tools.map ToolDefinition.name
        script := fs.map .error ++ rest }) := by
      simp only [Backend.complete, hb, List.map_cons, List.cons_append]
    obtain ⟨calls, lastMessages, lastTools, h⟩ := ih (b := (Backend.complete messages tools b).2)
      (by rw [hstep])
    refine ⟨calls, lastMessages, lastTools, by rw [hstep], ?_⟩
    rw [hstep] at h ⊢
    exact h

/-- A request that meets failures which the policy passes over gets the answer behind them. -/
theorem execute_of_absorbable {p : Policy} (draw : Nat → Float) (messages : List Message)
    (tools : List ToolDefinition) {failures : List Failure} (h : Absorbable p failures)
    {rest script : List (Except Failure Completion)} {answer : Completion}
    (hrest : rest = [] ∧ answer = Backend.echo messages ∧ script = [] ∨
      rest = .ok answer :: script)
    {b : Backend} (hb : b.script = failures.map .error ++ rest) :
    ∃ calls, (execute p draw (Backend.complete messages tools) b).result = .ok answer ∧
      (execute p draw (Backend.complete messages tools) b).state =
        { b with
          calls, script
          lastMessages := messages
          lastTools := tools.map ToolDefinition.name } := by
  obtain ⟨calls, lastMessages, lastTools, hfails⟩ := fails_complete messages tools hb
  -- The backend when it has given the failures; its next call gives the answer.
  let t : Backend := { b with calls, lastMessages, lastTools, script := rest }
  have hcall : Backend.complete messages tools t = (.ok answer, { b with
      calls := calls + 1
      script
      lastMessages := messages
      lastTools := tools.map ToolDefinition.name }) := by
    rcases hrest with ⟨rfl, rfl, rfl⟩ | rfl <;> rfl
  refine ⟨calls + 1, ?_⟩
  rw [execute, loop_of_fails p draw _ h.covered (Nat.zero_add _) h.few hfails,
    loop_of_settles (s := t) p draw _ (by rw [hcall]; trivial), hcall]
  exact ⟨rfl, rfl⟩

/-- A request to a backend with a padded script gets the next answer. -/
theorem execute_padded {p : Policy} (draw : Nat → Float) (messages : List Message)
    (tools : List ToolDefinition) {answers : List Completion} {b : Backend}
    (h : Padded p answers b.script) :
    ∃ calls script, Padded p answers.tail script ∧
      (execute p draw (Backend.complete messages tools) b).result =
        .ok (answers.head?.getD (Backend.echo messages)) ∧
      (execute p draw (Backend.complete messages tools) b).state =
        { b with
          calls, script
          lastMessages := messages
          lastTools := tools.map ToolDefinition.name } := by
  generalize hb : b.script = s at h
  cases h with
  | last h =>
    obtain ⟨calls, hresult, hstate⟩ := execute_of_absorbable draw messages tools h
      (Or.inl ⟨rfl, rfl, rfl⟩) (hb.trans (List.append_nil _).symm)
    exact ⟨calls, [], .last (Absorbable.nil p), hresult, hstate⟩
  | next h hscript =>
    obtain ⟨calls, hresult, hstate⟩ :=
      execute_of_absorbable draw messages tools h (Or.inr rfl) hb
    exact ⟨calls, _, hscript, hresult, hstate⟩

end Retry

namespace Registry

/-! ### Twins -/

/-- What retries leave behind: how often the backend was called and what is left of its script, the
ledger, the retries that were announced, and how long requests have waited. -/
structure Traces where
  calls : Nat
  script : List (Except Failure Completion)
  statistics : Retry.Statistics
  announcements : List (String × Retry.Announcement)
  waited : Duration

/-- The registry with other traces of retries. -/
def retrace (r : Registry) (id : BackendId) (t : Traces) : Registry :=
  { r.setBackend id { r.backend id with calls := t.calls, script := t.script } with
    statistics := t.statistics
    announcements := t.announcements
    waited := t.waited }

/-- Two registries that follow a policy for the same active backend and differ in traces of retries
only; their scripts are padded for the same answers. -/
structure Twins (a : Active) (answers : List Completion) (r r' : Registry) : Prop where
  active : r.active? = .ok a
  enabled : r.retriesEnabled = true
  there : a.backend < r.backends.length
  padded : Retry.Padded a.policy answers (r.backend a.backend).script
  retraced : ∃ t, r' = r.retrace a.backend t ∧ Retry.Padded a.policy answers t.script

variable {r r' : Registry}

theorem backend_retrace {id : BackendId} (h : id < r.backends.length) (t : Traces) :
    (r.retrace id t).backend id = { r.backend id with calls := t.calls, script := t.script } := by
  rw [retrace, backend]
  exact (backend_setBackend r id id _).trans (if_pos ⟨rfl, h⟩)

theorem active?_congr (hentries : r'.entries = r.entries) (hactive : r'.active = r.active)
    (hpolicy : ∀ id, (r'.backend id).retryPolicy = (r.backend id).retryPolicy) :
    r'.active? = r.active? := by
  simp only [active?, hentries, hactive, hpolicy]

theorem retryPolicy_retrace (id j : BackendId) (t : Traces) :
    ((r.retrace id t).backend j).retryPolicy = (r.backend j).retryPolicy := by
  rw [retrace, backend]
  refine (congrArg Backend.retryPolicy (backend_setBackend r id j _)).trans ?_
  split_ifs with h
  · rw [h.1]
    rfl
  · rfl

theorem active?_retrace (r : Registry) (id : BackendId) (t : Traces) :
    (r.retrace id t).active? = r.active? :=
  active?_congr rfl rfl fun j => retryPolicy_retrace id j t

theorem retrace_retrace {id : BackendId} (h : id < r.backends.length) (t t' : Traces) :
    (r.retrace id t).retrace id t' = r.retrace id t' := by
  rw [retrace, backend_retrace h, retrace, retrace]
  simp only [setBackend, List.set_set]

/-! ### Requests of twins -/

/-- The registry when the backend has noted what it was asked. -/
def asked (r : Registry) (id : BackendId) (messages : List Message) (tools : List ToolDefinition) :
    Registry :=
  r.setBackend id { r.backend id with
    lastMessages := messages
    lastTools := tools.map ToolDefinition.name }

theorem backend_asked {id : BackendId} (h : id < r.backends.length) (messages : List Message)
    (tools : List ToolDefinition) :
    (r.asked id messages tools).backend id = { r.backend id with
      lastMessages := messages
      lastTools := tools.map ToolDefinition.name } :=
  (backend_setBackend r id id _).trans (if_pos ⟨rfl, h⟩)

theorem retryPolicy_asked (id j : BackendId) (messages : List Message)
    (tools : List ToolDefinition) :
    ((r.asked id messages tools).backend j).retryPolicy = (r.backend j).retryPolicy := by
  rw [asked, backend_setBackend]
  split_ifs with h
  · rw [h.1]
    rfl
  · rfl

theorem active?_asked (r : Registry) (id : BackendId) (messages : List Message)
    (tools : List ToolDefinition) : (r.asked id messages tools).active? = r.active? :=
  active?_congr rfl rfl fun j => retryPolicy_asked id j messages tools

theorem asked_retrace {id : BackendId} (h : id < r.backends.length) (messages : List Message)
    (tools : List ToolDefinition) (t : Traces) :
    (r.retrace id t).asked id messages tools = (r.asked id messages tools).retrace id t := by
  rw [asked, backend_retrace h, retrace, retrace, backend_asked h]
  simp only [setBackend, asked, List.set_set]

/-- A registry whose active backend has a padded script gives the next answer; for the rest only
traces of retries are left. -/
theorem complete_of_padded {a : Active} {answers : List Completion} (hactive : r.active? = .ok a)
    (henabled : r.retriesEnabled = true) (hthere : a.backend < r.backends.length)
    (hpadded : Retry.Padded a.policy answers (r.backend a.backend).script)
    (messages : List Message) (tools : List ToolDefinition) :
    ∃ t, Retry.Padded a.policy answers.tail t.script ∧
      r.complete messages tools =
        ((r.asked a.backend messages tools).retrace a.backend t,
          .ok (answers.head?.getD (Backend.echo messages))) := by
  obtain ⟨calls, script, hscript, hresult, hstate⟩ :=
    Retry.execute_padded r.draws messages tools hpadded
  have hpolicy : a.policy.effective r.retriesEnabled = a.policy := by
    rw [henabled]
    rfl
  let run := Retry.execute a.policy r.draws (Backend.complete messages tools) (r.backend a.backend)
  refine ⟨⟨calls, script, r.statistics.recordRun run,
    r.announcements ++ run.announcements.map fun x => (a.displayName ++ "." ++ "completion", x),
    r.waited + run.waited⟩, hscript, ?_⟩
  simp only [complete, hactive, call, hpolicy, hresult, hstate]
  rw [retrace, backend_asked hthere]
  simp only [setBackend, asked, List.set_set, run]

/-- **Twins answer alike** and stay twins. -/
theorem complete_twins {a : Active} {answers : List Completion} (h : Twins a answers r r')
    (messages : List Message) (tools : List ToolDefinition) :
    (r'.complete messages tools).2 = (r.complete messages tools).2 ∧
      Twins a answers.tail (r.complete messages tools).1 (r'.complete messages tools).1 := by
  -- After the request both are what `asked` makes of the first, with traces of their own.
  obtain ⟨t₀, rfl, hpadded'⟩ := h.retraced
  have hbackend := backend_retrace h.there t₀
  obtain ⟨t, hscript, hr⟩ :=
    complete_of_padded h.active h.enabled h.there h.padded messages tools
  have hp : Retry.Padded a.policy answers ((r.retrace a.backend t₀).backend a.backend).script := by
    rw [hbackend]
    exact hpadded'
  obtain ⟨t', hscript', hr'⟩ := complete_of_padded ((active?_retrace ..).trans h.active) h.enabled
    (by simpa [retrace, setBackend] using h.there) hp messages tools
  have hthere : a.backend < (r.asked a.backend messages tools).backends.length := by
    simpa [asked, setBackend] using h.there
  rw [asked_retrace h.there, retrace_retrace hthere] at hr'
  rw [hr, hr']
  refine ⟨rfl, ?_, h.enabled, ?_, ?_, ⟨t', (retrace_retrace hthere t t').symm, hscript'⟩⟩
  · rw [active?_retrace, active?_asked]
    exact h.active
  · simpa [retrace, setBackend] using hthere
  · rw [backend_retrace hthere]
    exact hscript

end Registry

end Colloquy
