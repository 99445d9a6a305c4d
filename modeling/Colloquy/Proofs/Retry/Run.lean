import Colloquy.Retry.Loop
import Mathlib.Data.Nat.Find
import Mathlib.Order.Bounds.Basic
import Mathlib.Tactic.Choose

/-!
# The course of a run

A run of the retry loop is determined by the outcomes of its calls: it ends with the first outcome
that settles the matter (`Policy.Settles`), and before every earlier one it has waited.

* `loop_of_fails`: failures that a policy covers, no more than there are retries left, are passed
  over, each with a wait of its own; `loop_of_settles`: an outcome that settles the matter ends the
  loop.  These two say all that the loop does.
* `execute_last`: a run ends with what its last call gives.
* `visited_spec`: the states that a run leaves behind, one for each call.
* `execute_replay`: for every sequence of outcomes the number of calls, the waits, the result and
  the entry in the ledger are read off the least place at which the sequence settles the matter.
-/

namespace Colloquy.Retry

open Provider (Failure FailureKind GivenUp)

variable {σ α : Type}

/-! ### Outcomes that settle the matter -/

/-- Whether failures of a kind pass by themselves and a policy asks for retries after them. -/
def Policy.Covers (p : Policy) (kind : FailureKind) : Prop :=
  kind = .rateLimit ∧ p.onRateLimit = true ∨ kind = .serverError ∧ p.onServerError = true ∨
    kind = .networkError ∧ p.onNetworkError = true

/-- Whether a call with an outcome is not tried again after so many retries: it has succeeded, or
its failure is not covered, or there are no retries left. -/
def Policy.Settles (p : Policy) (outcome : Except Failure α) (retries : Nat) : Prop :=
  match outcome with
  | .ok _ => True
  | .error e => ¬ p.Covers e.kind ∨ p.maxRetries.toNat ≤ retries

theorem Policy.allows_iff (p : Policy) (kind : FailureKind) :
    p.allows kind = true ↔ p.Covers kind := by
  cases kind <;> simp [allows, Covers]

theorem Policy.isRetryable_iff (p : Policy) (e : Failure) (retries : Nat) :
    p.isRetryable e.kind retries = true ↔ ¬ p.Settles (.error e : Except Failure α) retries := by
  rw [isRetryable, Bool.and_eq_true, decide_eq_true_eq, allows_iff, Settles, not_or, not_not,
    Nat.not_le]

/-- What a run gives that ends with an outcome after so many retries. -/
def conclude (outcome : Except Failure α) (retries : Nat) : Except GivenUp α :=
  outcome.mapError fun e => ⟨e, retries⟩

/-- How the retry after a failure is announced when so many others have been made. -/
def announce (p : Policy) (draw : Nat → Float) (retries : Nat) (e : Failure) : Announcement :=
  ⟨retries + 1, p.maxRetries.toNat, e.kind, p.delay (retries + 1) (draw retries)⟩

/-! ### The loop -/

/-- An outcome that settles the matter ends the loop. -/
theorem loop_of_settles (p : Policy) (draw : Nat → Float) (call : σ → Except Failure α × σ)
    {attempt left : Nat} {s : σ} (h : p.Settles (call s).1 attempt) :
    loop p draw call attempt left s = ⟨(call s).2, conclude (call s).1 attempt, []⟩ := by
  rw [loop]
  rcases hc : call s with ⟨_ | _, t⟩
  · rename_i e
    rw [hc] at h
    have hr : p.isRetryable e.kind attempt = false := by
      rw [← Bool.not_eq_true, p.isRetryable_iff (α := α)]
      exact not_not_intro h
    simp [hr, conclude, Except.mapError]
  · rfl

/-- Calls that give some failures, one after the other, and lead from one state to another. -/
def Fails (call : σ → Except Failure α × σ) : σ → List Failure → σ → Prop
  | s, [], t => s = t
  | s, f :: fs, t => (call s).1 = .error f ∧ Fails call (call s).2 fs t

/-- Failures that are covered, no more than there are retries left, are passed over: each is
announced and waited for, and the loop goes on behind them. -/
theorem loop_of_fails (p : Policy) (draw : Nat → Float) (call : σ → Except Failure α × σ)
    {fs : List Failure} (hcov : ∀ f ∈ fs, p.Covers f.kind) {attempt left : Nat} {s t : σ}
    (hmax : attempt + left = p.maxRetries.toNat) (hlen : fs.length ≤ left)
    (hfs : Fails call s fs t) :
    loop p draw call attempt left s =
      let rest := loop p draw call (attempt + fs.length) (left - fs.length) t
      { rest with announcements :=
          fs.mapIdx (fun i f => announce p draw (attempt + i) f) ++ rest.announcements } := by
  induction fs generalizing attempt left s with
  | nil =>
    obtain rfl : s = t := hfs
    rfl
  | cons f fs ih =>
    obtain ⟨hf, hfs⟩ := hfs
    rw [List.length_cons] at hlen
    obtain ⟨left, rfl⟩ : ∃ n, left = n + 1 := ⟨left - 1, by omega⟩
    -- The first failure is one that is retried, since there are attempts left for it.
    have hr : p.isRetryable f.kind attempt = true := by
      rw [p.isRetryable_iff (α := α), Policy.Settles, not_or, not_not, Nat.not_le]
      exact ⟨hcov f (List.mem_cons_self ..), by omega⟩
    have hmax : attempt + 1 + left = p.maxRetries.toNat := by omega
    have hrest := ih (fun g hg => hcov g (List.mem_cons_of_mem _ hg)) hmax (by omega) hfs
    rw [loop]
    rcases hc : call s with ⟨o, s'⟩
    rw [hc] at hf hrest
    obtain rfl : o = .error f := hf
    simp only [hr, if_true]
    rw [hrest]
    simp only [List.mapIdx_cons, List.length_cons, List.cons_append, Nat.add_zero,
      Nat.add_sub_add_right, Nat.add_assoc, Nat.add_comm 1]
    rfl

/-- Whatever every call keeps, the loop keeps. -/
theorem loop_state (p : Policy) (draw : Nat → Float) {call : σ → Except Failure α × σ}
    {P : σ → Prop} (hcall : ∀ s, P s → P (call s).2) {attempt left : Nat} {s : σ} (hs : P s) :
    P (loop p draw call attempt left s).state := by
  induction left generalizing attempt s with
  | zero =>
    have hs' := hcall s hs
    rw [loop]
    rcases hc : call s with ⟨_ | _, t⟩
    · rw [hc] at hs'
      dsimp only
      split <;> exact hs'
    · rwa [hc] at hs'
  | succ left ih =>
    have hs' := hcall s hs
    rw [loop]
    rcases hc : call s with ⟨_ | _, t⟩
    · rw [hc] at hs'
      dsimp only
      split
      · exact ih hs'
      · exact hs'
    · rwa [hc] at hs'

/-! ### The states on the way -/

/-- A call that notes the states it leaves. -/
def noting (call : σ → Except Failure α × σ) (s : σ × List σ) : Except Failure α × (σ × List σ) :=
  ((call s.1).1, ((call s.1).2, s.2 ++ [(call s.1).2]))

/-- The states that the calls of a run leave, one after the other. -/
def visited (p : Policy) (draw : Nat → Float) (call : σ → Except Failure α × σ) (s : σ) : List σ :=
  (execute p draw (noting call) (s, [])).state.2

/-- A run whose calls are noted goes as it does otherwise.  There is one call more than there are
retries, and the run ends in the state that the last one leaves. -/
theorem loop_noting (p : Policy) (draw : Nat → Float) (call : σ → Except Failure α × σ)
    (attempt left : Nat) (s : σ) (log : List σ) :
    let run := loop p draw call attempt left s
    ∃ states, loop p draw (noting call) attempt left (s, log) =
        ⟨(run.state, log ++ states), run.result, run.announcements⟩ ∧
      states.length = run.retries + 1 ∧ states.getLast? = some run.state ∧
      ∀ t ∈ states, ∃ u, (call u).2 = t := by
  -- A run that ends at once notes one state.
  have hone : ∀ s t, (call s).2 = t → ∀ u ∈ [t], ∃ v, (call v).2 = u := by
    rintro s t rfl u hu
    exact ⟨s, (List.mem_singleton.mp hu).symm⟩
  induction left generalizing attempt s log with
  | zero =>
    rw [loop, loop]
    simp only [noting]
    rcases hc : call s with ⟨_ | _, t⟩
    · dsimp only
      split <;> exact ⟨[t], rfl, rfl, rfl, hone s t (by rw [hc])⟩
    · exact ⟨[t], rfl, rfl, rfl, hone s t (by rw [hc])⟩
  | succ left ih =>
    rw [loop, loop]
    simp only [noting]
    rcases hc : call s with ⟨e | a, t⟩
    · dsimp only
      split
      · -- The attempt failed and is repeated: its state comes before those of the rest.
        obtain ⟨states, hrun, hlength, hlast, hmem⟩ :=
          ih (attempt + 1) t (log ++ [t])
        refine ⟨t :: states, ?_, ?_, ?_, ?_⟩
        · rw [hrun, List.append_assoc, List.singleton_append]
        · simp only [List.length_cons, hlength, Run.retries]
        · rw [List.getLast?_cons, hlast]
          rfl
        · intro u hu
          rcases List.mem_cons.mp hu with rfl | hu
          · exact ⟨s, by rw [hc]⟩
          · exact hmem u hu
      · exact ⟨[t], rfl, rfl, rfl, hone s t (by rw [hc])⟩
    · exact ⟨[t], rfl, rfl, rfl, hone s t (by rw [hc])⟩

/-- A run ends with its last call, which is made in the state that the calls before it have left, one
for each retry. -/
theorem loop_last (p : Policy) (draw : Nat → Float) (call : σ → Except Failure α × σ)
    (attempt left : Nat) (s : σ) :
    let run := loop p draw call attempt left s
    let last := call ((fun s => (call s).2)^[run.retries] s)
    run.state = last.2 ∧ run.result = conclude last.1 (attempt + run.retries) := by
  induction left generalizing attempt s with
  | zero =>
    rw [loop]
    rcases hc : call s with ⟨e | a, t⟩
    · dsimp only
      split <;> simp [Run.retries, conclude, Except.mapError, hc]
    · simp [Run.retries, conclude, Except.mapError, hc]
  | succ left ih =>
    rw [loop]
    rcases hc : call s with ⟨e | a, t⟩
    · dsimp only
      split
      · have hrest := ih (attempt + 1) t
        have hnext : (call s).2 = t := by rw [hc]
        simp only [Run.retries, List.length_cons, Function.iterate_succ, Function.comp_apply, hnext]
        rw [← Nat.add_assoc, Nat.add_right_comm]
        exact hrest
      · simp [Run.retries, conclude, Except.mapError, hc]
    · simp [Run.retries, conclude, Except.mapError, hc]

/-- What a run gives is what its last call gives, with the number of retries before it. -/
theorem execute_last (p : Policy) (draw : Nat → Float) (call : σ → Except Failure α × σ) (s : σ) :
    let run := execute p draw call s
    run.result = conclude (call ((fun s => (call s).2)^[run.retries] s)).1 run.retries := by
  have hlast := (loop_last p draw call 0 p.maxRetries.toNat s).2
  rwa [Nat.zero_add] at hlast

/-- The states on the way of a run: there is one more than there are retries, each is what a call
leaves, and the run ends in the last one. -/
theorem visited_spec (p : Policy) (draw : Nat → Float) (call : σ → Except Failure α × σ) (s : σ) :
    (visited p draw call s).length = (execute p draw call s).retries + 1 ∧
    (visited p draw call s).getLast? = some (execute p draw call s).state ∧
    ∀ t ∈ visited p draw call s, ∃ u, (call u).2 = t := by
  obtain ⟨states, hrun, hstates⟩ := loop_noting p draw call 0 p.maxRetries.toNat s []
  have hvisited : visited p draw call s = states := by rw [visited, execute, hrun, List.nil_append]
  rw [hvisited]
  exact hstates

/-! ### Sequences of outcomes -/

/-- A call that takes its outcomes from a sequence; the state counts the calls. -/
def replay (outcome : Nat → Except Failure α) (calls : Nat) : Except Failure α × Nat :=
  (outcome calls, calls + 1)

/-- The kind of the failure that an outcome is, in words. -/
def reasonOf : Except Failure α → String
  | .ok _ => ""
  | .error e => e.kind.reason

theorem fails_replay (outcome : Nat → Except Failure α) {fs : List Failure} {k : Nat}
    (h : ∀ i (hi : i < fs.length), outcome (k + i) = .error fs[i]) :
    Fails (replay outcome) k fs (k + fs.length) := by
  induction fs generalizing k with
  | nil => rfl
  | cons f fs ih =>
    refine ⟨h 0 (Nat.zero_lt_succ _), ?_⟩
    have := ih (k := k + 1) fun i hi => by
      rw [Nat.add_assoc, Nat.add_comm 1]
      exact h (i + 1) (Nat.succ_lt_succ hi)
    rwa [Nat.add_assoc, Nat.add_comm 1] at this

/-- What does not settle the matter is a failure that is covered, with retries left. -/
theorem Policy.not_settles_iff (p : Policy) (outcome : Except Failure α) (retries : Nat) :
    ¬ p.Settles outcome retries ↔
      ∃ e, outcome = .error e ∧ p.Covers e.kind ∧ retries < p.maxRetries.toNat := by
  cases outcome with
  | ok a => simp [Settles]
  | error e => simp [Settles]

/-- A run over a sequence of outcomes that settles the matter at its `n`-th place, and not
before. -/
theorem execute_replay_eq (p : Policy) (draw : Nat → Float) (outcome : Nat → Except Failure α)
    {fs : List Failure} (hcov : ∀ f ∈ fs, p.Covers f.kind)
    (hfs : ∀ i (hi : i < fs.length), outcome i = .error fs[i])
    (hlen : fs.length ≤ p.maxRetries.toNat) (hset : p.Settles (outcome fs.length) fs.length) :
    execute p draw (replay outcome) 0 =
      ⟨fs.length + 1, conclude (outcome fs.length) fs.length, fs.mapIdx (announce p draw)⟩ := by
  have hfails : Fails (replay outcome) 0 fs (0 + fs.length) := fails_replay outcome fun i hi => by
    rw [Nat.zero_add]
    exact hfs i hi
  rw [Nat.zero_add] at hfails
  rw [execute, loop_of_fails p draw _ hcov (Nat.zero_add _) hlen hfails, loop_of_settles]
  · simp only [replay, List.append_nil, Nat.zero_add]
  · rw [Nat.zero_add]
    exact hset

theorem Policy.maxRetries_effective_le (p : Policy) (enabled : Bool) :
    (p.effective enabled).maxRetries.toNat ≤ p.maxRetries.toNat := by
  cases enabled with
  | false => exact Nat.zero_le _
  | true => exact le_rfl

/-- Without retries left every outcome settles the matter. -/
theorem Policy.settles_maxRetries (p : Policy) (outcome : Except Failure α) :
    p.Settles outcome p.maxRetries.toNat := by
  cases outcome with
  | ok a => trivial
  | error e => exact Or.inr le_rfl

/-- Every sequence of outcomes settles the matter somewhere; up to there it consists of failures
that are covered. -/
theorem Policy.exists_failures (p : Policy) (outcome : Nat → Except Failure α) :
    ∃ fs : List Failure, IsLeast {k | p.Settles (outcome k) k} fs.length ∧
      (∀ f ∈ fs, p.Covers f.kind) ∧ ∀ i (hi : i < fs.length), outcome i = .error fs[i] := by
  classical
  have hex : ∃ k, p.Settles (outcome k) k := ⟨_, p.settles_maxRetries _⟩
  -- Before the first outcome that settles there are failures that are worth a retry.
  have hfail : ∀ k < Nat.find hex, ∃ e, outcome k = .error e ∧ p.Covers e.kind ∧
      k < p.maxRetries.toNat :=
    fun k hk => (p.not_settles_iff _ _).mp (Nat.find_min hex hk)
  have : Nonempty Failure := ⟨⟨.other, ""⟩⟩
  choose! failure hfail using hfail
  have hlen : ((List.range (Nat.find hex)).map failure).length = Nat.find hex := by
    rw [List.length_map, List.length_range]
  refine ⟨(List.range (Nat.find hex)).map failure, ?_, ?_, ?_⟩
  · rw [hlen]
    exact ⟨Nat.find_spec hex, fun k hk => Nat.find_min' hex hk⟩
  · intro f hf
    obtain ⟨k, hk, rfl⟩ := List.mem_map.mp hf
    exact (hfail k (List.mem_range.mp hk)).2.1
  · intro i hi
    rw [List.getElem_map, List.getElem_range]
    exact (hfail i (hlen ▸ hi)).1

/-! ### The ledger -/

/-- An entry with retries changes the ledger. -/
theorem Statistics.record_eq_self_iff (s : Statistics) (reason : String) (success : Bool)
    (retries : Nat) : s.record reason success retries = s ↔ retries = 0 := by
  constructor
  · intro h
    by_contra hne
    have := congrArg Statistics.requests h
    rw [record, if_neg hne] at this
    exact Nat.succ_ne_self _ this
  · rintro rfl
    exact s.record_zero reason success

/-- A run with retries is entered under the reason of its last failure. -/
theorem Run.reason_eq (p : Policy) (draw : Nat → Float) (outcome : Nat → Except Failure α)
    {fs : List Failure} (hfs : ∀ i (hi : i < fs.length), outcome i = .error fs[i])
    (hpos : 0 < fs.length) (t : σ) :
    (⟨t, conclude (outcome fs.length) fs.length, fs.mapIdx (announce p draw)⟩ : Run σ α).reason =
      reasonOf (outcome (if (outcome fs.length).isOk then fs.length - 1 else fs.length)) := by
  cases ho : outcome fs.length with
  | error e => simp [Run.reason, conclude, Except.mapError, reasonOf, Except.isOk, Except.toBool,
      ho]
  | ok a =>
    have hlast := hfs (fs.length - 1) (by omega)
    have hget : fs[fs.length - 1]? = some fs[fs.length - 1] := List.getElem?_eq_getElem _
    simp [Run.reason, conclude, Except.mapError, reasonOf, Except.isOk, Except.toBool, hlast,
      List.getLast?_eq_getElem?, hget, announce]

/-- **The exact course of a run.**  Over a sequence of outcomes, let `n` be the least place at which
it settles the matter under the policy that is followed.  The call is made `n + 1` times, with `n`
waits in between, the `i`-th of which is the policy's for the `i`-th retry; the run gives the `n`-th
outcome; and the ledger changes exactly if there was a retry, by one entry with `n` retries under
the reason of the last failure.  The counter of the retries stays below `2 ^ 32`. -/
theorem execute_replay (p : Policy) (enabled : Bool) (draw : Nat → Float)
    (outcome : Nat → Except Failure α) :
    let q := p.effective enabled
    let run := execute q draw (replay outcome) 0
    ∃ n, IsLeast {k | q.Settles (outcome k) k} n ∧
      run.state = n + 1 ∧ run.state ≤ p.maxRetries.toNat + 1 ∧
      run.announcements.map Announcement.delay =
        (List.range n).map (fun i => q.delay (i + 1) (draw i)) ∧
      run.announcements.map Announcement.attempt = (List.range n).map (· + 1) ∧
      n < UInt32.size ∧
      run.result = conclude (outcome n) n ∧
      ∀ s : Statistics, (s.recordRun run = s ↔ n = 0) ∧
        (0 < n → s.recordRun run =
          s.record (reasonOf (outcome (if (outcome n).isOk then n - 1 else n)))
            (outcome n).isOk n) := by
  intro q run
  -- The failures before the first outcome that settles the run.
  obtain ⟨fs, hleast, hcov, hfs⟩ := q.exists_failures outcome
  have hmax : fs.length ≤ q.maxRetries.toNat := hleast.2 (q.settles_maxRetries _)
  have hrun : run = ⟨fs.length + 1, conclude (outcome fs.length) fs.length,
      fs.mapIdx (announce q draw)⟩ :=
    execute_replay_eq q draw outcome hcov hfs hmax hleast.1
  have hretries : run.retries = fs.length := by rw [hrun, Run.retries, List.length_mapIdx]
  refine ⟨fs.length, hleast, ?_, ?_, ?_, ?_, ?_, ?_, fun s => ⟨?_, fun hpos => ?_⟩⟩
  · rw [hrun]
  · rw [hrun]
    exact Nat.succ_le_succ (hmax.trans (p.maxRetries_effective_le enabled))
  · rw [hrun]
    refine List.ext_getElem (by simp) fun i _ _ => ?_
    simp [announce]
  · rw [hrun]
    refine List.ext_getElem (by simp) fun i _ _ => ?_
    simp [announce]
  · exact hmax.trans_lt q.maxRetries.toNat_lt
  · rw [hrun]
  · rw [Statistics.recordRun, s.record_eq_self_iff, hretries]
  · rw [Statistics.recordRun, hretries, hrun, Run.reason_eq q draw outcome hfs hpos]
    cases outcome fs.length <;> rfl

end Colloquy.Retry
