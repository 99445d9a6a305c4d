import Colloquy.Proofs.Retry.Run

/-!
# The attempts of a run

A run makes its calls one after the other, each in the state that the one before it has left.  So the
outcomes that it meets are a sequence (`outcomeAt`), and so are the states that it goes through
(`stateAfter`), whatever the call does with its state.

* `execute_attempts`: there are as many retries as calls before the first outcome that settles the
  matter, and the run ends with this outcome;
* `visited_eq_map`: the states that the calls of a run leave behind.
-/

namespace Colloquy.Retry

open Provider (Failure)

variable {σ α : Type} {call : σ → Except Failure α × σ} {s : σ}

/-- The state after so many calls. -/
def stateAfter (call : σ → Except Failure α × σ) (s : σ) (calls : Nat) : σ :=
  (fun s => (call s).2)^[calls] s

/-- The outcome of a call that is made after so many others. -/
def outcomeAt (call : σ → Except Failure α × σ) (s : σ) (calls : Nat) : Except Failure α :=
  (call (stateAfter call s calls)).1

theorem stateAfter_succ (call : σ → Except Failure α × σ) (s : σ) (calls : Nat) :
    stateAfter call s (calls + 1) = (call (stateAfter call s calls)).2 :=
  Function.iterate_succ_apply' ..

theorem stateAfter_add (call : σ → Except Failure α × σ) (s : σ) (calls more : Nat) :
    stateAfter call s (calls + more) = stateAfter call (stateAfter call s calls) more := by
  rw [Nat.add_comm]
  exact Function.iterate_add_apply ..

/-- Outcomes that are failures are given one after the other. -/
theorem fails_stateAfter {fs : List Failure}
    (h : ∀ i (hi : i < fs.length), outcomeAt call s i = .error fs[i]) :
    Fails call s fs (stateAfter call s fs.length) := by
  induction fs generalizing s with
  | nil => rfl
  | cons f fs ih =>
    refine ⟨h 0 (Nat.zero_lt_succ _), ?_⟩
    have hrest : Fails call (stateAfter call s 1) fs
        (stateAfter call (stateAfter call s 1) fs.length) := by
      apply ih
      intro i hi
      have hnext : outcomeAt call s (i + 1) = .error fs[i] := h (i + 1) (Nat.succ_lt_succ hi)
      rwa [outcomeAt, Nat.add_comm i, stateAfter_add] at hnext
    rwa [← stateAfter_add, Nat.add_comm] at hrest

/-- **The attempts of a run.**  The retries go on until the first outcome that settles the matter
under the policy, which is what the run gives; the run ends in the state that this last call has
left. -/
theorem execute_attempts (p : Policy) (draw : Nat → Float) (call : σ → Except Failure α × σ)
    (s : σ) :
    let run := execute p draw call s
    IsLeast {k | p.Settles (outcomeAt call s k) k} run.retries ∧
      run.state = stateAfter call s (run.retries + 1) ∧
      run.result = conclude (outcomeAt call s run.retries) run.retries := by
  intro run
  obtain ⟨fs, hleast, hcov, hfs⟩ := p.exists_failures (outcomeAt call s)
  have hmax : fs.length ≤ p.maxRetries.toNat := hleast.2 (p.settles_maxRetries _)
  have hset : p.Settles (outcomeAt call s fs.length) (0 + fs.length) := by
    rw [Nat.zero_add]
    exact hleast.1
  have hrun : run = ⟨stateAfter call s (fs.length + 1),
      conclude (outcomeAt call s fs.length) fs.length,
      fs.mapIdx fun i f => announce p draw (0 + i) f⟩ := by
    change loop p draw call 0 p.maxRetries.toNat s = _
    rw [loop_of_fails p draw call hcov (Nat.zero_add _) hmax (fails_stateAfter hfs),
      loop_of_settles p draw call hset, stateAfter_succ, Nat.zero_add]
    simp only [List.append_nil]
    rfl
  have hretries : run.retries = fs.length := by
    rw [hrun, Run.retries, List.length_mapIdx]
  rw [hretries, hrun]
  exact ⟨hleast, rfl, rfl⟩

/-! ### The states on the way -/

theorem stateAfter_noting (call : σ → Except Failure α × σ) (s : σ) (calls : Nat) :
    stateAfter (noting call) (s, []) calls =
      (stateAfter call s calls, (List.range calls).map fun k => stateAfter call s (k + 1)) := by
  induction calls with
  | zero => rfl
  | succ calls ih =>
    rw [stateAfter_succ, ih, noting, List.range_succ, List.map_append, List.map_singleton,
      stateAfter_succ call s calls]

/-- The states that the calls of a run leave behind, in order. -/
theorem visited_eq_map (p : Policy) (draw : Nat → Float) (call : σ → Except Failure α × σ)
    (s : σ) :
    visited p draw call s =
      (List.range ((execute p draw call s).retries + 1)).map fun k => stateAfter call s (k + 1) := by
  obtain ⟨hleast, -, -⟩ := execute_attempts p draw call s
  obtain ⟨hleast', hstate, -⟩ := execute_attempts p draw (noting call) (s, [])
  -- Noting the states changes no outcome, so it does not change the number of retries.
  have houtcome : ∀ k, outcomeAt (noting call) (s, []) k = outcomeAt call s k := by
    intro k
    rw [outcomeAt, stateAfter_noting]
    rfl
  simp only [houtcome] at hleast'
  rw [visited, hstate, stateAfter_noting, hleast'.unique hleast]

end Colloquy.Retry
