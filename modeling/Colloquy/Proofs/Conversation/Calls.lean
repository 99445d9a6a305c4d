import Colloquy.Proofs.Conversation.Files

/-!
# The calls of an answer

An answer may call several tools.  All calls are made, in order, and each finds the disk that the
calls before it have left, whether these went well or not.  What comes of a call is told in four
places: in the records, in the history, in the list of files, and among the failures that the user
is told of in the end.

* `getElem?_outcomes`: how the `i`-th call ends;
* `runCalls_audits`, `runCalls_failures`: the records and the failures of some calls, told from
  their ends; `runCalls_history` and `works_runCalls` say the same of the history and of the files;
* `process_calls`: all of this for an answer with calls, and for one that reports an error.
-/

namespace Colloquy.Conversation

open Provider (Completion ToolCall)

variable {c : Conversation}

/-! ### How calls end -/

theorem length_outcomes (x : Tool.Executor) (d : Files.Disk) (calls : List ToolCall) :
    (outcomes x d calls).length = calls.length := by
  induction calls generalizing d with
  | nil => rfl
  | cons call rest ih => rw [outcomes, List.length_cons, ih, List.length_cons]

/-- A call is dispatched on the disk that the calls before it have left. -/
theorem getElem?_outcomes (x : Tool.Executor) (d : Files.Disk) (calls : List ToolCall) (i : Nat) :
    (outcomes x d calls)[i]? =
      calls[i]?.map fun call => (x.dispatch call (diskAfter x d (calls.take i))).outcome := by
  induction calls generalizing d i with
  | nil => rfl
  | cons call rest ih =>
    cases i with
    | zero => rfl
    | succ i =>
      rw [outcomes, List.getElem?_cons_succ, ih, List.getElem?_cons_succ, List.take_succ_cons]
      rfl

/-! ### Records -/

theorem runCall_audits (c : Conversation) (call : ToolCall) :
    (c.runCall call).1.audits =
      c.audits ++ [Tool.audit call (c.executor.dispatch call c.disk).outcome] := by
  rw [runCall_eq]
  rfl

/-- Each call leaves one record, in order. -/
theorem runCalls_audits (c : Conversation) (calls : List ToolCall) :
    (c.runCalls calls).1.audits =
      c.audits ++ List.zipWith Tool.audit calls (outcomes c.executor c.disk calls) := by
  induction calls generalizing c with
  | nil => exact (List.append_nil _).symm
  | cons call rest ih =>
    have hrest := ih (c.runCall call).1
    rw [runCall_audits, runCall_disk, (runCall_keeps c call).executor] at hrest
    rw [runCalls, outcomes, List.zipWith_cons_cons]
    refine hrest.trans ?_
    rw [List.append_assoc, List.singleton_append]

/-! ### Failures -/

/-- What the user is told of some calls: those that have failed, in order, each with its error. -/
def complaints (calls : List ToolCall) (ends : List Tool.Outcome) : List String :=
  (calls.zip ends).filterMap fun x => complaint? x.1 x.2

theorem complaints_cons (call : ToolCall) (calls : List ToolCall) (e : Tool.Outcome)
    (ends : List Tool.Outcome) :
    complaints (call :: calls) (e :: ends) =
      (complaint? call e).toList ++ complaints calls ends := by
  rw [complaints, List.zip_cons_cons, List.filterMap_cons]
  cases complaint? call e <;> rfl

theorem runCall_failure (c : Conversation) (call : ToolCall) :
    (c.runCall call).2 = complaint? call (c.executor.dispatch call c.disk).outcome := by
  rw [runCall_eq]

theorem runCalls_failures (c : Conversation) (calls : List ToolCall) :
    (c.runCalls calls).2 = complaints calls (outcomes c.executor c.disk calls) := by
  induction calls generalizing c with
  | nil => rfl
  | cons call rest ih =>
    have hrest := ih (c.runCall call).1
    rw [runCall_disk, (runCall_keeps c call).executor] at hrest
    rw [runCalls, outcomes, complaints_cons, ← hrest, ← runCall_failure]

/-- There is nothing to complain of just if all calls have gone well. -/
theorem complaints_eq_nil_iff {calls : List ToolCall} {ends : List Tool.Outcome}
    (h : ends.length = calls.length) :
    complaints calls ends = [] ↔ ∀ e ∈ ends, ∃ output, e = .ok output := by
  induction calls generalizing ends with
  | nil =>
    obtain rfl := List.eq_nil_of_length_eq_zero h
    simp [complaints]
  | cons call rest ih =>
    cases ends with
    | nil => cases h
    | cons e ends =>
      rw [complaints_cons, List.append_eq_nil_iff, ih (Nat.succ.inj h), List.forall_mem_cons]
      refine and_congr_left fun _ => ?_
      cases e <;> simp [complaint?]

/-! ### Answers with calls -/

/-- The state says whether a call has failed. -/
theorem concluded_state_iff (c : Conversation) (failures : List String) :
    ((c.concluded failures).state = .executingTask ↔ failures = []) ∧
      ((c.concluded failures).state = .aiError ↔ failures ≠ []) := by
  rw [concluded_state]
  split_ifs with h <;> simp [h]

theorem concluded_chat {failures : List String} (h : failures ≠ []) :
    (c.concluded failures).screen.chat.getLast? =
      some ⟨.system, "Tool execution failed: " ++ "; ".intercalate failures⟩ := by
  cases failures with
  | nil => exact absurd rfl h
  | cons f fs => exact List.getLast?_concat ..

theorem concluded_audits (c : Conversation) (failures : List String) :
    (c.concluded failures).audits = c.audits := by
  cases failures <;> rfl

theorem heard_audits (c : Conversation) (a : Completion) : (c.heard a).audits = c.audits := by
  unfold heard
  split_ifs <;> rfl

/-- **The calls of an answer.**  Take any conversation and any answer, with tools that may fail in
whatever way.

* If the answer reports an error, no call is made, whatever calls it has: the disk, the records, the
  history and the list of files are as before.
* Otherwise each call is dispatched once, in order, on the disk that the calls before it have left,
  and the disk in the end is what the last one leaves.  The history gets the content of the answer
  and then one message for each call, with its name and with its output or its error.  The list of
  files gets the updates of all calls, in order.
* The conversation goes on with the task just if all calls have gone well, and is in error just if
  one has failed; the newest entry of the chat log is then one of the system that lists the calls
  that have failed, in order, each with its error. -/
theorem process_calls (c : Conversation) (a : Completion) :
    let calls := a.toolCalls
    let ends := outcomes c.executor c.disk calls
    let c' := c.process a
    (a.isSuccess = false →
      c'.disk = c.disk ∧ c'.audits = c.audits ∧ c'.history = c.history ∧
        c'.screen.files = c.screen.files) ∧
    (a.isSuccess = true → calls ≠ [] →
      ends.length = calls.length ∧
      (∀ i call, calls[i]? = some call → ends[i]? =
        some (c.executor.dispatch call (diskAfter c.executor c.disk (calls.take i))).outcome) ∧
      c'.audits = c.audits ++ List.zipWith Tool.audit calls ends ∧
      c'.disk = diskAfter c.executor c.disk calls ∧
      c'.history.messages = c.history.messages ++ .assistant a.content ::
        List.zipWith (fun call e => .tool call.name (reply e)) calls ends ∧
      c'.screen.files = listAfter c.screen.files (ends.flatMap Tool.updates) ∧
      (c'.state = .executingTask ↔ ∀ e ∈ ends, ∃ output, e = .ok output) ∧
      (c'.state = .aiError ↔ ∃ f, .error f ∈ ends) ∧
      ((∃ f, .error f ∈ ends) → c'.screen.chat.getLast? = some ⟨.system,
        "Tool execution failed: " ++ "; ".intercalate (complaints calls ends)⟩)) := by
  intro calls ends c'
  refine ⟨fun ha => ?_, fun ha hcalls => ?_⟩
  · have hfail : c' = c.fail a.errorMessage := by simp [c', process, ha]
    rw [hfail]
    exact ⟨rfl, rfl, rfl, rfl⟩
  · have hlength : ends.length = calls.length := length_outcomes ..
    have hends : outcomes (c.heard a).executor (c.heard a).disk calls = ends := by
      rw [heard_executor, heard_disk]
    -- The calls are made when the content of the answer has been taken.
    have hc' : c' = ((c.heard a).runCalls calls).1.concluded (complaints calls ends) := by
      rw [← hends, ← runCalls_failures]
      exact (process_eq ha).trans (if_neg hcalls)
    have hworks : Works c c' calls := works_process c ha
    have hok : complaints calls ends = [] ↔ ∀ e ∈ ends, ∃ output, e = .ok output :=
      complaints_eq_nil_iff hlength
    have hfailed : complaints calls ends ≠ [] ↔ ∃ f, .error f ∈ ends := by
      rw [Ne, hok]
      constructor
      · intro h
        push Not at h
        obtain ⟨e, he, hne⟩ := h
        cases e with
        | error f => exact ⟨f, he⟩
        | ok output => exact absurd rfl (hne output)
      · rintro ⟨f, hf⟩ h
        obtain ⟨output, houtput⟩ := h _ hf
        cases houtput
    obtain ⟨hgoesOn, herror⟩ := concluded_state_iff ((c.heard a).runCalls calls).1
      (complaints calls ends)
    refine ⟨hlength, fun i call hi => ?_, ?_, hworks.disk, ?_, hworks.files, ?_, ?_, fun h => ?_⟩
    · rw [show ends[i]? = _ from getElem?_outcomes .., hi]
      rfl
    · rw [hc', concluded_audits, runCalls_audits, hends, heard_audits]
    · rw [hc', concluded_history, History.messages, runCalls_history, heard_history,
        replies_eq_map, hends, toolMessages, List.zipWith_map_right]
      simp [History.push, History.messages, History.systemMessage]
    · rw [hc', hgoesOn, hok]
    · rw [hc', herror, hfailed]
    · rw [hc', concluded_chat (hfailed.mpr h)]

end Colloquy.Conversation
