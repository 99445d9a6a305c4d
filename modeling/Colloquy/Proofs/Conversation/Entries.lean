import Colloquy.Proofs.Conversation.Calls

/-!
# What a turn adds to the chat log

A turn only adds entries to the chat log: a notice if the conversation recovers from an error, the
user's words as they were typed, the content of the answer, what the tools have to say, and in the
end why the turn has failed, if it has.

* `Registry.complete_ending`: what a request comes to, told from its last call and its retries;
* `runCalls_entries`: what some calls of tools add to the log, told from their ends;
* `settle_entries`: what an answer adds to the log, and when it leaves an error;
* `speak_entries`: all of this for a whole turn.

A turn that fails is announced once.  Retries are mentioned there if the request was given up; an
answer that reports an error is shown as it is, also if there were retries before it
(`reported_error_without_retries`).
-/

namespace Colloquy

open Display (ChatEntry)
open Provider (Backend Completion Failure ToolCall ToolDefinition)

/-! ### How requests end -/

namespace Registry

/-- How a request for a completion ends: what its last call gives, which is made after one call for
each retry, and how many retries there were.  Without an active provider there is no call. -/
def ending (r : Registry) (messages : List Message) (tools : List ToolDefinition) :
    Except Error (Except Failure Completion × Nat) :=
  r.active?.map fun a =>
    let call := Backend.complete messages tools
    let b := r.backend a.backend
    let retries := (Retry.execute (a.policy.effective r.retriesEnabled) r.draws call b).retries
    ((call ((fun b => (call b).2)^[retries] b)).1, retries)

/-- How many retries there were before a request has ended. -/
def retriesOf : Except Error (Except Failure Completion × Nat) → Nat
  | .error _ => 0
  | .ok (_, retries) => retries

/-- What a request comes to, by how it ends: an answer of the provider is passed on, whatever it
says, and a failure becomes an answer that reports the error. -/
theorem complete_ending (r : Registry) (messages : List Message) (tools : List ToolDefinition) :
    (r.complete messages tools).1.announcements.length =
        r.announcements.length + retriesOf (r.ending messages tools) ∧
    match r.ending messages tools with
    | .error e => (r.complete messages tools).2 = .error e
    | .ok (.ok a, _) => (r.complete messages tools).2 = .ok a
    | .ok (.error f, retries) =>
      ∃ name, (r.complete messages tools).2 = .ok (giveUp name ⟨f, retries⟩) := by
  cases hactive : r.active? with
  | error e =>
    have hending : r.ending messages tools = .error e := by
      rw [ending, hactive]
      rfl
    rw [hending, complete, hactive]
    exact ⟨rfl, rfl⟩
  | ok a =>
    let request := Backend.complete messages tools
    let b := r.backend a.backend
    let run := Retry.execute (a.policy.effective r.retriesEnabled) r.draws request b
    let last := (request ((fun b => (request b).2)^[run.retries] b)).1
    have hending : r.ending messages tools = .ok (last, run.retries) := by
      rw [ending, hactive]
      rfl
    -- What the run concludes is made of its last answer and the number of its retries.
    have hresult : (r.call a "completion" request).2 = Retry.conclude last run.retries :=
      Retry.execute_last ..
    rw [hending, complete_eq_call hactive, complete_result hactive, hresult]
    constructor
    · rw [call, List.length_append, List.length_map]
      rfl
    · cases last with
      | ok answer => rfl
      | error f => exact ⟨a.displayName, rfl⟩

end Registry

namespace Conversation

variable {c : Conversation}

/-! ### Entries -/

/-- What the user is told at the beginning of a turn: that the conversation recovers from an error,
if it is in one. -/
def notices (c : Conversation) : List ChatEntry :=
  if c.state = .aiError then [⟨.system, recoveryNotice⟩] else []

/-- The content of an answer in the chat log; a blank one is left out. -/
def contentEntries (a : Completion) : List ChatEntry :=
  if Text.isBlankText a.content then [] else [⟨.ai, a.content⟩]

/-- What a call of a tool adds to the chat log, by how it ends. -/
def toolEntries : Tool.Outcome → List ChatEntry
  | .ok output => output.chat
  | .error _ => []

/-- What the user is told of calls that have failed, if some have. -/
def summary? : List String → Option String
  | [] => none
  | failures => some ("Tool execution failed: " ++ "; ".intercalate failures)

/-- What the user is told in the end of a turn that fails, by how the request and the calls of tools
have ended. -/
def failure? (ends : List Tool.Outcome) :
    Except Registry.Error (Except Failure Completion × Nat) → Option String
  | .error e => some e.message
  | .ok (.error f, 0) => some f.message
  | .ok (.error f, retries + 1) => some s!"{f.message} (Retried {retries + 1} times)"
  | .ok (.ok a, _) =>
    if a.isSuccess then summary? (complaints a.toolCalls ends) else some a.errorMessage

/-- The answer that a turn goes on with, by how the request has ended. -/
def received : Except Registry.Error (Except Failure Completion × Nat) → Option Completion
  | .ok (.ok a, _) => if a.isSuccess then some a else none
  | _ => none

theorem summary?_isSome_iff (failures : List String) :
    (summary? failures).isSome ↔ failures ≠ [] := by
  cases failures <;> simp [summary?]

/-! ### Calls of tools -/

theorem runCall_entries (c : Conversation) (call : ToolCall) :
    (c.runCall call).1.screen.chat =
      c.screen.chat ++ toolEntries (c.executor.dispatch call c.disk).outcome := by
  rw [runCall_eq]
  cases (c.executor.dispatch call c.disk).outcome with
  | ok output => rfl
  | error f => exact (List.append_nil _).symm

/-- Calls of tools add to the log what their outputs say, in the order of the calls. -/
theorem runCalls_entries (c : Conversation) (calls : List ToolCall) :
    (c.runCalls calls).1.screen.chat =
      c.screen.chat ++ (outcomes c.executor c.disk calls).flatMap toolEntries := by
  induction calls generalizing c with
  | nil => exact (List.append_nil _).symm
  | cons call rest ih =>
    have hrest := ih (c.runCall call).1
    rw [runCall_entries, runCall_disk, (runCall_keeps c call).executor] at hrest
    rw [runCalls, outcomes, List.flatMap_cons, ← List.append_assoc]
    exact hrest

/-! ### Answers -/

theorem heard_entries (c : Conversation) (a : Completion) :
    (c.heard a).screen.chat = c.screen.chat ++ contentEntries a := by
  unfold heard contentEntries
  split_ifs
  · exact (List.append_nil _).symm
  · rfl

theorem concluded_entries (c : Conversation) (failures : List String) :
    (c.concluded failures).screen.chat =
      c.screen.chat ++ (summary? failures).toList.map (⟨.system, ·⟩) := by
  cases failures with
  | nil => exact (List.append_nil _).symm
  | cons f fs => rfl

/-- What an answer that is no error adds to the log, and when it leaves an error. -/
theorem process_entries {a : Completion} (h : a.isSuccess = true) :
    let ends := outcomes c.executor c.disk a.toolCalls
    let failure := summary? (complaints a.toolCalls ends)
    (c.process a).screen.chat = c.screen.chat ++ (contentEntries a ++ ends.flatMap toolEntries ++
        failure.toList.map (⟨.system, ·⟩)) ∧
      ((c.process a).state = .aiError ↔ failure.isSome) := by
  intro ends failure
  have hends : outcomes (c.heard a).executor (c.heard a).disk a.toolCalls = ends := by
    rw [heard_executor, heard_disk]
  rw [process_eq h]
  split_ifs with hcalls
  · -- Without calls there is nothing to add to the content.
    have hnone : ends = [] := by
      change outcomes c.executor c.disk a.toolCalls = []
      rw [hcalls]
      rfl
    have hfailure : failure = none := by
      change summary? (complaints a.toolCalls ends) = none
      rw [hcalls]
      rfl
    rw [hfailure, hnone, List.flatMap_nil, List.append_nil]
    refine ⟨(heard_entries c a).trans ?_, ?_⟩
    · exact congrArg (c.screen.chat ++ ·) (List.append_nil _).symm
    · simp [state, enter, setStatus, Display.Screen.setStatus]
  · -- With calls there are the entries of the tools, and the failures are told in one entry.
    have hcomplaints : ((c.heard a).runCalls a.toolCalls).2 = complaints a.toolCalls ends := by
      rw [runCalls_failures, hends]
    rw [hcomplaints]
    constructor
    · rw [concluded_entries, runCalls_entries, heard_entries, hends, List.append_assoc,
        List.append_assoc, ← List.append_assoc (contentEntries a)]
    · rw [(concluded_state_iff ..).2, summary?_isSome_iff]

/-- An answer that reports an error ends the turn with it. -/
theorem settle_of_not_success {a : Completion} (h : a.isSuccess = false) :
    (c.settle (.ok a)).screen.chat = c.screen.chat ++ [⟨.system, a.errorMessage⟩] ∧
      (c.settle (.ok a)).state = .aiError := by
  have hprocess : c.process a = c.fail a.errorMessage := by simp [process, h]
  change ((c.process a).setProcessing false).screen.chat = _ ∧
    ((c.process a).setProcessing false).state = _
  rw [hprocess]
  exact ⟨rfl, rfl⟩

/-- What a request comes to adds to the log, and when it leaves an error. -/
theorem settle_entries (c : Conversation) (r : Registry) (messages : List Message)
    (tools : List ToolDefinition) :
    let request := r.ending messages tools
    let ends := outcomes c.executor c.disk (callsOf (received request))
    let c' := c.settle (r.complete messages tools).2
    c'.screen.chat = c.screen.chat ++ ((received request).elim [] contentEntries ++
        ends.flatMap toolEntries ++ (failure? ends request).toList.map (⟨.system, ·⟩)) ∧
      (c'.state = .aiError ↔ (failure? ends request).isSome) := by
  have hanswer := (r.complete_ending messages tools).2
  generalize r.ending messages tools = request at hanswer ⊢
  rcases request with e | ⟨f | a, retries⟩
  · have hanswer : (r.complete messages tools).2 = .error e := hanswer
    rw [hanswer]
    exact ⟨rfl, iff_of_true rfl rfl⟩
  · obtain ⟨name, hanswer⟩ := hanswer
    obtain ⟨hchat, hstate⟩ := settle_of_not_success (c := c)
      (a := Registry.giveUp name ⟨f, retries⟩) rfl
    rw [hanswer]
    -- Only a request that was tried again is reported with its retries.
    cases retries with
    | zero => exact ⟨hchat, iff_of_true hstate rfl⟩
    | succ k => exact ⟨hchat, iff_of_true hstate rfl⟩
  · have hanswer : (r.complete messages tools).2 = .ok a := hanswer
    rw [hanswer]
    cases ha : a.isSuccess with
    | true =>
      have hreceived : received (.ok (.ok a, retries)) = some a := if_pos ha
      have hfailure : ∀ ends, failure? ends (.ok (.ok a, retries)) =
        summary? (complaints a.toolCalls ends) := fun _ => if_pos ha
      simp only [hreceived, hfailure]
      exact process_entries ha
    | false =>
      have hreceived : received (.ok (.ok a, retries)) = none := by simp [received, ha]
      have hfailure : ∀ ends, failure? ends (.ok (.ok a, retries)) = some a.errorMessage := by
        simp [failure?, ha]
      obtain ⟨hchat, hstate⟩ := settle_of_not_success (c := c) ha
      simp only [hreceived, hfailure]
      exact ⟨hchat, iff_of_true hstate rfl⟩

/-! ### Turns -/

/-- What a turn adds to the log if the conversation goes on as it is. -/
theorem ask_entries (c : Conversation) (text status : String) :
    let request := c.registry.ending (c.sent text) c.executor.toolbox.definitions
    let ends := outcomes c.executor c.disk (callsOf (received request))
    let c' := c.ask text status
    c'.screen.chat = c.screen.chat ++ ⟨.user, text⟩ ::
        ((received request).elim [] contentEntries ++ ends.flatMap toolEntries ++
          (failure? ends request).toList.map (⟨.system, ·⟩)) ∧
      (c'.state = .aiError ↔ (failure? ends request).isSome) ∧
      c'.registry.announcements.length =
        c.registry.announcements.length + Registry.retriesOf request := by
  intro request ends c'
  let tools := c.executor.toolbox.definitions
  let o := (c.opened text status).withRegistry (c.registry.complete (c.sent text) tools).1
  have hopened : o.screen.chat = c.screen.chat ++ [⟨.user, text⟩] := rfl
  obtain ⟨hchat, hstate⟩ := settle_entries o c.registry (c.sent text) tools
  refine ⟨?_, hstate, ?_⟩
  · rw [List.append_cons, ← hopened]
    exact hchat
  · rw [(ask_keeps c text status).1]
    exact (c.registry.complete_ending (c.sent text) tools).1

theorem recover_entries (c : Conversation) :
    c.recover.screen.chat = c.screen.chat ++ c.notices := by
  unfold recover notices
  split_ifs
  · rfl
  · exact (List.append_nil _).symm

/-- **What a turn adds to the chat log.**  Whatever the user's words are taken for, whatever the
provider answers and whatever tools do, the log is afterwards what it was before and then, in this
order: a notice if the conversation was in error; the user's words as they were typed; the content
of the answer, if there is one that is no error and it is not blank; what the calls of tools that
have gone well have to say, in the order of the calls; and one entry of the system if the turn ends
in error, and only then.

This last entry is the error of the registry, or of the provider if the request was given up, with
the number of retries if there were any; or it is the error that the provider's answer reports, as
it is; or it lists the calls of tools that have failed.  The retries are those that were
announced. -/
theorem speak_entries (c : Conversation) (m : Manner) (text : String) :
    let request := c.registry.ending (c.recover.sent text) c.executor.toolbox.definitions
    let ends := outcomes c.executor c.disk (callsOf (received request))
    let c' := c.speak m text
    c'.screen.chat = c.screen.chat ++ (c.notices ++ ⟨.user, text⟩ ::
        ((received request).elim [] contentEntries ++ ends.flatMap toolEntries ++
          (failure? ends request).toList.map (⟨.system, ·⟩))) ∧
      (c'.state = .aiError ↔ (failure? ends request).isSome) ∧
      c'.registry.announcements.length =
        c.registry.announcements.length + Registry.retriesOf request := by
  obtain ⟨hregistry, hexecutor, hdisk, -, -⟩ := recover_keeps c
  have hturn := ask_entries c.recover text (m.status c.state)
  rw [← speak_eq, recover_entries, hregistry, hexecutor, hdisk] at hturn
  simpa only [List.append_assoc] using hturn

/-- A new conversation whose provider fails once and then answers that it refuses. -/
def refused : Conversation :=
  fresh (.after true .empty (fun _ => 0.5)
      [.addBackend { Backend.named "mock" with
          script := [.error ⟨.rateLimit, "Slow down"⟩, .ok (.apiError "Invalid API key")] },
        .register "mock" (.shared 0), .activate "mock"])
    .empty ⟨.empty, 5⟩ "You are helpful." none {}

/-- **An answer that reports an error is shown as it is**: one retry was made, the turn fails because
the provider reports an error, and the user is told of the error and not of the retry. -/
theorem reported_error_without_retries :
    let request := refused.registry.ending (refused.recover.sent "Hi")
      refused.executor.toolbox.definitions
    let c := refused.prompt "Hi"
    request = .ok (.ok (.apiError "Invalid API key"), 1) ∧
      c.registry.announcements.length = 1 ∧ c.state = .aiError ∧
      c.screen.chat =
        [⟨.system, Display.welcome⟩, ⟨.user, "Hi"⟩, ⟨.system, "Invalid API key"⟩] ∧
      c.screen.chat.getLast? ≠ some ⟨.system, "Invalid API key (Retried 1 times)"⟩ := by
  intro request c
  have hchat : c.screen.chat =
      [⟨.system, Display.welcome⟩, ⟨.user, "Hi"⟩, ⟨.system, "Invalid API key"⟩] := by
    decide +kernel
  refine ⟨rfl, by decide +kernel, by decide +kernel, hchat, ?_⟩
  rw [hchat]
  decide

end Conversation

end Colloquy
