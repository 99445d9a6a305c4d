import Colloquy.Proofs.Conversation.Calls

/-!
# The line of status

While an answer is waited for, the line of status says what the user's words were taken for.  What
it says when the turn is over is told from the answer and from the ends of its calls
(`statusAfter`), with one exception: if there are calls, all of them go well and none of them sets
the line (`WorksSilently`), then it is left as it was.

* `settle_setStatus`: another line of status before an answer makes no difference but for the line
  of status after it;
* `speak_alike`: whatever the user's words are taken for, the turn is the same but for the line of
  status, and that is the same as well but for the exception;
* `speak_status_ne_iff`: the line of status is out of date after a turn just in the exception, and
  it can be with the standard tools (`silent_calls_leave_status`).
-/

namespace Colloquy.Conversation

open Provider (Backend Completion ToolCall)

variable {c : Conversation} {x : Tool.Executor} {d : Files.Disk} {a : Completion}

/-! ### What calls of tools set the line to -/

/-- What a call of a tool sets the line of status to, if it does. -/
def statusOf? : Tool.Outcome → Option String
  | .ok output => output.status
  | .error _ => none

/-- The line of status after some calls of tools, by their ends: what was set last, or what was there
before. -/
def lastStatus (status : String) (ends : List Tool.Outcome) : String :=
  (ends.filterMap statusOf?).getLast?.getD status

theorem lastStatus_cons (status : String) (e : Tool.Outcome) (ends : List Tool.Outcome) :
    lastStatus status (e :: ends) = lastStatus ((statusOf? e).getD status) ends := by
  unfold lastStatus
  cases h : statusOf? e with
  | none => rw [List.filterMap_cons_none h, Option.getD_none]
  | some s =>
    rw [List.filterMap_cons_some h, List.getLast?_cons, Option.getD_some, Option.getD_some]

/-- If no call sets the line, it stays as it is. -/
theorem lastStatus_of_none {status : String} {ends : List Tool.Outcome}
    (h : ∀ e ∈ ends, statusOf? e = none) : lastStatus status ends = status := by
  rw [lastStatus, List.filterMap_eq_nil_iff.mpr h]
  rfl

/-- If some call sets the line, what was there before does not matter, and what is there in the end
was set by a call. -/
theorem lastStatus_of_some {ends : List Tool.Outcome} (h : ∃ e ∈ ends, statusOf? e ≠ none) :
    ∃ e ∈ ends, ∀ status, statusOf? e = some (lastStatus status ends) := by
  have hne : ends.filterMap statusOf? ≠ [] := by
    obtain ⟨e, he, hset⟩ := h
    exact fun hnil => hset (List.filterMap_eq_nil_iff.mp hnil e he)
  obtain ⟨e, he, hlast⟩ := List.mem_filterMap.mp (List.getLast_mem hne)
  refine ⟨e, he, fun status => ?_⟩
  rw [hlast, lastStatus, List.getLast?_eq_some_getLast hne, Option.getD_some]

/-! ### Another line of status -/

theorem runCall_setStatus (c : Conversation) (status : String) (call : ToolCall) :
    (c.setStatus status).runCall call =
      ((c.runCall call).1.setStatus
        ((statusOf? (c.executor.dispatch call c.disk).outcome).getD status),
        (c.runCall call).2) := by
  have hshown : ∀ (m : Display.Screen) e,
      shown (m.setStatus status) e = (shown m e).setStatus ((statusOf? e).getD status) := by
    intro m e
    cases e <;> rfl
  rw [runCall_eq, runCall_eq, setStatus, setStatus, ← hshown]

theorem runCalls_setStatus (c : Conversation) (status : String) (calls : List ToolCall) :
    (c.setStatus status).runCalls calls =
      ((c.runCalls calls).1.setStatus
        (lastStatus status (outcomes c.executor c.disk calls)), (c.runCalls calls).2) := by
  induction calls generalizing c status with
  | nil => rfl
  | cons call rest ih =>
    have hrest := ih (c.runCall call).1
      ((statusOf? (c.executor.dispatch call c.disk).outcome).getD status)
    rw [(runCall_keeps c call).executor, runCall_disk] at hrest
    simp only [runCalls, runCall_setStatus, hrest, outcomes, lastStatus_cons]

theorem heard_setStatus (c : Conversation) (status : String) (a : Completion) :
    (c.setStatus status).heard a = (c.heard a).setStatus status := by
  unfold heard
  split_ifs <;> rfl

/-- The line of status after a turn, by what it was while an answer was waited for and by the answer
that the turn has gone on with, if there is one. -/
def statusAfter (status : String) (x : Tool.Executor) (d : Files.Disk) :
    Option Completion → String
  | none => errorStatus
  | some a =>
    let ends := outcomes x d a.toolCalls
    if a.toolCalls = [] then reviewStatus
    else if complaints a.toolCalls ends = [] then lastStatus status ends
    else toolErrorStatus

theorem concluded_setStatus (c : Conversation) (status : String) (failures : List String) :
    (c.setStatus status).concluded failures =
      (c.concluded failures).setStatus (if failures = [] then status else toolErrorStatus) := by
  cases failures <;> rfl

theorem process_setStatus (c : Conversation) (status : String) (h : a.isSuccess = true) :
    (c.setStatus status).process a =
      (c.process a).setStatus (statusAfter status c.executor c.disk (some a)) := by
  rw [process_eq h, process_eq h, heard_setStatus, runCalls_setStatus, concluded_setStatus,
    heard_executor, heard_disk, runCalls_failures, heard_executor, heard_disk, statusAfter]
  split_ifs <;> rfl

/-- Another line of status before an answer makes no difference but for the line of status after
it. -/
theorem settle_setStatus (c : Conversation) (status : String)
    (answer : Except Registry.Error Completion) :
    (c.setStatus status).settle answer =
      (c.settle answer).setStatus (statusAfter status c.executor c.disk (taken answer)) := by
  cases answer with
  | error e => rfl
  | ok a =>
    by_cases ha : a.isSuccess = true
    · have htaken : taken (.ok a) = some a := if_pos ha
      rw [htaken]
      exact congrArg (setProcessing · false) (process_setStatus c status ha)
    · have htaken : taken (.ok a) = none := if_neg ha
      rw [htaken]
      simp only [settle, process, ha]
      rfl

/-! ### Turns -/

/-- A turn with another line of status while an answer is waited for. -/
theorem ask_setStatus (c : Conversation) (text status status' : String) :
    c.ask text status = (c.ask text status').setStatus
      (statusAfter status c.executor c.disk (c.exchange text).answer) := by
  let o := c.opened text status'
  let o' := o.withRegistry (o.consult c.registry).1
  have hturn : c.ask text status = (o'.setStatus status).settle (o.consult c.registry).2 :=
    ask_eq ..
  rw [hturn, ask_eq]
  exact settle_setStatus o' status _

theorem ask_status (c : Conversation) (text status : String) :
    (c.ask text status).screen.status =
      statusAfter status c.executor c.disk (c.exchange text).answer :=
  congrArg (fun c => c.screen.status) (ask_setStatus c text status status)

/-- All calls of an answer, of which there are some, go well and leave the line of status alone. -/
def WorksSilently (x : Tool.Executor) (d : Files.Disk) (a : Completion) : Prop :=
  a.toolCalls ≠ [] ∧
    ∀ e ∈ outcomes x d a.toolCalls, ∃ output, e = .ok output ∧ output.status = none

/-- In a turn some tools are called, and all of them work silently. -/
def Silent (c : Conversation) (text : String) : Prop :=
  ∃ a, (c.recover.exchange text).answer = some a ∧ WorksSilently c.executor c.disk a

/-- Tools that work silently leave the line as it is. -/
theorem WorksSilently.statusAfter (h : WorksSilently x d a) (status : String) :
    statusAfter status x d (some a) = status := by
  obtain ⟨hcalls, hends⟩ := h
  have hwell : complaints a.toolCalls (outcomes x d a.toolCalls) = [] := by
    rw [complaints_eq_nil_iff (length_outcomes ..)]
    intro e he
    obtain ⟨output, rfl, -⟩ := hends e he
    exact ⟨output, rfl⟩
  rw [Conversation.statusAfter, if_neg hcalls, if_pos hwell]
  refine lastStatus_of_none fun e he => ?_
  obtain ⟨output, rfl, hstatus⟩ := hends e he
  exact hstatus

/-- Without tools that work silently, the line in the end says that something is up to the user or
has gone wrong, or it was set by a call. -/
theorem statusAfter_cases {answer : Option Completion}
    (h : ¬∃ a, answer = some a ∧ WorksSilently x d a) :
    ∃ s, (∀ status, statusAfter status x d answer = s) ∧
      (s ∈ [errorStatus, reviewStatus, toolErrorStatus] ∨
        ∃ a output, answer = some a ∧ .ok output ∈ outcomes x d a.toolCalls ∧
          output.status = some s) := by
  cases answer with
  | none => exact ⟨errorStatus, fun _ => rfl, .inl (by simp)⟩
  | some a =>
    by_cases hcalls : a.toolCalls = []
    · exact ⟨reviewStatus, fun _ => if_pos hcalls, .inl (by simp)⟩
    · by_cases hwell : complaints a.toolCalls (outcomes x d a.toolCalls) = []
      · -- All calls go well, so one of them sets the line.
        have hstatus : ∀ status, statusAfter status x d (some a) =
            lastStatus status (outcomes x d a.toolCalls) := by
          intro status
          rw [statusAfter, if_neg hcalls, if_pos hwell]
        have hset : ∃ e ∈ outcomes x d a.toolCalls, statusOf? e ≠ none := by
          by_contra hnone
          push Not at hnone
          refine h ⟨a, rfl, hcalls, fun e he => ?_⟩
          obtain ⟨output, rfl⟩ := (complaints_eq_nil_iff (length_outcomes ..)).mp hwell e he
          exact ⟨output, rfl, hnone _ he⟩
        obtain ⟨e, he, hlast⟩ := lastStatus_of_some hset
        refine ⟨lastStatus "" (outcomes x d a.toolCalls), fun status => ?_, .inr ?_⟩
        · rw [hstatus, ← Option.some_inj, ← hlast, ← hlast]
        · cases e with
          | error f => cases hlast ""
          | ok output => exact ⟨a, output, rfl, he, hlast ""⟩
      · refine ⟨toolErrorStatus, fun status => ?_, .inl (by simp)⟩
        rw [statusAfter, if_neg hcalls, if_neg hwell]

/-- What the line says while an answer is waited for is not what it says when the turn has come to
an end in some way of its own. -/
theorem Manner.status_notMem (m : Manner) (s : Display.State) :
    m.status s ∉ [errorStatus, reviewStatus, toolErrorStatus] := by
  cases m <;> cases s <;> decide

/-- The line of status after the user's words have been taken in some manner. -/
theorem speak_status (c : Conversation) (m : Manner) (text : String) :
    (c.speak m text).screen.status =
      statusAfter (m.status c.state) c.executor c.disk (c.recover.exchange text).answer := by
  obtain ⟨-, hexecutor, hdisk, -⟩ := recover_keeps c
  rw [speak_eq, ask_status, hexecutor, hdisk]

/-- **Whatever the user's words are taken for**, a new request, feedback to an answer, feedback to a
task that is executed, or what the state suggests, the turn is the same but for the line of status:
it takes the same messages to the provider, once, and leaves the same state, history, chat log,
files, disk and registry, with the same backends, retries and statistics.

The line of status is the same as well, unless tools are called that all work silently; then it is
left as each manner has set it.  The commands for the user's words are two of the manners. -/
theorem speak_alike (c : Conversation) (m m' : Manner) (text : String) :
    let c₁ := c.speak m text
    let c₂ := c.speak m' text
    c₁ = c₂.setStatus c₁.screen.status ∧
      (c₁.state = c₂.state ∧ c₁.history = c₂.history ∧ c₁.screen.chat = c₂.screen.chat ∧
        c₁.screen.files = c₂.screen.files ∧ c₁.disk = c₂.disk ∧ c₁.registry = c₂.registry ∧
        c₁.audits = c₂.audits ∧ c₁.elapsed = c₂.elapsed) ∧
      c₁.registry =
        (c.registry.complete (c.recover.sent text) c.executor.toolbox.definitions).1 ∧
      (¬c.Silent text → c₁.screen.status = c₂.screen.status) ∧
      (c.Silent text →
        c₁.screen.status = m.status c.state ∧ c₂.screen.status = m'.status c.state) ∧
      c.obey (.submit text) = c.speak .submit text ∧
      c.obey (.prompt text) = c.speak .prompt text := by
  intro c₁ c₂
  have hsame : c₁ = c₂.setStatus c₁.screen.status := by
    -- The manners differ in the first line of status alone, and a turn does not read it.
    have hstatus := ask_setStatus c.recover text (m.status c.state) (m'.status c.state)
    rw [← speak_eq, ← speak_eq] at hstatus
    have hline := congrArg (fun c : Conversation => c.screen.status) hstatus
    exact hstatus.trans (congrArg c₂.setStatus hline.symm)
  refine ⟨hsame, ?_, ?_, fun hsilent => ?_, fun hsilent => ?_, rfl, rfl⟩
  · rw [hsame]
    exact ⟨rfl, rfl, rfl, rfl, rfl, rfl, rfl, rfl⟩
  · obtain ⟨hregistry, hexecutor, -⟩ := recover_keeps c
    change (c.speak m text).registry = _
    rw [speak_eq, (ask_keeps ..).1, hregistry, hexecutor]
  · obtain ⟨s, hs, -⟩ := statusAfter_cases hsilent
    change (c.speak m text).screen.status = (c.speak m' text).screen.status
    rw [speak_status, speak_status, hs, hs]
  · obtain ⟨a, ha, hworks⟩ := hsilent
    have hline : ∀ m, (c.speak m text).screen.status = m.status c.state := by
      intro m
      rw [speak_status, ha, hworks.statusAfter]
    exact ⟨hline m, hline m'⟩

/-! ### Lines that are out of date -/

/-- **When the line of status is up to date after a turn.**  Let no tool set the line to what it says
while an answer is waited for.  When a turn is over, nothing is waited for, and the line says so
just if it is not the case that tools were called that have all worked silently. -/
theorem speak_status_ne_iff (c : Conversation) (m : Manner) (text : String)
    (htools : ∀ e ∈ outcomes c.executor c.disk (callsOf (c.recover.exchange text).answer),
      statusOf? e ≠ some (m.status c.state)) :
    (c.speak m text).screen.processing = false ∧
      ((c.speak m text).screen.status ≠ m.status c.state ↔ ¬c.Silent text) := by
  constructor
  · rw [speak_eq]
    rfl
  rw [speak_status]
  constructor
  · rintro hne ⟨a, ha, hworks⟩
    exact hne (by rw [ha, hworks.statusAfter])
  · intro hsilent
    -- The line that was set is one of the endings or one of a tool, never that in progress.
    obtain ⟨s, hs, hend | ⟨a, output, ha, hmem, hset⟩⟩ := statusAfter_cases hsilent
    · rw [hs]
      rintro rfl
      exact m.status_notMem c.state hend
    · rw [hs]
      rintro rfl
      rw [ha] at htools
      exact htools _ hmem hset

/-- A new conversation with the standard tools, whose provider calls some of them. -/
def working (calls : List ToolCall) : Conversation :=
  fresh (.after true .empty (fun _ => 0.5)
      [.addBackend { Backend.named "mock" with script := [.ok (.calling "On it." calls)] },
        .register "mock" (.shared 0), .activate "mock"])
    .empty ⟨.standard (.open .empty ["ws"]), 5⟩ "You are helpful." none {}

/-- A call that asks for a list of all files. -/
def listing : ToolCall where
  id := "1"
  name := "list_workspace_files"
  arguments := "{}"

/-- If a file is written after the list was asked for, the line of status says so. -/
theorem working_status :
    let c := working [listing, writing "main.rs" "fn main() {}"]
    (∀ e ∈ outcomes c.executor c.disk (callsOf (c.recover.exchange "Go").answer),
      statusOf? e ≠ some (Manner.prompt.status c.state)) ∧
    (c.prompt "Go").screen.status = "main.rs generated successfully." ∧
    (c.prompt "Go").screen.processing = false ∧ ¬c.Silent "Go" := by
  intro c
  have htools : ∀ e ∈ outcomes c.executor c.disk (callsOf (c.recover.exchange "Go").answer),
      statusOf? e ≠ some (Manner.prompt.status c.state) := by
    decide +kernel
  have hstatus : (c.prompt "Go").screen.status = "main.rs generated successfully." := by
    decide +kernel
  obtain ⟨hprocessing, hiff⟩ := speak_status_ne_iff c .prompt "Go" htools
  refine ⟨htools, hstatus, hprocessing, hiff.mp ?_⟩
  change (c.prompt "Go").screen.status ≠ _
  rw [hstatus]
  decide

/-- **Tools that work silently leave a line that is out of date**: the list of files was given and
nothing is waited for any more, but the line of status goes on saying that the request is being
processed. -/
theorem silent_calls_leave_status :
    let c := working [listing]
    let c' := c.prompt "Go"
    (outcomes c.executor c.disk [listing]).map statusOf? = [none] ∧
      c'.state = .executingTask ∧ c'.screen.processing = false ∧
      c'.screen.status = "AI is processing your request..." ∧
      c'.screen.status = Manner.prompt.status c.state := by
  decide +kernel

end Colloquy.Conversation
