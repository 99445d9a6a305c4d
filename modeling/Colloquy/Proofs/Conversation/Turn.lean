import Colloquy.Conversation.Command
import Mathlib.Tactic.SplitIfs

/-!
# The course of a turn

A turn has three parts: the user's words are taken (`opened`), the registry is asked
(`consult`), and what it answers is settled (`settle`).

* `ask_eq`: a turn is these three parts; `speak_eq`: whatever the user's words are taken for, what
  happens is a turn of the conversation after it has recovered from its errors;
* `runCall_eq`: all that a call of a tool does;
* `runCalls_history`: calls of tools leave one message each, in order, and `settle_history`: so does
  an answer;
* `runCalls_keeps`: what calls of tools have nothing to do with;
* `settle_mapAsking`: what answers have nothing to do with.
-/

namespace Colloquy.Conversation

open Provider (Completion ToolCall)

variable {c c' c'' : Conversation}

/-- A new conversation. -/
def fresh (registry : Registry) (disk : Files.Disk) (executor : Tool.Executor)
    (systemPrompt : String) (attachment : Option Attachment) (focus : Context.Focus) :
    Conversation :=
  { registry, disk, executor, history := .start systemPrompt, attachment, focus }

/-! ### The parts of a turn -/

/-- The conversation when the user's words have been taken and an answer is waited for. -/
def opened (c : Conversation) (text status : String) : Conversation :=
  ((((c.say .user text).remember (.user (c.enrich text))).enter .awaitingAiResponse).setProcessing
    true).setStatus status

/-- What a registry answers to the conversation as it is, and the registry after that. -/
def consult (c : Conversation) (r : Registry) : Registry × Except Registry.Error Completion :=
  r.complete c.history.messages c.executor.toolbox.definitions

/-- Takes an answer of the registry and ends the turn. -/
def settle (c : Conversation) (answer : Except Registry.Error Completion) : Conversation :=
  (match answer with
    | .ok answer => c.process answer
    | .error e => c.fail e.message).setProcessing false

/-- The conversation with another registry. -/
def withRegistry (c : Conversation) (r : Registry) : Conversation :=
  { c with registry := r }

/-- A change of the registry is made, and the user is told of it. -/
theorem exists_switch_eq {α : Type} (c : Conversation)
    (change : Registry × Except Registry.Error α) (success : α → String) :
    ∃ notice, c.switch change success = (c.withRegistry change.1).post notice := by
  unfold switch
  dsimp only
  split <;> exact ⟨_, rfl⟩

theorem ask_eq (c : Conversation) (text status : String) :
    c.ask text status =
      ((c.opened text status).withRegistry ((c.opened text status).consult c.registry).1).settle
        ((c.opened text status).consult c.registry).2 := rfl

/-! ### What the user's words are taken for -/

/-- What the user's words can be taken for. -/
inductive Manner where
  | prompt
  | feedback
  | taskFeedback
  /-- Whatever the state of the conversation suggests. -/
  | submit

/-- Takes the user's words in some manner. -/
def speak (c : Conversation) : Manner → String → Conversation
  | .prompt, text => c.prompt text
  | .feedback, text => c.feedback text
  | .taskFeedback, text => c.taskFeedback text
  | .submit, text => c.submit text

/-- What the line of status says while an answer is waited for. -/
def Manner.status : Manner → Display.State → String
  | .feedback, .awaitingApproval => "Processing your feedback..."
  | .submit, .awaitingApproval => "Processing your feedback..."
  | .taskFeedback, .executingTask => "Continuing the task with your feedback..."
  | .submit, .executingTask => "Continuing the task with your feedback..."
  | _, _ => "AI is processing your request..."

/-- Whatever words are taken for, a conversation that is not in error goes on with them, and one
that is starts afresh. -/
theorem speak_eq (c : Conversation) (m : Manner) (text : String) :
    c.speak m text = c.recover.ask text (m.status c.state) := by
  cases hs : c.state <;> cases m <;>
    simp [speak, submit, feedback, taskFeedback, prompt, recover, Manner.status, hs]

/-! ### Calls of tools -/

/-- What calls of tools have nothing to do with. -/
structure Keeps (c c' : Conversation) : Prop where
  registry : c'.registry = c.registry
  executor : c'.executor = c.executor
  attachment : c'.attachment = c.attachment
  focus : c'.focus = c.focus
  state : c'.state = c.state
  processing : c'.screen.processing = c.screen.processing

theorem Keeps.trans (h : Keeps c c') (h' : Keeps c' c'') : Keeps c c'' :=
  ⟨h'.registry.trans h.registry, h'.executor.trans h.executor, h'.attachment.trans h.attachment,
    h'.focus.trans h.focus, h'.state.trans h.state, h'.processing.trans h.processing⟩

/-- What the provider gets to see of the end of a call. -/
def reply : Tool.Outcome → String
  | .ok output => output.content
  | .error f => s!"Error: {f.error.message}"

/-- What the user is told of a call that ends in some way, if it has failed. -/
def complaint? (call : ToolCall) : Tool.Outcome → Option String
  | .ok _ => none
  | .error f => some s!"{call.name}: {f.error.message}"

/-- The screen when the end of a call is shown on it. -/
def shown (m : Display.Screen) : Tool.Outcome → Display.Screen
  | .ok output =>
    { (m.postAll output.chat).upsertFiles output.files with
      status := output.status.getD m.status }
  | .error f => m.upsertFiles f.files

theorem shown_state (m : Display.Screen) (e : Tool.Outcome) : (shown m e).state = m.state := by
  cases e <;> rfl

theorem shown_processing (m : Display.Screen) (e : Tool.Outcome) :
    (shown m e).processing = m.processing := by
  cases e <;> rfl

/-- All that a call does, told from how it is dispatched. -/
theorem runCall_eq (c : Conversation) (call : ToolCall) :
    let d := c.executor.dispatch call c.disk
    c.runCall call =
      ({ c with
          disk := d.disk
          history := c.history.push (.tool call.name (reply d.outcome))
          screen := shown c.screen d.outcome
          audits := c.audits ++ [d.audit]
          worked := c.worked + d.elapsed },
        complaint? call d.outcome) := by
  intro d
  unfold runCall
  dsimp only
  split
  · next output h =>
    have houtcome : d.outcome = .ok output := h
    rw [houtcome, showOutput, shown]
    cases output.status <;> rfl
  · next f h =>
    have houtcome : d.outcome = .error f := h
    rw [houtcome]
    rfl

theorem runCall_keeps (c : Conversation) (call : ToolCall) : Keeps c (c.runCall call).1 := by
  rw [runCall_eq]
  exact ⟨rfl, rfl, rfl, rfl, shown_state .., shown_processing ..⟩

theorem runCall_disk (c : Conversation) (call : ToolCall) :
    (c.runCall call).1.disk = (c.executor.dispatch call c.disk).disk := by
  rw [runCall_eq]

theorem runCall_history (c : Conversation) (call : ToolCall) :
    (c.runCall call).1.history =
      c.history.push (.tool call.name (reply (c.executor.dispatch call c.disk).outcome)) := by
  rw [runCall_eq]

theorem runCalls_keeps (c : Conversation) (calls : List ToolCall) :
    Keeps c (c.runCalls calls).1 := by
  induction calls generalizing c with
  | nil => exact ⟨rfl, rfl, rfl, rfl, rfl, rfl⟩
  | cons call rest ih => exact (runCall_keeps c call).trans (ih _)

/-- What the provider gets to see of the ends of some calls that are made one after the other. -/
def replies (x : Tool.Executor) : Files.Disk → List ToolCall → List String
  | _, [] => []
  | d, call :: rest =>
    reply (x.dispatch call d).outcome :: replies x (x.dispatch call d).disk rest

theorem length_replies (x : Tool.Executor) (d : Files.Disk) (calls : List ToolCall) :
    (replies x d calls).length = calls.length := by
  induction calls generalizing d with
  | nil => rfl
  | cons call rest ih => rw [replies, List.length_cons, ih, List.length_cons]

/-- The messages that calls of tools leave, with what the provider gets to see of their ends. -/
def toolMessages (calls : List ToolCall) (replies : List String) : List Message :=
  List.zipWith (fun call r => .tool call.name r) calls replies

/-- Calls of tools leave one message each, in order, whether they went well or not. -/
theorem runCalls_history (c : Conversation) (calls : List ToolCall) :
    (c.runCalls calls).1.history =
      { c.history with
        later := c.history.later ++ toolMessages calls (replies c.executor c.disk calls) } := by
  induction calls generalizing c with
  | nil => rw [toolMessages, List.zipWith_nil_left, List.append_nil]; rfl
  | cons call rest ih =>
    have hrest := ih (c.runCall call).1
    rw [runCall_history, runCall_disk, (runCall_keeps c call).executor] at hrest
    rw [runCalls, replies, toolMessages, List.zipWith_cons_cons]
    refine hrest.trans ?_
    rw [History.push, List.append_assoc, List.singleton_append, toolMessages]

/-! ### Answers -/

/-- The answer that the conversation goes on with, if there is one: an answer that reports an error
is as good as none. -/
def taken : Except Registry.Error Completion → Option Completion
  | .ok answer => if answer.isSuccess then some answer else none
  | .error _ => none

/-- The messages that an answer and its calls of tools leave. -/
def answerMessages (x : Tool.Executor) (d : Files.Disk) : Option Completion → List Message
  | none => []
  | some a => .assistant a.content :: toolMessages a.toolCalls (replies x d a.toolCalls)

/-- A turn without an answer ends in error, and nothing is added to what the provider gets to
see. -/
theorem settle_none {answer : Except Registry.Error Completion} (h : taken answer = none) :
    (c.settle answer).history = c.history ∧ (c.settle answer).state = .aiError := by
  cases answer with
  | error e => exact ⟨rfl, rfl⟩
  | ok a =>
    have ha : a.isSuccess = false := by simpa [taken] using h
    simp only [settle, process, ha]
    exact ⟨rfl, rfl⟩

/-- The conversation when the content of an answer has been taken. -/
def heard (c : Conversation) (a : Completion) : Conversation :=
  if Text.isBlankText a.content then c.remember (.assistant a.content)
  else (c.remember (.assistant a.content)).say .ai a.content

theorem heard_history (c : Conversation) (a : Completion) :
    (c.heard a).history = c.history.push (.assistant a.content) := by
  unfold heard
  split_ifs <;> rfl

theorem heard_executor (c : Conversation) (a : Completion) :
    (c.heard a).executor = c.executor := by
  unfold heard
  split_ifs <;> rfl

theorem heard_disk (c : Conversation) (a : Completion) : (c.heard a).disk = c.disk := by
  unfold heard
  split_ifs <;> rfl

/-- The conversation when calls of tools have been made, of which some failed. -/
def concluded (c : Conversation) : List String → Conversation
  | [] => c.enter .executingTask
  | failures =>
    ((c.enter .aiError).post
      ("Tool execution failed: " ++ "; ".intercalate failures)).setStatus toolErrorStatus

theorem concluded_history (c : Conversation) (failures : List String) :
    (c.concluded failures).history = c.history := by
  cases failures <;> rfl

theorem concluded_state (c : Conversation) (failures : List String) :
    (c.concluded failures).state = if failures = [] then .executingTask else .aiError := by
  cases failures <;> rfl

/-- The calls of an answer are made, and the state says how they went. -/
theorem process_eq {a : Completion} (h : a.isSuccess = true) :
    c.process a =
      if a.toolCalls = [] then ((c.heard a).enter .awaitingApproval).setStatus reviewStatus
      else ((c.heard a).runCalls a.toolCalls).1.concluded
        ((c.heard a).runCalls a.toolCalls).2 := by
  have hheard : (if Text.isBlankText a.content then c.remember (.assistant a.content)
      else (c.remember (.assistant a.content)).say .ai a.content) = c.heard a := rfl
  simp only [process, h, Bool.not_true, Bool.false_eq_true, if_false, hheard, List.isEmpty_iff]
  split_ifs
  · rfl
  · rcases (c.heard a).runCalls a.toolCalls with ⟨c', _ | ⟨f, fs⟩⟩ <;> rfl

/-- What is taken is an answer that is no error. -/
theorem taken_eq_some_iff {answer : Except Registry.Error Completion} {a : Completion} :
    taken answer = some a ↔ answer = .ok a ∧ a.isSuccess = true := by
  cases answer with
  | error e => simp [taken]
  | ok b =>
    simp only [taken, Option.ite_none_right_eq_some, Option.some.injEq, Except.ok.injEq]
    constructor
    · rintro ⟨hb, rfl⟩
      exact ⟨rfl, hb⟩
    · rintro ⟨rfl, hb⟩
      exact ⟨hb, rfl⟩

/-- A turn with an answer: the answer and the outputs of its tools are added to what the provider
gets to see.  If no tool was called, the conversation waits for approval; else the state says
whether a call has failed. -/
theorem settle_some {answer : Except Registry.Error Completion} {a : Completion}
    (h : taken answer = some a) :
    (c.settle answer).history = { c.history with
      later := c.history.later ++ answerMessages c.executor c.disk (some a) } ∧
    (c.settle answer).state =
      if a.toolCalls = [] then .awaitingApproval
      else if ((c.heard a).runCalls a.toolCalls).2 = [] then .executingTask else .aiError := by
  obtain ⟨rfl, ha⟩ := taken_eq_some_iff.mp h
  have hhist : (c.settle (.ok a)).history = (c.process a).history := rfl
  have hstate : (c.settle (.ok a)).state = (c.process a).state := rfl
  have hpush : (c.heard a).history.later = c.history.later ++ [.assistant a.content] := by
    rw [heard_history]
    rfl
  rw [hhist, hstate, process_eq ha]
  split_ifs with hcalls
  · refine ⟨?_, rfl⟩
    rw [answerMessages, hcalls]
    exact heard_history c a
  all_goals
    rw [concluded_history, runCalls_history, hpush, heard_executor, heard_disk, List.append_assoc,
      List.singleton_append, heard_history, concluded_state]
  · exact ⟨rfl, if_pos ‹_›⟩
  · exact ⟨rfl, if_neg ‹_›⟩

/-- An answer adds messages to what the provider gets to see, if there is one. -/
theorem settle_history (c : Conversation) (answer : Except Registry.Error Completion) :
    (c.settle answer).history.messages =
      c.history.messages ++ answerMessages c.executor c.disk (taken answer) := by
  cases h : taken answer with
  | none => rw [(settle_none h).1, answerMessages, List.append_nil]
  | some a =>
    rw [(settle_some h).1]
    rfl

/-! ### What answers have nothing to do with -/

/-- What a conversation needs to ask for an answer, and not to go on with it. -/
structure Asking where
  registry : Registry
  attachment : Option Attachment
  focus : Context.Focus

/-- The conversation with something else to ask for answers with. -/
def mapAsking (c : Conversation) (f : Asking → Asking) : Conversation :=
  let asking := f ⟨c.registry, c.attachment, c.focus⟩
  { c with
    registry := asking.registry
    attachment := asking.attachment
    focus := asking.focus }

theorem recover_mapAsking (c : Conversation) (f : Asking → Asking) :
    (c.mapAsking f).recover = c.recover.mapAsking f := by
  by_cases h : c.state = .aiError
  · rw [recover, recover, if_pos h, if_pos (show (c.mapAsking f).state = .aiError from h)]
    rfl
  · rw [recover, recover, if_neg h, if_neg (show ¬ (c.mapAsking f).state = .aiError from h)]

theorem runCall_mapAsking (c : Conversation) (f : Asking → Asking) (call : ToolCall) :
    (c.mapAsking f).runCall call = ((c.runCall call).1.mapAsking f, (c.runCall call).2) := by
  rw [runCall_eq, runCall_eq]
  rfl

theorem runCalls_mapAsking (c : Conversation) (f : Asking → Asking) (calls : List ToolCall) :
    (c.mapAsking f).runCalls calls =
      ((c.runCalls calls).1.mapAsking f, (c.runCalls calls).2) := by
  induction calls generalizing c with
  | nil => rfl
  | cons call rest ih => simp only [runCalls, runCall_mapAsking, ih]

theorem heard_mapAsking (c : Conversation) (f : Asking → Asking) (a : Completion) :
    (c.mapAsking f).heard a = (c.heard a).mapAsking f := by
  unfold heard
  split_ifs <;> rfl

theorem concluded_mapAsking (c : Conversation) (f : Asking → Asking) (failures : List String) :
    (c.mapAsking f).concluded failures = (c.concluded failures).mapAsking f := by
  cases failures <;> rfl

theorem process_mapAsking (c : Conversation) (f : Asking → Asking) (a : Completion) :
    (c.mapAsking f).process a = (c.process a).mapAsking f := by
  by_cases h : a.isSuccess = true
  · rw [process_eq h, process_eq h, heard_mapAsking, runCalls_mapAsking]
    split_ifs
    · rfl
    · exact concluded_mapAsking ..
  · simp only [process, h]
    rfl

/-- With something else to ask with, an answer is gone on with in the same way. -/
theorem settle_mapAsking (c : Conversation) (f : Asking → Asking)
    (answer : Except Registry.Error Completion) :
    (c.mapAsking f).settle answer = (c.settle answer).mapAsking f := by
  cases answer with
  | error e => rfl
  | ok a => exact congrArg (setProcessing · false) (process_mapAsking c f a)

end Colloquy.Conversation
