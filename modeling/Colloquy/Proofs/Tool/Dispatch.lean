import Colloquy.Proofs.Conversation.Calls
import Colloquy.Proofs.Workspace.Frame
import Colloquy.Tool.Scripted

/-!
# Dispatching a call

What comes of a call is settled by two questions: can its arguments be read, and is there a tool
with its name.  If so, that tool is executed with these arguments; if not, no tool is.

That a tool is executed is told from outside (`Executor.Executes`): whatever the tools of a box may
do, what comes of the call is what this one does.

* `executes_iff`: which tool a call executes, and with which arguments;
* `dispatch_of_executes`, `dispatch_of_executes_late`: what comes of a call that executes a tool, as
  the tool is done in time or not;
* `dispatch_congr`: a call counts by its name and by what is read from its arguments;
* `file_iff_of_error`: a call of a standard tool that fails leaves every file as it is;
* `dispatch_contract`: all of this, with what the record of a call says.
-/

namespace Colloquy.Tool

open Provider (ToolCall)
open Files (Disk)

variable {x : Executor} {call call' : ToolCall} {t : Tool} {arguments : Json} {d : Disk}

/-! ### Reading the arguments -/

/-- The arguments that a call passes: none if its text is blank, and otherwise what the text
says. -/
def Passes (call : ToolCall) (arguments : Json) : Prop :=
  Text.isBlankText call.arguments = true ∧ arguments = .object [] ∨
    Text.isBlankText call.arguments = false ∧ Json.parse call.arguments = .ok arguments

theorem readArguments_eq_ok_iff : readArguments call = .ok arguments ↔ Passes call arguments := by
  rw [readArguments, Passes]
  cases Text.isBlankText call.arguments with
  | true => simp [eq_comm]
  | false => cases Json.parse call.arguments <;> simp

/-- Arguments that cannot be read are the caller's fault, not that of the name. -/
theorem error_of_readArguments {f : Failure} (h : readArguments call = .error f) :
    ∃ message, f = { error := .invalidArguments call.name message } := by
  rw [readArguments] at h
  split_ifs at h
  split at h <;> cases h
  exact ⟨_, rfl⟩

/-- No arguments, written out. -/
theorem readArguments_braces (call : ToolCall) :
    readArguments { call with arguments := "\x7b\x7d" } = .ok (.object []) := by
  have hblank : Text.isBlankText "\x7b\x7d" = false := by decide
  have hparse : Json.parse "\x7b\x7d" = .ok (.object []) := by rfl
  exact readArguments_eq_ok_iff.mpr (.inr ⟨hblank, hparse⟩)

/-! ### What comes of a call -/

theorem perform_of_refused {f : Failure} (h : readArguments call = .error f) (d : Disk) :
    x.perform call d = (d, .error f, .zero) := by
  rw [Executor.perform, h]

theorem perform_of_unknown (h : readArguments call = .ok arguments)
    (hfind : x.toolbox.find? call.name = none) (d : Disk) :
    x.perform call d = (d, .error { error := .unknownTool call.name }, .zero) := by
  rw [Executor.perform, h]
  dsimp only
  rw [hfind]

theorem perform_of_found (h : readArguments call = .ok arguments)
    (hfind : x.toolbox.find? call.name = some t) (d : Disk) :
    x.perform call d = x.runTool t call.name arguments d := by
  rw [Executor.perform, h]
  dsimp only
  rw [hfind]

/-- A tool that is done in time does what it does. -/
theorem runTool_in_time {name : String}
    (h : ¬Duration.ofSeconds x.timeoutSeconds < t.delay arguments) :
    x.runTool t name arguments d =
      ((t.act arguments d).1, (t.act arguments d).2, t.delay arguments) := by
  rw [Executor.runTool]
  exact if_neg h

/-- A tool that is not is given up. -/
theorem runTool_late {name : String}
    (h : Duration.ofSeconds x.timeoutSeconds < t.delay arguments) :
    x.runTool t name arguments d =
      (d, .error { error := .executionFailed s!"{name} timed out after {x.timeoutSeconds}s" },
        .ofSeconds x.timeoutSeconds) := by
  rw [Executor.runTool]
  exact if_pos h

/-- Two calls of one name from which the same arguments are read come to the same. -/
theorem dispatch_congr (hname : call'.name = call.name)
    (h : readArguments call' = readArguments call) (d : Disk) :
    (x.dispatch call' d).disk = (x.dispatch call d).disk ∧
      (x.dispatch call' d).outcome = (x.dispatch call d).outcome ∧
      (x.dispatch call' d).elapsed = (x.dispatch call d).elapsed := by
  have hperform : x.perform call' d = x.perform call d := by
    rw [Executor.perform, Executor.perform, h, hname]
  simp only [Executor.dispatch, hperform, and_self]

/-! ### The tool that is executed -/

/-- The same tools, but each acts at once and in another way. -/
def Toolbox.acting (b : Toolbox) (act : Tool → Json → Disk → Disk × Outcome) : Toolbox :=
  ⟨b.tools.map fun t => { t with delay := fun _ => .zero, act := act t }⟩

/-- The same time limit for other ways to act. -/
def Executor.acting (x : Executor) (act : Tool → Json → Disk → Disk × Outcome) : Executor :=
  { x with toolbox := x.toolbox.acting act }

/-- A call executes a tool with some arguments if, whatever the tools do, what comes of the call is
what this one does with these arguments. -/
def Executor.Executes (x : Executor) (call : ToolCall) (t : Tool) (arguments : Json) : Prop :=
  ∀ act d, ((x.acting act).dispatch call d).disk = (act t arguments d).1 ∧
    ((x.acting act).dispatch call d).outcome = (act t arguments d).2

theorem find?_acting (b : Toolbox) (act : Tool → Json → Disk → Disk × Outcome) (name : String) :
    (b.acting act).find? name =
      (b.find? name).map fun t => { t with delay := fun _ => .zero, act := act t } := by
  rw [Toolbox.acting, Toolbox.find?, List.find?_map]
  rfl

theorem executes_of_find? (hfind : x.toolbox.find? call.name = some t)
    (h : readArguments call = .ok arguments) : x.Executes call t arguments := by
  intro act d
  have hacting : (x.acting act).toolbox.find? call.name =
      some { t with delay := fun _ => .zero, act := act t } := by
    rw [Executor.acting, find?_acting, hfind]
    rfl
  rw [dispatch_disk, dispatch_outcome, perform_of_found h hacting]
  exact runTool_of_zero rfl

open Classical in
/-- **Which tool is executed**: the one that is registered under the name of the call, if the
arguments can be read. -/
theorem executes_iff :
    x.Executes call t arguments ↔
      x.toolbox.find? call.name = some t ∧ Passes call arguments := by
  rw [← readArguments_eq_ok_iff]
  refine ⟨fun h => ?_, fun ⟨hfind, hread⟩ => executes_of_find? hfind hread⟩
  -- Let this tool with these arguments succeed, and anything else fail.
  let act : Tool → Json → Disk → Disk × Outcome := fun t' arguments' d =>
    (d, if t' = t ∧ arguments' = arguments then .ok { content := "" }
      else .error { error := .executionFailed "" })
  have hok : ((x.acting act).dispatch call .empty).outcome = .ok { content := "" } := by
    rw [(h act .empty).2]
    exact if_pos ⟨rfl, rfl⟩
  cases hread : readArguments call with
  | error f =>
    rw [dispatch_outcome, perform_of_refused hread] at hok
    cases hok
  | ok arguments' =>
    cases hfind : x.toolbox.find? call.name with
    | none =>
      have hacting : (x.acting act).toolbox.find? call.name = none := by
        rw [Executor.acting, find?_acting, hfind]
        rfl
      rw [dispatch_outcome, perform_of_unknown hread hacting] at hok
      cases hok
    | some t' =>
      have hact := (executes_of_find? hfind hread act .empty).2
      rw [hok] at hact
      have hsame : t' = t ∧ arguments' = arguments := by
        by_contra hne
        rw [show (act t' arguments' .empty).2 = _ from if_neg hne] at hact
        cases hact
      rw [hsame.1, hsame.2]
      exact ⟨rfl, rfl⟩

theorem perform_of_executes (h : x.Executes call t arguments) (d : Disk) :
    x.perform call d = x.runTool t call.name arguments d :=
  perform_of_found (readArguments_eq_ok_iff.mpr (executes_iff.mp h).2) (executes_iff.mp h).1 d

/-- A tool that is executed and is done in time. -/
theorem dispatch_of_executes (h : x.Executes call t arguments)
    (htime : ¬Duration.ofSeconds x.timeoutSeconds < t.delay arguments) (d : Disk) :
    (x.dispatch call d).disk = (t.act arguments d).1 ∧
      (x.dispatch call d).outcome = (t.act arguments d).2 := by
  rw [dispatch_disk, dispatch_outcome, perform_of_executes h, runTool_in_time htime]
  exact ⟨rfl, rfl⟩

/-- A tool that is executed and is not done in time. -/
theorem dispatch_of_executes_late (h : x.Executes call t arguments)
    (htime : Duration.ofSeconds x.timeoutSeconds < t.delay arguments) (d : Disk) :
    (x.dispatch call d).outcome =
      .error { error := .executionFailed s!"{call.name} timed out after {x.timeoutSeconds}s" } := by
  rw [dispatch_outcome, perform_of_executes h, runTool_late htime]

/-- If no tool is executed, nothing happens. -/
theorem dispatch_of_not_executes (h : ∀ t arguments, ¬x.Executes call t arguments) (d : Disk) :
    (x.dispatch call d).disk = d ∧ ∃ f, (x.dispatch call d).outcome = .error f := by
  rw [dispatch_disk, dispatch_outcome]
  cases hread : readArguments call with
  | error f =>
    rw [perform_of_refused hread]
    exact ⟨rfl, f, rfl⟩
  | ok arguments =>
    cases hfind : x.toolbox.find? call.name with
    | none =>
      rw [perform_of_unknown hread hfind]
      exact ⟨rfl, _, rfl⟩
    | some t => exact absurd (executes_of_find? hfind hread) (h t arguments)

/-! ### The record -/

/-- A tool that never says that there is no such tool. -/
def KnowsItself (t : Tool) : Prop :=
  ∀ arguments d f, (t.act arguments d).2 = .error f → ∀ name, f.error ≠ .unknownTool name

theorem mem_standard {root : Workspace.Root} : t ∈ (Toolbox.standard root).tools ↔
    t = proposePlan ∨ t = askForClarification ∨ t = writeFile root ∨ t = readFile root ∨
      t = listFiles root := by
  change t ∈ [proposePlan, askForClarification, writeFile root, readFile root, listFiles root] ↔ _
  simp only [List.mem_cons, List.not_mem_nil, or_false]

/-- A check of arguments says nothing about the name of the tool. -/
theorem check_ne_unknownTool {ps : Parameters} {tool : String} {f : Failure}
    (h : ps.check tool arguments = .error f) (name : String) : f.error ≠ .unknownTool name := by
  rw [Parameters.check] at h
  split at h <;> cases h
  rintro ⟨⟩

theorem answerWith_error {ps : Parameters} {tool : String} {reply : Json → Option Output}
    {f : Failure} (h : (answerWith ps tool reply arguments d).2 = .error f) (name : String) :
    f.error ≠ .unknownTool name := by
  rw [answerWith] at h
  split at h
  · next hcheck =>
    cases h
    exact check_ne_unknownTool hcheck name
  · split at h <;> cases h
    rintro ⟨⟩

/-- The standard tools know that they are there. -/
theorem knowsItself_of_standard {root : Workspace.Root}
    (ht : t ∈ (Toolbox.standard root).tools) : KnowsItself t := by
  intro arguments d f h name
  rcases mem_standard.mp ht with rfl | rfl | rfl | rfl | rfl
  · exact answerWith_error h name
  · exact answerWith_error h name
  -- The tools for files fail by their arguments or by the disk, neither for want of a tool.
  · change (actWrite root arguments d).2 = .error f at h
    rw [actWrite] at h
    split at h
    · next hcheck =>
      cases h
      exact check_ne_unknownTool hcheck name
    · rw [saveFile_outcome] at h
      split at h <;> cases h
      rintro ⟨⟩
    · cases h
      rintro ⟨⟩
  · change (actRead root arguments d).2 = .error f at h
    rw [actRead] at h
    split at h
    · next hcheck =>
      cases h
      exact check_ne_unknownTool hcheck name
    · split at h <;> cases h
      rintro ⟨⟩
    · cases h
      rintro ⟨⟩
  · change (actList root arguments d).2 = .error f at h
    rw [actList] at h
    split at h <;> cases h
    rintro ⟨⟩

theorem isOk_iff (e : Outcome) : e.isOk = true ↔ ∃ output, e = .ok output := by
  cases e <;> simp [Except.isOk, Except.toBool]

theorem outcomeWord_ok_iff (e : Outcome) : outcomeWord e = "ok" ↔ ∃ output, e = .ok output := by
  unfold outcomeWord
  split <;> simp

theorem outcomeWord_unknown_iff (e : Outcome) :
    outcomeWord e = "unknown_tool" ↔ ∃ name files, e = .error ⟨.unknownTool name, files⟩ := by
  unfold outcomeWord
  split
  · simp
  · simp
  · next f hf =>
    simp only [String.reduceEq, Except.error.injEq, false_iff, not_exists]
    rintro name files rfl
    exact hf name files rfl

theorem outcomeWord_cases (e : Outcome) :
    outcomeWord e = "ok" ∨ outcomeWord e = "unknown_tool" ∨ outcomeWord e = "error" := by
  unfold outcomeWord
  split <;> simp

/-- It is said that there is no such tool just if that is so. -/
theorem outcome_unknown_iff (hbox : ∀ t ∈ x.toolbox.tools, KnowsItself t) (d : Disk) :
    (∃ name files, (x.dispatch call d).outcome = .error ⟨.unknownTool name, files⟩) ↔
      (∃ arguments, Passes call arguments) ∧ x.toolbox.find? call.name = none := by
  rw [dispatch_outcome]
  cases hread : readArguments call with
  | error f =>
    obtain ⟨message, rfl⟩ := error_of_readArguments hread
    have hnone : ¬∃ arguments, Passes call arguments := by
      rintro ⟨arguments, h⟩
      rw [readArguments_eq_ok_iff.mpr h] at hread
      cases hread
    simp [perform_of_refused hread, hnone]
  | ok arguments =>
    have hpasses : ∃ arguments, Passes call arguments :=
      ⟨arguments, readArguments_eq_ok_iff.mp hread⟩
    cases hfind : x.toolbox.find? call.name with
    | none => simp [perform_of_unknown hread hfind, hpasses]
    | some t =>
      rw [perform_of_found hread hfind]
      simp only [reduceCtorEq, and_false, iff_false, not_exists]
      -- A tool that is found does not call itself unknown, and a late one is told to be late.
      intro name files hunknown
      by_cases htime : Duration.ofSeconds x.timeoutSeconds < t.delay arguments
      · rw [runTool_late htime] at hunknown
        cases hunknown
      · rw [runTool_in_time htime] at hunknown
        exact hbox t (List.mem_of_find?_eq_some hfind) arguments d _ hunknown name rfl

theorem auditPreview_of_le {text : String} (h : text.length ≤ auditLimit) :
    auditPreview text = text := by
  rw [auditPreview, if_neg (by omega)]

/-- A long text is cut. -/
theorem auditPreview_of_lt {text : String} (h : auditLimit < text.length) :
    ∃ shown rest, text = shown ++ rest ∧ shown.length = auditLimit ∧
      auditPreview text = shown ++ "..." := by
  refine ⟨String.ofList (text.toList.take auditLimit), String.ofList (text.toList.drop auditLimit),
    ?_, ?_, ?_⟩
  · rw [← String.ofList_append, List.take_append_drop, String.ofList_toList]
  · rw [String.length_ofList, List.length_take, String.length_toList]
    omega
  · rw [auditPreview, if_pos h]

/-! ### Failures of the standard tools -/

/-- A call of a standard tool comes to the same in any box. -/
theorem dispatch_of_standard {root : Workspace.Root} (ht : t ∈ (Toolbox.standard root).tools)
    (hfind : x.toolbox.find? call.name = some t) (d : Disk) :
    x.dispatch call d = { x with toolbox := .standard root : Executor }.dispatch call d := by
  have hname : t.name = call.name := by simpa using List.find?_some hfind
  have hstandard : (Toolbox.standard root).find? call.name = some t := by
    rw [← hname]
    rcases mem_standard.mp ht with rfl | rfl | rfl | rfl | rfl <;> rfl
  have hperform : x.perform call d =
      { x with toolbox := .standard root : Executor }.perform call d := by
    rw [Executor.perform, Executor.perform, hfind, hstandard]
    rfl
  rw [Executor.dispatch, Executor.dispatch, hperform]

/-- **A standard tool that fails** leaves every file as it is. -/
theorem file_iff_of_error {root : Workspace.Root} (ht : t ∈ (Toolbox.standard root).tools)
    (hfind : x.toolbox.find? call.name = some t) (hd : d.WellFormed) {f : Failure}
    (h : (x.dispatch call d).outcome = .error f) (l : Files.Location) (bytes : ByteArray) :
    (x.dispatch call d).disk.find? l = some (.file bytes) ↔ d.find? l = some (.file bytes) := by
  rw [dispatch_of_standard ht hfind] at h ⊢
  cases hrequest : request? call with
  | none => rw [(dispatch_of_none rfl hrequest d).1]
  | some q =>
    obtain ⟨hdisk, houtcome⟩ :=
      dispatch_of_request (x := { x with toolbox := .standard root }) rfl hrequest d
    rw [hdisk, saveFile_disk]
    rw [houtcome, saveFile_outcome] at h
    cases hwrite : (root.write d q.filename q.content).2 with
    | ok u =>
      rw [hwrite] at h
      cases h
    | error e =>
      exact ((root.write_frame hd q.filename q.content).2.1 e hwrite).file_iff

/-! ### The contract -/

/-- **A dispatched call.**  Take any tools none of which says itself that there is no such tool, any
call and any disk.

* A conversation that makes the call adds one record, with the name of the call and its identity,
  which is a new one just if the call has none.  It says whether the call went well; the word in it
  is `ok` if so, `unknown_tool` just if the arguments can be read and there is no tool with the
  name, and `error` otherwise.  Arguments of at most 200 characters are shown as they are, and of
  longer ones the first 200 with three points behind them.
* The tool that is registered under the name of the call is executed just if the text of the
  arguments is blank or can be read.  What it does in time is what comes of the call; if it needs
  longer than the limit, the call fails, and there is nothing but the reason.  If no tool is
  executed, nothing happens but that the call fails.
* A blank text comes to the same as one with empty braces.
* A call of a standard tool that fails leaves every file as it is. -/
theorem dispatch_contract (x : Executor) (call : ToolCall) (d : Disk)
    (hbox : ∀ t ∈ x.toolbox.tools, KnowsItself t) :
    let made := x.dispatch call d
    let limit := Duration.ofSeconds x.timeoutSeconds
    ((∀ c : Conversation, c.executor = x → c.disk = d →
        (c.runCall call).1.audits = c.audits ++ [made.audit]) ∧
      made.audit.tool = call.name ∧
      (made.audit.callId = none ↔ call.id = "") ∧
      (call.id ≠ "" → made.audit.callId = some call.id) ∧
      (made.audit.ok = true ↔ ∃ output, made.outcome = .ok output) ∧
      (made.audit.outcome = "ok" ↔ ∃ output, made.outcome = .ok output) ∧
      (made.audit.outcome = "unknown_tool" ↔
        (∃ arguments, Passes call arguments) ∧ x.toolbox.find? call.name = none) ∧
      (made.audit.outcome ≠ "ok" → made.audit.outcome ≠ "unknown_tool" →
        made.audit.outcome = "error") ∧
      (call.arguments.length ≤ 200 → made.audit.preview = call.arguments) ∧
      (200 < call.arguments.length → ∃ shown rest, call.arguments = shown ++ rest ∧
        shown.length = 200 ∧ made.audit.preview = shown ++ "...")) ∧
    ((∀ t arguments, x.Executes call t arguments ↔
        x.toolbox.find? call.name = some t ∧ Passes call arguments) ∧
      (∀ t arguments, x.Executes call t arguments → ¬limit < t.delay arguments →
        made.disk = (t.act arguments d).1 ∧ made.outcome = (t.act arguments d).2) ∧
      (∀ t arguments, x.Executes call t arguments → limit < t.delay arguments →
        ∃ reason, made.outcome = .error { error := .executionFailed reason, files := [] }) ∧
      ((∀ t arguments, ¬x.Executes call t arguments) →
        made.disk = d ∧ ∃ f, made.outcome = .error f)) ∧
    (Text.isBlankText call.arguments = true →
      let braces : ToolCall := { call with arguments := "\x7b\x7d" }
      made.disk = (x.dispatch braces d).disk ∧ made.outcome = (x.dispatch braces d).outcome ∧
        made.elapsed = (x.dispatch braces d).elapsed ∧
        made.audit = { (x.dispatch braces d).audit with preview := made.audit.preview }) ∧
    (∀ root t f, t ∈ (Toolbox.standard root).tools → x.toolbox.find? call.name = some t →
      d.WellFormed → made.outcome = .error f → ∀ l bytes,
        made.disk.find? l = some (.file bytes) ↔ d.find? l = some (.file bytes)) := by
  intro made limit
  refine ⟨⟨?_, rfl, ?_, ?_, isOk_iff _, outcomeWord_ok_iff _, ?_, ?_, auditPreview_of_le,
      auditPreview_of_lt⟩, ⟨fun t arguments => executes_iff, ?_, ?_, ?_⟩, fun hblank => ?_,
    fun root t f ht hfind hd hf l bytes => file_iff_of_error ht hfind hd hf l bytes⟩
  · rintro c rfl rfl
    exact Conversation.runCall_audits c call
  · change (if call.id.isEmpty then none else some call.id) = none ↔ call.id = ""
    rw [← String.isEmpty_iff]
    cases call.id.isEmpty <;> simp
  · intro hid
    change (if call.id.isEmpty then none else some call.id) = some call.id
    rw [if_neg fun hempty => hid (String.isEmpty_iff.mp hempty)]
  · exact (outcomeWord_unknown_iff _).trans (outcome_unknown_iff hbox d)
  · intro hok hunknown
    rcases outcomeWord_cases made.outcome with h | h | h
    · exact absurd h hok
    · exact absurd h hunknown
    · exact h
  · exact fun t arguments h htime => dispatch_of_executes h htime d
  · exact fun t arguments h htime => ⟨_, dispatch_of_executes_late h htime d⟩
  · exact fun h => dispatch_of_not_executes h d
  · intro braces
    -- Blank arguments are read as braces; after that only the preview still tells the two apart.
    have hread : readArguments call = readArguments braces := by
      rw [show readArguments braces = _ from readArguments_braces call]
      exact readArguments_eq_ok_iff.mpr (.inl ⟨hblank, rfl⟩)
    have hname : call.name = braces.name := rfl
    obtain ⟨hdisk, houtcome, helapsed⟩ :
        (x.dispatch call d).disk = (x.dispatch braces d).disk ∧
          (x.dispatch call d).outcome = (x.dispatch braces d).outcome ∧
          (x.dispatch call d).elapsed = (x.dispatch braces d).elapsed :=
      dispatch_congr hname hread d
    refine ⟨hdisk, houtcome, helapsed, ?_⟩
    change audit call made.outcome = { audit braces (x.dispatch braces d).outcome with
      preview := auditPreview call.arguments }
    rw [show made.outcome = _ from houtcome]
    rfl

/-- A tool that takes a second longer than the executor below waits. -/
def slowTool : Tool :=
  ofScript { name := "compile", delay := .ofSeconds 6, content := "Compiled." }

/-- The standard tools and a slow one. -/
def patientExecutor : Executor where
  toolbox := (Toolbox.standard ⟨["ws"], false⟩).register slowTool
  timeoutSeconds := 5

/-- The slow tool, called without arguments and without an identity, is executed and given up. -/
theorem slowTool_contract :
    let call : ToolCall := ⟨"", "compile", " "⟩
    let made := patientExecutor.dispatch call .empty
    (∀ t ∈ patientExecutor.toolbox.tools, KnowsItself t) ∧
    patientExecutor.Executes call slowTool (.object []) ∧
    made.audit = ⟨"compile", none, false, "error", " "⟩ ∧
    ∃ reason, made.outcome = .error { error := .executionFailed reason, files := [] } := by
  intro call made
  have hbox : ∀ t ∈ patientExecutor.toolbox.tools, KnowsItself t := by
    intro t ht
    change t ∈ (Toolbox.standard ⟨["ws"], false⟩).tools ++ [slowTool] at ht
    rcases List.mem_append.mp ht with ht | ht
    · exact knowsItself_of_standard ht
    · rw [List.mem_singleton.mp ht]
      intro arguments d f h
      cases h
  obtain ⟨⟨-, -, -, -, -, -, -, -, -, -⟩, ⟨hexecutes, -, hlate, -⟩, -, -⟩ :=
    dispatch_contract patientExecutor call .empty hbox
  have hblank : Text.isBlankText " " = true := by decide
  have hslow : patientExecutor.Executes call slowTool (.object []) :=
    (hexecutes _ _).mpr ⟨by rfl, .inl ⟨hblank, rfl⟩⟩
  have haudit : (patientExecutor.dispatch ⟨"", "compile", " "⟩ .empty).audit =
      ⟨"compile", none, false, "error", " "⟩ := by decide +kernel
  exact ⟨hbox, hslow, haudit, hlate _ _ hslow (by decide)⟩

end Colloquy.Tool
