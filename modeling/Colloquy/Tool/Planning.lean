import Colloquy.Tool.Parameters

/-!
# Planning tools

Two tools that touch no file.  `proposePlan` shows the plan of a provider in the chat and lists the
files that it is going to write; `askForClarification` shows its questions.
-/

namespace Colloquy.Tool

open Json (Shape)

/-- An entry of the chat log that comes from the provider. -/
def said (text : String) : Display.ChatEntry := ⟨.ai, text⟩

/-! ### Proposing a plan -/

/-- A file of a plan. -/
def plannedFileShape : Shape :=
  .record "PlannedFile" [⟨"filename", .required, .text⟩, ⟨"description", .required, .text⟩]

/-- The parameters of a plan. -/
def planParameters : Parameters := {
  title := "ProposePlanArgs"
  fields := [
    { name := "project_name", presence := .required, shape := .text },
    { name := "language", presence := .required, shape := .text },
    { name := "description", presence := .required, shape := .text },
    { name := "files", presence := .default (.array []), shape := .list plannedFileShape },
    { name := "steps", presence := .default (.array []), shape := .list .text
      remark := some "实施步骤，按顺序", shownDefault := some (.array []) }] }

/-- A file of a plan, by name and description. -/
def plannedFile? : Json → Option (String × String)
  | .object [("filename", .text filename), ("description", .text description)] =>
    some (filename, description)
  | _ => none

/-- A plan. -/
structure Plan where
  projectName : String
  language : String
  description : String
  files : List (String × String)
  steps : List String

/-- Checked arguments as a plan. -/
def plan? : Json → Option Plan
  | .object [("project_name", .text projectName), ("language", .text language),
      ("description", .text description), ("files", .array files), ("steps", .array steps)] =>
    some ⟨projectName, language, description, files.filterMap plannedFile?,
      steps.filterMap fun | .text s => some s | _ => none⟩
  | _ => none

/-- A plan as the output of a call. -/
def Plan.output (p : Plan) : Output :=
  let files := if p.files.isEmpty then [] else
    said "**Files to create**:" :: p.files.map fun f => said s!"- {f.1}: {f.2}"
  let steps := if p.steps.isEmpty then [] else
    said "**Implementation Steps**:" ::
      p.steps.zipIdx.map fun (step, i) => said s!"{i + 1}. {step}"
  { content :=
      s!"Plan for {p.projectName} ({p.language}) recorded: " ++
        s!"{p.files.length} files, {p.steps.length} steps"
    chat :=
      [said s!"I've analyzed your request and created a plan for the {p.projectName} project:",
        said s!"**Project Description**: {p.description}"] ++ files ++ steps ++
      [said "Does this plan look good? Approve it or tell me what to adjust."]
    files := p.files.map fun f => ⟨f.1, .planned, f.2⟩
    status := some "AI has proposed a plan. Please review and respond." }

/-- A call that checks its arguments and touches no file. -/
def answerWith (ps : Parameters) (tool : String) (reply : Json → Option Output)
    (arguments : Json) (d : Files.Disk) : Files.Disk × Outcome :=
  match ps.check tool arguments with
  | .error f => (d, .error f)
  | .ok j =>
    match reply j with
    | some output => (d, .ok output)
    | none => (d, .error { error := .executionFailed tool })

/-- The tool that proposes a plan. -/
def proposePlan : Tool := {
  name := "propose_plan"
  description := "Propose a structured plan for the requested project: the files to create, " ++
    "their purpose, and a step-by-step approach."
  schema := planParameters.schema
  delay := fun _ => .zero
  act := answerWith planParameters "propose_plan" fun j => (plan? j).map Plan.output }

/-! ### Asking for clarification -/

/-- The parameters of a question. -/
def clarificationParameters : Parameters := {
  title := "ClarificationArgs"
  fields := [
    { name := "context", presence := .required, shape := .text, remark := some "需要澄清的背景" },
    { name := "questions", presence := .default (.array []), shape := .list .text
      shownDefault := some (.array []) }] }

/-- Checked arguments as the output of a call. -/
def clarification? : Json → Option Output
  | .object [("context", .text context), ("questions", .array questions)] =>
    let questions := questions.filterMap fun | .text s => some s | _ => none
    some {
      content := s!"Asked the user {questions.length} question(s)"
      chat := [said "I need some more information before I continue:", said context] ++
        questions.map fun q => said s!"- {q}"
      status := some "AI needs clarification. Please answer the questions." }
  | _ => none

/-- The tool that asks the user. -/
def askForClarification : Tool := {
  name := "ask_user_for_clarification"
  description := "Ask the user follow-up questions when the request is ambiguous."
  schema := clarificationParameters.schema
  delay := fun _ => .zero
  act := answerWith clarificationParameters "ask_user_for_clarification" clarification? }

end Colloquy.Tool
