import Colloquy.Tool.Dispatch
import Colloquy.Tool.File
import Mathlib.Tactic.SplitIfs

/-!
# What the standard tools do

A call of the standard tools is a request to write a file, or it touches no file.  Both kinds are
told apart by `request?`, which reads the arguments of a call.

* `dispatch_of_request`: a request is carried out by `saveFile`;
* `dispatch_of_none`: any other call leaves the files as they are, and lists files as planned at
  most.
-/

namespace Colloquy.Tool

open Provider (ToolCall)

variable {root : Workspace.Root} {x : Executor} {call : ToolCall} {d : Files.Disk}

/-- A file that a call asks to write. -/
structure Request where
  filename : String
  content : String
  description : String
deriving DecidableEq, Repr

/-- What a call asks to write, if that is what it asks and its arguments can be read. -/
def request? (call : ToolCall) : Option Request :=
  if call.name = writeFileName then
    match readArguments call with
    | .error _ => none
    | .ok arguments =>
      match writeParameters.check writeFileName arguments with
      | .ok (.object [("filename", .text filename), ("content", .text content),
          ("description", description)]) =>
        some ⟨filename, content, ((Json.optionalText? description).join).getD ""⟩
      | _ => none
  else none

/-- The files whose state has changed, as the end of a call says. -/
def updates : Outcome → List Display.ProjectFile
  | .ok output => output.files
  | .error f => f.files

theorem dispatch_disk (x : Executor) (call : ToolCall) (d : Files.Disk) :
    (x.dispatch call d).disk = (x.perform call d).1 := rfl

theorem dispatch_outcome (x : Executor) (call : ToolCall) (d : Files.Disk) :
    (x.dispatch call d).outcome = (x.perform call d).2.1 := rfl

/-- The standard tools, each under its name. -/
theorem find?_standard (root : Workspace.Root) (name : String) :
    (Toolbox.standard root).find? name =
      if "list_workspace_files" = name then some (listFiles root)
      else if readFileName = name then some (readFile root)
      else if writeFileName = name then some (writeFile root)
      else if "ask_user_for_clarification" = name then some askForClarification
      else if "propose_plan" = name then some proposePlan
      else none := by
  simp only [Toolbox.standard, Toolbox.registerAll, List.foldl_cons, List.foldl_nil,
    Toolbox.find?_register]
  rfl

/-- The standard tools act at once. -/
theorem runTool_of_zero {t : Tool} {name : String} {arguments : Json}
    (h : t.delay arguments = .zero) :
    (x.runTool t name arguments d).1 = (t.act arguments d).1 ∧
      (x.runTool t name arguments d).2.1 = (t.act arguments d).2 := by
  have hlimit : ¬Duration.ofSeconds x.timeoutSeconds < t.delay arguments := by
    rw [h]
    exact Nat.not_lt_zero _
  rw [Executor.runTool]
  simp only [if_neg hlimit]
  exact ⟨trivial, trivial⟩

/-! ### Requests -/

theorem saveFile_disk (root : Workspace.Root) (filename content description : String)
    (d : Files.Disk) :
    (saveFile root filename content description d).1 = (root.write d filename content).1 := by
  rw [saveFile]
  rcases root.write d filename content with ⟨d', e | u⟩ <;> rfl

/-- A file is listed with an error if it could not be written, and otherwise by whether there was
one before. -/
theorem saveFile_outcome (root : Workspace.Root) (filename content description : String)
    (d : Files.Disk) :
    (saveFile root filename content description d).2 =
      match (root.write d filename content).2 with
      | .error e => .error { error := .workspace e, files := [⟨filename, .error, ""⟩] }
      | .ok () => .ok (written filename content description
          (if root.contains d filename then .modified else .generated)) := by
  rw [saveFile]
  rcases root.write d filename content with ⟨d', e | u⟩ <;> rfl

/-- A request to write a file is carried out. -/
theorem dispatch_of_request (hx : x.toolbox = .standard root) {q : Request}
    (h : request? call = some q) (d : Files.Disk) :
    (x.dispatch call d).disk = (saveFile root q.filename q.content q.description d).1 ∧
      (x.dispatch call d).outcome = (saveFile root q.filename q.content q.description d).2 := by
  rw [request?] at h
  split_ifs at h with hname
  split at h
  · cases h
  next arguments harguments =>
  -- The arguments are those of the request, which pass the check.
  have hact : (writeFile root).act arguments d =
      saveFile root q.filename q.content q.description d := by
    change actWrite root arguments d = _
    rw [actWrite]
    split at h
    · next filename content description hcheck =>
      obtain rfl := Option.some.inj h
      rw [hcheck]
      rfl
    · cases h
  -- The tool that is found is the one that writes, and it is not too late.
  have hfind : x.toolbox.find? call.name = some (writeFile root) := by
    rw [hx, find?_standard, hname, if_neg (by decide), if_neg (by decide), if_pos rfl]
  have hrun : (x.runTool (writeFile root) call.name arguments d).1 =
        ((writeFile root).act arguments d).1 ∧
      (x.runTool (writeFile root) call.name arguments d).2.1 =
        ((writeFile root).act arguments d).2 := runTool_of_zero rfl
  rw [hact] at hrun
  have hperform : x.perform call d = x.runTool (writeFile root) call.name arguments d := by
    rw [Executor.perform, harguments]
    dsimp only
    rw [hfind]
  rw [dispatch_disk, dispatch_outcome, hperform]
  exact hrun

/-! ### Calls that touch no file -/

/-- A way to act that changes no file and lists files as planned at most. -/
def Harmless (act : Json → Files.Disk → Files.Disk × Outcome) (arguments : Json) : Prop :=
  ∀ d, (act arguments d).1 = d ∧ ∀ u ∈ updates (act arguments d).2, u.status = .planned

theorem check_error {ps : Parameters} {tool : String} {arguments : Json} {f : Failure}
    (h : ps.check tool arguments = .error f) : f.files = [] := by
  rw [Parameters.check] at h
  split at h <;> cases h
  rfl

theorem harmless_answerWith {ps : Parameters} {tool : String} {reply : Json → Option Output}
    (h : ∀ j output, reply j = some output → ∀ u ∈ output.files, u.status = .planned)
    (arguments : Json) : Harmless (answerWith ps tool reply) arguments := by
  intro d
  rw [answerWith]
  split
  · next f hf =>
    refine ⟨rfl, fun u hu => ?_⟩
    rw [updates, check_error hf] at hu
    cases hu
  · next j _ =>
    split
    · next output houtput => exact ⟨rfl, h j output houtput⟩
    · exact ⟨rfl, nofun⟩

theorem harmless_proposePlan (arguments : Json) : Harmless proposePlan.act arguments := by
  refine harmless_answerWith (fun j output h u hu => ?_) arguments
  obtain ⟨p, -, rfl⟩ := Option.map_eq_some_iff.mp h
  obtain ⟨f, -, rfl⟩ := List.mem_map.mp hu
  rfl

theorem harmless_askForClarification (arguments : Json) :
    Harmless askForClarification.act arguments := by
  refine harmless_answerWith (fun j output h u hu => ?_) arguments
  unfold clarification? at h
  split at h
  · cases h
    cases hu
  · cases h

theorem harmless_readFile (root : Workspace.Root) (arguments : Json) :
    Harmless (readFile root).act arguments := by
  intro d
  change (actRead root arguments d).1 = d ∧ ∀ u ∈ updates (actRead root arguments d).2, _
  rw [actRead]
  split
  · next f hf =>
    refine ⟨rfl, fun u hu => ?_⟩
    rw [updates, check_error hf] at hu
    cases hu
  · split <;> exact ⟨rfl, nofun⟩
  · exact ⟨rfl, nofun⟩

theorem harmless_listFiles (root : Workspace.Root) (arguments : Json) :
    Harmless (listFiles root).act arguments := by
  intro d
  change (actList root arguments d).1 = d ∧ ∀ u ∈ updates (actList root arguments d).2, _
  rw [actList]
  split <;> exact ⟨rfl, nofun⟩

/-- A call to write a file whose arguments are refused. -/
theorem harmless_writeFile (root : Workspace.Root) {arguments : Json}
    (hname : call.name = writeFileName) (harguments : readArguments call = .ok arguments)
    (h : request? call = none) : Harmless (writeFile root).act arguments := by
  intro d
  change (actWrite root arguments d).1 = d ∧ ∀ u ∈ updates (actWrite root arguments d).2, _
  rw [request?, if_pos hname, harguments] at h
  dsimp only at h
  rw [actWrite]
  split
  · next f hf =>
    refine ⟨rfl, fun u hu => ?_⟩
    rw [updates, check_error hf] at hu
    cases hu
  · next hcheck =>
    rw [hcheck] at h
    cases h
  · exact ⟨rfl, nofun⟩

/-- A call that is no request to write a file touches none. -/
theorem dispatch_of_none (hx : x.toolbox = .standard root) (h : request? call = none)
    (d : Files.Disk) :
    (x.dispatch call d).disk = d ∧
      ∀ u ∈ updates (x.dispatch call d).outcome, u.status = .planned := by
  rw [dispatch_disk, dispatch_outcome, Executor.perform]
  cases harguments : readArguments call with
  | error f =>
    refine ⟨rfl, fun u hu => ?_⟩
    rw [readArguments] at harguments
    split_ifs at harguments
    split at harguments <;> cases harguments
    cases hu
  | ok arguments =>
    dsimp only
    cases hfind : x.toolbox.find? call.name with
    | none => exact ⟨rfl, nofun⟩
    | some t =>
      -- Whichever standard tool it is, it waits for nothing and does no harm.
      have ht : t.delay arguments = .zero ∧ Harmless t.act arguments := by
        rw [hx, find?_standard] at hfind
        split_ifs at hfind with hlist hread hwrite hask hplan <;> cases hfind
        · exact ⟨rfl, harmless_listFiles root arguments⟩
        · exact ⟨rfl, harmless_readFile root arguments⟩
        · exact ⟨rfl, harmless_writeFile root hwrite.symm harguments h⟩
        · exact ⟨rfl, harmless_askForClarification arguments⟩
        · exact ⟨rfl, harmless_proposePlan arguments⟩
      obtain ⟨hdelay, hharmless⟩ := ht
      have hrun : (x.runTool t call.name arguments d).1 = (t.act arguments d).1 ∧
          (x.runTool t call.name arguments d).2.1 = (t.act arguments d).2 :=
        runTool_of_zero hdelay
      dsimp only
      rw [hrun.1, hrun.2]
      exact hharmless d

end Colloquy.Tool
