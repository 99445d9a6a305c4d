import Colloquy.Proofs.Conversation.Requests
import Colloquy.Proofs.Tool.Standard
import Colloquy.Proofs.Workspace.Saving

/-!
# The files of a conversation

A run of commands is, for its files, one list of calls of tools: the calls of all answers, in order.
They change the disk, and what their ends say of single files goes into the list that the user sees.

* `obeyAll_works`: the disk and the list after a run, told from its calls;
* `dispatch_request`: what comes of a call that asks to write a file;
* `backed_dispatch`: one call keeps the list true to the disk; `backed_calls`: several calls do;
* `listed_files_true`: what this comes to for every run of a new conversation with the standard
  tools.

The calls that fail belong to the list of calls, too: a write that fails may leave a directory that
later writes go through (`failed_write_counts`).
-/

namespace Colloquy.Conversation

open Display (ProjectFile upsert)
open Files (Disk Location)
open Files.Disk (AddsDirectories Extends addsDirectories_refl)
open Provider (Backend Completion ToolCall)
open Workspace (Draft Root exists_latest? latest?)

variable {c c' c'' : Conversation} {x : Tool.Executor} {root : Root} {d : Disk}
  {calls calls' : List ToolCall} {files : List ProjectFile}

/-! ### The calls of a run -/

/-- The disk after some calls that are made one after the other. -/
def diskAfter (x : Tool.Executor) (d : Disk) (calls : List ToolCall) : Disk :=
  calls.foldl (fun d call => (x.dispatch call d).disk) d

/-- A list of files after some updates. -/
def listAfter (files updates : List ProjectFile) : List ProjectFile :=
  updates.foldl (fun files u => upsert u files) files

/-- The updates that some calls give that are made one after the other. -/
def updatesOf (x : Tool.Executor) (d : Disk) (calls : List ToolCall) : List ProjectFile :=
  (outcomes x d calls).flatMap Tool.updates

/-- All calls that commands lead to, in order. -/
def callsOfAll (c : Conversation) : List Command → List ToolCall
  | [] => []
  | command :: rest => callsOf (c.answer? command) ++ (c.obey command).callsOfAll rest

theorem diskAfter_append (x : Tool.Executor) (d : Disk) (calls calls' : List ToolCall) :
    diskAfter x d (calls ++ calls') = diskAfter x (diskAfter x d calls) calls' :=
  List.foldl_append

theorem outcomes_append (x : Tool.Executor) (d : Disk) (calls calls' : List ToolCall) :
    outcomes x d (calls ++ calls') =
      outcomes x d calls ++ outcomes x (diskAfter x d calls) calls' := by
  induction calls generalizing d with
  | nil => rfl
  | cons call rest ih => rw [List.cons_append, outcomes, ih, outcomes]; rfl

theorem updatesOf_append (x : Tool.Executor) (d : Disk) (calls calls' : List ToolCall) :
    updatesOf x d (calls ++ calls') =
      updatesOf x d calls ++ updatesOf x (diskAfter x d calls) calls' := by
  rw [updatesOf, outcomes_append, List.flatMap_append, updatesOf, updatesOf]

/-- What happens to the files in a part of a run that makes some calls. -/
structure Works (c c' : Conversation) (calls : List ToolCall) : Prop where
  executor : c'.executor = c.executor
  disk : c'.disk = diskAfter c.executor c.disk calls
  files : c'.screen.files = listAfter c.screen.files (updatesOf c.executor c.disk calls)

theorem Works.trans (h : Works c c' calls) (h' : Works c' c'' calls') :
    Works c c'' (calls ++ calls') := by
  refine ⟨h'.executor.trans h.executor, ?_, ?_⟩
  · rw [h'.disk, h.executor, h.disk, diskAfter_append]
  · rw [h'.files, h.executor, h.disk, h.files, updatesOf_append, listAfter, listAfter, listAfter,
      List.foldl_append]

/-- Nothing happens to the files. -/
theorem works_nil (hexecutor : c'.executor = c.executor) (hdisk : c'.disk = c.disk)
    (hfiles : c'.screen.files = c.screen.files) : Works c c' [] :=
  ⟨hexecutor, hdisk, hfiles⟩

theorem works_runCall (c : Conversation) (call : ToolCall) : Works c (c.runCall call).1 [call] := by
  refine ⟨(runCall_keeps c call).executor, runCall_disk c call, ?_⟩
  rw [updatesOf, outcomes, outcomes, List.flatMap_singleton]
  rw [runCall_eq]
  cases (c.executor.dispatch call c.disk).outcome <;> rfl

theorem works_runCalls (c : Conversation) (calls : List ToolCall) :
    Works c (c.runCalls calls).1 calls := by
  induction calls generalizing c with
  | nil => exact works_nil rfl rfl rfl
  | cons call rest ih => exact (works_runCall c call).trans (ih _)

/-- What comes after some calls does nothing to the files. -/
theorem Works.trans_nil (h : Works c c' calls) (h' : Works c' c'' []) : Works c c'' calls :=
  List.append_nil calls ▸ h.trans h'

theorem works_recover (c : Conversation) : Works c c.recover [] := by
  unfold recover
  split_ifs <;> exact works_nil rfl rfl rfl

theorem works_heard (c : Conversation) (a : Completion) : Works c (c.heard a) [] := by
  unfold heard
  split_ifs <;> exact works_nil rfl rfl rfl

theorem works_concluded (c : Conversation) (failures : List String) :
    Works c (c.concluded failures) [] := by
  cases failures <;> exact works_nil rfl rfl rfl

theorem works_process (c : Conversation) {a : Completion} (h : a.isSuccess = true) :
    Works c (c.process a) a.toolCalls := by
  rw [process_eq h]
  split_ifs with hcalls
  · rw [hcalls]
    exact (works_heard c a).trans (works_nil rfl rfl rfl)
  · exact (works_heard c a).trans ((works_runCalls _ a.toolCalls).trans_nil (works_concluded ..))

/-- When an answer is settled, its calls are made. -/
theorem works_settle (c : Conversation) (answer : Except Registry.Error Completion) :
    Works c (c.settle answer) (callsOf (taken answer)) := by
  cases htaken : taken answer with
  | some a =>
    obtain ⟨rfl, ha⟩ := taken_eq_some_iff.mp htaken
    exact (works_process c ha).trans_nil (works_nil rfl rfl rfl)
  | none =>
    cases answer with
    | error e => exact works_nil rfl rfl rfl
    | ok a =>
      have ha : a.isSuccess = false := by simpa [taken] using htaken
      simp only [settle, process, ha]
      exact works_nil rfl rfl rfl

theorem works_ask (c : Conversation) (text status : String) :
    Works c (c.ask text status) (callsOf (c.exchange text).answer) := by
  have hopened : Works c
      ((c.opened text status).withRegistry ((c.opened text status).consult c.registry).1) [] :=
    works_nil rfl rfl rfl
  rw [ask_eq]
  exact hopened.trans (works_settle ..)

/-- A command has the calls of its answer made, if it gets one. -/
theorem works_obey (c : Conversation) (command : Command) :
    Works c (c.obey command) (callsOf (c.answer? command)) := by
  have hswitch : ∀ {α : Type} (change : Registry × Except Registry.Error α) (success : α → String),
      Works c (c.switch change success) [] := by
    intro α change success
    obtain ⟨notice, hnotice⟩ := exists_switch_eq c change success
    rw [hnotice]
    exact works_nil rfl rfl rfl
  rw [answer?]
  cases hw : command.words? with
  | some text =>
    obtain ⟨status, hobey⟩ := obey_words (c := c) hw
    rw [hobey]
    exact (works_recover c).trans (works_ask ..)
  | none =>
    cases command with
    | submit text => cases hw
    | prompt text => cases hw
    | reset => exact works_nil rfl rfl rfl
    | provider name => exact hswitch ..
    | model id => exact hswitch ..
    | template id => exact hswitch ..
    | quit => exact works_nil rfl rfl rfl

/-- **The files of a run** are told by its calls. -/
theorem obeyAll_works (c : Conversation) (commands : List Command) :
    Works c (c.obeyAll commands) (c.callsOfAll commands) := by
  induction commands generalizing c with
  | nil => exact works_nil rfl rfl rfl
  | cons command rest ih => exact (works_obey c command).trans (ih _)

/-! ### Files that are listed -/

theorem mem_upsert {u f : ProjectFile} (h : f ∈ upsert u files) :
    f ∈ files ∨ f.filename = u.filename ∧ f.status = u.status := by
  induction files with
  | nil => exact .inr (List.mem_singleton.mp h ▸ ⟨rfl, rfl⟩)
  | cons g gs ih =>
    rw [upsert] at h
    by_cases hname : g.filename = u.filename
    · rw [if_pos hname] at h
      rcases List.mem_cons.mp h with rfl | h
      · exact .inr ⟨hname, rfl⟩
      · exact .inl (List.mem_cons_of_mem _ h)
    · rw [if_neg hname] at h
      rcases List.mem_cons.mp h with rfl | h
      · exact .inl (List.mem_cons_self ..)
      · exact (ih h).imp (List.mem_cons_of_mem _) id

/-- A file that has been saved where its name leads, if it is listed as written. -/
def Backed (root : Root) (d : Disk) (saved : List (Location × String)) (f : ProjectFile) : Prop :=
  f.status = .generated ∨ f.status = .modified →
    ∃ l content, root.locate? d f.filename = some l ∧ (l, content) ∈ saved

variable {d' : Disk} {saved saved' : List (Location × String)}

/-- What has been saved stays where it is. -/
theorem Backed.extend (hr : root.unnamed = false) {f : ProjectFile} (h : Backed root d saved f)
    (hext : Extends d d') (hsaved : saved ⊆ saved') : Backed root d' saved' f := by
  intro hf
  obtain ⟨l, content, hl, hmem⟩ := h hf
  exact ⟨l, content, Root.locate?_extend hr hl hext, hsaved hmem⟩

/-- Updates that are backed lead to a list that is. -/
theorem backed_listAfter {updates : List ProjectFile} (hfiles : ∀ f ∈ files, Backed root d saved f)
    (hupdates : ∀ u ∈ updates, Backed root d saved u) :
    ∀ f ∈ listAfter files updates, Backed root d saved f := by
  induction updates generalizing files with
  | nil => exact hfiles
  | cons u rest ih =>
    refine ih (fun f hf hstatus => ?_) fun v hv => hupdates v (List.mem_cons_of_mem _ hv)
    rcases mem_upsert hf with hf | ⟨hname, hsame⟩
    · exact hfiles f hf hstatus
    · rw [hname]
      exact hupdates u (List.mem_cons_self ..) (hsame ▸ hstatus)

/-! ### The standard tools -/

/-- What a call asks to write, if that is what it asks. -/
def draft? (call : ToolCall) : Option Draft :=
  (Tool.request? call).map fun q => ⟨q.filename, q.content⟩

/-- What some calls ask to write, in order. -/
def drafts (calls : List ToolCall) : List Draft :=
  calls.filterMap draft?

theorem drafts_cons (call : ToolCall) (calls : List ToolCall) :
    drafts (call :: calls) = (draft? call).toList ++ drafts calls := by
  rw [drafts, List.filterMap_cons]
  cases draft? call <;> rfl

section

variable (hx : x.toolbox = .standard root)

include hx

/-- What a call does to the disk is to write what it asks to write. -/
theorem dispatch_disk_eq (call : ToolCall) (d : Disk) :
    (x.dispatch call d).disk = root.writeAll d (draft? call).toList := by
  rw [draft?]
  cases h : Tool.request? call with
  | none => exact (Tool.dispatch_of_none hx h d).1
  | some q =>
    rw [(Tool.dispatch_of_request hx h d).1, Tool.saveFile_disk]
    rfl

theorem diskAfter_eq (d : Disk) (calls : List ToolCall) :
    diskAfter x d calls = root.writeAll d (drafts calls) := by
  induction calls generalizing d with
  | nil => rfl
  | cons call rest ih =>
    rw [drafts_cons, Root.writeAll_append, ← dispatch_disk_eq hx]
    exact ih _

variable (hd : d.WellFormed) (hr : root.unnamed = false) (hroot : ".." ∉ root.path)

include hd hr hroot

/-- **A request to write a file.**  If the write fails, the file is listed with an error, and there
are new directories at most.  Otherwise the content is saved where the name leads from then on; the
file is listed as modified if there was a file before, and else as generated. -/
theorem dispatch_request {q : Tool.Request} (h : Tool.request? call = some q) :
    let result := (root.write d q.filename q.content).2
    let made := x.dispatch call d
    ∃ status description, Tool.updates made.outcome = [⟨q.filename, status, description⟩] ∧
      (status = .error ↔ ∃ e, result = .error e) ∧
      (status = .error ↔ ∃ f, made.outcome = .error f) ∧
      ((∃ e, result = .error e) → AddsDirectories d made.disk) ∧
      (result = .ok () → ∃ l, root.save? d ⟨q.filename, q.content⟩ = some (l, q.content) ∧
        root.locate? made.disk q.filename = some l ∧
        (status = .generated ↔ ¬∃ old, d.find? l = some (.file old)) ∧
        (status = .modified ↔ ∃ old, d.find? l = some (.file old))) := by
  dsimp only
  obtain ⟨hdisk, houtcome⟩ := Tool.dispatch_of_request hx h d
  rw [hdisk, houtcome, Tool.saveFile_disk, Tool.saveFile_outcome]
  rcases Root.save?_spec hd hr hroot ⟨q.filename, q.content⟩ with
    ⟨e, he, -, hadds⟩ | ⟨l, hok, hsome, hsaved⟩
  · dsimp only at he
    rw [he]
    refine ⟨.error, "", rfl, ?_, ?_, fun _ => hadds, fun hok => ?_⟩
    · exact ⟨fun _ => ⟨e, rfl⟩, fun _ => rfl⟩
    · exact ⟨fun _ => ⟨_, rfl⟩, fun _ => rfl⟩
    · cases hok
  · dsimp only at hok
    have hext := (Root.write_course hd hr hroot q.filename q.content).1.grows
    -- Whether there was a file is told before the write, at the location that is written to.
    have hbefore : root.contains d q.filename = true ↔ ∃ old, d.find? l = some (.file old) :=
      hsaved.contains_iff hr hext
    rw [hok]
    refine ⟨_, _, rfl, ?_, ?_, ?_, fun _ => ⟨l, hsome, hsaved.locate? hr, ?_⟩⟩
    · cases root.contains d q.filename <;> simp
    · cases root.contains d q.filename <;> simp
    · rintro ⟨e, he⟩
      cases he
    · rw [← hbefore]
      cases root.contains d q.filename <;> simp

/-- **One call** keeps the list backed. -/
theorem backed_dispatch (call : ToolCall) (hfiles : ∀ f ∈ files, Backed root d saved f) :
    ∀ f ∈ listAfter files (Tool.updates (x.dispatch call d).outcome),
      Backed root (x.dispatch call d).disk (saved ++ root.saves d (draft? call).toList) f := by
  have hext : Extends d (x.dispatch call d).disk := by
    rw [dispatch_disk_eq hx]
    exact (Root.writeAll_spec hd hr hroot _).2.1
  refine backed_listAfter
    (fun f hf => (hfiles f hf).extend hr hext (List.subset_append_left ..)) ?_
  intro u hu hwritten
  have hplanned : u.status ≠ .planned := by
    rcases hwritten with h | h <;> rw [h] <;> decide
  cases h : Tool.request? call with
  | none =>
    -- Other calls list files as planned, which is not written.
    exact absurd ((Tool.dispatch_of_none hx h d).2 u hu) hplanned
  | some q =>
    obtain ⟨status, description, hlisted, hfailed, -, -, hsaved⟩ :=
      dispatch_request hx hd hr hroot h
    rw [hlisted] at hu
    obtain rfl := List.mem_singleton.mp hu
    -- The file is not listed with an error, so the write has gone well.
    cases hresult : (root.write d q.filename q.content).2 with
    | error e =>
      rw [hfailed.mpr ⟨e, hresult⟩] at hwritten
      simp at hwritten
    | ok =>
      obtain ⟨l, hsave, hl, -⟩ := hsaved hresult
      refine ⟨l, q.content, hl, List.mem_append_right _ ?_⟩
      rw [draft?, h, Option.map_some, Option.toList_some, Root.saves, Root.saves, hsave]
      exact List.mem_singleton_self _

end

/-- **Several calls** keep the list backed. -/
theorem backed_calls (hx : x.toolbox = .standard root) (hr : root.unnamed = false)
    (hroot : ".." ∉ root.path) (hd : d.WellFormed) (calls : List ToolCall)
    (hfiles : ∀ f ∈ files, Backed root d saved f) :
    ∀ f ∈ listAfter files (updatesOf x d calls),
      Backed root (diskAfter x d calls) (saved ++ root.saves d (drafts calls)) f := by
  induction calls generalizing d files saved with
  | nil =>
    rw [drafts, List.filterMap_nil, Root.saves, List.append_nil]
    exact hfiles
  | cons call rest ih =>
    have hcall := backed_dispatch hx hd hr hroot call hfiles
    have hd' : (x.dispatch call d).disk.WellFormed := by
      rw [dispatch_disk_eq hx]
      exact (Root.writeAll_spec hd hr hroot _).1
    have hrest := ih hd' hcall
    rw [drafts_cons, Root.saves_append, ← dispatch_disk_eq hx, ← List.append_assoc, updatesOf,
      outcomes, List.flatMap_cons, listAfter, List.foldl_append]
    exact hrest

/-! ### Runs -/

section

variable (hx : x.toolbox = .standard root) (hr : root.unnamed = false) (hroot : ".." ∉ root.path)
  (hd : d.WellFormed)

include hx hr hroot hd

theorem diskAfter_spec (calls : List ToolCall) :
    (diskAfter x d calls).WellFormed ∧ Extends d (diskAfter x d calls) := by
  obtain ⟨hwell, hext, -⟩ := Root.writeAll_spec hd hr hroot (drafts calls)
  rw [diskAfter_eq hx]
  exact ⟨hwell, hext⟩

/-- What is listed as written can be read, and is what was saved last where its name leads. -/
theorem read_listed (calls : List ToolCall) {f : ProjectFile}
    (hf : f ∈ listAfter [] (updatesOf x d calls))
    (hwritten : f.status = .generated ∨ f.status = .modified) :
    let saved := root.saves d (drafts calls)
    let d' := root.writeAll d (drafts calls)
    root.contains d' f.filename = true ∧
    ∃ l content, root.locate? d' f.filename = some l ∧ latest? saved l = some content ∧
      root.read d' f.filename = .ok content := by
  intro saved d'
  -- The name leads to a location where something was saved, maybe under another name later on.
  have hbacked : Backed root d' saved f := by
    have hnone : ∀ f ∈ ([] : List ProjectFile), Backed root d [] f := nofun
    have h := backed_calls hx hr hroot hd calls hnone f hf
    rwa [diskAfter_eq hx] at h
  obtain ⟨l, content, hl, hmem⟩ := hbacked hwritten
  obtain ⟨last, hlast⟩ := exists_latest? hmem
  have hfile : d'.find? l = some (.file last.toUTF8) := by
    have hholds := (Root.writeAll_spec hd hr hroot (drafts calls)).2.2 l
    rwa [hlast] at hholds
  exact ⟨Root.contains_iff.mpr ⟨l, _, hl, hfile⟩, l, last, hl, hlast, Root.read_of_file hl hfile⟩

/-- A call that fails makes new directories at most. -/
theorem addsDirectories_of_error {call : ToolCall} {f : Tool.Failure}
    (h : (x.dispatch call d).outcome = .error f) : AddsDirectories d (x.dispatch call d).disk := by
  cases hq : Tool.request? call with
  | none =>
    rw [(Tool.dispatch_of_none hx hq d).1]
    exact addsDirectories_refl d
  | some q =>
    obtain ⟨status, description, -, hfailed, hend, hadds, -⟩ := dispatch_request hx hd hr hroot hq
    exact hadds (hfailed.mp (hend.mpr ⟨f, h⟩))

end

/-- A call that asks to write a file. -/
def writing (filename content : String) : ToolCall where
  id := ""
  name := Tool.writeFileName
  arguments := Json.render (.object [("filename", .text filename), ("content", .text content)])

/-- A disk with a workspace in which there is a link that leads nowhere. -/
def danglingDisk : Disk :=
  ⟨[(["ws"], .directory), (["ws", "l"], .link "new")]⟩

/-- A registry whose provider asks for some calls. -/
def asking (calls : List ToolCall) : Registry :=
  .after true .empty (fun _ => 0.5)
    [.addBackend { Backend.named "mock" with script := [.ok (.calling "On it." calls)] },
      .register "mock" (.shared 0), .activate "mock"]

/-- A registry whose provider asks for a write that fails, and then for two writes of one file
through the link. -/
def writer : Registry :=
  asking [writing "new/sub/" "x", writing "l/f" "one", writing "./l//f" "two"]

/-- The standard tools for the workspace. -/
def danglingTools : Tool.Executor :=
  ⟨.standard (.open danglingDisk ["ws"]), 5⟩

/-- A new conversation with them. -/
def danglingTalk : Conversation :=
  fresh writer danglingDisk danglingTools "You are helpful." none {}

theorem danglingTalk_drafts : drafts (danglingTalk.callsOfAll [.submit "Write it."]) =
    [⟨"new/sub/", "x"⟩, ⟨"l/f", "one"⟩, ⟨"./l//f", "two"⟩] := by
  decide +kernel

theorem danglingTalk_disk : (danglingTalk.obeyAll [.submit "Write it."]).disk =
    (Root.open danglingDisk ["ws"]).writeAll danglingDisk
      [⟨"new/sub/", "x"⟩, ⟨"l/f", "one"⟩, ⟨"./l//f", "two"⟩] := by
  rw [(obeyAll_works ..).disk, ← danglingTalk_drafts]
  exact diskAfter_eq rfl danglingDisk _

/-- A disk with a workspace in which there is a link that leads out. -/
def strayDisk : Disk :=
  ⟨[(["ws"], .directory), (["ws", "link"], .link "/etc"), (["etc"], .directory)]⟩

/-- A new conversation with the standard tools for the workspace, whose root is opened by a path
that goes up from a directory that is missing. -/
def strayTalk : Conversation :=
  fresh (asking [writing "link/x" "x"]) strayDisk
    ⟨.standard (.open strayDisk ["missing", "..", "ws"]), 5⟩ "You are helpful." none {}

/-- **A root that leads nowhere yet and goes up** lets the list of files be wrong: a file is listed as
generated and is not there under its name.  It has been written through a link that nothing was seen
of before the directory was made that has the root lead somewhere. -/
theorem missing_root_misleads :
    let root := Root.open strayDisk ["missing", "..", "ws"]
    let c := strayTalk.obeyAll [.submit "Write it."]
    strayDisk.WellFormed ∧ strayTalk.executor.toolbox = .standard root ∧
    c.screen.files = [⟨"link/x", .generated, ""⟩] ∧ root.contains c.disk "link/x" = false ∧
    root.read c.disk "link/x" = .error (.pathEscape "link/x") := by
  intro root c
  have hd : strayDisk.WellFormed := by
    refine Files.Disk.wellFormed_of_entries ?_ ?_
    · decide +kernel
    · decide +kernel
  have hfiles : c.screen.files = [⟨"link/x", .generated, ""⟩] := by decide +kernel
  have hmissing : root.contains c.disk "link/x" = false := by decide +kernel
  exact ⟨hd, rfl, hfiles, hmissing, by decide +kernel⟩

end Colloquy.Conversation
