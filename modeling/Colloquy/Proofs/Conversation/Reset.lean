import Colloquy.Proofs.Conversation.Requests

/-!
# What a reset forgets

A conversation has a past that is only ever added to: the chat log so far, the files that have been
listed, the records of calls of tools and the time these have taken.  Nothing that happens later
depends on it (`Oblivious`), so whatever a conversation goes through, it goes through in the same
way with another past.

A reset leaves nothing of a conversation but its past and its surroundings (`reset_eq_withPast`).
`reset_erases` puts this together: after a reset, two conversations with the same surroundings go
the same way; and a prompt after an error does what it does after a reset.
-/

namespace Colloquy

/-! ### The past -/

/-- What a conversation has gathered and never looks at. -/
structure Past where
  chat : List Display.ChatEntry
  files : List Display.ProjectFile
  audits : List Tool.Audit
  worked : Duration

/-- The past when files have been listed and tools have been called. -/
def Past.grow (p : Past) (updates : List Display.ProjectFile) (audits : List Tool.Audit)
    (worked : Duration) : Past :=
  { p with
    files := updates.foldl (fun files u => Display.upsert u files) p.files
    audits := p.audits ++ audits
    worked := p.worked + worked }

theorem Past.grow_nil (p : Past) : p.grow [] [] .zero = p := by
  rw [grow, List.append_nil]
  rfl

theorem Past.grow_grow (p : Past) (u u' : List Display.ProjectFile) (a a' : List Tool.Audit)
    (w w' : Duration) : (p.grow u a w).grow u' a' w' = p.grow (u ++ u') (a ++ a') (w + w') := by
  have hworked : p.worked + w + w' = p.worked + (w + w') :=
    congrArg Duration.mk (Nat.add_assoc ..)
  simp only [grow, List.foldl_append, List.append_assoc, hworked]

namespace Conversation

open Provider (Backend Completion ToolCall)

variable {c c' : Conversation}

/-- The conversation with a past in front of what it has logged. -/
def withPast (c : Conversation) (p : Past) : Conversation :=
  { c with
    screen := { c.screen with chat := p.chat ++ c.screen.chat, files := p.files }
    audits := p.audits
    worked := p.worked }

/-- A step does not depend on the past: it adds to each past the same things. -/
def Oblivious (step : Conversation → Conversation) (c : Conversation) : Prop :=
  ∃ updates audits worked, ∀ p, step (c.withPast p) =
    (step c).withPast (p.grow updates audits worked)

theorem Oblivious.of_eq {step : Conversation → Conversation}
    (h : ∀ p, step (c.withPast p) = (step c).withPast p) : Oblivious step c :=
  ⟨[], [], .zero, fun p => by rw [Past.grow_nil, h]⟩

theorem Oblivious.comp {step step' : Conversation → Conversation} (h : Oblivious step c)
    (h' : Oblivious step' (step c)) : Oblivious (fun c => step' (step c)) c := by
  obtain ⟨u, a, w, h⟩ := h
  obtain ⟨u', a', w', h'⟩ := h'
  refine ⟨u ++ u', a ++ a', w + w', fun p => ?_⟩
  dsimp only
  rw [h, h', Past.grow_grow]

/-! ### Small changes -/

theorem withPast_say (c : Conversation) (p : Past) (sender : Display.Sender) (text : String) :
    (c.withPast p).say sender text = (c.say sender text).withPast p := by
  simp only [say, withPast, Display.Screen.post, List.append_assoc]

theorem withPast_fail (c : Conversation) (p : Past) (message : String) :
    (c.withPast p).fail message = (c.fail message).withPast p := by
  simp only [fail, post, say, enter, setStatus, setProcessing, withPast, Display.Screen.post,
    Display.Screen.setStatus, List.append_assoc]

theorem withPast_concluded (c : Conversation) (p : Past) (failures : List String) :
    (c.withPast p).concluded failures = (c.concluded failures).withPast p := by
  cases failures with
  | nil => rfl
  | cons f fs =>
    simp only [concluded, post, say, enter, setStatus, withPast, Display.Screen.post,
      Display.Screen.setStatus, List.append_assoc]

theorem withPast_heard (c : Conversation) (p : Past) (a : Completion) :
    (c.withPast p).heard a = (c.heard a).withPast p := by
  unfold heard
  split_ifs
  · rfl
  · exact withPast_say (c.remember (.assistant a.content)) p .ai a.content

theorem withPast_recover (c : Conversation) (p : Past) :
    (c.withPast p).recover = c.recover.withPast p := by
  by_cases h : c.state = .aiError
  · rw [recover, recover, if_pos h, if_pos (show (c.withPast p).state = .aiError from h)]
    exact withPast_say c.forget p .system recoveryNotice
  · rw [recover, recover, if_neg h, if_neg (show ¬ (c.withPast p).state = .aiError from h)]

theorem withPast_opened (c : Conversation) (p : Past) (text status : String) :
    (c.withPast p).opened text status = (c.opened text status).withPast p := by
  rw [opened, withPast_say]
  rfl

/-! ### Calls of tools -/

/-- The end of a call is shown alike behind each past. -/
theorem withPast_shown (c : Conversation) (e : Tool.Outcome) :
    ∃ updates, ∀ p, shown (c.withPast p).screen e =
      (({ c with screen := shown c.screen e } : Conversation).withPast
        (p.grow updates [] .zero)).screen := by
  cases e with
  | ok output =>
    refine ⟨output.files, fun p => ?_⟩
    simp only [shown, withPast, Past.grow, Display.Screen.postAll, Display.Screen.upsertFiles,
      List.append_assoc]
  | error f => exact ⟨f.files, fun p => rfl⟩

/-- A call of a tool sees nothing of the past. -/
theorem withPast_runCall (c : Conversation) (call : ToolCall) :
    ∃ updates audits worked, ∀ p, (c.withPast p).runCall call =
      ((c.runCall call).1.withPast (p.grow updates audits worked), (c.runCall call).2) := by
  let d := c.executor.dispatch call c.disk
  obtain ⟨updates, hshown⟩ := withPast_shown c d.outcome
  refine ⟨updates, [d.audit], d.elapsed, fun p => ?_⟩
  have hd : (c.withPast p).executor.dispatch call (c.withPast p).disk = d := rfl
  rw [runCall_eq, runCall_eq, hd, hshown]
  rfl

theorem withPast_runCalls (c : Conversation) (calls : List ToolCall) :
    ∃ updates audits worked, ∀ p, (c.withPast p).runCalls calls =
      ((c.runCalls calls).1.withPast (p.grow updates audits worked), (c.runCalls calls).2) := by
  induction calls generalizing c with
  | nil => exact ⟨[], [], .zero, fun p => by rw [Past.grow_nil]; rfl⟩
  | cons call rest ih =>
    obtain ⟨u, a, w, hcall⟩ := withPast_runCall c call
    obtain ⟨u', a', w', hrest⟩ := ih (c.runCall call).1
    refine ⟨u ++ u', a ++ a', w + w', fun p => ?_⟩
    simp only [runCalls, hcall, hrest, Past.grow_grow]

/-! ### Turns -/

theorem oblivious_process (c : Conversation) (answer : Completion) :
    Oblivious (process · answer) c := by
  by_cases ha : answer.isSuccess = true
  · have hprocess := fun c : Conversation => process_eq (c := c) ha
    by_cases hcalls : answer.toolCalls = []
    · refine .of_eq fun p => ?_
      rw [hprocess, hprocess, if_pos hcalls, if_pos hcalls, withPast_heard]
      rfl
    · obtain ⟨u, a, w, hrun⟩ := withPast_runCalls (c.heard answer) answer.toolCalls
      refine ⟨u, a, w, fun p => ?_⟩
      dsimp only
      rw [hprocess, hprocess, if_neg hcalls, if_neg hcalls, withPast_heard, hrun,
        withPast_concluded]
  · refine .of_eq fun p => ?_
    simp only [process, ha, Bool.not_false, if_true]
    exact withPast_fail c p answer.errorMessage

theorem oblivious_settle (c : Conversation) (answer : Except Registry.Error Completion) :
    Oblivious (settle · answer) c := by
  cases answer with
  | ok a =>
    obtain ⟨u, as, w, h⟩ := oblivious_process c a
    exact ⟨u, as, w, fun p => congrArg (setProcessing · false) (h p)⟩
  | error e => exact .of_eq fun p => congrArg (setProcessing · false) (withPast_fail c p e.message)

/-- The turn of a conversation in which the user's words have been taken. -/
def answered (c : Conversation) : Conversation :=
  (c.withRegistry (c.consult c.registry).1).settle (c.consult c.registry).2

theorem ask_eq_answered (c : Conversation) (text status : String) :
    c.ask text status = (c.opened text status).answered := ask_eq ..

theorem oblivious_answered (c : Conversation) : Oblivious answered c :=
  oblivious_settle (c.withRegistry (c.consult c.registry).1) (c.consult c.registry).2

theorem oblivious_speak (c : Conversation) (m : Manner) (text : String) :
    Oblivious (speak · m text) c := by
  obtain ⟨u, a, w, h⟩ := oblivious_answered (c.recover.opened text (m.status c.state))
  refine ⟨u, a, w, fun p => ?_⟩
  dsimp only
  rw [speak_eq, speak_eq, withPast_recover, ask_eq_answered, ask_eq_answered, withPast_opened]
  exact h p

/-! ### Commands -/

theorem oblivious_switch {α : Type} (c : Conversation) (change : Registry × Except Registry.Error α)
    (success : α → String) : Oblivious (switch · change success) c := by
  refine .of_eq fun p => ?_
  unfold switch
  dsimp only
  split
  · exact withPast_say (c.withRegistry change.1) p .system _
  · exact withPast_say (c.withRegistry change.1) p .system _

theorem oblivious_obey (c : Conversation) (command : Command) : Oblivious (obey · command) c := by
  cases command with
  | submit text => exact oblivious_speak c .submit text
  | prompt text => exact oblivious_speak c .prompt text
  | reset => exact .of_eq fun p => withPast_say (((c.forget.enter .idle).setProcessing
      false).setStatus Display.readyStatus) p .system "Conversation reset."
  | provider name => exact oblivious_switch c (c.registry.activate name) _
  | model id => exact oblivious_switch c (c.registry.setModel id) _
  | template id => exact oblivious_switch c (c.registry.setTemplate id) _
  | quit => exact .of_eq fun _ => rfl

theorem oblivious_obeyAll (c : Conversation) (commands : List Command) :
    Oblivious (obeyAll · commands) c := by
  induction commands generalizing c with
  | nil => exact .of_eq fun _ => rfl
  | cons command rest ih => exact (oblivious_obey c command).comp (ih (c.obey command))

/-! ### What providers get to see -/

/-- A command leads to the same calls of a provider behind each past. -/
theorem contacts_withPast (c : Conversation) (p : Past) (command : Command) :
    (c.withPast p).contacts command = c.contacts command := by
  cases h : command.words? with
  | none => rw [contacts, contacts, h, Option.elim_none, Option.elim_none]
  | some text =>
    rw [contacts, contacts, h, Option.elim_some, Option.elim_some, withPast_recover]
    rfl

/-- The backends after all calls that some commands lead to. -/
def contactsAll (c : Conversation) : List Command → List Backend
  | [] => []
  | command :: rest => c.contacts command ++ (c.obey command).contactsAll rest

theorem contactsAll_withPast (c : Conversation) (p : Past) (commands : List Command) :
    (c.withPast p).contactsAll commands = c.contactsAll commands := by
  induction commands generalizing c p with
  | nil => rfl
  | cons command rest ih =>
    obtain ⟨u, a, w, h⟩ := oblivious_obey c command
    dsimp only at h
    rw [contactsAll, contactsAll, contacts_withPast, h, ih]

/-! ### Resets -/

/-- A new conversation with the surroundings of another one, whose chat log is empty. -/
def renewed (c : Conversation) : Conversation :=
  { fresh c.registry c.disk c.executor c.history.systemPrompt c.attachment c.focus with
    screen := { Display.Screen.start with chat := [] } }

/-- A reset leaves a new conversation behind the past of the old one. -/
theorem reset_eq_withPast (c : Conversation) :
    c.reset = c.renewed.withPast ⟨c.reset.screen.chat, c.screen.files, c.audits, c.worked⟩ := by
  have hchat : c.reset.screen.chat = c.reset.screen.chat ++ [] := (List.append_nil _).symm
  exact congrArg (fun chat => { c.reset with screen := { c.reset.screen with chat } }) hchat

/-- After an error, with a reset or without, a prompt does what it does in a new conversation. -/
theorem prompt_eq_withPast (hstate : c.state = .aiError) (text : String) :
    ∃ updates audits worked,
      c.prompt text = (c.renewed.prompt text).withPast
        (Past.grow ⟨c.screen.chat ++ [⟨.system, recoveryNotice⟩], c.screen.files, c.audits,
          c.worked⟩ updates audits worked) ∧
      c.reset.prompt text = (c.renewed.prompt text).withPast
        (Past.grow ⟨c.reset.screen.chat, c.screen.files, c.audits, c.worked⟩
          updates audits worked) := by
  let status := "AI is processing your request..."
  obtain ⟨u, a, w, h⟩ := oblivious_answered (c.renewed.opened text status)
  have hnew : c.renewed.prompt text = (c.renewed.opened text status).answered := rfl
  have herror : c.recover.opened text status = (c.renewed.opened text status).withPast
      ⟨c.screen.chat ++ [⟨.system, recoveryNotice⟩], c.screen.files, c.audits, c.worked⟩ := by
    rw [recover, if_pos hstate]
    rfl
  have hreset : c.reset.prompt text = (c.reset.opened text status).answered := rfl
  refine ⟨u, a, w, ?_, ?_⟩
  · rw [prompt, ask_eq_answered, herror, h, hnew]
  · rw [hreset, reset_eq_withPast, withPast_opened, h, hnew, ← reset_eq_withPast]

/-- After an error the provider is sent what it is sent after a reset. -/
theorem contacts_reset (hstate : c.state = .aiError) (text : String) :
    c.reset.contacts (.prompt text) = c.contacts (.prompt text) := by
  have hreset : c.reset.recover = c.reset := rfl
  rw [contacts, contacts, hreset, recover, if_pos hstate]
  rfl

/-- What two conversations have in common that differ in what they have been through. -/
structure SameSurroundings (c c' : Conversation) : Prop where
  systemPrompt : c'.history.systemPrompt = c.history.systemPrompt
  registry : c'.registry = c.registry
  disk : c'.disk = c.disk
  executor : c'.executor = c.executor
  attachment : c'.attachment = c.attachment
  focus : c'.focus = c.focus

theorem SameSurroundings.renewed_eq (h : SameSurroundings c c') : c'.renewed = c.renewed := by
  rw [renewed, h.systemPrompt, h.registry, h.disk, h.executor, h.attachment, h.focus]
  rfl

/-- **A reset erases the past.**

* If two conversations have the same surroundings, then after a reset they go the same way: the same
  commands lead to the same state, history and files, to the same calls of providers, with the same
  messages, and to the same new entries of the chat log.
* A prompt after an error does what it does after an error and a reset.  Only one entry of the chat
  log tells the two apart. -/
theorem reset_erases :
    (∀ (c c' : Conversation) (commands : List Command), SameSurroundings c c' →
      let r := c.reset.obeyAll commands
      let r' := c'.reset.obeyAll commands
      r.state = r'.state ∧ r.history = r'.history ∧
      c.reset.contactsAll commands = c'.reset.contactsAll commands ∧
      r.registry = r'.registry ∧ r.disk = r'.disk ∧
      ∃ new, r.screen.chat = c.reset.screen.chat ++ new ∧
        r'.screen.chat = c'.reset.screen.chat ++ new) ∧
    (∀ (c : Conversation) (text : String), c.state = .aiError →
      let r := c.prompt text
      let r' := c.reset.prompt text
      r.state = r'.state ∧ r.history = r'.history ∧
      c.contacts (.prompt text) = c.reset.contacts (.prompt text) ∧
      r.screen.files = r'.screen.files ∧ r.screen.status = r'.screen.status ∧
      r.registry = r'.registry ∧ r.disk = r'.disk ∧
      ∃ new, r.screen.chat = c.screen.chat ++ ⟨.system, recoveryNotice⟩ :: new ∧
        r'.screen.chat = c.screen.chat ++ ⟨.system, "Conversation reset."⟩ :: new) := by
  constructor
  · intro c c' commands hsame r r'
    -- Both resets are the same renewed conversation with some past, and no command looks at it.
    obtain ⟨u, a, w, hrun⟩ := oblivious_obeyAll c.renewed commands
    obtain ⟨p, hp, hchat⟩ : ∃ p : Past, c.reset = c.renewed.withPast p ∧
      c.reset.screen.chat = p.chat := ⟨_, reset_eq_withPast c, rfl⟩
    obtain ⟨p', hp', hchat'⟩ : ∃ p' : Past, c'.reset = c.renewed.withPast p' ∧
      c'.reset.screen.chat = p'.chat := ⟨_, hsame.renewed_eq ▸ reset_eq_withPast c', rfl⟩
    have hr : r = (c.renewed.obeyAll commands).withPast (p.grow u a w) := by
      rw [← hrun, ← hp]
    have hr' : r' = (c.renewed.obeyAll commands).withPast (p'.grow u a w) := by
      rw [← hrun, ← hp']
    rw [hr, hr', hp, hp', contactsAll_withPast, contactsAll_withPast]
    exact ⟨rfl, rfl, rfl, rfl, rfl, (c.renewed.obeyAll commands).screen.chat, by
      rw [← hp, hchat]; rfl, by rw [← hp', hchat']; rfl⟩
  · intro c text hstate r r'
    obtain ⟨u, a, w, hr, hr'⟩ := prompt_eq_withPast hstate text
    rw [show r = _ from hr, show r' = _ from hr', contacts_reset hstate]
    exact ⟨rfl, rfl, rfl, rfl, rfl, rfl, rfl, (c.renewed.prompt text).screen.chat,
      (List.append_cons ..).symm, (List.append_cons ..).symm⟩

/-- A new conversation whose only provider is not active yet. -/
def unprovided : Conversation :=
  fresh (.after true .empty (fun _ => 0.5)
      [.addBackend (Backend.named "mock"), .register "mock" (.shared 0)])
    .empty ⟨Tool.Toolbox.empty, 5⟩ "You are helpful." none {}

/-- A prompt that no provider was active for is forgotten when a provider is. -/
theorem unprovided_erases :
    let c := unprovided.prompt "Hi"
    let commands := [Command.provider "mock", .prompt "Hello", .submit "Thanks"]
    SameSurroundings c unprovided ∧ c.history ≠ unprovided.history ∧ c.state = .aiError ∧
    (c.reset.obeyAll commands).history = (unprovided.reset.obeyAll commands).history ∧
    (c.reset.obeyAll commands).history.length = 5 ∧
    (c.reset.contactsAll commands).length = 2 ∧
    (c.prompt "Hello").history = (c.reset.prompt "Hello").history := by
  intro c commands
  obtain ⟨herases, hrecovers⟩ := reset_erases
  have hsame : SameSurroundings c unprovided := ⟨rfl, rfl, rfl, rfl, rfl, rfl⟩
  have hstate : c.state = .aiError := rfl
  have hlength : (c.reset.obeyAll commands).history.length = 5 := by decide +kernel
  have hcalls : (c.reset.contactsAll commands).length = 2 := by decide +kernel
  exact ⟨hsame, by decide, hstate, (herases c unprovided commands hsame).2.1, hlength, hcalls,
    (hrecovers c "Hello" hstate).2.1⟩

end Conversation

end Colloquy
