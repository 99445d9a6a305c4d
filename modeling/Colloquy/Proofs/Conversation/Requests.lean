import Colloquy.Proofs.Conversation.Grammar
import Colloquy.Proofs.Registry.Representation
import Colloquy.Tool.Scripted

/-!
# What a provider gets to see

Whenever the user speaks, the active provider is sent the messages of the history, and sent them
again with each retry.  `Conversation.contacts` are the backends as these calls leave them, so what
a backend notes of its last request says what each call has sent.

* `Registry.contacts_spec`: all calls of a request send the same messages and the same tools, and
  the last one leaves the active backend as it is then;
* `obey_other`: a command without words of the user changes the history by a reset at most;
* `ask_history_of_ne_aiError`: a turn that goes well adds the answer and the outputs of its tools;
* `consecutive_requests`: what is sent in a turn continues what was sent in the turn before, until
  the conversation starts afresh.
-/

namespace Colloquy

open Provider (Backend Completion ToolCall ToolDefinition)

/-! ### Requests to a registry -/

namespace Registry

variable {r : Registry}

/-- The active backend after each of the calls that a request for a completion makes.  Without an
active provider there are none. -/
def contacts (r : Registry) (messages : List Message) (tools : List ToolDefinition) :
    List Backend :=
  match r.active? with
  | .error _ => []
  | .ok a => Retry.visited (a.policy.effective r.retriesEnabled) r.draws
      (Backend.complete messages tools) (r.backend a.backend)

/-- A backend notes what it was asked. -/
theorem noted_complete (messages : List Message) (tools : List ToolDefinition) (b : Backend) :
    (b.complete messages tools).2.lastMessages = messages ∧
      (b.complete messages tools).2.lastTools = tools.map ToolDefinition.name := by
  unfold Backend.complete
  dsimp only
  split <;> exact ⟨rfl, rfl⟩

theorem contacts_ne_nil_iff (messages : List Message) (tools : List ToolDefinition) :
    r.contacts messages tools ≠ [] ↔ ∃ a, r.active? = .ok a := by
  rw [contacts]
  cases h : r.active? with
  | error e => simp
  | ok a =>
    refine ⟨fun _ => ⟨a, rfl⟩, fun _ hnil => ?_⟩
    have hlength := (Retry.visited_spec (a.policy.effective r.retriesEnabled) r.draws
      (Backend.complete messages tools) (r.backend a.backend)).1
    rw [show Retry.visited _ _ _ _ = [] from hnil] at hlength
    cases hlength

/-- After a request the backend of the active provider is as the run has left it. -/
theorem activeBackend?_complete {a : Active} (h : r.active? = .ok a)
    (hthere : a.backend < r.backends.length) (messages : List Message)
    (tools : List ToolDefinition) :
    (r.complete messages tools).1.activeBackend? =
      .ok (Retry.execute (a.policy.effective r.retriesEnabled) r.draws
        (Backend.complete messages tools) (r.backend a.backend)).state := by
  obtain ⟨key, e, hkey, he, hid⟩ := exists_of_active? h
  have hget := (backend_setBackend r a.backend a.backend
    (Retry.execute (a.policy.effective r.retriesEnabled) r.draws
      (Backend.complete messages tools) (r.backend a.backend)).state).trans
        (if_pos ⟨rfl, hthere⟩)
  rw [complete_eq_call h, activeBackend?, active?]
  simp only [call, setBackend, hkey, Option.bind_some, he, hid, Except.map]
  exact congrArg Except.ok hget

/-- All calls of a request send the same messages and the same tools.  There is one more of them
than retries are announced, and the last one leaves the active backend as it is from then on. -/
theorem contacts_spec (hr : r.Sound) (messages : List Message) (tools : List ToolDefinition) :
    (∀ b ∈ r.contacts messages tools,
      b.lastMessages = messages ∧ b.lastTools = tools.map ToolDefinition.name) ∧
    ((∃ a, r.active? = .ok a) →
      (r.complete messages tools).1.announcements.length + 1 =
        r.announcements.length + (r.contacts messages tools).length ∧
      (r.complete messages tools).1.activeBackend?.toOption =
        (r.contacts messages tools).getLast?) := by
  constructor
  · intro b hb
    rw [contacts] at hb
    split at hb
    · exact absurd hb List.not_mem_nil
    · obtain ⟨u, rfl⟩ := (Retry.visited_spec ..).2.2 b hb
      exact noted_complete messages tools u
  · rintro ⟨a, ha⟩
    obtain ⟨hlength, hlast, -⟩ := Retry.visited_spec (a.policy.effective r.retriesEnabled)
      r.draws (Backend.complete messages tools) (r.backend a.backend)
    have hcontacts : r.contacts messages tools =
        Retry.visited (a.policy.effective r.retriesEnabled) r.draws
          (Backend.complete messages tools) (r.backend a.backend) := by
      rw [contacts, ha]
    rw [activeBackend?_complete ha (hr.lt_of_active? ha), complete_eq_call ha, hcontacts, hlength]
    refine ⟨?_, hlast.symm⟩
    rw [call, List.length_append, List.length_map, Retry.Run.retries, Nat.add_assoc]

end Registry

/-! ### The words of a command -/

/-- The words of the user that a command takes to a provider. -/
def Command.words? : Command → Option String
  | submit text => some text
  | prompt text => some text
  | _ => none

namespace Conversation

variable {c : Conversation}

/-- The messages that are sent when the user says something: the history and the user's words. -/
def sent (c : Conversation) (text : String) : List Message :=
  c.history.messages ++ [.user (c.enrich text)]

/-- The active backend after each of the calls that a command leads to. -/
def contacts (c : Conversation) (command : Command) : List Backend :=
  command.words?.elim [] fun text =>
    c.registry.contacts (c.recover.sent text) c.executor.toolbox.definitions

/-- The answer that a command gets from the provider, unless it reports an error. -/
def answer? (c : Conversation) (command : Command) : Option Completion :=
  command.words?.bind fun text => (c.recover.exchange text).answer

/-- A command with words of the user is a turn of the conversation after it has recovered. -/
theorem obey_words {command : Command} {text : String} (h : command.words? = some text) :
    ∃ status, c.obey command = c.recover.ask text status := by
  cases command with
  | submit t =>
    obtain rfl : t = text := Option.some.inj h
    exact ⟨_, speak_eq c .submit t⟩
  | prompt t =>
    obtain rfl : t = text := Option.some.inj h
    exact ⟨_, rfl⟩
  | _ => cases h

/-- What a reset leaves of a history, and no other command without words of the user touches. -/
theorem obey_other {command : Command} (h : command.words? = none) :
    (c.obey command).history = (if command = .reset then c.history.truncate else c.history) ∧
      (c.obey command).state = if command = .reset then .idle else c.state := by
  have hswitch : ∀ {α : Type} (change : Registry × Except Registry.Error α) (success : α → String),
      (c.switch change success).history = c.history ∧
        (c.switch change success).state = c.state := by
    intro α change success
    obtain ⟨notice, hnotice⟩ := exists_switch_eq c change success
    rw [hnotice]
    exact ⟨rfl, rfl⟩
  cases command with
  | submit text => cases h
  | prompt text => cases h
  | reset => exact ⟨rfl, rfl⟩
  | provider name => exact hswitch ..
  | model id => exact hswitch ..
  | template id => exact hswitch ..
  | quit => exact ⟨rfl, rfl⟩

/-- Commands without words of the user forget the history if there is a reset among them. -/
theorem obeyAll_other {commands : List Command} (h : ∀ x ∈ commands, x.words? = none) :
    (c.obeyAll commands).history =
        (if .reset ∈ commands then c.history.truncate else c.history) ∧
      (c.obeyAll commands).state = if .reset ∈ commands then .idle else c.state := by
  induction commands generalizing c with
  | nil => exact ⟨rfl, rfl⟩
  | cons command rest ih =>
    obtain ⟨hhist, hstate⟩ := obey_other (c := c) (h command (List.mem_cons_self ..))
    obtain ⟨hhist', hstate'⟩ := ih (c := c.obey command)
      fun x hx => h x (List.mem_cons_of_mem _ hx)
    rw [obeyAll, List.foldl_cons, ← obeyAll, hhist', hstate', hhist, hstate]
    by_cases hc : command = .reset
    · by_cases hr : .reset ∈ rest <;> simp [hc, hr, History.truncate]
    · simp [hc, Ne.symm hc]

/-! ### What commands do to the registry and the tools -/

/-- An answer changes neither the registry nor the tools. -/
theorem settle_keeps (c : Conversation) (answer : Except Registry.Error Completion) :
    (c.settle answer).registry = c.registry ∧ (c.settle answer).executor = c.executor := by
  have hconcluded : ∀ (c : Conversation) failures, (c.concluded failures).registry = c.registry ∧
      (c.concluded failures).executor = c.executor := by
    rintro c (_ | _) <;> exact ⟨rfl, rfl⟩
  have happroved : ∀ c : Conversation,
      ((c.enter .awaitingApproval).setStatus reviewStatus).registry = c.registry ∧
        ((c.enter .awaitingApproval).setStatus reviewStatus).executor = c.executor :=
    fun _ => ⟨rfl, rfl⟩
  have hheard : ∀ a, (c.heard a).registry = c.registry ∧ (c.heard a).executor = c.executor := by
    intro a
    unfold heard
    split_ifs <;> exact ⟨rfl, rfl⟩
  cases answer with
  | error e => exact ⟨rfl, rfl⟩
  | ok a =>
    change (c.process a).registry = c.registry ∧ (c.process a).executor = c.executor
    -- Only an answer that is a success has its calls run, and they keep both.
    by_cases ha : a.isSuccess = true
    · rw [process_eq ha]
      split_ifs
      · rw [(happroved _).1, (happroved _).2]
        exact hheard a
      · have hcalls := runCalls_keeps (c.heard a) a.toolCalls
        rw [(hconcluded ..).1, (hconcluded ..).2, hcalls.registry, hcalls.executor]
        exact hheard a
    · simp only [process, ha]
      exact ⟨rfl, rfl⟩

theorem recover_keeps (c : Conversation) :
    c.recover.registry = c.registry ∧ c.recover.executor = c.executor ∧
      c.recover.disk = c.disk ∧ c.recover.attachment = c.attachment ∧
      c.recover.focus = c.focus := by
  unfold recover
  split_ifs <;> exact ⟨rfl, rfl, rfl, rfl, rfl⟩

/-- A turn asks the registry once more, and does nothing to the tools. -/
theorem ask_keeps (c : Conversation) (text status : String) :
    (c.ask text status).registry = (c.registry.complete (c.sent text)
        c.executor.toolbox.definitions).1 ∧
      (c.ask text status).executor = c.executor := by
  rw [ask_eq]
  exact settle_keeps ..

theorem obey_words_keeps {command : Command} {text : String} (h : command.words? = some text) :
    (c.obey command).registry = (c.registry.complete (c.recover.sent text)
        c.executor.toolbox.definitions).1 ∧
      (c.obey command).executor = c.executor := by
  obtain ⟨status, hobey⟩ := obey_words (c := c) h
  obtain ⟨hregistry, hexecutor, -⟩ := recover_keeps c
  rw [hobey, ← hregistry, ← hexecutor]
  exact ask_keeps c.recover text status

/-- What a command does to the registry is one operation of it, or none; it does nothing to the
tools. -/
theorem obey_registry (c : Conversation) (command : Command) :
    (∃ ops, (c.obey command).registry = c.registry.performAll ops) ∧
      (c.obey command).executor = c.executor := by
  have hswitch : ∀ {α : Type} (change : Registry × Except Registry.Error α) (success : α → String),
      (c.switch change success).registry = change.1 ∧
        (c.switch change success).executor = c.executor := by
    intro α change success
    obtain ⟨notice, hnotice⟩ := exists_switch_eq c change success
    rw [hnotice]
    exact ⟨rfl, rfl⟩
  cases hw : command.words? with
  | some text =>
    obtain ⟨hregistry, hexecutor⟩ := obey_words_keeps hw
    exact ⟨⟨[.complete (c.recover.sent text) c.executor.toolbox.definitions], hregistry⟩,
      hexecutor⟩
  | none =>
    cases command with
    | submit text => cases hw
    | prompt text => cases hw
    | reset => exact ⟨⟨[], rfl⟩, rfl⟩
    | provider name => exact ⟨⟨[.activate name], (hswitch ..).1⟩, (hswitch ..).2⟩
    | model id => exact ⟨⟨[.setModel id], (hswitch ..).1⟩, (hswitch ..).2⟩
    | template id => exact ⟨⟨[.setTemplate id], (hswitch ..).1⟩, (hswitch ..).2⟩
    | quit => exact ⟨⟨[], rfl⟩, rfl⟩

theorem obeyAll_registry (c : Conversation) (commands : List Command) :
    (∃ ops, (c.obeyAll commands).registry = c.registry.performAll ops) ∧
      (c.obeyAll commands).executor = c.executor := by
  induction commands generalizing c with
  | nil => exact ⟨⟨[], rfl⟩, rfl⟩
  | cons command rest ih =>
    obtain ⟨⟨ops, hops⟩, hexecutor⟩ := obey_registry c command
    obtain ⟨⟨ops', hops'⟩, hexecutor'⟩ := ih (c.obey command)
    refine ⟨⟨ops ++ ops', ?_⟩, hexecutor'.trans hexecutor⟩
    rw [Registry.performAll_append, ← hops]
    exact hops'

/-- Commands keep a registry sound, and a provider that is active stays so or gives way to another
one. -/
theorem obeyAll_sound (hr : c.registry.Sound) (commands : List Command) :
    (c.obeyAll commands).registry.Sound ∧
      (c.registry.active.isSome → (c.obeyAll commands).registry.active.isSome) := by
  obtain ⟨⟨ops, hops⟩, -⟩ := obeyAll_registry c commands
  obtain ⟨hsound, hgrows⟩ := Registry.performAll_sound ops hr
  rw [hops]
  exact ⟨hsound, hgrows.active⟩

/-- Only a command with words of the user reaches a provider. -/
theorem exists_words_of_contacts {command : Command} (h : c.contacts command ≠ []) :
    ∃ text, command.words? = some text := by
  rw [← Option.isSome_iff_exists, Option.isSome_iff_ne_none]
  intro hnone
  exact h (by rw [contacts, hnone, Option.elim_none])

/-- A provider that is reached is active. -/
theorem active_of_contacts {command : Command} (h : c.contacts command ≠ []) :
    c.registry.active.isSome := by
  obtain ⟨text, htext⟩ := exists_words_of_contacts h
  rw [contacts, htext, Option.elim_some] at h
  obtain ⟨a, ha⟩ := (Registry.contacts_ne_nil_iff ..).mp h
  obtain ⟨key, _, hkey, _⟩ := Registry.exists_of_active? ha
  exact Option.isSome_of_mem hkey

/-- Once a provider has been reached, every command with words of the user reaches one. -/
theorem contacts_ne_nil_of_sound (hr : c.registry.Sound) (hactive : c.registry.active.isSome)
    {command : Command} {text : String} (h : command.words? = some text) :
    c.contacts command ≠ [] := by
  rw [contacts, h, Option.elim_some, Registry.contacts_ne_nil_iff]
  exact hr.active?_ok hactive

/-! ### Calls of tools -/

/-- How some calls end that are made one after the other. -/
def outcomes (x : Tool.Executor) : Files.Disk → List ToolCall → List Tool.Outcome
  | _, [] => []
  | d, call :: rest => (x.dispatch call d).outcome :: outcomes x (x.dispatch call d).disk rest

theorem replies_eq_map (x : Tool.Executor) (d : Files.Disk) (calls : List ToolCall) :
    replies x d calls = (outcomes x d calls).map reply := by
  induction calls generalizing d with
  | nil => rfl
  | cons call rest ih => rw [replies, outcomes, List.map_cons, ih]

/-- If the user is told of no failure, all calls have given an output. -/
theorem exists_outputs (c : Conversation) {calls : List ToolCall}
    (h : (c.runCalls calls).2 = []) :
    ∃ outputs : List Tool.Output, outcomes c.executor c.disk calls = outputs.map .ok := by
  induction calls generalizing c with
  | nil => exact ⟨[], rfl⟩
  | cons call rest ih =>
    rw [runCalls] at h
    obtain ⟨hcall, hrest⟩ := List.append_eq_nil_iff.mp h
    obtain ⟨outputs, houtputs⟩ := ih (c.runCall call).1 hrest
    rw [(runCall_keeps c call).executor, runCall_disk] at houtputs
    have hok : ∃ output, (c.executor.dispatch call c.disk).outcome = .ok output := by
      rw [runCall_eq] at hcall
      cases ho : (c.executor.dispatch call c.disk).outcome with
      | ok output => exact ⟨output, rfl⟩
      | error f =>
        rw [ho] at hcall
        cases hcall
    obtain ⟨output, houtput⟩ := hok
    exact ⟨output :: outputs, by rw [outcomes, houtput, houtputs, List.map_cons]⟩

/-- Recovering from an error changes nothing about how prompts are written. -/
theorem enrich_recover (c : Conversation) (text : String) :
    c.recover.enrich text = c.enrich text := by
  unfold recover
  split_ifs <;> rfl

/-! ### Turns in a row -/

/-- All calls of a turn send the same.  There is one more of them than retries are announced, and
the last one leaves the active backend as it is after the turn. -/
theorem contacts_spec (hr : c.registry.Sound) {command : Command} {text : String}
    (h : command.words? = some text) :
    (∀ b ∈ c.contacts command, b.lastMessages = c.recover.sent text ∧
      b.lastTools = c.executor.toolbox.names) ∧
    (c.contacts command ≠ [] →
      (c.obey command).registry.announcements.length + 1 =
        c.registry.announcements.length + (c.contacts command).length ∧
      (c.obey command).registry.activeBackend?.toOption = (c.contacts command).getLast?) := by
  have hcontacts : c.contacts command = c.registry.contacts (c.recover.sent text)
      c.executor.toolbox.definitions := by
    rw [contacts, h, Option.elim_some]
  have hnames : c.executor.toolbox.definitions.map ToolDefinition.name =
      c.executor.toolbox.names := by
    rw [Tool.Toolbox.definitions, Tool.Toolbox.names, List.map_map]
    rfl
  obtain ⟨hsame, hlast⟩ := Registry.contacts_spec hr (c.recover.sent text)
    c.executor.toolbox.definitions
  rw [hcontacts, (obey_words_keeps h).1, ← hnames]
  exact ⟨hsame, fun hne => hlast ((Registry.contacts_ne_nil_iff ..).mp hne)⟩

/-- A turn that does not end in error has got an answer, all of whose calls of tools have given an
output; these follow what was sent. -/
theorem ask_history_of_ne_aiError {text status : String}
    (hstate : (c.ask text status).state ≠ .aiError) :
    ∃ (answer : Completion) (outputs : List Tool.Output),
      (c.exchange text).answer = some answer ∧
      outcomes c.executor c.disk answer.toolCalls = outputs.map .ok ∧
      (c.ask text status).history.messages = c.sent text ++ .assistant answer.content ::
        toolMessages answer.toolCalls (outputs.map Tool.Output.content) := by
  let o := c.opened text status
  let answer := (o.consult c.registry).2
  let o' := o.withRegistry (o.consult c.registry).1
  have hsettle : c.ask text status = o'.settle answer := ask_eq ..
  have hanswer : (c.exchange text).answer = taken answer := rfl
  rw [hsettle] at hstate ⊢
  rw [hanswer]
  cases ha : taken answer with
  -- Without an answer the turn ends in an error.
  | none => exact absurd (settle_none ha).2 hstate
  | some a =>
    obtain ⟨hhist, hend⟩ := settle_some (c := o') ha
    have houtputs : ∃ outputs : List Tool.Output,
        outcomes c.executor c.disk a.toolCalls = outputs.map .ok := by
      by_cases hcalls : a.toolCalls = []
      · exact ⟨[], by rw [hcalls]; rfl⟩
      · have hnone : ((o'.heard a).runCalls a.toolCalls).2 = [] := by
          -- A call that failed would end the turn in an error, too.
          by_contra hne
          rw [if_neg hcalls, if_neg hne] at hend
          exact hstate hend
        have houtputs := exists_outputs _ hnone
        rwa [heard_executor, heard_disk] at houtputs
    obtain ⟨outputs, houtputs⟩ := houtputs
    have hreplies : replies c.executor c.disk a.toolCalls = outputs.map Tool.Output.content := by
      rw [replies_eq_map, houtputs, List.map_map]
      rfl
    refine ⟨a, outputs, rfl, houtputs, ?_⟩
    rw [hhist, ← hreplies]
    rfl

theorem obey_history_of_ne_aiError {command : Command} {text : String}
    (h : command.words? = some text) (hstate : (c.obey command).state ≠ .aiError) :
    ∃ (answer : Completion) (outputs : List Tool.Output), c.answer? command = some answer ∧
      outcomes c.executor c.disk answer.toolCalls = outputs.map .ok ∧
      (c.obey command).history.messages = c.recover.sent text ++ .assistant answer.content ::
        toolMessages answer.toolCalls (outputs.map Tool.Output.content) := by
  obtain ⟨-, hexecutor, hdisk, -⟩ := recover_keeps c
  obtain ⟨status, hobey⟩ := obey_words (c := c) h
  rw [hobey] at hstate ⊢
  rw [answer?, h, Option.bind_some, ← hexecutor, ← hdisk]
  exact ask_history_of_ne_aiError hstate

/-- If no command reaches the provider although there is one, nothing is said to it. -/
theorem words?_eq_none_of_contacts {commands : List Command} (hc : c.registry.Sound)
    (hactive : c.registry.active.isSome)
    (h : ∀ earlier x later, commands = earlier ++ x :: later →
      (c.obeyAll earlier).contacts x = []) :
    ∀ x ∈ commands, x.words? = none := by
  intro x hx
  obtain ⟨earlier, later, hsplit⟩ := List.append_of_mem hx
  obtain ⟨hsound, hstill⟩ := obeyAll_sound hc earlier
  rw [Option.eq_none_iff_forall_not_mem]
  intro words hwords
  exact contacts_ne_nil_of_sound hsound (hstill hactive) hwords (h _ _ _ hsplit)

/-- After an error or a reset, the next words are said as if nothing had been said before. -/
theorem recover_messages_of_forgotten {commands : List Command}
    (hother : ∀ x ∈ commands, x.words? = none)
    (h : c.state = .aiError ∨ .reset ∈ commands) :
    (c.obeyAll commands).recover.history.messages = [.system c.history.systemPrompt] := by
  obtain ⟨hhist, hstate⟩ := obeyAll_other (c := c) hother
  by_cases hreset : .reset ∈ commands
  · rw [if_pos hreset] at hhist hstate
    rw [recover, if_neg (by rw [hstate]; decide), hhist, History.messages_truncate]
  · rw [if_neg hreset] at hhist hstate
    rw [recover, if_pos (hstate.trans (h.resolve_right hreset)), ← hhist]
    rfl

/-- **What is sent in consecutive turns.**  Let the active provider be reached by a command in a run
of a new conversation, and then by another one, by none in between.

* In either turn each call, the first one and every retry that is announced, sends the same messages
  and the same tools, and the last call leaves the active backend as it is after the turn.
* If the first turn has not ended in error and there was no reset in between, then what is sent in
  the second one is what was sent in the first one, followed by its answer, by one message for each
  of the answer's calls of tools, with the name of the tool and its output, and by the user's words.
* Otherwise it is the message of the system and the user's words. -/
theorem consecutive_requests (enabled : Bool) (statistics : Retry.Statistics)
    (draws : Nat → Float) (ops : List Registry.Operation) (disk : Files.Disk)
    (executor : Tool.Executor) (systemPrompt : String) (attachment : Option Attachment)
    (focus : Context.Focus) (before between : List Command) (first second : Command) :
    let c := (fresh (.after enabled statistics draws ops) disk executor systemPrompt attachment
      focus).obeyAll before
    let c₁ := c.obey first
    let c₂ := c₁.obeyAll between
    c.contacts first ≠ [] → c₂.contacts second ≠ [] →
    (∀ earlier x later, between = earlier ++ x :: later →
      (c₁.obeyAll earlier).contacts x = []) →
    ∃ (sent sent' : List Message) (text : String), second.words? = some text ∧
      (∀ b ∈ c.contacts first, b.lastMessages = sent ∧ b.lastTools = executor.toolbox.names) ∧
      (∀ b ∈ c₂.contacts second,
        b.lastMessages = sent' ∧ b.lastTools = executor.toolbox.names) ∧
      c₁.registry.announcements.length + 1 =
        c.registry.announcements.length + (c.contacts first).length ∧
      c₁.registry.activeBackend?.toOption = (c.contacts first).getLast? ∧
      (c₁.state ≠ .aiError → .reset ∉ between →
        ∃ (answer : Completion) (outputs : List Tool.Output), c.answer? first = some answer ∧
          outcomes executor c.disk answer.toolCalls = outputs.map .ok ∧
          sent' = sent ++ .assistant answer.content ::
            toolMessages answer.toolCalls (outputs.map Tool.Output.content) ++
              [.user (c₂.enrich text)]) ∧
      (c₁.state = .aiError ∨ .reset ∈ between →
        sent' = [.system systemPrompt, .user (c₂.enrich text)]) := by
  intro c c₁ c₂ hfirst hsecond hbetween
  let start := fresh (.after enabled statistics draws ops) disk executor systemPrompt attachment
    focus
  have hstart : start.registry.Sound := Registry.after_sound enabled statistics draws ops
  have hsound : c.registry.Sound := (obeyAll_sound hstart before).1
  have hexecutor : c.executor = executor := (obeyAll_registry start before).2
  obtain ⟨text, htext⟩ := exists_words_of_contacts hfirst
  obtain ⟨text', htext'⟩ := exists_words_of_contacts hsecond
  -- Once the provider has been reached, words in between would have reached it, too.
  obtain ⟨hsound₁, hactive₁⟩ := obeyAll_sound hsound [first]
  have hactive : c₁.registry.active.isSome := hactive₁ (active_of_contacts hfirst)
  have hother := words?_eq_none_of_contacts hsound₁ hactive hbetween
  obtain ⟨hhist₂, hstate₂⟩ := obeyAll_other (c := c₁) hother
  obtain ⟨hsound₂, -⟩ := obeyAll_sound (c := c₁) hsound₁ between
  have hexecutor₂ : c₂.executor = executor :=
    ((obeyAll_registry c₁ between).2.trans (obey_registry c first).2).trans hexecutor
  have hprompt₁ : c₁.history.systemPrompt = systemPrompt :=
    (obey_grammar (obeyAll_keeps_grammar (fresh_grammar ..) before) first).systemPrompt
  obtain ⟨hsent, hlast⟩ := contacts_spec hsound htext
  obtain ⟨hsent', -⟩ := contacts_spec hsound₂ htext'
  rw [hexecutor] at hsent
  rw [hexecutor₂] at hsent'
  refine ⟨c.recover.sent text, c₂.recover.sent text', text', htext', hsent, hsent',
    (hlast hfirst).1, (hlast hfirst).2, ?_, ?_⟩
  · intro hne hreset
    obtain ⟨answer, outputs, hanswer, houtputs, hhist₁⟩ := obey_history_of_ne_aiError htext hne
    rw [hexecutor] at houtputs
    have hrecover : c₂.recover = c₂ := if_neg fun h => hne (by
      rw [← h]
      exact (hstate₂.trans (if_neg hreset)).symm)
    refine ⟨answer, outputs, hanswer, houtputs, ?_⟩
    rw [hrecover, sent, show c₂.history = c₁.history from hhist₂.trans (if_neg hreset), hhist₁]
  · intro hfresh
    have hforgot := recover_messages_of_forgotten hother hfresh
    rw [hprompt₁] at hforgot
    rw [sent, hforgot, enrich_recover]
    rfl

/-- A new conversation with one tool, whose provider fails once and then calls the tool. -/
def greeting : Conversation :=
  fresh (.after true .empty (fun _ => 0.5)
      [.addBackend { Backend.named "mock" with
          script := [.error ⟨.rateLimit, "slow down"⟩,
            .ok (.calling "On it." [⟨"1", "greet", ""⟩])] },
        .register "mock" (.shared 0), .activate "mock"])
    .empty ⟨Tool.Toolbox.empty.register (.ofScript { name := "greet", content := "Hello!" }), 5⟩
    "You are helpful." none {}

/-- After a retry, an answer with a call of a tool and a change of the template, the next words are
sent behind all that was said. -/
theorem greeting_consecutive :
    let first := Command.submit "Hi"
    let second := Command.submit "Thanks"
    let c₂ := (greeting.obey first).obeyAll [.template "code"]
    greeting.contacts first ≠ [] ∧ c₂.contacts second ≠ [] ∧
    (greeting.obey first).contacts (.template "code") = [] ∧
    (greeting.contacts first).length = 2 ∧ (greeting.obey first).state ≠ .aiError ∧
    ∀ b ∈ c₂.contacts second, b.lastMessages =
      [.system "You are helpful.", .user "Hi", .assistant "On it.", .tool "greet" "Hello!",
        .user "Thanks"] := by
  intro first second c₂
  have hlength : (greeting.contacts first).length = 2 := rfl
  have hlength₂ : (c₂.contacts second).length = 1 := rfl
  have hfirst : greeting.contacts first ≠ [] := List.ne_nil_of_length_eq_add_one hlength
  have hsecond : c₂.contacts second ≠ [] := List.ne_nil_of_length_eq_add_one hlength₂
  have hbetween : ∀ earlier x later, [Command.template "code"] = earlier ++ x :: later →
      ((greeting.obey first).obeyAll earlier).contacts x = [] := by
    intro earlier x later h
    rcases List.singleton_eq_append_iff.mp h with ⟨rfl, h⟩ | ⟨_, h⟩
    · cases h
      rfl
    · cases h
  obtain ⟨sent, sent', text, htext, hsent, hsent', -, -, hgoes, -⟩ :=
    consecutive_requests true .empty (fun _ => 0.5) _ .empty _ "You are helpful." none {} []
      [.template "code"] first second hfirst hsecond hbetween
  have hstate : (greeting.obey first).state ≠ .aiError := by decide
  obtain ⟨answer, outputs, hanswer, houtputs, heq⟩ := hgoes hstate (by decide)
  -- What was sent first, and what became of it.
  have hsent₁ : sent = [.system "You are helpful.", .user "Hi"] := by
    rw [← (hsent _ (List.head_mem hfirst)).1]
    rfl
  obtain rfl : Completion.calling "On it." [⟨"1", "greet", ""⟩] = answer :=
    Option.some.inj hanswer
  obtain rfl : [{ content := "Hello!" }] = outputs :=
    List.map_injective_iff.mpr (fun _ _ => Except.ok.inj) houtputs
  obtain rfl : "Thanks" = text := Option.some.inj htext
  refine ⟨hfirst, hsecond, rfl, hlength, hstate, fun x hx => ?_⟩
  rw [(hsent' x hx).1, heq, hsent₁]
  rfl

end Conversation

end Colloquy
