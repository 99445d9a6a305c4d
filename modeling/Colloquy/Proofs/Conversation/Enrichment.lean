import Colloquy.Context.Excerpt
import Colloquy.Proofs.Conversation.Entries
import Colloquy.Proofs.Conversation.Files
import Colloquy.Proofs.Conversation.Reset

/-!
# The context of a prompt

Context is gathered from a source and written into the user's words before these go to the provider.
If there is no context to be had (`Contextless`), the words are taken as they are; otherwise a prompt
is made of them (`Contextual`).

* `Context.exists_compose_eq`: the context of a workspace is written behind the prompt;
* `speak_attach`: two ways to write context into some words that lead to the same prompt lead to the
  same turn;
* `context_only_writes_prompt`: context that is absent, switched off or that cannot be had makes no
  difference to a turn, and context that can be had makes one in the user's message alone.
-/

namespace Colloquy

open Display (ChatEntry)

/-! ### The context of a workspace -/

namespace Context

/-- The context is written behind the prompt. -/
theorem exists_compose_eq (prompt : String) (g : Gathered) :
    ∃ rest, compose prompt g = prompt ++ rest ∧ (rest = "" ↔ g.isEmpty = true) := by
  cases h : g.isEmpty with
  | true =>
    refine ⟨"", ?_, iff_of_true rfl rfl⟩
    rw [compose, if_pos h, String.append_empty]
  | false =>
    simp only [compose, h, Bool.false_eq_true, if_false, String.append_assoc]
    refine ⟨_, rfl, iff_of_false (fun hempty => ?_) id⟩
    -- There is a heading at least.
    have hlength := congrArg String.length hempty
    rw [String.length_append] at hlength
    have hheading : "\n\n## Relevant code context\n".length = 27 := by decide
    have hnone : "".length = 0 := by decide
    omega

example :
    compose "Rename it" { file := "a.rs", line := 2, column := 5, selection := "greet" } =
      "Rename it\n\n## Relevant code context\nCurrent file: a.rs (line 2, column 5)\n" ++
        "Selected text:\n```\ngreet\n```\n" := by
  decide

end Context

namespace Conversation

variable {c : Conversation} {text p : String}

/-! ### Prompts with context -/

/-- No context is written into some words: none is attached, it is switched off, it cannot be
gathered, or it cannot be written. -/
inductive Contextless (c : Conversation) (text : String) : Prop where
  | absent (hattached : c.attachment = none)
  | disabled {a : Attachment} (hattached : c.attachment = some a) (hdisabled : a.enabled = false)
  | ungathered {a : Attachment} {e : Context.Mishap} (hattached : c.attachment = some a)
      (hgather : a.source.gather c.focus a.limits c.disk = .error e)
  | unwritten {a : Attachment} {g : Context.Gathered} {e : Context.Mishap}
      (hattached : c.attachment = some a)
      (hgather : a.source.gather c.focus a.limits c.disk = .ok g)
      (hcompose : a.source.compose text g a.limits = .error e)

/-- The context that is attached is gathered, and a prompt is made with it of some words. -/
def Contextual (c : Conversation) (text p : String) : Prop :=
  ∃ a g, c.attachment = some a ∧ a.enabled = true ∧
    a.source.gather c.focus a.limits c.disk = .ok g ∧ a.source.compose text g a.limits = .ok p

/-- There is no third case. -/
theorem contextless_or_contextual (c : Conversation) (text : String) :
    c.Contextless text ∨ ∃ p, c.Contextual text p := by
  cases hattached : c.attachment with
  | none => exact .inl (.absent hattached)
  | some a =>
    cases henabled : a.enabled with
    | false => exact .inl (.disabled hattached henabled)
    | true =>
      cases hgather : a.source.gather c.focus a.limits c.disk with
      | error e => exact .inl (.ungathered hattached hgather)
      | ok g =>
        cases hcompose : a.source.compose text g a.limits with
        | error e => exact .inl (.unwritten hattached hgather hcompose)
        | ok p => exact .inr ⟨p, a, g, hattached, henabled, hgather, hcompose⟩

theorem Contextless.enrich (h : c.Contextless text) : c.enrich text = text := by
  rw [Conversation.enrich]
  cases h with
  | absent hattached => rw [hattached]
  | disabled hattached hdisabled => simp [hattached, hdisabled]
  | ungathered hattached hgather => simp [hattached, Context.Source.enrich, hgather]
  | unwritten hattached hgather hcompose =>
    simp [hattached, Context.Source.enrich, hgather, hcompose]

theorem Contextual.enrich (h : c.Contextual text p) : c.enrich text = p := by
  obtain ⟨a, g, hattached, henabled, hgather, hcompose⟩ := h
  simp [Conversation.enrich, hattached, henabled, Context.Source.enrich, hgather, hcompose]

/-- A workspace makes prompts of words by writing something behind them. -/
theorem exists_enrich_eq {a : Attachment} {root : Workspace.Root}
    (hattached : c.attachment = some a) (hsource : a.source = .ofWorkspace root) (text : String) :
    ∃ rest, c.enrich text = text ++ rest := by
  rcases c.contextless_or_contextual text with hless | ⟨p, hp⟩
  · exact ⟨"", by rw [hless.enrich, String.append_empty]⟩
  · have henrich := hp.enrich
    obtain ⟨a', g, hattached', -, -, hcompose⟩ := hp
    obtain rfl : a = a' := Option.some_inj.mp (hattached.symm.trans hattached')
    rw [hsource] at hcompose
    obtain ⟨rest, hrest, -⟩ := Context.exists_compose_eq text g
    refine ⟨rest, ?_⟩
    rw [henrich, ← hrest]
    exact (Except.ok.inj hcompose).symm

/-! ### Turns with other context -/

/-- The conversation with other context, or without any. -/
def attach (c : Conversation) (attachment : Option Attachment) : Conversation :=
  { c with attachment }

/-- The conversation with another chat log. -/
def withChat (c : Conversation) (chat : List ChatEntry) : Conversation :=
  { c with screen := { c.screen with chat } }

theorem recover_attach (c : Conversation) (attachment : Option Attachment) :
    (c.attach attachment).recover = c.recover.attach attachment :=
  recover_mapAsking c ({ · with attachment })

theorem answered_attach (c : Conversation) (attachment : Option Attachment) :
    (c.attach attachment).answered = c.answered.attach attachment :=
  settle_mapAsking (c.withRegistry (c.consult c.registry).1) ({ · with attachment })
    (c.consult c.registry).2

/-- If context makes a prompt of the user's words, the turn is the one in which the user says that
prompt and no context is written.  Only the chat log shows the words as they were typed. -/
theorem ask_attach (c : Conversation) {attachment : Option Attachment} (hp : c.enrich p = p)
    (htext : (c.attach attachment).enrich text = p) (status : String) :
    ∃ new, (c.ask p status).screen.chat = c.screen.chat ++ ⟨.user, p⟩ :: new ∧
      (c.attach attachment).ask text status =
        ((c.ask p status).withChat (c.screen.chat ++ ⟨.user, text⟩ :: new)).attach attachment := by
  -- What is answered does not depend on the log, which belongs to the past.
  let o := (c.opened p status).withChat []
  let past (words : String) : Past :=
    ⟨c.screen.chat ++ [⟨.user, words⟩], c.screen.files, c.audits, c.worked⟩
  obtain ⟨u, as, w, hanswered⟩ := oblivious_answered o
  have hplain : c.opened p status = o.withPast (past p) :=
    congrArg (c.opened p status).withChat (List.append_nil _).symm
  have hwritten : (c.attach attachment).opened text status =
      (o.withPast (past text)).attach attachment := by
    have hchat := congrArg (fun chat => ((c.opened p status).withChat chat).attach attachment)
      (List.append_nil (past text).chat).symm
    refine Eq.trans ?_ hchat
    rw [opened, htext, opened, hp]
    rfl
  refine ⟨o.answered.screen.chat, ?_, ?_⟩
  · rw [ask_eq_answered, hplain, hanswered, List.append_cons]
    rfl
  · rw [ask_eq_answered, hwritten, answered_attach, ask_eq_answered, hplain, hanswered, hanswered,
      List.append_cons]
    rfl

/-- The same for words that are taken in some manner. -/
theorem speak_attach (c : Conversation) {attachment : Option Attachment} (hp : c.enrich p = p)
    (htext : (c.attach attachment).enrich text = p) (m : Manner) :
    ∃ new, (c.speak m p).screen.chat = c.screen.chat ++ (c.notices ++ ⟨.user, p⟩ :: new) ∧
      (c.attach attachment).speak m text =
        ((c.speak m p).withChat (c.screen.chat ++ (c.notices ++ ⟨.user, text⟩ :: new))).attach
          attachment := by
  have hp : c.recover.enrich p = p := (enrich_recover c p).trans hp
  have htext : (c.recover.attach attachment).enrich text = p := by
    rw [← recover_attach, enrich_recover, htext]
  have hstate : (c.attach attachment).state = c.state := rfl
  obtain ⟨new, hchat, hturn⟩ := ask_attach c.recover hp htext (m.status c.state)
  refine ⟨new, ?_, ?_⟩
  · rw [speak_eq, hchat, recover_entries, List.append_assoc]
  · rw [speak_eq, recover_attach, hstate, hturn, speak_eq, recover_entries, List.append_assoc]

/-- The messages after a turn: what was sent, and what the answer has added. -/
theorem ask_messages (c : Conversation) (text status : String) :
    (c.ask text status).history.messages =
      c.sent text ++ answerMessages c.executor c.disk (c.exchange text).answer := by
  have hsent : (c.opened text status).history = c.history.push (.user (c.enrich text)) := rfl
  rw [ask_eq, settle_history, sent, ← History.messages_push, ← hsent]
  rfl

theorem speak_messages (c : Conversation) (m : Manner) (text : String) :
    (c.speak m text).history.messages = c.recover.sent text ++
      answerMessages c.executor c.disk (c.recover.exchange text).answer := by
  obtain ⟨-, hexecutor, hdisk, -⟩ := recover_keeps c
  rw [speak_eq, ask_messages, hexecutor, hdisk]

/-- What a turn does to the disk is done by the calls of its answer. -/
theorem speak_disk (c : Conversation) (m : Manner) (text : String) :
    (c.speak m text).disk =
      diskAfter c.executor c.disk (callsOf (c.recover.exchange text).answer) := by
  have hworks := (works_recover c).trans (works_ask c.recover text (m.status c.state))
  rw [speak_eq]
  exact hworks.disk

/-- **Context makes a difference to the user's message alone**, whatever the user's words are taken
for and whatever they are.

* If context is absent or switched off, or cannot be gathered or written, the turn is the one without
  context: it sends the same messages and leaves the same conversation.
* If context makes a prompt of the words, this prompt is the message of the user that is sent and
  stays in the history, and the chat log shows the words as they were typed.  The turn is the one
  without context in which the user says the prompt, but for that entry of the log.
* The prompts of a workspace begin with the words.  They are the words if nothing was gathered, and
  only then.  What the turn does to the disk is done by calls of tools. -/
theorem context_only_writes_prompt (c : Conversation) (m : Manner) (text : String) :
    let bare := c.attach none
    let c' := c.speak m text
    (c.Contextless text →
      c.recover.sent text = bare.recover.sent text ∧
      c' = (bare.speak m text).attach c.attachment) ∧
    (∀ p, c.Contextual text p →
      c.recover.sent text = c.recover.history.messages ++ [.user p] ∧
      c'.registry =
        (c.registry.complete (c.recover.sent text) c.executor.toolbox.definitions).1 ∧
      c'.history.messages = c.recover.history.messages ++ .user p ::
        answerMessages c.executor c.disk (c.recover.exchange text).answer ∧
      ∃ new, (bare.speak m p).screen.chat = c.screen.chat ++ (c.notices ++ ⟨.user, p⟩ :: new) ∧
        c' = ((bare.speak m p).withChat
          (c.screen.chat ++ (c.notices ++ ⟨.user, text⟩ :: new))).attach c.attachment) ∧
    (∀ a root, c.attachment = some a → a.source = .ofWorkspace root →
      (∃ rest, c.enrich text = text ++ rest) ∧
      (∀ g limits, ∃ rest, a.source.compose text g limits = .ok (text ++ rest) ∧
        (rest = "" ↔ g.isEmpty = true)) ∧
      c'.disk = diskAfter c.executor c.disk (callsOf (c.recover.exchange text).answer)) := by
  intro bare c'
  have hsent : c.recover.sent text = c.recover.history.messages ++ [.user (c.enrich text)] := by
    rw [sent, enrich_recover]
  have hbare : bare.recover = c.recover.attach none := recover_attach c none
  refine ⟨fun hless => ?_, fun p hp => ?_, fun a root hattached hsource => ?_⟩
  · obtain ⟨new, hchat, hturn⟩ := speak_attach bare (p := text) rfl hless.enrich m
    constructor
    · rw [hsent, hless.enrich, hbare]
      rfl
    · -- The entry of the log is the same, too.
      exact hturn.trans (congrArg (attach · c.attachment)
        (congrArg (bare.speak m text).withChat hchat.symm))
  -- With context the prompt differs from the text, and that is all.
  · rw [hp.enrich] at hsent
    obtain ⟨hregistry, hexecutor, -⟩ := recover_keeps c
    refine ⟨hsent, ?_, ?_, speak_attach bare rfl hp.enrich m⟩
    · change (c.speak m text).registry = _
      rw [speak_eq, (ask_keeps ..).1, hregistry, hexecutor]
    · change (c.speak m text).history.messages = _
      rw [speak_messages, hsent, List.append_assoc]
      rfl
  · refine ⟨exists_enrich_eq hattached hsource text, fun g limits => ?_, speak_disk c m text⟩
    obtain ⟨rest, hrest, hempty⟩ := Context.exists_compose_eq text g
    refine ⟨rest, ?_, hempty⟩
    rw [hsource, ← hrest]
    rfl

end Conversation

end Colloquy
