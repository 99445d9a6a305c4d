import Colloquy.Proofs.Conversation.Turn
import Mathlib.Data.List.Chain
import Mathlib.Tactic.SplitIfs

/-!
# The grammar of a history

After its first message a history is a sequence of exchanges: what the user said, and what became of
it.  An exchange that got no answer is the last one, and the conversation is in error then; the next
words of the user start afresh.

`exchanges` collects the exchanges along a run of commands.  `Grammar` says that they are the
history and that the state fits the last one; every command keeps it (`obey_grammar`), and
`obeyAll_grammar` says what follows for the history of every run from a new conversation.
-/

namespace Colloquy

open Provider (Completion ToolCall)

/-! ### Exchanges -/

/-- The calls of an answer, if there is one. -/
def callsOf (answer : Option Completion) : List ToolCall :=
  answer.elim [] Completion.toolCalls

/-- What the user said and what became of it. -/
structure Exchange where
  /-- The user's words as the provider got them. -/
  words : String
  /-- The answer, if there was one that was no error. -/
  answer : Option Completion
  /-- What the provider gets to see of the ends of the calls of the answer. -/
  replies : List String
  complete : replies.length = (callsOf answer).length

namespace Exchange

/-- The messages of an exchange. -/
def messages (x : Exchange) : List Message :=
  .user x.words :: match x.answer with
    | none => []
    | some a => .assistant a.content :: Conversation.toolMessages a.toolCalls x.replies

/-- The role of the last message of an exchange. -/
def lastRole (x : Exchange) : Role :=
  match x.answer with
  | none => .user
  | some a => if a.toolCalls = [] then .assistant else .tool

end Exchange

namespace Conversation

/-- The exchange that some words start which get an answer, or none. -/
def exchangeOf (c : Conversation) (text : String) (answer : Option Completion) : Exchange where
  words := c.enrich text
  answer := answer
  replies := replies c.executor c.disk (callsOf answer)
  complete := length_replies ..

/-- The exchange that some words start, with the answer of the registry. -/
def exchange (c : Conversation) (text : String) : Exchange :=
  c.exchangeOf text (taken ((c.remember (.user (c.enrich text))).consult c.registry).2)

/-- The exchanges that are remembered after a command, if some are before. -/
def note (c : Conversation) (xs : List Exchange) : Command → List Exchange
  | .submit text => (if c.state = .aiError then [] else xs) ++ [c.recover.exchange text]
  | .prompt text => (if c.state = .aiError then [] else xs) ++ [c.recover.exchange text]
  | .reset => []
  | _ => xs

/-- The exchanges that are remembered after some commands, if some are before. -/
def noteAll (c : Conversation) (xs : List Exchange) : List Command → List Exchange
  | [] => xs
  | command :: rest => (c.obey command).noteAll (c.note xs command) rest

/-! ### The invariant -/

/-- Whether a state fits the last exchange. -/
def Fits : Display.State → Option Exchange → Prop
  | .idle, last => last = none
  | .awaitingAiResponse, _ => False
  | .awaitingApproval, last => ∃ x, last = some x ∧ x.lastRole = .assistant
  | .executingTask, last => ∃ x, last = some x ∧ x.lastRole = .tool
  | .aiError, last => ∃ x, last = some x ∧ (x.lastRole = .user ∨ x.lastRole = .tool)

/-- A conversation with a message of the system and some exchanges, between two commands. -/
structure Grammar (systemPrompt : String) (c : Conversation) (xs : List Exchange) : Prop where
  systemPrompt : c.history.systemPrompt = systemPrompt
  later : c.history.later = xs.flatMap Exchange.messages
  /-- Only the last exchange may be without an answer. -/
  answered : ∀ x ∈ xs.dropLast, x.answer.isSome
  fits : Fits c.state xs.getLast?
  processing : c.screen.processing = false

variable {p : String} {c : Conversation} {xs : List Exchange}

theorem fresh_grammar (registry : Registry) (disk : Files.Disk) (executor : Tool.Executor)
    (systemPrompt : String) (attachment : Option Attachment) (focus : Context.Focus) :
    Grammar systemPrompt (fresh registry disk executor systemPrompt attachment focus) [] :=
  ⟨rfl, rfl, fun _ h => absurd h List.not_mem_nil, rfl, rfl⟩

/-! ### Commands -/

theorem lastRole_eq_user_iff (x : Exchange) : x.lastRole = .user ↔ x.answer = none := by
  unfold Exchange.lastRole
  split
  · next h => simp [h]
  · next a h =>
    split_ifs <;> simp [h]

/-- Without an error all exchanges have got their answers. -/
theorem Grammar.all_answered (h : Grammar p c xs) (hstate : c.state ≠ .aiError) :
    ∀ x ∈ xs, x.answer.isSome := by
  cases hlast : xs.getLast? with
  | none =>
    intro x hx
    rw [List.getLast?_eq_none_iff.mp hlast] at hx
    exact absurd hx List.not_mem_nil
  | some y =>
    have hy : y.lastRole ≠ .user := by
      -- Only the state of error lets the last exchange end with the user's words.
      have hfits := h.fits
      rw [hlast] at hfits
      cases hs : c.state with
      | idle => rw [hs] at hfits; cases hfits
      | awaitingAiResponse => rw [hs] at hfits; exact hfits.elim
      | awaitingApproval =>
        rw [hs] at hfits
        obtain ⟨_, heq, hrole⟩ := hfits
        rw [Option.some.inj heq, hrole]
        decide
      | executingTask =>
        rw [hs] at hfits
        obtain ⟨_, heq, hrole⟩ := hfits
        rw [Option.some.inj heq, hrole]
        decide
      | aiError => exact absurd hs hstate
    intro x hx
    rw [← List.dropLast_append_getLast? y hlast, List.mem_append, List.mem_singleton] at hx
    rcases hx with hx | rfl
    · exact h.answered x hx
    · rwa [Ne, lastRole_eq_user_iff, ← Ne, Option.ne_none_iff_isSome] at hy

theorem exchangeOf_messages (c : Conversation) (text : String) (answer : Option Completion) :
    (c.exchangeOf text answer).messages =
      .user (c.enrich text) :: answerMessages c.executor c.disk answer := by
  cases answer <;> rfl

/-- Words that follow exchanges with answers start one more, whatever the registry answers. -/
theorem settle_grammar (hp : c.history.systemPrompt = p)
    (hlater : c.history.later = xs.flatMap Exchange.messages) (hxs : ∀ x ∈ xs, x.answer.isSome)
    (text status : String) (r : Registry) (answer : Except Registry.Error Completion) :
    Grammar p (((c.opened text status).withRegistry r).settle answer)
      (xs ++ [c.exchangeOf text (taken answer)]) := by
  let o := (c.opened text status).withRegistry r
  let x := c.exchangeOf text (taken answer)
  have hopened : o.history.later = c.history.later ++ [.user (c.enrich text)] := rfl
  have hmessages := exchangeOf_messages c text (taken answer)
  have hlast : (xs ++ [x]).getLast? = some x := by simp
  have hanswered : ∀ y ∈ (xs ++ [x]).dropLast, y.answer.isSome := by simpa using hxs
  cases ha : taken answer with
  | none =>
    -- The exchange consists of the user's words alone, and the conversation is in error.
    obtain ⟨hhist, hstate⟩ := settle_none (c := o) ha
    rw [ha] at hmessages
    refine ⟨?_, ?_, ha ▸ hanswered, ?_, rfl⟩
    · rw [hhist]
      exact hp
    · rw [hhist, hopened, hlater, List.flatMap_append, List.flatMap_singleton, hmessages]
      rfl
    · rw [hstate, ← ha, hlast]
      exact ⟨_, rfl, Or.inl ((lastRole_eq_user_iff _).mpr ha)⟩
  | some a =>
    obtain ⟨hhist, hstate⟩ := settle_some (c := o) ha
    have hrole : x.lastRole = if a.toolCalls = [] then .assistant else .tool := by
      rw [Exchange.lastRole, show x.answer = some a from ha]
    rw [ha] at hmessages
    refine ⟨?_, ?_, ha ▸ hanswered, ?_, rfl⟩
    · rw [hhist]
      exact hp
    · rw [hhist, List.flatMap_append, List.flatMap_singleton, hmessages]
      dsimp only
      rw [hopened, hlater, List.append_assoc, List.singleton_append]
      rfl
    · rw [hstate, ← ha, hlast]
      -- What the state is depends on whether there were calls, and on how they went.
      split_ifs at hrole ⊢
      · exact ⟨x, rfl, hrole⟩
      · exact ⟨x, rfl, hrole⟩
      · exact ⟨x, rfl, Or.inr hrole⟩

theorem ask_grammar (hp : c.history.systemPrompt = p)
    (hlater : c.history.later = xs.flatMap Exchange.messages) (hxs : ∀ x ∈ xs, x.answer.isSome)
    (text status : String) : Grammar p (c.ask text status) (xs ++ [c.exchange text]) :=
  settle_grammar hp hlater hxs text status _ _

theorem recover_ask_grammar (h : Grammar p c xs) (text status : String) :
    Grammar p (c.recover.ask text status)
      ((if c.state = .aiError then [] else xs) ++ [c.recover.exchange text]) := by
  by_cases hstate : c.state = .aiError
  · have hp : c.recover.history.systemPrompt = p := by
      rw [recover, if_pos hstate]
      exact h.systemPrompt
    have hlater : c.recover.history.later = ([] : List Exchange).flatMap Exchange.messages := by
      rw [recover, if_pos hstate]
      rfl
    rw [if_pos hstate]
    exact ask_grammar hp hlater (fun x hx => absurd hx List.not_mem_nil) text status
  · rw [if_neg hstate, recover, if_neg hstate]
    exact ask_grammar h.systemPrompt h.later (h.all_answered hstate) text status

/-- What is said to the user about a change of the registry changes nothing else. -/
theorem switch_grammar {α : Type} (h : Grammar p c xs)
    (change : Registry × Except Registry.Error α) (success : α → String) :
    Grammar p (c.switch change success) xs := by
  unfold switch
  dsimp only
  split <;> exact ⟨h.systemPrompt, h.later, h.answered, h.fits, h.processing⟩

/-- **One command** keeps the grammar. -/
theorem obey_grammar (h : Grammar p c xs) (command : Command) :
    Grammar p (c.obey command) (c.note xs command) := by
  cases command with
  | submit text =>
    rw [obey, show c.submit text = c.speak .submit text from rfl, speak_eq]
    exact recover_ask_grammar h text _
  | prompt text => exact recover_ask_grammar h text _
  | reset => exact ⟨h.systemPrompt, rfl, fun _ hx => absurd hx List.not_mem_nil, rfl, rfl⟩
  | provider name => exact switch_grammar h _ _
  | model id => exact switch_grammar h _ _
  | template id => exact switch_grammar h _ _
  | quit => exact h

theorem obeyAll_keeps_grammar (h : Grammar p c xs) (commands : List Command) :
    Grammar p (c.obeyAll commands) (c.noteAll xs commands) := by
  induction commands generalizing c xs with
  | nil => exact h
  | cons command rest ih => exact ih (obey_grammar h command)

/-! ### Messages of exchanges -/

theorem role_of_mem_toolMessages {calls : List ToolCall} {replies : List String} {m : Message}
    (hm : m ∈ toolMessages calls replies) : m.role = .tool := by
  obtain ⟨i, hi, rfl⟩ := List.mem_iff_getElem.mp hm
  simp only [toolMessages, List.getElem_zipWith]
  rfl

/-- The user speaks first in an exchange, and then no more; the system says nothing. -/
theorem exchange_roles (x : Exchange) :
    ∃ rest, x.messages = .user x.words :: rest ∧
      ∀ m ∈ rest, m.role = .assistant ∨ m.role = .tool := by
  refine ⟨_, rfl, fun m hm => ?_⟩
  cases ha : x.answer with
  | none => simp [ha] at hm
  | some a =>
    rw [ha] at hm
    rcases List.mem_cons.mp hm with rfl | hm
    · exact Or.inl rfl
    · exact Or.inr (role_of_mem_toolMessages hm)

theorem role_ne_system {m : Message} (hm : m ∈ xs.flatMap Exchange.messages) :
    m.role ≠ .system := by
  obtain ⟨x, _, hm⟩ := List.mem_flatMap.mp hm
  obtain ⟨rest, hx, hrest⟩ := exchange_roles x
  rw [hx] at hm
  rcases List.mem_cons.mp hm with rfl | hm
  · exact Role.noConfusion
  · rcases hrest m hm with h | h <;> simp [h]

theorem exists_last_message (x : Exchange) :
    ∃ m, x.messages.getLast? = some m ∧ m.role = x.lastRole := by
  have hcomplete := x.complete
  rw [Exchange.messages, Exchange.lastRole]
  cases ha : x.answer with
  | none => exact ⟨_, rfl, rfl⟩
  | some a =>
    rw [ha] at hcomplete
    dsimp only
    split_ifs with hc
    · rw [hc, toolMessages, List.zipWith_nil_left]
      exact ⟨_, rfl, rfl⟩
    · have hne : toolMessages a.toolCalls x.replies ≠ [] := by
        rw [← List.length_pos_iff, toolMessages, List.length_zipWith, hcomplete]
        exact lt_min (List.length_pos_iff.mpr hc) (List.length_pos_iff.mpr hc)
      obtain ⟨m, hm⟩ := Option.ne_none_iff_exists'.mp (mt List.getLast?_eq_none_iff.mp hne)
      refine ⟨m, ?_, role_of_mem_toolMessages (List.mem_of_getLast? hm)⟩
      rw [List.getLast?_cons, List.getLast?_cons, hm]
      rfl

/-- Two messages that do not both come from the user. -/
def NotBothUser (m m' : Message) : Prop := ¬ (m.role = .user ∧ m'.role = .user)

theorem isChain_exchange (x : Exchange) : x.messages.IsChain NotBothUser := by
  obtain ⟨rest, hx, hrest⟩ := exchange_roles x
  have hne : ∀ m ∈ rest, m.role ≠ .user := fun m hm => by
    rcases hrest m hm with h | h <;> simp [h]
  have hright : ∀ m, ∀ m' ∈ rest, NotBothUser m m' := fun _ m' hm' h => hne m' hm' h.2
  rw [hx]
  exact (List.pairwise_cons.mpr ⟨hright _,
    List.pairwise_of_forall_mem_list fun m _ => hright m⟩).isChain

/-- If only the last exchange may be without an answer, the user never speaks twice in a row. -/
theorem isChain_messages (hxs : ∀ x ∈ xs.dropLast, x.answer.isSome) :
    (xs.flatMap Exchange.messages).IsChain NotBothUser := by
  induction xs with
  | nil => exact List.IsChain.nil
  | cons x xs ih =>
    cases xs with
    | nil => simpa using isChain_exchange x
    | cons y ys =>
      rw [List.dropLast_cons_cons] at hxs
      rw [List.flatMap_cons]
      refine (isChain_exchange x).append
        (ih fun z hz => hxs z (List.mem_cons_of_mem _ hz)) fun m hm m' _ h => ?_
      -- The exchange before has got an answer, so its last words are not the user's.
      obtain ⟨m₀, hm₀, hrole⟩ := exists_last_message x
      obtain rfl : m₀ = m := Option.some.inj (hm₀.symm.trans hm)
      have hnone := (lastRole_eq_user_iff x).mp (hrole ▸ h.1)
      have hsome := hxs x (List.mem_cons_self ..)
      rw [hnone] at hsome
      exact Bool.false_ne_true hsome

/-! ### Runs from a new conversation -/

theorem Grammar.messages (h : Grammar p c xs) :
    c.history.messages = .system p :: xs.flatMap Exchange.messages := by
  rw [History.messages, History.systemMessage, h.systemPrompt, h.later]

/-- The newest message is the last one of the last exchange. -/
theorem Grammar.last_role (h : Grammar p c xs) :
    c.history.last.role = (xs.getLast?.map Exchange.lastRole).getD .system := by
  cases hlast : xs.getLast? with
  | none =>
    rw [History.last, h.later, List.getLast?_eq_none_iff.mp hlast]
    rfl
  | some x =>
    obtain ⟨m, hm, hrole⟩ := exists_last_message x
    rw [History.last, h.later, ← List.dropLast_append_getLast? x hlast, List.flatMap_append,
      List.flatMap_singleton, List.getLast?_append, hm]
    exact hrole

/-- An idle conversation has had no exchange, and no other conversation has. -/
theorem Grammar.idle_iff (h : Grammar p c xs) : c.state = .idle ↔ xs = [] := by
  have hfits := h.fits
  constructor
  · intro hs
    rw [hs] at hfits
    exact List.getLast?_eq_none_iff.mp hfits
  · rintro rfl
    cases hs : c.state with
    | idle => rfl
    | awaitingAiResponse =>
      rw [hs] at hfits
      exact hfits.elim
    | _ =>
      rw [hs] at hfits
      obtain ⟨_, hx, _⟩ := hfits
      cases hx

theorem flatMap_messages_eq_nil_iff : xs.flatMap Exchange.messages = [] ↔ xs = [] := by
  cases xs <;> simp [Exchange.messages]

/-- After an exchange the state and the last role belong together. -/
theorem Grammar.state_last (h : Grammar p c xs) :
    match c.state with
    | .idle => c.history.last.role = .system
    | .awaitingAiResponse => False
    | .awaitingApproval => c.history.last.role = .assistant
    | .executingTask => c.history.last.role = .tool
    | .aiError => c.history.last.role = .user ∨ c.history.last.role = .tool := by
  have hfits := h.fits
  have hlast := h.last_role
  cases hs : c.state <;> rw [hs] at hfits
  · rw [hlast, show xs.getLast? = none from hfits]
    rfl
  · exact hfits
  all_goals
    obtain ⟨x, hx, hrole⟩ := hfits
    rw [hx] at hlast
    rw [hlast]
    exact hrole

/-- **The grammar of a history**, after every run of commands of a new conversation.

* The history is the message of the system, followed by the exchanges since the conversation last
  started afresh: words of the user, an answer, and one message for each of its calls of tools, in
  order.  Only the last exchange may be without an answer.
* So the system speaks at the beginning and nowhere else, and the user never speaks twice in a row.
* The state says how the history ends: the conversation is idle just if there is only the message of
  the system; it waits for approval after an answer and goes on with a task after the output of a
  tool; it is in error after the output of a tool or after words that got no answer, which are found
  at the end in this state only.
* No answer is waited for any more, and the screen says so. -/
theorem obeyAll_grammar (registry : Registry) (disk : Files.Disk) (executor : Tool.Executor)
    (systemPrompt : String) (attachment : Option Attachment) (focus : Context.Focus)
    (commands : List Command) :
    let start := fresh registry disk executor systemPrompt attachment focus
    let c := start.obeyAll commands
    let xs := start.noteAll [] commands
    c.history.messages = .system systemPrompt :: xs.flatMap Exchange.messages ∧
    (∀ x ∈ xs, x.replies.length = (callsOf x.answer).length) ∧
    (∀ x ∈ xs.dropLast, x.answer.isSome) ∧
    (∀ i m, c.history.messages[i]? = some m → (m.role = .system ↔ i = 0)) ∧
    c.history.messages.IsChain NotBothUser ∧
    (c.state = .idle ↔ c.history.messages = [.system systemPrompt]) ∧
    (c.state = .awaitingApproval → c.history.last.role = .assistant) ∧
    (c.state = .executingTask → c.history.last.role = .tool) ∧
    (c.state = .aiError → c.history.last.role = .user ∨ c.history.last.role = .tool) ∧
    (c.history.last.role = .user → c.state = .aiError) ∧
    c.state ≠ .awaitingAiResponse ∧ c.screen.processing = false := by
  intro start c xs
  have h : Grammar systemPrompt c xs :=
    obeyAll_keeps_grammar (fresh_grammar registry disk executor systemPrompt attachment focus) _
  -- The role of the last message is told by the state alone.
  have hlast := h.state_last
  refine ⟨h.messages, fun x _ => x.complete, h.answered, ?_, ?_, ?_, ?_, ?_, ?_, ?_, ?_,
    h.processing⟩
  · intro i m hm
    rw [h.messages] at hm
    -- The system prompt comes first, and no exchange has a message of its role.
    cases i with
    | zero => simp [← Option.some.inj hm, Message.system]
    | succ i => simpa using role_ne_system (List.mem_of_getElem? hm)
  · rw [h.messages, List.isChain_cons]
    exact ⟨fun m _ hboth => Role.noConfusion hboth.1, isChain_messages h.answered⟩
  · rw [h.messages, List.cons_eq_cons, flatMap_messages_eq_nil_iff, h.idle_iff]
    exact ⟨fun hx => ⟨rfl, hx⟩, And.right⟩
  · intro hs
    rwa [hs] at hlast
  · intro hs
    rwa [hs] at hlast
  · intro hs
    rwa [hs] at hlast
  · intro huser
    rw [huser] at hlast
    cases hs : c.state with
    | aiError => rfl
    | _ =>
      rw [hs] at hlast
      cases hlast
  · intro hs
    rwa [hs] at hlast

end Conversation

end Colloquy
