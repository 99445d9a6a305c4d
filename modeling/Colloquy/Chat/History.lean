import Colloquy.Chat.Message

/-!
# Histories

A history is the messages of a conversation so far.  It starts with a message of the system, which
is never lost; other messages are only added at the end, until all of them are forgotten at once.
-/

namespace Colloquy

/-- The messages of a conversation: the content of the first one, and all later ones. -/
structure History where
  systemPrompt : String
  later : List Message
deriving DecidableEq, Repr

namespace History

/-- A history with nothing but the message of the system. -/
def start (systemPrompt : String) : History := ⟨systemPrompt, []⟩

/-- The first message. -/
def systemMessage (h : History) : Message := .system h.systemPrompt

/-- All messages in order. -/
def messages (h : History) : List Message := h.systemMessage :: h.later

/-- Adds a message at the end. -/
def push (h : History) (m : Message) : History := { h with later := h.later ++ [m] }

/-- Forgets everything but the message of the system. -/
def truncate (h : History) : History := { h with later := [] }

/-- The newest message. -/
def last (h : History) : Message := h.later.getLast?.getD h.systemMessage

/-- How many messages there are. -/
def length (h : History) : Nat := h.later.length + 1

/-- How many messages come from a role. -/
def countRole (h : History) (r : Role) : Nat := h.messages.countP (·.role == r)

@[simp]
theorem messages_start (s : String) : (start s).messages = [.system s] := rfl

@[simp]
theorem messages_push (h : History) (m : Message) :
    (h.push m).messages = h.messages ++ [m] := rfl

@[simp]
theorem messages_truncate (h : History) : h.truncate.messages = [.system h.systemPrompt] := rfl

theorem length_messages (h : History) : h.messages.length = h.length := by
  simp [messages, length]

theorem getLast?_messages (h : History) : h.messages.getLast? = some h.last := by
  cases hl : h.later.getLast? with
  | none => simp [messages, last, List.getLast?_eq_none_iff.1 hl]
  | some m => simp [messages, last, hl, List.getLast?_cons]

end History

end Colloquy
