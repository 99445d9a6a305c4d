import Colloquy.Json.Wire

/-!
# Messages

A message of a conversation: who says it, what is said, and for the output of a tool the name of
the tool.
-/

namespace Colloquy

/-- Who a message comes from. -/
inductive Role where
  | system
  | user
  | assistant
  | tool
deriving DecidableEq, Repr

namespace Role

/-- The word for a role. -/
def word : Role → String
  | system => "system"
  | user => "user"
  | assistant => "assistant"
  | tool => "tool"

/-- All roles. -/
def all : List Role := [system, user, assistant, tool]

/-- The role that a word stands for. -/
def ofWord? (s : String) : Option Role :=
  all.find? fun r => r.word == s

/-- The JSON form of a role. -/
def shape : Json.Shape := .choice (all.map word)

/-- A role as a JSON value. -/
def encode (r : Role) : Json := .text r.word

/-- A JSON value as a role. -/
def decode? : Json → Option Role
  | .text s => ofWord? s
  | _ => none

instance : Wire Role := ⟨shape, encode, decode?⟩

end Role

/-- A message of a conversation. -/
structure Message where
  role : Role
  content : String
  /-- The tool whose output the message is. -/
  name : Option String
deriving DecidableEq, Repr

namespace Message

/-- What the conversation is about and how it is to be led. -/
def system (content : String) : Message := ⟨.system, content, none⟩

/-- What the user says. -/
def user (content : String) : Message := ⟨.user, content, none⟩

/-- What the provider answers. -/
def assistant (content : String) : Message := ⟨.assistant, content, none⟩

/-- What a tool has given. -/
def tool (name content : String) : Message := ⟨.tool, content, some name⟩

/-- The JSON form of a message. -/
def shape : Json.Shape :=
  .record "Message" [⟨"role", .required, Role.shape⟩, ⟨"content", .required, .text⟩,
    ⟨"name", .default .null, .optional .text⟩]

/-- A message as a JSON value; a message without a name has no such member. -/
def encode (m : Message) : Json :=
  .object ([("role", m.role.encode), ("content", .text m.content)] ++
    match m.name with
    | none => []
    | some name => [("name", .text name)])

/-- A JSON value as a message. -/
def decode? : Json → Option Message
  | .object [("role", role), ("content", .text content), ("name", name)] => do
    return { content
             role := ← Role.decode? role
             name := ← Json.optionalText? name }
  | _ => none

instance : Wire Message := ⟨shape, encode, decode?⟩

end Message

end Colloquy
