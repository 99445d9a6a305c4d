import Colloquy.Chat.Message
import Colloquy.Proofs.Json.ReadBack
import Colloquy.Provider.Completion
import Colloquy.Provider.ModelInfo

/-!
# Round trips

Whatever is written as a JSON text is read from it as what it was.  For each type there are two
facts: its shape reads its values back in normal form (`ReadsBack`), and the normal form of a value
is taken as this value.  Two of the types are not written in normal form: a message without a name
has no member for it, whereas the normal form has null there, and an answer holds calls of tools,
which are taken one by one.

* `read_write_of_readsBack`: reading undoes writing if these two facts hold;
* `roundTrips_wireTypes`: what is written is read as what it was, and what is read from any text
  is written as a text that stays what it is.
-/

namespace Colloquy

open Json

/-! ### Entries of dictionaries -/

namespace Json

theorem texts?_textMembers (l : List (String × String)) :
    texts? (ReadsBack.textMembers l) = some l := by
  induction l with
  | nil => rfl
  | cons e l ih =>
    change (texts? (ReadsBack.textMembers l)).map (fun l => (e.1, e.2) :: l) = some (e :: l)
    rw [ih]
    rfl

@[simp]
theorem dictionary?_ofDictionary (d : Dictionary String) :
    dictionary? (ofDictionary d) = some d := by
  change (texts? (ReadsBack.textMembers d.entries)).map Dictionary.ofList = some d
  rw [texts?_textMembers, Option.map_some, Dictionary.ofList_entries]

@[simp]
theorem optionalText?_ofOptionalText (s : Option String) :
    optionalText? (ofOptionalText s) = some s := by
  cases s <;> rfl

end Json

/-! ### From values to texts -/

namespace Wire

variable {α : Type} [Wire α]

/-- Reading undoes writing if the shape reads back what is written and the normal form is taken as
the value. -/
theorem read_write_of_readsBack {x : α} {levels : Nat} {n : Json}
    (h : ReadsBack (Wire.shape α) levels (Wire.encode x) n) (hlevels : levels < maxDepth)
    (hdecode : Wire.decode? n = some x) : Wire.read (Wire.write x) = .ok x := by
  rw [Wire.read, Wire.write, h.parse hlevels]
  simp only [hdecode]

/-- What is written is read as what it was; and what is read from any text, however that text was
spelled, is written as a text that is read as the same and written as the same text again. -/
structure RoundTrips (α : Type) [Wire α] : Prop where
  read_write : ∀ x : α, Wire.read (Wire.write x) = .ok x
  settles : ∀ (t : String) (x : α), Wire.read t = .ok x →
    Wire.read (Wire.write x) = .ok x ∧
      ∀ y : α, Wire.read (Wire.write x) = .ok y → Wire.write y = Wire.write x

/-- The second half follows from the first. -/
theorem RoundTrips.of_read_write (h : ∀ x : α, Wire.read (Wire.write x) = .ok x) :
    RoundTrips α where
  read_write := h
  settles _ x _ := by
    refine ⟨h x, fun y hy => ?_⟩
    obtain rfl : x = y := Except.ok.inj ((h x).symm.trans hy)
    rfl

end Wire

/-! ### Words -/

theorem Role.word_mem (r : Role) : r.word ∈ Role.all.map Role.word := by
  cases r <;> decide

theorem Role.readsBack (levels : Nat) (r : Role) :
    ReadsBack Role.shape levels r.encode r.encode :=
  .choice levels r.word_mem

@[simp]
theorem Role.decode?_encode (r : Role) : Role.decode? r.encode = some r := by
  cases r <;> decide

namespace Provider

theorem CompletionStatus.readsBack (levels : Nat) (s : CompletionStatus) :
    ReadsBack CompletionStatus.shape levels s.encode s.encode :=
  .choice levels (by cases s <;> decide)

@[simp]
theorem CompletionStatus.decode?_encode (s : CompletionStatus) :
    CompletionStatus.decode? s.encode = some s := by
  cases s <;> decide

end Provider

/-! ### Records -/

namespace Message

/-- A message with a member for its name, be there one or not. -/
def normal (m : Message) : Json :=
  .object [("role", m.role.encode), ("content", .text m.content),
    ("name", ofOptionalText m.name)]

theorem readsBack (levels : Nat) (m : Message) :
    ReadsBack Message.shape (levels + 1) m.encode m.normal := by
  obtain ⟨role, content, name⟩ := m
  cases name with
  | none =>
    exact .record (by decide) <| .field (role.readsBack levels) <| .field (.text levels content) <|
      .absent rfl .nil
  | some name =>
    exact .record (by decide) <| .field (role.readsBack levels) <| .field (.text levels content) <|
      .field (.optionalText levels (some name)) .nil

theorem decode?_normal (m : Message) : Message.decode? m.normal = some m := by
  simp [normal, Message.decode?]

end Message

namespace Provider

theorem ToolDefinition.readsBack (levels : Nat) (d : ToolDefinition) :
    ReadsBack ToolDefinition.shape (levels + 1) d.encode d.encode :=
  .record (by decide) <| .field (.text levels d.name) <| .field (.text levels d.description) <|
    .field (.text levels d.schema) .nil

theorem ToolCall.readsBack (levels : Nat) (c : ToolCall) :
    ReadsBack ToolCall.shape (levels + 1) c.encode c.encode :=
  .record (by decide) <| .field (.text levels c.id) <| .field (.text levels c.name) <|
    .field (.text levels c.arguments) .nil

theorem ToolCall.mapM_decode? (l : List ToolCall) :
    (l.map ToolCall.encode).mapM ToolCall.decode? = some l := by
  induction l with
  | nil => rfl
  | cons c l ih =>
    rw [List.map_cons, List.mapM_cons, ih]
    rfl

theorem ModelInfo.readsBack (levels : Nat) (m : ModelInfo) :
    ReadsBack ModelInfo.shape (levels + 2) m.encode m.encode :=
  .record (by decide) <| .field (.text _ m.id) <| .field (.text _ m.name) <|
    .field (.text _ m.provider) <| .field (.text _ m.version) <|
    .field (.dictionary levels m.capabilities) <| .field (.flag _ m.isLocal) <|
    .field (.natural _ (Nat.le_refl 64) "usize" m.contextWindow.toNat_lt) <|
    .field (.dictionary levels m.additional) .nil

theorem ModelInfo.decode?_encode (m : ModelInfo) : ModelInfo.decode? m.encode = some m := by
  simp [ModelInfo.encode, ModelInfo.decode?, ofNat]

theorem Completion.readsBack (levels : Nat) (c : Completion) :
    ReadsBack Completion.shape (levels + 3) c.encode c.encode := by
  have hcalls : List.Forall₂ (ReadsBack ToolCall.shape (levels + 1))
      (c.toolCalls.map ToolCall.encode) (c.toolCalls.map ToolCall.encode) :=
    List.forall₂_same.mpr fun j hj => by
      obtain ⟨call, -, rfl⟩ := List.mem_map.mp hj
      exact call.readsBack levels
  exact .record (by decide) <| .field (c.status.readsBack _) <| .field (.text _ c.content) <|
    .field (.list hcalls) <| .field (.text _ c.errorMessage) <|
    .field (.dictionary (levels + 1) c.metadata) .nil

theorem Completion.decode?_encode (c : Completion) : Completion.decode? c.encode = some c := by
  simp only [Completion.encode, Completion.decode?, ToolCall.mapM_decode?,
    CompletionStatus.decode?_encode, dictionary?_ofDictionary]
  rfl

end Provider

/-! ### All of them -/

open Wire Provider in
/-- **Whatever is written is read as what it was.**  This holds of every value of the types that go
over the wire; and what is read from any text is written as a text that stays what it is. -/
theorem Wire.roundTrips_wireTypes :
    RoundTrips Role ∧ RoundTrips Message ∧ RoundTrips ToolCall ∧ RoundTrips ToolDefinition ∧
      RoundTrips ModelInfo ∧ RoundTrips CompletionStatus ∧ RoundTrips Completion :=
  ⟨.of_read_write fun r => read_write_of_readsBack (r.readsBack 0) (by decide) r.decode?_encode,
    .of_read_write fun m => read_write_of_readsBack (m.readsBack 0) (by decide) m.decode?_normal,
    .of_read_write fun c => read_write_of_readsBack (c.readsBack 0) (by decide) rfl,
    .of_read_write fun d => read_write_of_readsBack (d.readsBack 0) (by decide) rfl,
    .of_read_write fun m => read_write_of_readsBack (m.readsBack 0) (by decide) m.decode?_encode,
    .of_read_write fun s => read_write_of_readsBack (s.readsBack 0) (by decide) s.decode?_encode,
    .of_read_write fun c => read_write_of_readsBack (c.readsBack 0) (by decide) c.decode?_encode⟩

end Colloquy
