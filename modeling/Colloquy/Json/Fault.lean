import Colloquy.Decimal.Shortest
import Colloquy.Text.Quoted
import Colloquy.Json.Value

/-!
# What can be wrong with a JSON text

A text can break the grammar, can end too early, or can be good JSON that is not what was asked
for.  A `Cause` says which; its message is the sentence a person reads.  A `Fault` is a cause
together with how much of the text was still unread when it was found, from which `Fault.place`
computes line and column.
-/

namespace Colloquy.Json

/-! ### Causes -/

/-- What a value turned out to be. -/
inductive Found where
  | null
  | bool (b : Bool)
  | number (n : Number)
  | text (s : String)
  | sequence
  | map

/-- A found value in words. -/
def Found.describe : Found → String
  | .null => "null"
  | .bool b => s!"boolean `{b}`"
  | .number (.integer n) => s!"integer `{String.ofList (integerChars n)}`"
  | .number n => s!"floating point `{String.ofList (numberChars n)}`"
  | .text s => s!"string {Text.quoted s}"
  | .sequence => "sequence"
  | .map => "map"

/-- The reason why a JSON text is refused. -/
inductive Cause where
  | endInList
  | endInObject
  | endInText
  | endInValue
  | expectedColon
  | expectedListCommaOrEnd
  | expectedObjectCommaOrEnd
  | expectedIdentifier
  | expectedValue
  | invalidEscape
  | invalidNumber
  | numberOutOfRange
  | controlCharacter
  | nameNotText
  | loneSurrogate
  | trailingComma
  | trailingCharacters
  | endOfHexEscape
  | tooDeep
  | invalidType (found : Found) (expected : String)
  | invalidValue (found : Found) (expected : String)
  | invalidLength (length : Nat) (expected : String)
  | unknownVariant (name : String) (variants : List String)
  | missingField (name : String)
  | duplicateField (name : String)

/-- The alternatives of a choice in words. -/
def describeVariants : List String → String
  | [] => "there are no variants"
  | [a] => s!"expected `{a}`"
  | [a, b] => s!"expected `{a}` or `{b}`"
  | l => "expected one of " ++ ", ".intercalate (l.map fun a => s!"`{a}`")

/-- The sentence that reports a cause, without its place. -/
def Cause.message : Cause → String
  | .endInList => "EOF while parsing a list"
  | .endInObject => "EOF while parsing an object"
  | .endInText => "EOF while parsing a string"
  | .endInValue => "EOF while parsing a value"
  | .expectedColon => "expected `:`"
  | .expectedListCommaOrEnd => "expected `,` or `]`"
  | .expectedObjectCommaOrEnd => "expected `,` or `\x7d`"
  | .expectedIdentifier => "expected ident"
  | .expectedValue => "expected value"
  | .invalidEscape => "invalid escape"
  | .invalidNumber => "invalid number"
  | .numberOutOfRange => "number out of range"
  | .controlCharacter => "control character (\\u0000-\\u001F) found while parsing a string"
  | .nameNotText => "key must be a string"
  | .loneSurrogate => "lone leading surrogate in hex escape"
  | .trailingComma => "trailing comma"
  | .trailingCharacters => "trailing characters"
  | .endOfHexEscape => "unexpected end of hex escape"
  | .tooDeep => "recursion limit exceeded"
  | .invalidType found expected => s!"invalid type: {found.describe}, expected {expected}"
  | .invalidValue found expected => s!"invalid value: {found.describe}, expected {expected}"
  | .invalidLength length expected => s!"invalid length {length}, expected {expected}"
  | .unknownVariant name variants => s!"unknown variant `{name}`, {describeVariants variants}"
  | .missingField name => s!"missing field `{name}`"
  | .duplicateField name => s!"duplicate field `{name}`"

/-- The three ways in which a text can be refused. -/
inductive Category where
  | grammar
  | early
  | data
deriving DecidableEq, Repr

/-- Whether a cause is a breach of the grammar, an early end, or a wrong value. -/
def Cause.category : Cause → Category
  | .endInList | .endInObject | .endInText | .endInValue => .early
  | .invalidType .. | .invalidValue .. | .invalidLength .. | .unknownVariant .. | .missingField ..
  | .duplicateField .. => .data
  | _ => .grammar

/-! ### Places -/

/-- The bytes that a text takes. -/
def byteSize (cs : List Char) : Nat :=
  cs.foldl (fun n c => n + c.utf8Size) 0

/-- A cause, and how many bytes were unread where it was found. -/
structure Fault where
  cause : Cause
  unread : Nat

/-- A fault right before the rest of the text. -/
def Fault.before (cause : Cause) (rest : List Char) : Fault :=
  ⟨cause, byteSize rest⟩

/-- A fault at the first byte of the rest of the text, or at the end if nothing is left. -/
def Fault.at (cause : Cause) (rest : List Char) : Fault :=
  ⟨cause, byteSize rest - 1⟩

/-- The line, counted from one, and the bytes read on it, after reading `read` bytes of a text, when
`line` and `column` are those at its start. -/
def placeFrom (line column : Nat) : List Char → Nat → Nat × Nat
  | [], _ => (line, column)
  | c :: cs, read =>
    if read < c.utf8Size then (line, column + read)
    else if c = '\n' then placeFrom (line + 1) 0 cs (read - 1)
    else placeFrom line (column + c.utf8Size) cs (read - c.utf8Size)

/-- A cause with its place in the text that it was found in. -/
structure Refusal where
  cause : Cause
  line : Nat
  column : Nat

/-- A fault as a refusal of the text. -/
def Fault.place (text : String) (f : Fault) : Refusal :=
  let read := byteSize text.toList - f.unread
  let (line, column) := placeFrom 1 0 text.toList read
  ⟨f.cause, line, column⟩

/-- The sentence that reports a refusal. -/
def Refusal.message (r : Refusal) : String :=
  s!"{r.cause.message} at line {r.line} column {r.column}"

end Colloquy.Json
