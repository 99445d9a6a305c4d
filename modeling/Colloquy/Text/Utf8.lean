/-!
# Where bytes stop being text

Bytes are text if they are the UTF-8 encodings of characters, one after the other.  The first byte
of a character says how many bytes follow it and in which range the next one has to be.  `utf8Fault?`
finds the first place where bytes stop being text, together with the number of bytes there that
begin a character without completing it, unless the bytes end before that can be said.
-/

namespace Colloquy.Text

/-- A range of bytes, with both ends. -/
structure ByteRange where
  least : UInt8
  greatest : UInt8
deriving DecidableEq, Repr

/-- Whether a byte is in a range. -/
def ByteRange.contains (r : ByteRange) (b : UInt8) : Bool :=
  r.least ≤ b && b ≤ r.greatest

/-- The bytes that go on with a character. -/
def tailRange : ByteRange := ⟨0x80, 0xBF⟩

/-- The ranges of the bytes that follow the first byte of a character.  They leave out characters
in more bytes than they need, surrogates, and what lies beyond the last character. -/
def followers? (first : UInt8) : Option (List ByteRange) :=
  if first ≤ 0x7F then some []
  else if first < 0xC2 then none
  else if first ≤ 0xDF then some [tailRange]
  else if first = 0xE0 then some [⟨0xA0, 0xBF⟩, tailRange]
  else if first = 0xED then some [⟨0x80, 0x9F⟩, tailRange]
  else if first ≤ 0xEF then some [tailRange, tailRange]
  else if first = 0xF0 then some [⟨0x90, 0xBF⟩, tailRange, tailRange]
  else if first ≤ 0xF3 then some [tailRange, tailRange, tailRange]
  else if first = 0xF4 then some [⟨0x80, 0x8F⟩, tailRange, tailRange]
  else none

/-- A place where bytes stop being text. -/
structure Utf8Fault where
  /-- The number of bytes before it, which are text. -/
  index : Nat
  /-- The number of bytes that no text goes on with; nothing if the bytes end too early. -/
  length : Option Nat
deriving DecidableEq, Repr

/-- The sentence that reports a fault. -/
def Utf8Fault.message (f : Utf8Fault) : String :=
  match f.length with
  | some n => s!"invalid utf-8 sequence of {n} bytes from index {f.index}"
  | none => s!"incomplete utf-8 byte sequence from index {f.index}"

/-- The first fault of bytes that go on with a character of which `seen` bytes, from an index on,
have been seen and whose other bytes have to be in the expected ranges. -/
def utf8FaultFrom? (index seen : Nat) : List ByteRange → List UInt8 → Option Utf8Fault
  | expected, [] => if expected.isEmpty then none else some ⟨index, none⟩
  | range :: expected, b :: bs =>
    if range.contains b then utf8FaultFrom? index (seen + 1) expected bs
    else some ⟨index, some seen⟩
  | [], b :: bs =>
    match followers? b with
    | some expected => utf8FaultFrom? (index + seen) 1 expected bs
    | none => some ⟨index + seen, some 1⟩

/-- The first fault of bytes. -/
def utf8Fault? (bytes : List UInt8) : Option Utf8Fault :=
  utf8FaultFrom? 0 0 [] bytes

/-- The text that bytes are. -/
def decodeUtf8 (bytes : List UInt8) : Except Utf8Fault String :=
  match utf8Fault? bytes with
  | some f => .error f
  | none => .ok ((String.fromUTF8? ⟨bytes.toArray⟩).getD "")

/-- A text without the mark at its beginning that says how its bytes are ordered. -/
def withoutMark : List Char → List Char
  | '\uFEFF' :: cs => cs
  | cs => cs

end Colloquy.Text
