/-!
# Places in a YAML text

A `Cursor` is a place in a text: what is left of the text, and the line and the column where that
begins.  In YAML the column of a word says what the word belongs to, and a tab at the beginning of a
line says nothing, so a cursor also knows whether there were only blanks before it on its line.
-/

namespace Colloquy.Yaml

/-! ### Characters -/

/-- Whether a character is a blank within a line. -/
def isBlank (c : Char) : Bool :=
  c == ' ' || c == '\t'

/-- Whether a character ends a line. -/
def isBreak (c : Char) : Bool :=
  c == '\n' || c == '\r'

/-- Whether a character separates the items of a list in brackets or a mapping in braces. -/
def isFlowMark (c : Char) : Bool :=
  c == ',' || c == '[' || c == ']' || c == '\x7b' || c == '\x7d'

/-- Whether a word ends before a character, or because the text does. -/
def endsWord : Option Char → Bool
  | none => true
  | some c => isBlank c || isBreak c

/-! ### Cursors -/

/-- A place in a text. -/
structure Cursor where
  rest : List Char
  /-- The number of characters before the place. -/
  index : Nat := 0
  line : Nat := 0
  column : Nat := 0
  /-- Whether there are only blanks before the place on its line. -/
  fresh : Bool := true
deriving Repr

namespace Cursor

/-- The character at a place. -/
def char? (c : Cursor) : Option Char :=
  c.rest.head?

/-- The character after the one at a place. -/
def next? (c : Cursor) : Option Char :=
  c.rest.tail.head?

/-- Whether a line ends at a place, or the text. -/
def endsLine (c : Cursor) : Bool :=
  c.char?.all isBreak

/-- The place after so many blanks. -/
def passBlanks (n : Nat) (c : Cursor) : Cursor :=
  { c with rest := c.rest.drop n, index := c.index + n, column := c.column + n }

/-- The place after so many characters within a line. -/
def pass (n : Nat) (c : Cursor) : Cursor :=
  { c.passBlanks n with fresh := c.fresh && n == 0 }

/-- The place after a line end. -/
def passBreak (c : Cursor) : Cursor :=
  let n := match c.rest with
    | '\r' :: '\n' :: _ => 2
    | _ => 1
  { c.passBlanks n with line := c.line + 1, column := 0, fresh := true }

/-- The place after all characters up to the end of the line. -/
def passLine (c : Cursor) : Cursor :=
  c.pass (c.rest.takeWhile fun d => !isBreak d).length

/-- Whether three of a character stand alone at the beginning of a line. -/
def atMarkOf (d : Char) (c : Cursor) : Bool :=
  c.column == 0 && c.rest.take 3 == [d, d, d] && endsWord (c.rest.drop 3).head?

/-- Whether the mark of the beginning or of the end of a document is here. -/
def atMark (c : Cursor) : Bool :=
  c.atMarkOf '-' || c.atMarkOf '.'

end Cursor

/-- What comes after the blanks and the comment at the end of a line. -/
structure LineTail where
  cursor : Cursor
  /-- Whether there were tabs among the blanks. -/
  tabs : Bool
  /-- Whether there were spaces among the blanks. -/
  spaces : Bool

/-- Skips blanks, and a comment if it is set apart by some. -/
def Cursor.skipTail? (c : Cursor) : Option LineTail :=
  let blanks := c.rest.takeWhile isBlank
  let after := c.passBlanks blanks.length
  let tail := fun c : Cursor => LineTail.mk c (blanks.contains '\t') (blanks.contains ' ')
  if after.char? == some '#' then
    if blanks.isEmpty then none else some (tail after.passLine)
  else some (tail after)

/-- Skips blanks and a comment, after which a line has to end. -/
def Cursor.skipToLineEnd? (c : Cursor) : Option Cursor := do
  let tail ← c.skipTail?
  if tail.cursor.endsLine then return tail.cursor else none

end Colloquy.Yaml
