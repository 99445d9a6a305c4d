import Colloquy.Text.LetterTables

/-!
# Letters

`isLetter` is the class of Unicode's letters, with the numbers that are letters.  `isContinuation`
holds of the other characters that may stand in a name, though not at its beginning.
-/

namespace Colloquy.Text

/-- Whether a character is a letter. -/
def isLetter (c : Char) : Bool :=
  c.isAlpha || letterRanges.any fun r => r.1 ≤ c.toNat && c.toNat ≤ r.2

/-- Whether a character may go on with a name that letters begin. -/
def isContinuation (c : Char) : Bool :=
  c.isDigit || c == '_' || c == '^' || c == '\x60' ||
    continuationRanges.any fun r => r.1 ≤ c.toNat && c.toNat ≤ r.2

end Colloquy.Text
