import Colloquy.Text.CaseTables

/-!
# Lower case

`lowercase` maps every character of a text by Unicode's lower case mapping.  Two characters are
not mapped one by one: the dotted capital I becomes an i and a combining dot, and a capital sigma
takes its final form when it ends a word, that is, when a cased letter stands before it and none
after it, where both searches pass over the characters of `passedOverRanges`.
-/

namespace Colloquy.Text

/-- Whether a code point lies in one of some ranges. -/
def inRanges (ranges : List (Nat × Nat)) (n : Nat) : Bool :=
  ranges.any fun r => r.1 ≤ n && n ≤ r.2

/-- Whether a search for a cased letter goes past a character. -/
def isPassedOver (c : Char) : Bool :=
  inRanges passedOverRanges c.toNat

/-- Whether a character is a letter with a case. -/
def isCased (c : Char) : Bool :=
  inRanges casedRanges c.toNat

/-- Whether the first character that is not passed over is a cased letter. -/
def meetsCased (cs : List Char) : Bool :=
  match cs.dropWhile isPassedOver with
  | [] => false
  | c :: _ => isCased c

/-- A single character in lower case. -/
def lowerChar (c : Char) : Char :=
  if c.toNat < 0x80 then
    if 0x41 ≤ c.toNat && c.toNat ≤ 0x5A then Char.ofNat (c.toNat + 32) else c
  else match lowerRuns.find? (·.contains c.toNat) with
    | some run => Char.ofNat (Int.toNat (c.toNat + run.distance))
    | none => c

/-- The rest of a text in lower case, when `before` are the characters in front of it, the nearest
first. -/
def lowerFrom (before : List Char) : List Char → List Char
  | [] => []
  | c :: cs =>
    let lowered :=
      if c = 'Σ' then if meetsCased before && !meetsCased cs then ['ς'] else ['σ']
      else if c = 'İ' then ['i', '\u0307']
      else [lowerChar c]
    lowered ++ lowerFrom (c :: before) cs

/-- A text in lower case. -/
def lowercase (s : String) : String :=
  String.ofList (lowerFrom [] s.toList)

end Colloquy.Text
