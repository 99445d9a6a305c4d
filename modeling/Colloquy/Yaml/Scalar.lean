import Colloquy.Text.Hex
import Colloquy.Yaml.Cursor

/-!
# YAML scalars

The text of a scalar, in each of the ways in which one is written: without quotes, between quotes of
one or two strokes, and as a block of lines, literal or folded.

Within a scalar that is no block, blanks and line ends are one `Gap`: blanks within a line stay, one
line end becomes a space, and of more than one all but the first stay.
-/

namespace Colloquy.Yaml

/-! ### Gaps -/

/-- What stands between two words of a scalar. -/
inductive Gap where
  | blanks (cs : List Char)
  /-- Line ends: `more` of them after the first one, which was escaped or is to be folded. -/
  | breaks (escaped : Bool) (more : Nat)
deriving Repr

/-- The text that a gap stands for. -/
def Gap.text : Gap → List Char
  | blanks cs => cs
  | breaks false 0 => [' ']
  | breaks _ n => List.replicate n '\n'

/-- A gap with another line end after it. -/
def Gap.addBreak : Gap → Gap
  | blanks _ => breaks false 0
  | breaks escaped n => breaks escaped (n + 1)

/-- Reads the rest of a gap, at most `fuel` characters.  A tab to the left of `limit` on a new line
is up to `passTab`. -/
def Gap.read? (passTab : Cursor → Option Cursor) (limit : Int) (gap : Gap) (c : Cursor) :
    Nat → Option (Gap × Cursor)
  | 0 => none
  | fuel + 1 =>
    match c.char? with
    | none => some (gap, c)
    | some d =>
      if isBreak d then gap.addBreak.read? passTab limit c.passBreak fuel
      else if isBlank d then
        match gap with
        | blanks cs => (blanks (cs ++ [d])).read? passTab limit (c.passBlanks 1) fuel
        | breaks .. =>
          if d = '\t' && (c.column : Int) < limit then do
            gap.read? passTab limit (← passTab c) fuel
          else gap.read? passTab limit (c.passBlanks 1) fuel
      else some (gap, c)

/-! ### Scalars without quotes -/

/-- The characters at the front of a text that a scalar without quotes can be made of.  It ends
before a colon that ends a word, and in brackets or braces before what separates the items there. -/
def plainRun (flow : Bool) : List Char → List Char
  | [] => []
  | c :: cs =>
    if isBlank c || isBreak c || (flow && isFlowMark c) then []
    else if c = ':' && (endsWord cs.head? || (flow && cs.head?.any isFlowMark)) then []
    else c :: plainRun flow cs

/-- Reads a scalar without quotes from a word on, which comes after a gap.  It goes on over lines as
long as they begin at `limit` or to the right of it. -/
def readPlain? (flow : Bool) (limit : Int) (gap : Gap) (c : Cursor) :
    Nat → Option (List Char × Cursor)
  | 0 => none
  | fuel + 1 =>
    if c.atMark || c.char? == some '#' then some ([], c)
    else if flow && c.char? == some '-' && c.next?.any isFlowMark then none
    else
      let run := plainRun flow c.rest
      let text := if run.isEmpty then [] else gap.text ++ run
      let c := c.pass run.length
      if !c.char?.any (fun d => isBlank d || isBreak d) then some (text, c)
      else do
        let (gap, c) ← (Gap.blanks []).read? Cursor.skipToLineEnd? limit c (c.rest.length + 1)
        if !flow && (c.column : Int) < limit then return (text, c)
        else
          let (more, c) ← readPlain? flow limit gap c fuel
          return (text ++ more, c)

/-! ### Scalars between quotes -/

/-- The character of an escape after its backslash, and how many characters the escape has. -/
def readEscape? : List Char → Option (Char × Nat)
  | '0' :: _ => some ('\x00', 1)
  | 'a' :: _ => some ('\x07', 1)
  | 'b' :: _ => some ('\x08', 1)
  | 't' :: _ => some ('\t', 1)
  | '\t' :: _ => some ('\t', 1)
  | 'n' :: _ => some ('\n', 1)
  | 'v' :: _ => some ('\x0b', 1)
  | 'f' :: _ => some ('\x0c', 1)
  | 'r' :: _ => some ('\r', 1)
  | 'e' :: _ => some ('\x1b', 1)
  | ' ' :: _ => some (' ', 1)
  | '"' :: _ => some ('"', 1)
  | '/' :: _ => some ('/', 1)
  | '\\' :: _ => some ('\\', 1)
  | 'N' :: _ => some ('\u0085', 1)
  | '_' :: _ => some ('\u00a0', 1)
  | 'L' :: _ => some ('\u2028', 1)
  | 'P' :: _ => some ('\u2029', 1)
  | 'x' :: cs => (Text.readHexChar? 2 cs).map fun x => (x.1, 3)
  | 'u' :: cs => (Text.readHexChar? 4 cs).map fun x => (x.1, 5)
  | 'U' :: cs => (Text.readHexChar? 8 cs).map fun x => (x.1, 9)
  | _ => none

/-- Reads a word of a quoted scalar, up to a gap or a closing quote; says whether an escaped line
end comes after it, which is read with it. -/
def readQuotedWord? (quote : Char) (c : Cursor) : Nat → Option (List Char × Bool × Cursor)
  | 0 => none
  | fuel + 1 =>
    match c.rest with
    | [] => some ([], false, c)
    | d :: rest =>
      if isBlank d || isBreak d then some ([], false, c)
      else if d = quote then
        if quote = '\'' && rest.head? == some quote then
          (readQuotedWord? quote (c.pass 2) fuel).map fun x => (quote :: x.1, x.2)
        else some ([], false, c)
      else if d = '\\' && quote = '"' then
        if rest.head?.any isBreak then some ([], true, (c.pass 1).passBreak)
        else do
          let (e, n) ← readEscape? rest
          let (word, found) ← readQuotedWord? quote (c.pass (n + 1)) fuel
          return (e :: word, found)
      else (readQuotedWord? quote (c.pass 1) fuel).map fun x => (d :: x.1, x.2)

/-- Reads a quoted scalar after its opening quote, up to and with the closing one.  Its lines may
not begin to the left of `limit`. -/
def readQuoted? (quote : Char) (limit : Int) (c : Cursor) : Nat → Option (List Char × Cursor)
  | 0 => none
  | fuel + 1 =>
    if c.atMark || c.rest.isEmpty || (c.column : Int) < limit then none
    else do
      let (word, escaped, c) ← readQuotedWord? quote c (c.rest.length + 1)
      if c.char? == some quote then return (word, c.pass 1)
      else
        let start := if escaped then Gap.breaks true 0 else .blanks []
        let (gap, c) ← start.read? (fun _ => none) limit c (c.rest.length + 1)
        let (more, c) ← readQuoted? quote limit c fuel
        return (word ++ gap.text ++ more, c)

/-! ### Blocks -/

/-- What happens to the line ends after a block. -/
inductive Chomping where
  | strip
  | clip
  | keep
deriving DecidableEq, Repr

/-- Reads how a block is chomped. -/
def readChomping (c : Cursor) : Chomping × Cursor :=
  match c.char? with
  | some '+' => (.keep, c.pass 1)
  | some '-' => (.strip, c.pass 1)
  | _ => (.clip, c)

/-- Reads by how much a block is indented; nothing if its first line shows that. -/
def readIncrement? (c : Cursor) : Option (Nat × Cursor) :=
  match c.char? with
  | some d =>
    if d = '0' then none
    else if d.isDigit then some (d.toNat - '0'.toNat, c.pass 1)
    else some (0, c)
  | none => some (0, c)

/-- Reads the chomping and the increment of a block, in either order. -/
def readBlockHeader? (c : Cursor) : Option (Chomping × Nat × Cursor) :=
  match readChomping c with
  | (.clip, c) => do
    let (n, c) ← readIncrement? c
    let (chomping, c) := if n = 0 then (.clip, c) else readChomping c
    return (chomping, n, c)
  | (chomping, c) => do
    let (n, c) ← readIncrement? c
    return (chomping, n, c)

/-- Skips the indentation of a line, and empty lines before it; gives how many of those there
were. -/
def skipIndent (indent : Nat) (breaks : Nat) (c : Cursor) : Nat → Nat × Cursor
  | 0 => (breaks, c)
  | fuel + 1 =>
    let spaces := (c.rest.takeWhile (· == ' ')).length
    let c := c.passBlanks (min spaces (indent - c.column))
    if c.char?.any isBreak then skipIndent indent (breaks + 1) c.passBreak fuel else (breaks, c)

/-- Skips the indentation of the first line of a block, and empty lines before it; gives the widest
indentation and how many empty lines there were. -/
def skipFirstIndent (widest breaks : Nat) (c : Cursor) : Nat → Nat × Nat × Cursor
  | 0 => (widest, breaks, c)
  | fuel + 1 =>
    let c := c.passBlanks (c.rest.takeWhile (· == ' ')).length
    let widest := max widest c.column
    if c.char?.any isBreak then skipFirstIndent widest (breaks + 1) c.passBreak fuel
    else (widest, breaks, c)

/-- The lines of a block that have been read, and what comes after them. -/
structure BlockLines where
  text : List Char
  /-- Whether the last line has an end. -/
  ended : Bool
  /-- How many empty lines come after it. -/
  breaks : Nat
  cursor : Cursor

/-- What separates two lines of a block with empty lines between them.  In a folded block the line
end between two lines that begin with no blank becomes a space, unless there are empty lines. -/
def lineGap (folded ended : Bool) (breaks : Nat) : List Char :=
  if folded && ended then if breaks = 0 then [' '] else List.replicate breaks '\n'
  else (if ended then ['\n'] else []) ++ List.replicate breaks '\n'

/-- Reads the lines of a block with an indentation, where `ended` says whether there is a line
before them and `blank` whether that began with a blank. -/
def readBlockLines (literal : Bool) (indent : Nat) (ended blank : Bool) (breaks : Nat)
    (c : Cursor) : Nat → BlockLines
  | 0 => ⟨[], ended, breaks, c⟩
  | fuel + 1 =>
    if c.column != indent || c.rest.isEmpty || (indent == 0 && c.atMark) then ⟨[], ended, breaks, c⟩
    else
      let blankHere := c.char?.any isBlank
      let gap := lineGap (!literal && !blank && !blankHere) ended breaks
      let line := c.rest.takeWhile fun d => !isBreak d
      let c := c.passLine
      if c.rest.isEmpty then ⟨gap ++ line, false, 0, c⟩
      else
        let c := c.passBreak
        let (breaks, c) := skipIndent indent 0 c (c.rest.length + 1)
        let more := readBlockLines literal indent true blankHere breaks c fuel
        { more with text := gap ++ line ++ more.text }

/-- The text of a block without lines. -/
def emptyBlock (chomping : Chomping) (ended : Bool) (breaks : Nat) : List Char :=
  if !ended then []
  else match chomping with
    | .strip => []
    | .clip => ['\n']
    | .keep => List.replicate (max breaks 1) '\n'

/-- The line ends after the lines of a block. -/
def blockEnd (chomping : Chomping) (indent : Nat) (b : BlockLines) : List Char :=
  let cut := b.cursor.rest.isEmpty && max indent 1 ≤ b.cursor.column
  let last := if b.ended then ['\n'] else []
  match chomping with
  | .strip => []
  | .clip => last ++ if cut then ['\n'] else []
  | .keep => last ++ (if cut then ['\n'] else []) ++ List.replicate b.breaks '\n'

/-- Reads a block after the character that begins it.  `around` is the indentation of what the block
belongs to. -/
def readBlock? (literal : Bool) (around : Int) (c : Cursor) : Option (List Char × Cursor) := do
  let (chomping, increment, c) ← readBlockHeader? c
  let c ← c.skipToLineEnd?
  let ended := !c.rest.isEmpty
  let c := if ended then c.passBreak else c
  if c.char? == some '\t' then none
  else
    let fuel := c.rest.length + 1
    let (indent, breaks, c) :=
      if increment = 0 then
        let (widest, breaks, c) := skipFirstIndent 0 0 c fuel
        (max widest (around + 1).toNat, breaks, c)
      else
        let indent := around.toNat + increment
        let (breaks, c) := skipIndent indent 0 c fuel
        (indent, breaks, c)
    if c.rest.isEmpty then return (emptyBlock chomping ended breaks, c)
    else if c.column < indent && around < c.column then none
    else
      let b := readBlockLines literal indent false false breaks c fuel
      return (b.text ++ blockEnd chomping indent b, b.cursor)

end Colloquy.Yaml
