import Colloquy.Yaml.Scalar

/-!
# YAML tokens

A text is cut into tokens, which say where mappings and sequences begin and end, be that by brackets
or by indentation.  `Token.scan?` gives the tokens of a whole text, or nothing if there is a place
where no token can be.

The key of a mapping is known for one only when its colon is found.  Until then a `PossibleKey`
remembers where it began, and what has to stand before it is inserted afterwards.
-/

namespace Colloquy.Yaml

/-! ### Tokens -/

/-- A token of a YAML text. -/
inductive Token where
  /-- What version of YAML a document is in. -/
  | version
  /-- What a handle of tags stands for. -/
  | handle (name stem : String)
  | documentStart
  | documentEnd
  | sequenceStart
  | mappingStart
  /-- The end of a sequence or mapping that is shown by indentation. -/
  | blockEnd
  /-- An item of a sequence that is shown by indentation. -/
  | entry
  | flowSequenceStart
  | flowSequenceEnd
  | flowMappingStart
  | flowMappingEnd
  | flowEntry
  | key
  | value
  /-- A node that has been named before. -/
  | alias (name : String)
  /-- The name of the node that comes next. -/
  | anchor (name : String)
  | tag (handle rest : String)
  | scalar (plain : Bool) (text : String)
deriving DecidableEq, Repr

/-- Where a key may have begun. -/
structure PossibleKey where
  /-- The number of tokens before it. -/
  position : Nat
  /-- Its first character. -/
  cursor : Cursor
  /-- Whether nothing but a key can be there. -/
  required : Bool

/-- An indentation that has been left for a wider one. -/
structure Indent where
  column : Int
  /-- Whether the wider one is that of a sequence or a mapping. -/
  block : Bool
deriving DecidableEq, Repr

/-- A text that is being cut into tokens. -/
structure Scanner where
  cursor : Cursor
  tokens : List Token := []
  /-- Where keys may have begun: outside of brackets, and in each pair of brackets, the inmost
  first. -/
  keys : List (Option PossibleKey) := [none]
  indents : List Indent := []
  indent : Int := -1
  /-- Whether a key may begin here. -/
  keyAllowed : Bool := true
  /-- Where a colon needs nothing behind it. -/
  adjacent : Nat := 0

namespace Scanner

/-! ### Small steps -/

/-- Whether the place is in brackets. -/
def inFlow (s : Scanner) : Bool :=
  1 < s.keys.length

/-- Adds a token at the end. -/
def add (t : Token) (s : Scanner) : Scanner :=
  { s with tokens := s.tokens ++ [t] }

/-- Adds a token at the end, or at a position before it. -/
def addAt (position : Option Nat) (t : Token) (s : Scanner) : Scanner :=
  match position with
  | none => s.add t
  | some n => { s with tokens := s.tokens.take n ++ t :: s.tokens.drop n }

/-- Goes to another place. -/
def goTo (c : Cursor) (s : Scanner) : Scanner :=
  { s with cursor := c }

/-- Remembers that a key may begin here. -/
def saveKey (s : Scanner) : Scanner :=
  if s.keyAllowed then
    let required := !s.inFlow && s.indent == s.cursor.column && s.indents.head?.any (·.block)
    { s with keys := some ⟨s.tokens.length, s.cursor, required⟩ :: s.keys.tail }
  else s

/-- Gives up the key that may have begun. -/
def dropKey? (s : Scanner) : Option Scanner :=
  match s.keys.head?.join with
  | some k => if k.required then none else some { s with keys := none :: s.keys.tail }
  | none => some s

/-- Whether a key is too far away for a colon to belong to it. -/
def isStale (s : Scanner) (k : PossibleKey) : Bool :=
  k.cursor.line < s.cursor.line || k.cursor.index + 1024 < s.cursor.index

/-- Gives up the key that may have begun if it is too far away. -/
def dropStaleKey? (s : Scanner) : Option Scanner :=
  match s.keys.head?.join with
  | some k => if !s.inFlow && s.isStale k then s.dropKey? else some s
  | none => some s

/-- The ends of what is indented more than a column, and the indentations that are left. -/
def unrolled (column : Int) : Int → List Indent → List Token × Int × List Indent
  | indent, [] => ([], indent, [])
  | indent, i :: rest =>
    if column < indent then
      let (tokens, left) := unrolled column i.column rest
      ((if i.block then [Token.blockEnd] else []) ++ tokens, left)
    else ([], indent, i :: rest)

/-- Ends what is indented more than a column. -/
def unroll (column : Int) (s : Scanner) : Scanner :=
  if s.inFlow then s
  else
    let (tokens, indent, indents) := unrolled column s.indent s.indents
    { s with tokens := s.tokens ++ tokens, indent, indents }

/-- Leaves the indentations that are not those of a sequence or a mapping. -/
def leaveInner (s : Scanner) : Scanner :=
  match s.indents with
  | i :: rest => if i.block then s else { s with indent := i.column, indents := rest }
  | [] => s

/-- Asks for one column more than the sequence or mapping around. -/
def enterInner (s : Scanner) : Scanner :=
  if !s.inFlow && s.indents.head?.any (·.block) then
    { s with indents := ⟨s.indent, false⟩ :: s.indents, indent := s.indent + 1 }
  else s

/-- Begins a sequence or a mapping at a column, unless one has begun there. -/
def roll (column : Nat) (position : Option Nat) (t : Token) (s : Scanner) : Scanner :=
  if s.inFlow then s
  else
    let s := if s.indent ≤ column then s.leaveInner else s
    if s.indent < column then
      { s with indents := ⟨s.indent, true⟩ :: s.indents, indent := column }.addAt position t
    else s

/-! ### Between tokens -/

/-- Skips blanks, comments and line ends, at most `fuel` characters and comments.  There may be no
tab in an indentation. -/
def skip? (s : Scanner) : Nat → Option Scanner
  | 0 => some s
  | fuel + 1 =>
    let c := s.cursor
    match c.char? with
    | none => some s
    | some d =>
      if d = '\t' && !s.indents.isEmpty && c.fresh && (c.column : Int) < s.indent then do
        (s.goTo (← c.skipToLineEnd?)).skip? fuel
      else if isBlank d then (s.goTo (c.passBlanks 1)).skip? fuel
      else if isBreak d then
        { s with cursor := c.passBreak, keyAllowed := s.keyAllowed || !s.inFlow }.skip? fuel
      else if d = '#' then (s.goTo c.passLine).skip? fuel
      else some s

/-- Skips blanks, comments and line ends. -/
def skipToToken? (s : Scanner) : Option Scanner :=
  s.skip? (s.cursor.rest.length + 1)

/-- Skips what comes after a token on its line. -/
def skipTail? (s : Scanner) : Option Scanner := do
  return s.goTo (← s.cursor.skipTail?).cursor

/-- Goes past so many characters. -/
def pass (n : Nat) (s : Scanner) : Scanner :=
  s.goTo (s.cursor.pass n)

/-! ### Directives and marks -/

/-- Reads the version that a directive names. -/
def readVersion? (c : Cursor) : Option Cursor := do
  let c := c.passBlanks (c.rest.takeWhile isBlank).length
  let major := (c.rest.takeWhile Char.isDigit).length
  let c := c.pass major
  if major = 0 || c.char? != some '.' then none
  else
    let c := c.pass 1
    let minor := (c.rest.takeWhile Char.isDigit).length
    if minor = 0 then none else return c.pass minor

/-- Whether a character may stand in the name of a handle or a directive. -/
def isHandleChar (c : Char) : Bool :=
  c.isAlphanum || c == '-' || c == '_'

/-- Whether a character may stand in an address. -/
def isAddressChar (c : Char) : Bool :=
  c.isAlphanum || "-#;/?:@&=+$,_.!~*'()[]%".toList.contains c

/-- Whether a character may stand in a tag. -/
def isTagChar (c : Char) : Bool :=
  isAddressChar c && !isFlowMark c && c != '!'

/-- The length of the handle at the front of a text, with its exclamation marks. -/
def handleLength (cs : List Char) : Nat :=
  let name := (cs.tail.takeWhile isHandleChar).length
  if (cs.drop (name + 1)).head? == some '!' then name + 2 else name + 1

/-- Reads a handle of tags and what it stands for. -/
def readHandle? (c : Cursor) : Option (Token × Cursor) := do
  let c := c.passBlanks (c.rest.takeWhile isBlank).length
  let name := c.rest.take (handleLength c.rest)
  let c := c.pass name.length
  let blanks := (c.rest.takeWhile isBlank).length
  let c := c.passBlanks blanks
  let stem := c.rest.takeWhile isAddressChar
  let c := c.pass stem.length
  if name.head? != some '!' || name.getLast? != some '!' || blanks = 0 || stem.isEmpty ||
    !endsWord c.char? then none
  else return (.handle (String.ofList name) (String.ofList stem), c)

/-- Reads a directive.  One that is not known means nothing. -/
def readDirective? (c : Cursor) : Option (Token × Cursor) :=
  let c := c.pass 1
  let name := String.ofList (c.rest.takeWhile isHandleChar)
  let after := c.pass name.length
  if name.isEmpty || !endsWord after.char? then none
  else if name = "YAML" then (readVersion? after).map fun c => (.version, c)
  else if name = "TAG" then readHandle? after
  else some (.handle "" "", c.passLine)

/-- Ends everything that is shown by indentation. -/
def endBlocks? (s : Scanner) : Option Scanner := do
  let s ← (s.unroll (-1)).dropKey?
  return { s with keyAllowed := false }

/-- Takes a directive. -/
def takeDirective? (s : Scanner) : Option Scanner := do
  let s ← s.endBlocks?
  let (t, c) ← readDirective? s.cursor
  return (s.add t).goTo (← c.skipToLineEnd?)

/-- Takes the mark of the beginning or of the end of a document. -/
def takeMark? (t : Token) (s : Scanner) : Option Scanner := do
  return ((← s.endBlocks?).pass 3).add t

/-- Takes the mark of the end of a document, after which nothing may come on its line. -/
def takeDocumentEnd? (s : Scanner) : Option Scanner := do
  let s ← s.takeMark? .documentEnd
  return s.goTo (← s.cursor.skipToLineEnd?)

/-! ### Brackets -/

/-- Takes an opening bracket. -/
def takeOpening? (t : Token) (s : Scanner) : Option Scanner := do
  let s := s.saveKey.enterInner
  let s := { s with keys := none :: s.keys, keyAllowed := true }
  return (← (s.pass 1).skipTail?).add t

/-- Takes a closing bracket. -/
def takeClosing? (t : Token) (s : Scanner) : Option Scanner := do
  let s ← s.dropKey?
  let keys := if s.inFlow then s.keys.tail else s.keys
  let s ← ({ s with keys, keyAllowed := false }.pass 1).skipTail?
  return ({ s with adjacent := if s.inFlow then s.cursor.index else s.adjacent }).add t

/-- Takes a comma. -/
def takeComma? (s : Scanner) : Option Scanner := do
  let s ← s.dropKey?
  return (← ({ s with keyAllowed := true }.pass 1).skipTail?).add .flowEntry

/-! ### Entries, keys and values -/

/-- Takes the stroke of an item. -/
def takeEntry? (s : Scanner) : Option Scanner := do
  if s.inFlow || !s.keyAllowed then none
  else
    let s := (s.pass 1).roll s.cursor.column none .sequenceStart
    let tail ← s.cursor.skipTail?
    let c := tail.cursor
    if tail.tabs && c.char? == some '-' && endsWord c.next? then none
    else
      let s := s.goTo c
      let s := if c.char?.any fun d => isBreak d || isFlowMark d then s.enterInner else s
      return { ← s.dropKey? with keyAllowed := true }.add .entry

/-- Skips spaces, comments and line ends; says whether there were spaces or line ends. -/
def skipSpaces (found : Bool) (c : Cursor) : Nat → Bool × Cursor
  | 0 => (found, c)
  | fuel + 1 =>
    match c.char? with
    | some ' ' => skipSpaces true (c.passBlanks 1) fuel
    | some '#' => skipSpaces found c.passLine fuel
    | some d => if isBreak d then skipSpaces true c.passBreak fuel else (found, c)
    | none => (found, c)

/-- Takes a question mark, after which a key comes. -/
def takeKey? (s : Scanner) : Option Scanner := do
  if !s.inFlow && !s.keyAllowed then none
  else
    let s ← (s.roll s.cursor.column none .mappingStart).dropKey?
    let c := s.cursor.pass 1
    let (found, c) := skipSpaces false c (c.rest.length + 1)
    if !found || c.char? == some '\t' then none
    else return { s with cursor := c, keyAllowed := !s.inFlow }.add .key

/-- The place after a colon and, if a tab follows it, the blanks after that.  What is set apart by
tabs alone may not be on the same line as the colon. -/
def passColon? (c : Cursor) : Option Cursor := do
  let c := c.pass 1
  if c.char? == some '\t' then
    let tail ← c.skipTail?
    let attached := tail.cursor.char?.any isHandleChar
    if !tail.spaces && attached then none else return tail.cursor
  else return c

/-- The bracket that is still open after tokens, which are given from the last one on, when `closed`
brackets are to be passed over. -/
def openBracket? (closed : Nat) : List Token → Option Token
  | [] => none
  | t :: tokens =>
    if t = .flowSequenceEnd || t = .flowMappingEnd then openBracket? (closed + 1) tokens
    else if t = .flowSequenceStart || t = .flowMappingStart then
      if closed = 0 then some t else openBracket? (closed - 1) tokens
    else openBracket? closed tokens

/-- Takes a colon, before which a key may have been found.  A key right in a sequence is on the
line of its colon. -/
def takeValue? (s : Scanner) : Option Scanner := do
  let column := s.cursor.column
  let line := s.cursor.line
  let s := s.goTo (← passColon? s.cursor)
  match s.keys.head?.join with
  | some k =>
    if k.cursor.line < line && openBracket? 0 s.tokens.reverse == some .flowSequenceStart then none
    else
      let s := s.addAt (some k.position) .key
      let s := (s.roll k.cursor.column (some k.position) .mappingStart).enterInner
      return { s with keys := none :: s.keys.tail, keyAllowed := false }.add .value
  | none =>
    if !s.inFlow && !s.keyAllowed then none
    else
      let s := (s.roll column none .mappingStart).enterInner
      return { s with keyAllowed := !s.inFlow }.add .value

/-! ### Names and tags -/

/-- Whether a character may stand in the name of a node. -/
def isNameChar (c : Char) : Bool :=
  !isBlank c && !isBreak c && !isFlowMark c

/-- Takes the name of a node, or another node by its name. -/
def takeName? (t : String → Token) (s : Scanner) : Option Scanner :=
  let s := (s.saveKey).pass 1
  let name := s.cursor.rest.takeWhile isNameChar
  if name.isEmpty then none
  else some (({ s with keyAllowed := false }.pass name.length).add (t (String.ofList name)))

/-- Reads a tag that is written in full between angles. -/
def readFullTag? (c : Cursor) : Option (Token × Cursor) :=
  let c := c.pass 2
  let address := c.rest.takeWhile isAddressChar
  let c := c.pass address.length
  if address.isEmpty || c.char? != some '>' then none
  else some (.tag "" (String.ofList address), c.pass 1)

/-- Reads a tag that may begin with a handle. -/
def readShortTag? (c : Cursor) : Option (Token × Cursor) :=
  let handle := c.rest.take (handleLength c.rest)
  let rest := (c.rest.drop handle.length).takeWhile isTagChar
  let c := c.pass (handle.length + rest.length)
  if 2 ≤ handle.length && handle.getLast? == some '!' then
    if rest.isEmpty then none
    else some (.tag (String.ofList handle) (String.ofList rest), c)
  else
    let rest := handle.drop 1 ++ rest
    some (if rest.isEmpty then .tag "" "!" else .tag "!" (String.ofList rest), c)

/-- Takes a tag. -/
def takeTag? (s : Scanner) : Option Scanner := do
  let s := { s.saveKey with keyAllowed := false }
  let c := s.cursor
  let (t, c) ← if c.next? == some '<' then readFullTag? c else readShortTag? c
  if endsWord c.char? || (s.inFlow && c.char?.any isFlowMark) then return (s.add t).goTo c
  else none

/-! ### Scalars -/

/-- Takes a scalar without quotes. -/
def takePlain? (s : Scanner) : Option Scanner := do
  let s := { s.saveKey with keyAllowed := false }.leaveInner
  let limit := s.indent + 1
  if s.inFlow && (s.cursor.column : Int) < limit then none
  else
    let (text, c) ←
      readPlain? s.inFlow limit (.blanks []) s.cursor (s.cursor.rest.length + 1)
    return { s with cursor := c, keyAllowed := c.fresh }.add (.scalar true (String.ofList text))

/-- Whether something may come after a quoted scalar on its line, which began on line `line`. -/
def mayFollowQuoted (s : Scanner) (line : Nat) : Bool :=
  match s.cursor.char? with
  | none => true
  | some d =>
    isBreak d || (s.inFlow && (d == ',' || d == '\x7d' || d == ']' || d == ':')) ||
      (d == ':' && line == s.cursor.line)

/-- Takes a quoted scalar. -/
def takeQuoted? (quote : Char) (s : Scanner) : Option Scanner := do
  let s := { s.saveKey with keyAllowed := false }
  let line := s.cursor.line
  let (text, c) ← readQuoted? quote s.indent (s.cursor.pass 1) (s.cursor.rest.length + 1)
  let s ← (s.goTo c).skipTail?
  if s.mayFollowQuoted line then
    let s ← s.skipToToken?
    return { s with adjacent := s.cursor.index }.add (.scalar false (String.ofList text))
  else none

/-- Takes a block. -/
def takeBlock? (literal : Bool) (s : Scanner) : Option Scanner := do
  let s := { s.saveKey with keyAllowed := true }.leaveInner
  let (text, c) ← readBlock? literal s.indent (s.cursor.pass 1)
  return (s.goTo c).add (.scalar false (String.ofList text))

/-! ### All tokens -/

/-- Whether a colon at the place comes before a value. -/
def atValue (s : Scanner) : Bool :=
  endsWord s.cursor.next? ||
    (s.inFlow && (s.cursor.next?.any isFlowMark || s.cursor.index == s.adjacent))

/-- Takes the token at the place. -/
def take? (s : Scanner) : Option Scanner :=
  match s.cursor.char? with
  | none => none
  | some d =>
    let apart := endsWord s.cursor.next?
    if d = '%' && s.cursor.column = 0 then s.takeDirective?
    else if s.cursor.atMarkOf '-' then s.takeMark? .documentStart
    else if s.cursor.atMarkOf '.' then s.takeDocumentEnd?
    -- In a flow collection lines may not be indented less than the block around it.
    else if (s.cursor.column : Int) < s.indent then none
    else if d = '[' then s.takeOpening? .flowSequenceStart
    else if d = '\x7b' then s.takeOpening? .flowMappingStart
    else if d = ']' then s.takeClosing? .flowSequenceEnd
    else if d = '\x7d' then s.takeClosing? .flowMappingEnd
    else if d = ',' then s.takeComma?
    else if d = '-' && apart then s.takeEntry?
    else if d = '?' && apart then s.takeKey?
    else if d = ':' && s.atValue then s.takeValue?
    else if d = '*' then s.takeName? .alias
    else if d = '&' then s.takeName? .anchor
    else if d = '!' then s.takeTag?
    else if d = '|' && !s.inFlow then s.takeBlock? true
    else if d = '>' && !s.inFlow then s.takeBlock? false
    else if d = '"' || d = '\'' then s.takeQuoted? d
    else if d = '%' || d = '@' || d = '\x60' then none
    else s.takePlain?

/-- The tokens of a text that has been read to its end. -/
def finish? (s : Scanner) : Option (List Token) :=
  if s.keys.any fun k => k.any (·.required) then none
  else (s.unroll (-1)).dropKey?.map (·.tokens)

/-- Takes all tokens that are left, at most `fuel` of them. -/
def takeAll? (s : Scanner) : Nat → Option (List Token)
  | 0 => none
  | fuel + 1 => do
    let s ← (← s.skipToToken?).dropStaleKey?
    let s := s.unroll s.cursor.column
    if s.cursor.rest.isEmpty then s.finish? else (← s.take?).takeAll? fuel

end Scanner

/-- The tokens of a text. -/
def Token.scan? (cs : List Char) : Option (List Token) :=
  Scanner.takeAll? { cursor := { rest := cs } } (cs.length + 2)

end Colloquy.Yaml
