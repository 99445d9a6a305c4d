import Colloquy.Decimal.Reading
import Colloquy.Json.Value
import Colloquy.Yaml.Token

/-!
# YAML documents

A document is a node: a scalar, a sequence of nodes, or a mapping of keys to nodes.  A scalar
without quotes is null, a truth value, a number or a text by what it looks like, unless it has a tag;
any other scalar is a text.  The keys of a mapping are texts or integers, each of them once.

`Document.read?` gives the members of the one mapping that a text holds, or nothing if the text
breaks a rule.  A text without a document is a mapping without members.
-/

namespace Colloquy.Yaml

/-! ### Scalars -/

/-- The value of a digit in a base up to sixteen. -/
def digitIn? (base : Nat) (c : Char) : Option Nat :=
  (Text.hexDigit? c).filter (· < base)

/-- The integer of at most 64 bits that digits in a base spell, with an optional sign. -/
def readInteger? (base : Nat) (cs : List Char) : Option Int := do
  let (negative, digits) := Decimal.splitSign cs
  let values ← digits.mapM (digitIn? base)
  let size := values.foldl (fun n d => base * n + d) 0
  let n : Int := if negative then -(size : Int) else size
  if digits.isEmpty || n < -(Nat.pow 2 63 : Int) || (Nat.pow 2 63 : Int) ≤ n then none else return n

/-- The integer that a scalar looks like. -/
def integerLook? : List Char → Option Int
  | '0' :: 'x' :: cs => readInteger? 16 cs
  | '0' :: 'o' :: cs => readInteger? 8 cs
  | '+' :: cs => readInteger? 10 cs
  | cs => readInteger? 10 cs

/-- The words that look like an infinity or like no number. -/
def floatWords : List String :=
  [".inf", ".Inf", ".INF", "+.inf", "+.Inf", "+.INF", "-.inf", "-.Inf", "-.INF", ".nan", "NaN",
    ".NAN"]

/-- Whether a scalar looks like a float. -/
def looksFloat (s : String) : Bool :=
  floatWords.contains s || (s.toList.any Char.isDigit && (Decimal.readDouble? s).isSome)

/-- The float that a scalar spells, for one that looks like a float. -/
def floatOf? (s : String) : Option Json :=
  (Decimal.readDouble? s).map fun x => .number (.double x)

/-- The value that a scalar without quotes looks like. -/
def plainValue? (s : String) : Option Json :=
  if s = "" || s = "~" || s = "null" then some .null
  else if s = "true" then some (.bool true)
  else if s = "false" then some (.bool false)
  else match integerLook? s.toList with
    | some n => some (.number (.integer n))
    | none => if looksFloat s then floatOf? s else some (.text s)

/-- A tag: what its handle stands for, and the rest. -/
structure Tag where
  stem : String
  rest : String
deriving DecidableEq, Repr

/-- What the handle of the tags that everybody knows stands for. -/
def coreStem : String := "tag:yaml.org,2002:"

/-- The value of a scalar without quotes that has a tag.  What does not look like its tag is null.
-/
def taggedValue? (t : Tag) (s : String) : Option Json :=
  if t.stem != coreStem then some (.text s)
  else if t.rest = "bool" then
    some (if s = "true" then .bool true else if s = "false" then .bool false else .null)
  else if t.rest = "int" then
    some (((readInteger? 10 s.toList).map fun n => Json.number (.integer n)).getD .null)
  else if t.rest = "float" then if looksFloat s then floatOf? s else some .null
  else if t.rest = "null" then some .null
  else some (.text s)

/-- The value of a scalar. -/
def scalarValue? (plain : Bool) (tag : Option Tag) (s : String) : Option Json :=
  if !plain then some (.text s)
  else match tag with
    | some t => taggedValue? t s
    | none => plainValue? s

/-! ### Mappings -/

/-- A key of a mapping. -/
inductive Key where
  | text (s : String)
  | integer (n : Int)
deriving DecidableEq, Repr

/-- The key that a node is. -/
def keyOf? : Json → Option Key
  | .text s => some (.text s)
  | .number (.integer n) => some (.integer n)
  | _ => none

/-- How a member with a key is called. -/
def Key.name : Key → String
  | text s => s
  | integer n => toString n

/-- The members of a mapping in the making. -/
abbrev Members := List (Key × Json)

/-- Adds a member; its key has to be new. -/
def addMember? (ms : Members) (key value : Json) : Option Members := do
  let k ← keyOf? key
  if ms.any (·.1 = k) then none else return ms ++ [(k, value)]

/-- A mapping of some members. -/
def mappingOf (ms : Members) : Json :=
  .object (ms.foldl (fun l m => insertEntry m.1.name m.2 l) [])

/-! ### Nodes -/

/-- Tokens that are being read, and what names and handles in them stand for. -/
structure Reader where
  tokens : List Token
  /-- The numbers of the named nodes, those named last first. -/
  names : List (String × Nat) := []
  /-- The named nodes that have been read, by their numbers. -/
  nodes : List (Nat × Json) := []
  handles : List (String × String) := []

namespace Reader

/-- The reader without its first token. -/
def drop (r : Reader) : Reader :=
  { r with tokens := r.tokens.tail }

/-- Whether the next token is one of some tokens. -/
def meets (ts : List Token) (r : Reader) : Bool :=
  r.tokens.head?.any ts.contains

/-- Goes past a token that has to be there. -/
def expect? (t : Token) (r : Reader) : Option Reader :=
  if r.meets [t] then some r.drop else none

/-- The tag with a handle. -/
def resolve? (r : Reader) (handle rest : String) : Option Tag :=
  match findValue? handle r.handles with
  | some stem => some ⟨stem, rest⟩
  | none =>
    if handle = "!!" then some ⟨coreStem, rest⟩
    else if 2 ≤ handle.length then none
    else some ⟨handle, rest⟩

/-- The node with a name; one that is still being read is null. -/
def named? (r : Reader) (name : String) : Option Json := do
  let n ← findValue? name r.names
  return ((r.nodes.find? fun x => x.1 == n).map Prod.snd).getD .null

/-- Gives the next node a name. -/
def enterName (name : String) (r : Reader) : Reader :=
  { r with names := (name, r.names.length) :: r.names }

/-- Remembers a node with a number. -/
def remember (number : Option Nat) (value : Json) (r : Reader) : Reader :=
  match number with
  | some n => { r with nodes := (n, value) :: r.nodes }
  | none => r

/-- Reads the name and the tag of a node, in either order; gives the number of the node and the
tag. -/
def readProperties? (r : Reader) : Option (Option Nat × Option Tag × Reader) :=
  match r.tokens with
  | .anchor name :: .tag handle rest :: _ => do
    let tag ← r.resolve? handle rest
    return (some r.names.length, some tag, (r.enterName name).drop.drop)
  | .tag handle rest :: .anchor name :: _ => do
    let tag ← r.resolve? handle rest
    return (some r.names.length, some tag, (r.enterName name).drop.drop)
  | .anchor name :: _ => some (some r.names.length, none, (r.enterName name).drop)
  | .tag handle rest :: _ => do return (none, some (← r.resolve? handle rest), r.drop)
  | _ => some (none, none, r)

end Reader

mutual

/-- Reads a node.  A node that is shown by indentation is only read where `block` says so, and a
sequence that is not indented where `indentless` says so. -/
def readNode? (fuel : Nat) (block indentless : Bool) (r : Reader) : Option (Json × Reader) :=
  match fuel with
  | 0 => none
  | fuel + 1 =>
    match r.tokens with
    | .alias name :: _ => (r.named? name).map fun v => (v, r.drop)
    | _ => do
      let (number, tag, r) ← r.readProperties?
      let (value, r) ← readContent? fuel block indentless (number.isSome || tag.isSome) tag r
      return (value, r.remember number value)
termination_by structural fuel

/-- Reads what a node holds; that may be nothing if the node has a name or a tag. -/
def readContent? (fuel : Nat) (block indentless optional : Bool) (tag : Option Tag) (r : Reader) :
    Option (Json × Reader) :=
  match fuel with
  | 0 => none
  | fuel + 1 =>
    match r.tokens with
    | .scalar plain s :: _ => (scalarValue? plain tag s).map fun v => (v, r.drop)
    | .flowSequenceStart :: _ => (readFlowItems? fuel true r.drop).map fun x => (.array x.1, x.2)
    | .flowMappingStart :: _ =>
      (readFlowMembers? fuel true [] r.drop).map fun x => (mappingOf x.1, x.2)
    | t :: _ =>
      if t = .entry && indentless then
        (readEntries? fuel false r).map fun x => (.array x.1, x.2)
      else if t = .sequenceStart && block then
        (readEntries? fuel true r.drop).map fun x => (.array x.1, x.2)
      else if t = .mappingStart && block then
        (readMembers? fuel [] r.drop).map fun x => (mappingOf x.1, x.2)
      else if optional then (scalarValue? true tag "").map fun v => (v, r)
      else none
    | [] => if optional then (scalarValue? true tag "").map fun v => (v, r) else none
termination_by structural fuel

/-- Reads the items of a sequence.  The end of one that is indented is a token of its own. -/
def readEntries? (fuel : Nat) (indented : Bool) (r : Reader) : Option (List Json × Reader) :=
  match fuel with
  | 0 => none
  | fuel + 1 =>
    if r.meets [.entry] then do
      let r := r.drop
      let (item, r) ←
        if r.meets (.entry :: .blockEnd :: if indented then [] else [.key, .value]) then
          some (Json.null, r)
        else readNode? fuel true false r
      let (items, r) ← readEntries? fuel indented r
      return (item :: items, r)
    else if indented then (r.expect? .blockEnd).map fun r => ([], r)
    else some ([], r)
termination_by structural fuel

/-- Reads the members of a mapping that is shown by indentation, and adds them to those already
read. -/
def readMembers? (fuel : Nat) (ms : Members) (r : Reader) : Option (Members × Reader) :=
  match fuel with
  | 0 => none
  | fuel + 1 =>
    if r.meets [.blockEnd] then some (ms, r.drop)
    else if r.meets [.key, .value] then do
      let (key, r) ← readBlockPart? fuel .key r
      let (value, r) ← readBlockPart? fuel .value r
      readMembers? fuel (← addMember? ms key value) r
    else none
termination_by structural fuel

/-- Reads the key or the value of a member after its token; either may be missing. -/
def readBlockPart? (fuel : Nat) (t : Token) (r : Reader) : Option (Json × Reader) :=
  match fuel with
  | 0 => none
  | fuel + 1 =>
    if !r.meets [t] then some (.null, r)
    else if r.drop.meets [.key, .value, .blockEnd] then some (.null, r.drop)
    else readNode? fuel true true r.drop
termination_by structural fuel

/-- Reads the items of a sequence in brackets. -/
def readFlowItems? (fuel : Nat) (first : Bool) (r : Reader) : Option (List Json × Reader) :=
  match fuel with
  | 0 => none
  | fuel + 1 =>
    if r.meets [.flowSequenceEnd] then some ([], r.drop)
    else do
      let r ← if first then some r else r.expect? .flowEntry
      if r.meets [.flowSequenceEnd] then return ([], r.drop)
      else
        let (item, r) ←
          if r.meets [.key, .value] then readPair? fuel r else readNode? fuel false false r
        let (items, r) ← readFlowItems? fuel false r
        return (item :: items, r)
termination_by structural fuel

/-- Reads a key and a value that stand right in a sequence in brackets, as a mapping of one member.
-/
def readPair? (fuel : Nat) (r : Reader) : Option (Json × Reader) :=
  match fuel with
  | 0 => none
  | fuel + 1 => do
    let (key, r) ← readFlowPart? fuel .key r
    let (value, r) ← readFlowPart? fuel .value r
    return (mappingOf (← addMember? [] key value), r)
termination_by structural fuel

/-- Reads the members of a mapping in braces, and adds them to those already read. -/
def readFlowMembers? (fuel : Nat) (first : Bool) (ms : Members) (r : Reader) :
    Option (Members × Reader) :=
  match fuel with
  | 0 => none
  | fuel + 1 =>
    if r.meets [.flowMappingEnd] then some (ms, r.drop)
    else do
      let r ← if first then some r else r.expect? .flowEntry
      if r.meets [.flowMappingEnd] then return (ms, r.drop)
      else if r.meets [.key, .value] then
        let (key, r) ← readFlowPart? fuel .key r
        let (value, r) ← readFlowPart? fuel .value r
        readFlowMembers? fuel false (← addMember? ms key value) r
      else
        let (key, r) ← readNode? fuel false false r
        readFlowMembers? fuel false (← addMember? ms key .null) r
termination_by structural fuel

/-- Reads the key or the value of a member in brackets after its token; either may be missing. -/
def readFlowPart? (fuel : Nat) (t : Token) (r : Reader) : Option (Json × Reader) :=
  match fuel with
  | 0 => none
  | fuel + 1 =>
    if !r.meets [t] then some (.null, r)
    else if r.drop.meets [.value, .flowEntry, .flowSequenceEnd, .flowMappingEnd] then
      some (.null, r.drop)
    else readNode? fuel false false r.drop
termination_by structural fuel

end

/-! ### Documents -/

/-- Reads the directives in front of a document. -/
def readDirectives? (handles : List (String × String)) (version : Bool) :
    List Token → Option (List (String × String) × List Token)
  | .version :: rest => if version then none else readDirectives? handles true rest
  | .handle name stem :: rest =>
    if (findValue? name handles).isSome then none
    else readDirectives? ((name, stem) :: handles) version rest
  | rest => some (handles, rest)

/-- Whether a token ends a document or is not part of one. -/
def Token.isOutside : Token → Bool
  | .version => true
  | .handle .. => true
  | .documentStart => true
  | .documentEnd => true
  | _ => false

/-- Reads the node of a document from its first token on; one that has been announced may be
empty. -/
def readRoot? (announced : Bool) (r : Reader) : Option (Json × Reader) :=
  if announced && r.tokens.head?.all Token.isOutside then some (.null, r)
  else readNode? (8 * r.tokens.length + 8) true false r

/-- Reads the only document in some tokens. -/
def readOnly? (tokens : List Token) : Option Json := do
  let (handles, rest) ← readDirectives? [] false tokens
  let announced := rest.head? == some .documentStart
  if !announced && rest.length < tokens.length then none
  else
    let r : Reader := { tokens := if announced then rest.tail else rest, handles }
    let (value, r) ← readRoot? announced r
    if r.tokens.all (· == .documentEnd) then return value else none

/-- Reads a whole text.  It ends where a zero character is. -/
def Document.read? (s : String) : Option (List (String × Json)) := do
  let tokens ← Token.scan? (s.toList.takeWhile (· != '\x00'))
  match tokens.dropWhile (· == .documentEnd) with
  | [] => return []
  | rest =>
    match ← readOnly? rest with
    | .object ms => return ms
    | _ => none

end Colloquy.Yaml
