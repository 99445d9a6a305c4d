import Colloquy.Data.Dictionary
import Colloquy.Text.Utf8
import Colloquy.Toml.Text
import Colloquy.Toml.Value

/-!
# TOML documents

A document is a list of lines: pairs of a key and a value, and headers of tables.  A table is
defined once.  A header may define a table that longer headers have only implied, and a dotted key
may add to a table that other dotted keys have made, but neither may add to what the other one has
defined.  `Document.read?` gives the table of a whole text, or nothing if the text breaks a rule.
-/

namespace Colloquy.Toml

/-! ### Tables in the making -/

/-- How a table came up. -/
inductive TableKind where
  /-- By a header of its own. -/
  | headed
  /-- By the header of a table in it. -/
  | implied
  /-- By a dotted key. -/
  | dotted
deriving DecidableEq, Repr

/-- What is known so far under a key. -/
inductive Node where
  | value (v : Value)
  | table (kind : TableKind) (members : List (String × Node))
  /-- Tables that each have a header; the last one is still open. -/
  | tables (closed : List (List (String × Node))) (last : List (String × Node))

/-- The members of a table that is not finished. -/
abbrev Members := List (String × Node)

/-- Replaces the node under a key. -/
def replaceNode (key : String) (n : Node) (ms : Members) : Members :=
  ms.map fun m => if m.1 == key then (key, n) else m

/-- Adds a value under the last part of a key; the parts before it lead through dotted tables. -/
def addPair (last : String) (v : Value) : List String → Members → Option Members
  | [], ms => if (findValue? last ms).isSome then none else some (ms ++ [(last, .value v)])
  | key :: path, ms =>
    match findValue? key ms with
    | none => do return ms ++ [(key, .table .dotted (← addPair last v path []))]
    | some (.value _) => none
    | some (.table kind inner) =>
      if kind = .headed || (path.isEmpty && kind = .implied) then none
      else do return replaceNode key (.table kind (← addPair last v path inner)) ms
    | some (.tables closed inner) =>
      if path.isEmpty then none
      else do return replaceNode key (.tables closed (← addPair last v path inner)) ms

/-- Adds a pair of a key and a value to a table. -/
def addKey (ms : Members) (key : List String) (v : Value) : Option Members :=
  match key.reverse with
  | [] => none
  | last :: path => addPair last v path.reverse ms

/-- Changes the table that a path leads to.  Tables that are missing on the way are implied. -/
def changeAt (change : Members → Option Members) : List String → Members → Option Members
  | [], ms => change ms
  | key :: path, ms =>
    match findValue? key ms with
    | none => do return ms ++ [(key, .table .implied (← changeAt change path []))]
    | some (.value _) => none
    | some (.table kind inner) => do
      return replaceNode key (.table kind (← changeAt change path inner)) ms
    | some (.tables closed inner) => do
      return replaceNode key (.tables closed (← changeAt change path inner)) ms

/-- Defines a table by its header. -/
def openTable (last : String) (ms : Members) : Option Members :=
  match findValue? last ms with
  | none => some (ms ++ [(last, .table .headed [])])
  | some (.table .implied inner) => some (replaceNode last (.table .headed inner) ms)
  | some _ => none

/-- Adds a table to a list of tables by its header. -/
def openItem (last : String) (ms : Members) : Option Members :=
  match findValue? last ms with
  | none => some (ms ++ [(last, .tables [] [])])
  | some (.tables closed inner) => some (replaceNode last (.tables (closed ++ [inner]) []) ms)
  | some _ => none

mutual

/-- A node as a value. -/
def Node.toValue : Node → Value
  | .value v => v
  | .table _ members => .table (membersToValues members)
  | .tables closed last => .array (itemsToValues closed ++ [.table (membersToValues last)])
termination_by structural n => n

/-- Members as values. -/
def membersToValues : List (String × Node) → List (String × Value)
  | [] => []
  | m :: rest => memberToValue m :: membersToValues rest
termination_by structural l => l

/-- A member as a value. -/
def memberToValue : String × Node → String × Value
  | (key, n) => (key, n.toValue)
termination_by structural m => m

/-- Tables as values. -/
def itemsToValues : List (List (String × Node)) → List Value
  | [] => []
  | ms :: rest => .table (membersToValues ms) :: itemsToValues rest
termination_by structural l => l

end

/-! ### Values -/

/-- Values may be nested less than this deep. -/
def maxDepth : Nat := 80

mutual

/-- Reads a value; `depth` is how deep it may still be nested. -/
def readValue? (fuel depth : Nat) (cs : List Char) : Option (Value × List Char) :=
  match fuel with
  | 0 => none
  | fuel + 1 =>
    match cs with
    | '"' :: _ => (readQuoted? cs).map fun x => (.text x.1, x.2)
    | '\'' :: _ => (readQuoted? cs).map fun x => (.text x.1, x.2)
    | '[' :: rest =>
      if depth ≤ 1 then none
      else (readItems? fuel (depth - 1) rest).map fun x => (.array x.1, x.2)
    | '\x7b' :: rest =>
      if depth ≤ 1 then none
      else match skipSpace rest with
        | '\x7d' :: rest => some (.table [], rest)
        | _ => (readPairs? fuel (depth - 1) [] rest).map fun x =>
          (.table (membersToValues x.1), x.2)
    | 't' :: 'r' :: 'u' :: 'e' :: rest => some (.flag true, rest)
    | 'f' :: 'a' :: 'l' :: 's' :: 'e' :: rest => some (.flag false, rest)
    | _ => readNumber? cs
termination_by structural fuel

/-- Reads the items of an array up to its end. -/
def readItems? (fuel depth : Nat) (cs : List Char) : Option (List Value × List Char) :=
  match fuel with
  | 0 => none
  | fuel + 1 =>
    match skipLines cs cs.length with
    | ']' :: rest => some ([], rest)
    | cs => do
      let (v, rest) ← readValue? fuel depth cs
      match skipLines rest rest.length with
      | ',' :: rest =>
        let (vs, rest) ← readItems? fuel depth rest
        return (v :: vs, rest)
      | ']' :: rest => return ([v], rest)
      | _ => none
termination_by structural fuel

/-- Reads the pairs of a table in braces up to its end. -/
def readPairs? (fuel depth : Nat) (ms : Members) (cs : List Char) :
    Option (Members × List Char) :=
  match fuel with
  | 0 => none
  | fuel + 1 => do
    let (key, rest) ← readKey? cs
    let rest ← expect? '=' rest
    let (v, rest) ← readValue? fuel depth (skipSpace rest)
    let ms ← addKey ms key v
    match skipSpace rest with
    | ',' :: rest => readPairs? fuel depth ms rest
    | '\x7d' :: rest => some (ms, rest)
    | _ => none
termination_by structural fuel

end

/-! ### Lines -/

/-- A document in the making: its table, and the path of the table that pairs are added to. -/
structure Draft where
  members : Members
  current : List String

/-- Opens the table of a header, in double brackets or in single ones. -/
def Draft.openHeader (double : Bool) (d : Draft) (key : List String) : Option Draft :=
  match key.reverse with
  | [] => none
  | last :: path => do
    let change := if double then openItem last else openTable last
    return ⟨← changeAt change path.reverse d.members, key⟩

/-- Adds a pair to the table of the last header. -/
def Draft.addPair (d : Draft) (key : List String) (v : Value) : Option Draft := do
  return { d with members := ← changeAt (addKey · key v) d.current d.members }

/-- Reads the header of a table after its opening brackets. -/
def readHeader? (double : Bool) (d : Draft) (cs : List Char) : Option (Draft × List Char) := do
  let (key, rest) ← readKey? cs
  let rest ← expect? ']' rest
  let rest ← if double then expect? ']' rest else some rest
  return (← d.openHeader double key, rest)

/-- Reads a pair. -/
def readPair? (d : Draft) (cs : List Char) : Option (Draft × List Char) := do
  let (key, rest) ← readKey? cs
  let rest ← expect? '=' rest
  let (v, rest) ← readValue? (2 * rest.length + 2) maxDepth (skipSpace rest)
  return (← d.addPair key v, rest)

/-- Reads what a line holds. -/
def readLine? (d : Draft) (cs : List Char) : Option (Draft × List Char) :=
  match cs with
  | '[' :: '[' :: rest => readHeader? true d rest
  | '[' :: rest => readHeader? false d rest
  | _ => readPair? d cs

/-- Reads lines up to the end of the text, at most `fuel` of them. -/
def readLines? (d : Draft) (cs : List Char) : Nat → Option Draft
  | 0 => none
  | fuel + 1 =>
    match skipLines cs cs.length with
    | [] => some d
    | '#' :: rest => if (skipComment ('#' :: rest)).isEmpty then some d else none
    | cs => do
      let (d, rest) ← readLine? d cs
      readLines? d (← nextLine? rest) fuel

/-- Reads a whole document. -/
def Document.read? (s : String) : Option (List (String × Value)) := do
  let cs := Text.withoutMark s.toList
  let d ← readLines? ⟨[], []⟩ cs (cs.length + 1)
  match ← unveiledTable? (membersToValues d.members) with
  | .table ms => return ms
  | _ => none

end Colloquy.Toml
