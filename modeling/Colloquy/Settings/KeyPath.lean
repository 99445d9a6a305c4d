import Colloquy.Settings.Tree

/-!
# Paths to settings

A source names a setting by a path: names with points between them, and numbers in brackets for the
items of lists.  A number below zero counts from the end of the list.  A key that is no path is
taken as a single name.
-/

namespace Colloquy.Settings

/-- A step from a setting to one in it. -/
inductive Step where
  | member (name : String)
  | item (index : Int)
deriving DecidableEq, Repr

/-- Whether a character may stand in a name of a path. -/
def isNameChar (c : Char) : Bool :=
  c.isAlphanum || c == '_' || c == '-' || c == ' '

/-- The name at the front of a text. -/
def readName? (cs : List Char) : Option (String × List Char) :=
  let name := cs.takeWhile isNameChar
  if name.isEmpty then none else some (String.ofList name, cs.dropWhile isNameChar)

/-- Whether a character may stand around the number of an item. -/
def isPadding (c : Char) : Bool :=
  c == ' ' || c == '\t'

/-- Whether a number fits into 64 bits with a sign. -/
def isIndex (n : Int) : Bool :=
  -(Nat.pow 2 63 : Int) ≤ n && n < Nat.pow 2 63

/-- Reads the number of an item after its bracket. -/
def readIndex? (cs : List Char) : Option (Int × List Char) :=
  let (negative, cs) := match cs.dropWhile isPadding with
    | '-' :: cs => (true, cs)
    | cs => (false, cs)
  let digits := cs.takeWhile Char.isDigit
  match (cs.dropWhile Char.isDigit).dropWhile isPadding with
  | ']' :: rest =>
    let n : Int := Decimal.digitsValue digits
    let index := if negative then -n else n
    if digits.isEmpty || !isIndex index then none else some (index, rest)
  | _ => none

/-- Reads steps up to the end of a text, at most `fuel` of them. -/
def readSteps? (cs : List Char) : Nat → Option (List Step)
  | 0 => none
  | fuel + 1 =>
    match cs with
    | [] => some []
    | '.' :: rest => do
      let (name, rest) ← readName? rest
      return .member name :: (← readSteps? rest fuel)
    | '[' :: rest => do
      let (index, rest) ← readIndex? rest
      return .item index :: (← readSteps? rest fuel)
    | _ => none

/-- The path that a key stands for. -/
def readPath (key : String) : List Step :=
  let path : Option (List Step) := do
    let (name, rest) ← readName? key.toList
    return .member name :: (← readSteps? rest (rest.length + 1))
  path.getD [.member key]

namespace Setting

/-- The items of a list; whatever is none has no items. -/
def items : Setting → List Setting
  | list _ l => l
  | _ => []

/-- The place in a list that a number stands for; there is none before the beginning. -/
def place? (length : Nat) (index : Int) : Option Nat :=
  if 0 ≤ index then some index.toNat
  else if 0 ≤ length + index then some (length + index).toNat
  else none

/-- Sets an item of a list; whatever is no list becomes one, and items without a value fill the
gap in front of it. -/
def setItem (s : Setting) (place : Nat) (value : Setting) : Setting :=
  let o := match s with
    | list o _ => o
    | _ => none
  let filled := s.items ++ List.replicate (place + 1 - s.items.length) missing
  .list o (filled.set place value)

/-- Puts a setting at the end of a path on top of a tree. -/
def putAt (value : Setting) : List Step → Setting → Setting
  | [], _ => value
  | [.member name], tree => tree.put name value
  | .member name :: path, tree =>
    tree.setMember name (putAt value path ((tree.member? name).getD missing))
  | .item index :: path, tree =>
    match place? tree.items.length index with
    | some n => tree.setItem n (putAt value path ((tree.items[n]?).getD missing))
    | none => tree

/-- Puts a setting under a key on top of a tree. -/
def putKey (tree : Setting) (key : String) (value : Setting) : Setting :=
  putAt value (readPath key) tree

end Setting

end Colloquy.Settings
