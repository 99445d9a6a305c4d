import Colloquy.Json.Scanner

/-!
# Reading JSON texts

`Json.parse` reads a whole text as one value.  Objects are read with their members put in
ascending order of the names, the last member of a name staying.  Lists and objects may be nested
less than `maxDepth` deep.

`skipValue` passes over a value that nobody asked for.  It accepts a little more than reading: a
skipped text may hold half a surrogate pair, a skipped number may be out of range, and there is no
bound on the depth.  It also says so differently when a list or an object ends in a comma.

Every function takes a bound on the number of steps; `steps` of the text is always enough, because
a step reads at least one character or goes one level down.
-/

namespace Colloquy.Json

/-- A nesting of this depth is refused. -/
def maxDepth : Nat := 128

/-- A number of steps that is enough for a text. -/
def steps (cs : List Char) : Nat :=
  2 * cs.length + 4

/-! ### Reading -/

mutual

/-- Reads a value from the front of a text; `depth` is how deep it may still be nested. -/
def readValue (fuel depth : Nat) (cs : List Char) : Except Fault (Json × List Char) :=
  match fuel with
  | 0 => .error (.before .tooDeep cs)
  | fuel + 1 =>
    match skipSpace cs with
    | [] => .error (.at .endInValue [])
    | 'n' :: rest => do return (.null, ← readWord ['u', 'l', 'l'] rest)
    | 't' :: rest => do return (.bool true, ← readWord ['r', 'u', 'e'] rest)
    | 'f' :: rest => do return (.bool false, ← readWord ['a', 'l', 's', 'e'] rest)
    | '-' :: rest => do
      let (n, rest) ← readNumber true rest
      return (.number n, rest)
    | '"' :: rest => do
      let (s, rest) ← readText rest
      return (.text (String.ofList s), rest)
    | '[' :: rest =>
      if depth ≤ 1 then .error (.at .tooDeep ('[' :: rest))
      else do
        let (items, rest) ← readItems fuel (depth - 1) true rest
        return (.array items, ← closeList rest)
    | '\x7b' :: rest =>
      if depth ≤ 1 then .error (.at .tooDeep ('\x7b' :: rest))
      else do
        let (members, rest) ← readMembers fuel (depth - 1) true [] rest
        return (.object members, ← closeObject rest)
    | c :: rest =>
      if c.isDigit then do
        let (n, rest) ← readNumber false (c :: rest)
        return (.number n, rest)
      else .error (.at .expectedValue (c :: rest))
termination_by structural fuel

/-- Reads the items of a list up to its end. -/
def readItems (fuel depth : Nat) (first : Bool) (cs : List Char) :
    Except Fault (List Json × List Char) :=
  match fuel with
  | 0 => .error (.before .tooDeep cs)
  | fuel + 1 => do
    match ← nextItem? first cs with
    | none => return ([], cs)
    | some rest =>
      let (item, rest) ← readValue fuel depth rest
      let (items, rest) ← readItems fuel depth false rest
      return (item :: items, rest)
termination_by structural fuel

/-- Reads the members of an object up to its end and adds them to those already read. -/
def readMembers (fuel depth : Nat) (first : Bool) (members : List (String × Json))
    (cs : List Char) : Except Fault (List (String × Json) × List Char) :=
  match fuel with
  | 0 => .error (.before .tooDeep cs)
  | fuel + 1 => do
    match ← nextName? first cs with
    | none => return (members, cs)
    | some (name, rest) =>
      let (value, rest) ← readValue fuel depth (← readColon rest)
      readMembers fuel depth false (insertEntry name value members) rest
termination_by structural fuel

end

/-- Checks that nothing but blanks is left. -/
def finish {α : Type} : Except Fault (α × List Char) → Except Fault α
  | .error f => .error f
  | .ok (a, rest) =>
    match skipSpace rest with
    | [] => .ok a
    | more => .error (.at .trailingCharacters more)

/-- Reads a whole text as one value. -/
def parse (text : String) : Except Refusal Json :=
  (finish (readValue (steps text.toList) maxDepth text.toList)).mapError (·.place text)

/-! ### Skipping -/

/-- Skips a number after its sign. -/
def skipNumber (cs : List Char) : Except Fault (List Char) := do
  let rest ← whole cs
  match rest with
  | '.' :: more => fraction more
  | 'e' :: more => power more
  | 'E' :: more => power more
  | more => return more
where
  /-- Skips the digits before the point. -/
  whole : List Char → Except Fault (List Char)
    | [] => .error (.before .invalidNumber [])
    | '0' :: c :: rest =>
      if c.isDigit then .error (.at .invalidNumber (c :: rest)) else .ok (c :: rest)
    | '0' :: [] => .ok []
    | c :: rest =>
      if c.isDigit then .ok (rest.dropWhile Char.isDigit)
      else .error (.at .invalidNumber (c :: rest))
  /-- Skips a power of ten after its mark. -/
  power (cs : List Char) : Except Fault (List Char) :=
    let digits := match cs with
      | '+' :: rest => rest
      | '-' :: rest => rest
      | rest => rest
    match digits with
    | [] => .error (.before .invalidNumber [])
    | c :: rest =>
      if c.isDigit then .ok (rest.dropWhile Char.isDigit)
      else .error (.at .invalidNumber (c :: rest))
  /-- Skips the digits after the point, and a power of ten. -/
  fraction (cs : List Char) : Except Fault (List Char) :=
    match cs with
    | [] => .error (.at .invalidNumber [])
    | c :: rest =>
      if c.isDigit then
        match rest.dropWhile Char.isDigit with
        | 'e' :: more => power more
        | 'E' :: more => power more
        | more => .ok more
      else .error (.at .invalidNumber (c :: rest))

mutual

/-- Skips a value. -/
def skipValue (fuel : Nat) (cs : List Char) : Except Fault (List Char) :=
  match fuel with
  | 0 => .error (.before .tooDeep cs)
  | fuel + 1 =>
    match skipSpace cs with
    | [] => .error (.at .endInValue [])
    | 'n' :: rest => readWord ['u', 'l', 'l'] rest
    | 't' :: rest => readWord ['r', 'u', 'e'] rest
    | 'f' :: rest => readWord ['a', 'l', 's', 'e'] rest
    | '-' :: rest => skipNumber rest
    | '"' :: rest => skipText rest
    | '[' :: rest =>
      match skipSpace rest with
      | [] => .error (.at .endInList [])
      | ']' :: more => .ok more
      | more => skipItems fuel more
    | '\x7b' :: rest =>
      match skipSpace rest with
      | [] => .error (.at .endInObject [])
      | '\x7d' :: more => .ok more
      | more => skipMembers fuel more
    | c :: rest =>
      if c.isDigit then skipNumber (c :: rest) else .error (.at .expectedValue (c :: rest))
termination_by structural fuel

/-- Skips the items of a list, of which there is at least one, and its end. -/
def skipItems (fuel : Nat) (cs : List Char) : Except Fault (List Char) :=
  match fuel with
  | 0 => .error (.before .tooDeep cs)
  | fuel + 1 => do
    let rest ← skipValue fuel cs
    match skipSpace rest with
    | [] => .error (.at .endInList [])
    | ']' :: more => return more
    | ',' :: more => skipItems fuel more
    | more => .error (.at .expectedListCommaOrEnd more)
termination_by structural fuel

/-- Skips the members of an object, of which there is at least one, and its end. -/
def skipMembers (fuel : Nat) (cs : List Char) : Except Fault (List Char) :=
  match fuel with
  | 0 => .error (.before .tooDeep cs)
  | fuel + 1 =>
    match skipSpace cs with
    | [] => .error (.at .endInObject [])
    | '"' :: rest => do
      let rest ← skipValue fuel (← readColon (← skipText rest))
      match skipSpace rest with
      | [] => .error (.at .endInObject [])
      | '\x7d' :: more => return more
      | ',' :: more => skipMembers fuel more
      | more => .error (.at .expectedObjectCommaOrEnd more)
    | rest => .error (.at .nameNotText rest)
termination_by structural fuel

end

end Colloquy.Json
