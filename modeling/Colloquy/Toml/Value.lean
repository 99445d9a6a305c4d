import Colloquy.Decimal.Reading
import Colloquy.Toml.Moment

/-!
# TOML values

The values that a TOML file can hold, and how numbers and moments are read from the front of a text.
Digits may be set apart by single underscores.  An integer has to fit into 64 bits with a sign, and
a number beyond all doubles is refused.
-/

namespace Colloquy.Toml

/-- A value of a TOML file. -/
inductive Value where
  | text (s : String)
  | integer (n : Int)
  | float (x : Float)
  | flag (b : Bool)
  | moment (m : Moment)
  | array (items : List Value)
  | table (members : List (String × Value))

instance : Inhabited Value := ⟨.table []⟩

/-! ### Moments in disguise -/

/-- The first key of a table that stands for a moment. -/
def momentKey : String := "$__toml_private_datetime"

/-- The moment that the value under the key of moments spells. -/
def Value.spelledMoment? : Value → Option Value
  | .text s => (Moment.spelled? s).map .moment
  | _ => none

mutual

/-- A value in which every table that stands for a moment is that moment; nothing if such a table
spells no moment. -/
def Value.unveiled? : Value → Option Value
  | .array items => (unveiledItems? items).map .array
  | .table ms => unveiledTable? ms
  | v => some v
termination_by structural v => v

/-- Values with their moments unveiled. -/
def unveiledItems? : List Value → Option (List Value)
  | [] => some []
  | v :: rest => do return (← v.unveiled?) :: (← unveiledItems? rest)
termination_by structural l => l

/-- A table with its moments unveiled, or the moment that it stands for.  Nothing matters in a
table that stands for a moment but its first key. -/
def unveiledTable? : List (String × Value) → Option Value
  | [] => some (.table [])
  | m :: rest =>
    if m.1 = momentKey then m.2.spelledMoment?
    else do return .table ((← unveiledMember? m) :: (← unveiledMembers? rest))
termination_by structural l => l

/-- Members with their moments unveiled. -/
def unveiledMembers? : List (String × Value) → Option (List (String × Value))
  | [] => some []
  | m :: rest => do return (← unveiledMember? m) :: (← unveiledMembers? rest)
termination_by structural l => l

/-- A member with its moments unveiled. -/
def unveiledMember? : String × Value → Option (String × Value)
  | (key, v) => v.unveiled?.map fun v => (key, v)
termination_by structural m => m

end

/-! ### Digits -/

/-- The digits at the front of a text, without the underscores between them; whether a character is
a digit is up to the caller. -/
def readRun? (isDigit : Char → Bool) : List Char → Option (List Char × List Char)
  | [] => none
  | c :: cs => if isDigit c then some ((go cs).map (c :: ·) id) else none
where
  /-- More digits, each perhaps after an underscore. -/
  go : List Char → List Char × List Char
    | [] => ([], [])
    | '_' :: c :: cs => if isDigit c then (go cs).map (c :: ·) id else ([], '_' :: c :: cs)
    | c :: cs => if isDigit c then (go cs).map (c :: ·) id else ([], c :: cs)

/-- The whole part of a decimal number: it has no zero in front of other digits. -/
def readWhole? : List Char → Option (List Char × List Char)
  | '0' :: cs => some (['0'], cs)
  | cs => readRun? Char.isDigit cs

/-- A sign at the front of a text. -/
def readSign : List Char → List Char × List Char
  | '+' :: cs => ([], cs)
  | '-' :: cs => (['-'], cs)
  | cs => ([], cs)

/-! ### Integers -/

/-- The value of a digit in a base up to sixteen. -/
def digitValue (c : Char) : Nat :=
  if c.isDigit then c.toNat - 48
  else if 'a' ≤ c then c.toNat - 87
  else c.toNat - 55

/-- Whether a character is a digit in a base up to sixteen. -/
def isDigitIn (base : Nat) (c : Char) : Bool :=
  (c.isDigit || ('a' ≤ c && c ≤ 'f') || ('A' ≤ c && c ≤ 'F')) && digitValue c < base

/-- An integer that fits into 64 bits. -/
def fitting? (n : Int) (rest : List Char) : Option (Value × List Char) :=
  if -(Nat.pow 2 63 : Int) ≤ n && n < Nat.pow 2 63 then some (.integer n, rest) else none

/-- Reads the digits of an integer in some base. -/
def readInBase? (base : Nat) (cs : List Char) : Option (Value × List Char) := do
  let (digits, rest) ← readRun? (isDigitIn base) cs
  fitting? (digits.foldl (fun n c => base * n + digitValue c) 0 : Nat) rest

/-- Reads an integer. -/
def readInteger? : List Char → Option (Value × List Char)
  | '0' :: 'x' :: cs => readInBase? 16 cs
  | '0' :: 'o' :: cs => readInBase? 8 cs
  | '0' :: 'b' :: cs => readInBase? 2 cs
  | cs => do
    let (sign, cs) := readSign cs
    let (digits, rest) ← readWhole? cs
    let n : Int := Decimal.digitsValue digits
    fitting? (if sign.isEmpty then n else -n) rest

/-! ### Floats -/

/-- Reads the power of ten of a float, with its mark. -/
def readPower? : List Char → Option (List Char × List Char)
  | c :: cs =>
    if c = 'e' || c = 'E' then do
      let (sign, cs) := readSign cs
      let (digits, rest) ← readRun? Char.isDigit cs
      return ('e' :: sign ++ digits, rest)
    else none
  | [] => none

/-- Reads the fraction of a float, with its point. -/
def readFraction? : List Char → Option (List Char × List Char)
  | '.' :: cs => (readRun? Char.isDigit cs).map fun x => ('.' :: x.1, x.2)
  | _ => none

/-- Reads a float that is given by digits; it has a fraction, a power of ten, or both. -/
def readDecimal? (cs : List Char) : Option (Value × List Char) := do
  let (sign, cs) := readSign cs
  let (whole, cs) ← readWhole? cs
  let (tail, rest) ← match readFraction? cs with
    | some (fraction, cs) =>
      let (power, cs) := (readPower? cs).getD ([], cs)
      some (fraction ++ power, cs)
    | none => readPower? cs
  let x ← Decimal.readDouble? (String.ofList (sign ++ whole ++ tail))
  if x == 1.0 / 0.0 then none else return (.float x, rest)

/-- Reads the word for an infinity or for no number. -/
def readSpecial? (cs : List Char) : Option (Value × List Char) :=
  let (sign, cs) := readSign cs
  let signed := fun x : Float => if sign.isEmpty then x else -x
  match cs with
  | 'i' :: 'n' :: 'f' :: rest => some (.float (signed (1.0 / 0.0)), rest)
  | 'n' :: 'a' :: 'n' :: rest => some (.float (0.0 / 0.0), rest)
  | _ => none

/-- Reads a moment or a number. -/
def readNumber? (cs : List Char) : Option (Value × List Char) :=
  ((Moment.read? cs).map fun x => (.moment x.1, x.2)).orElse fun _ =>
    (readDecimal? cs).orElse fun _ => (readSpecial? cs).orElse fun _ => readInteger? cs

end Colloquy.Toml
