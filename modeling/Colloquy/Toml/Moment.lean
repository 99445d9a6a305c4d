/-!
# Dates and times

A TOML file may hold a date, a time of day, or both, and with both an offset from universal time.
`Moment.read?` reads one from the front of a text and refuses what no calendar or clock shows;
`Moment.render` writes it down in one form: with a `T` between date and time, and with as many
digits after the second as are needed.  `Moment.spelled?` reads a whole text as a moment; it takes a
little more, namely the hour after the last one, an offset of a day, and an offset after a mere date.
-/

namespace Colloquy.Toml

/-- A day of the calendar. -/
structure Date where
  year : Nat
  month : Nat
  day : Nat
deriving DecidableEq, Repr

/-- A time of day. -/
structure Clock where
  hour : Nat
  minute : Nat
  second : Nat
  nanosecond : Nat
deriving DecidableEq, Repr

/-- How far a clock is from universal time. -/
inductive Offset where
  | universal
  | minutes (n : Int)
deriving DecidableEq, Repr

/-- A date, a time, or both. -/
inductive Moment where
  | date (d : Date) (offset : Option Offset)
  | clock (c : Clock)
  | both (d : Date) (c : Clock) (offset : Option Offset)
deriving DecidableEq, Repr

/-! ### Reading -/

/-- The number at the front of a text that is written with exactly so many digits. -/
def readDigits? (count : Nat) (cs : List Char) : Option (Nat × List Char) :=
  let digits := cs.take count
  if digits.length = count && digits.all Char.isDigit then
    some (digits.foldl (fun n c => 10 * n + (c.toNat - 48)) 0, cs.drop count)
  else none

/-- A number of two digits in a range. -/
def readTwo? (low high : Nat) (cs : List Char) : Option (Nat × List Char) := do
  let (n, rest) ← readDigits? 2 cs
  if low ≤ n && n ≤ high then return (n, rest) else none

/-- The rest of a text after a character that has to be there. -/
def expect? (c : Char) : List Char → Option (List Char)
  | d :: rest => if d = c then some rest else none
  | [] => none

/-- How many days a month has. -/
def daysIn (year month : Nat) : Nat :=
  if month = 2 then
    if year % 4 = 0 && (year % 100 != 0 || year % 400 = 0) then 29 else 28
  else if month = 4 || month = 6 || month = 9 || month = 11 then 30
  else 31

/-- Reads a date. -/
def readDate? (cs : List Char) : Option (Date × List Char) := do
  let (year, cs) ← readDigits? 4 cs
  let (month, cs) ← readTwo? 1 12 (← expect? '-' cs)
  let (day, cs) ← readTwo? 1 (daysIn year month) (← expect? '-' cs)
  return (⟨year, month, day⟩, cs)

/-- Reads the digits after a second as nanoseconds; those beyond the ninth do not count. -/
def readNanoseconds? : List Char → Option (Nat × List Char)
  | '.' :: cs =>
    let digits := cs.takeWhile Char.isDigit
    if digits.isEmpty then none
    else
      let padded := (digits ++ List.replicate 9 '0').take 9
      some (padded.foldl (fun n c => 10 * n + (c.toNat - 48)) 0, cs.dropWhile Char.isDigit)
  | cs => some (0, cs)

/-- The last hour of a day. -/
def lastHour : Nat := 23

/-- Reads a time of day up to some hour. -/
def readClock? (last : Nat) (cs : List Char) : Option (Clock × List Char) := do
  let (hour, cs) ← readTwo? 0 last cs
  let (minute, cs) ← readTwo? 0 59 (← expect? ':' cs)
  let (second, cs) ← readTwo? 0 60 (← expect? ':' cs)
  let (nanosecond, cs) ← readNanoseconds? cs
  return (⟨hour, minute, second, nanosecond⟩, cs)

/-- Reads hours and minutes as minutes. -/
def readMinutes? (lastHour lastMinute : Nat) (cs : List Char) : Option (Nat × List Char) := do
  let (hour, cs) ← readTwo? 0 lastHour cs
  let (minute, cs) ← readTwo? 0 lastMinute (← expect? ':' cs)
  return (60 * hour + minute, cs)

/-- Reads an offset, if there is one, with a reader of its hours and minutes. -/
def readOffset? (minutes? : List Char → Option (Nat × List Char)) :
    List Char → Option (Option Offset × List Char)
  | 'Z' :: cs => some (some .universal, cs)
  | 'z' :: cs => some (some .universal, cs)
  | '+' :: cs => do
    let (n, cs) ← minutes? cs
    return (some (.minutes n), cs)
  | '-' :: cs => do
    let (n, cs) ← minutes? cs
    return (some (.minutes (-n)), cs)
  | cs => some (none, cs)

/-- Whether a character may stand between a date and a time. -/
def isBetween (c : Char) : Bool :=
  c == 'T' || c == 't' || c == ' '

/-- Reads a date with what belongs to it. -/
def readFromDate? (cs : List Char) : Option (Moment × List Char) := do
  let (d, rest) ← readDate? cs
  match rest with
  | c :: more =>
    if isBetween c then
      match readClock? lastHour more with
      | some (t, rest) =>
        let (offset, rest) ← readOffset? (readMinutes? lastHour 59) rest
        return (.both d t offset, rest)
      | none => return (.date d none, rest)
    else return (.date d none, rest)
  | [] => return (.date d none, [])

/-- Reads a moment from the front of a text. -/
def Moment.read? (cs : List Char) : Option (Moment × List Char) :=
  (readFromDate? cs).orElse fun _ => (readClock? lastHour cs).map fun x => (.clock x.1, x.2)

/-- What has been read, if nothing is left. -/
def whole? {α : Type} : α × List Char → Option α
  | (a, []) => some a
  | _ => none

/-- Reads the hours and minutes of an offset of at most a day. -/
def readDayMinutes? (cs : List Char) : Option (Nat × List Char) :=
  (readMinutes? 99 99 cs).filter fun x => x.1 ≤ 24 * 60

/-- The moment that a text spells. -/
def Moment.spelled? (s : String) : Option Moment :=
  match s.toList with
  | a :: b :: ':' :: cs => do
    let time ← whole? (← readClock? (lastHour + 1) (a :: b :: ':' :: cs))
    return .clock time
  | cs => do
    let (d, rest) ← readDate? cs
    let (time, rest) ← match rest with
      | c :: more =>
        if isBetween c then do
          let (time, rest) ← readClock? (lastHour + 1) more
          pure (some time, rest)
        else pure (none, rest)
      | [] => pure (none, [])
    let offset ← whole? (← readOffset? readDayMinutes? rest)
    return match time with
      | some time => .both d time offset
      | none => .date d offset

/-! ### Writing -/

/-- A number with zeros in front, so that it has so many digits. -/
def padded (count n : Nat) : String :=
  let digits := Nat.toDigits 10 n
  String.ofList (List.replicate (count - digits.length) '0' ++ digits)

/-- A date in digits. -/
def Date.render (d : Date) : String :=
  padded 4 d.year ++ "-" ++ padded 2 d.month ++ "-" ++ padded 2 d.day

/-- A time of day in digits. -/
def Clock.render (c : Clock) : String :=
  let fraction := if c.nanosecond = 0 then [] else
    '.' :: ((padded 9 c.nanosecond).toList.reverse.dropWhile (· == '0')).reverse
  padded 2 c.hour ++ ":" ++ padded 2 c.minute ++ ":" ++ padded 2 c.second ++
    String.ofList fraction

/-- An offset in digits. -/
def Offset.render : Offset → String
  | universal => "Z"
  | minutes n =>
    (if n < 0 then "-" else "+") ++ padded 2 (n.natAbs / 60) ++ ":" ++ padded 2 (n.natAbs % 60)

/-- An offset in digits, if there is one. -/
def renderOffset : Option Offset → String
  | some offset => offset.render
  | none => ""

/-- A moment in digits. -/
def Moment.render : Moment → String
  | date d offset => d.render ++ renderOffset offset
  | clock c => c.render
  | both d c offset => d.render ++ "T" ++ c.render ++ renderOffset offset

end Colloquy.Toml
