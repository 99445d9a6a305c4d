/-!
# Durations

A duration is a whole number of nanoseconds.
-/

namespace Colloquy

/-- A span of time. -/
structure Duration where
  nanoseconds : Nat
deriving DecidableEq, Repr

namespace Duration

/-- No time. -/
def zero : Duration := ⟨0⟩

/-- So many milliseconds. -/
def ofMillis (n : Nat) : Duration := ⟨n * 1000000⟩

/-- So many seconds. -/
def ofSeconds (n : Nat) : Duration := ⟨n * 1000000000⟩

/-- The whole milliseconds of a duration. -/
def toMillis (d : Duration) : Nat := d.nanoseconds / 1000000

/-- The whole seconds of a duration. -/
def wholeSeconds (d : Duration) : Nat := d.nanoseconds / 1000000000

/-- The nanoseconds of a duration beyond its whole seconds. -/
def nanosOfSecond (d : Duration) : Nat := d.nanoseconds % 1000000000

instance : Add Duration := ⟨fun a b => ⟨a.nanoseconds + b.nanoseconds⟩⟩

instance : LE Duration := ⟨fun a b => a.nanoseconds ≤ b.nanoseconds⟩

instance : LT Duration := ⟨fun a b => a.nanoseconds < b.nanoseconds⟩

instance (a b : Duration) : Decidable (a ≤ b) :=
  inferInstanceAs (Decidable (a.nanoseconds ≤ b.nanoseconds))

instance (a b : Duration) : Decidable (a < b) :=
  inferInstanceAs (Decidable (a.nanoseconds < b.nanoseconds))

end Duration

end Colloquy
