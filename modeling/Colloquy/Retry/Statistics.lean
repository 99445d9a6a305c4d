import Colloquy.Data.Dictionary
import Colloquy.Decimal.Fixed

/-!
# Retry statistics

A ledger of the requests that were tried more than once: how many there were, how many retries they
took, how they ended, and how often each reason came up.  Requests without a retry leave no trace.
-/

namespace Colloquy.Retry

/-- The ledger of retried requests. -/
structure Statistics where
  requests : Nat
  retries : Nat
  succeeded : Nat
  failed : Nat
  reasons : Dictionary Nat
deriving DecidableEq, Repr

namespace Statistics

/-- The ledger before the first request. -/
def empty : Statistics := ⟨0, 0, 0, 0, ∅⟩

instance : Inhabited Statistics := ⟨empty⟩

/-- Enters a request that ended after so many retries. -/
def record (s : Statistics) (reason : String) (success : Bool) (retries : Nat) : Statistics :=
  if retries = 0 then s
  else
    { requests := s.requests + 1
      retries := s.retries + retries
      succeeded := if success then s.succeeded + 1 else s.succeeded
      failed := if success then s.failed else s.failed + 1
      reasons := s.reasons.insert reason ((s.reasons.find? reason).getD 0 + 1) }

/-- The average number of retries of a request in the ledger. -/
def average (s : Statistics) : Float :=
  if s.requests = 0 then 0 else Float.ofNat s.retries / Float.ofNat s.requests

/-- The ledger in words, one line per figure. -/
def report (s : Statistics) : String :=
  let reasons := if s.reasons.entries.isEmpty then ["    (none)"]
    else s.reasons.entries.map fun e => s!"    {e.1}: {e.2}"
  let lines := [
    "Retry statistics:",
    s!"  Total requests with retries: {s.requests}",
    s!"  Total retry attempts: {s.retries}",
    s!"  Successful after retries: {s.succeeded}",
    s!"  Failed after retries: {s.failed}",
    s!"  Average retries per request: {Decimal.fixed 2 s.average}",
    "  Retry reasons:"]
  String.join ((lines ++ reasons).map fun line => line ++ "\n")

/-- A request without a retry leaves no trace. -/
@[simp]
theorem record_zero (s : Statistics) (reason : String) (success : Bool) :
    s.record reason success 0 = s := by
  simp [record]

end Statistics

end Colloquy.Retry
