import Colloquy.Retry.Policy
import Colloquy.Retry.Statistics

/-!
# The retry loop

`execute` makes a call again and again until it succeeds, fails in a way that is not worth another
try, or has been tried as often as the policy allows.  The call is a function on a state, so that
its outcomes may differ from one time to the next.  Before each retry the loop waits; the waits are
listed, not waited.

The number of retries that are left decreases with each turn, so the loop ends for every policy and
every sequence of outcomes.
-/

namespace Colloquy.Retry

/-- A retry that is about to be made. -/
structure Announcement where
  attempt : Nat
  maxRetries : Nat
  kind : Provider.FailureKind
  delay : Duration
deriving DecidableEq, Repr

/-- How a call that may have been tried several times went. -/
structure Run (σ α : Type) where
  state : σ
  result : Except Provider.GivenUp α
  announcements : List Announcement

/-- How many retries were made. -/
def Run.retries {σ α : Type} (r : Run σ α) : Nat :=
  r.announcements.length

/-- How long the waits before the retries took together. -/
def Run.waited {σ α : Type} (r : Run σ α) : Duration :=
  (r.announcements.map Announcement.delay).foldl (· + ·) .zero

/-- The loop after `attempt` retries, when at most `left` more are allowed; `draw` gives the random
number for each wait. -/
def loop {σ α : Type} (p : Policy) (draw : Nat → Float) (call : σ → Except Provider.Failure α × σ)
    (attempt : Nat) : Nat → σ → Run σ α
  | left, s =>
    match call s with
    | (.ok a, s) => ⟨s, .ok a, []⟩
    | (.error e, s) =>
      if p.isRetryable e.kind attempt then
        match left with
        -- Never the case within `execute`: a policy allows no retry once they are used up.
        | 0 => ⟨s, .error ⟨e, attempt⟩, []⟩
        | left + 1 =>
          let rest := loop p draw call (attempt + 1) left s
          let announcement :=
            ⟨attempt + 1, p.maxRetries.toNat, e.kind, p.delay (attempt + 1) (draw attempt)⟩
          { rest with announcements := announcement :: rest.announcements }
      else ⟨s, .error ⟨e, attempt⟩, []⟩

/-- Makes a call with retries by a policy. -/
def execute {σ α : Type} (p : Policy) (draw : Nat → Float)
    (call : σ → Except Provider.Failure α × σ) (s : σ) : Run σ α :=
  loop p draw call 0 p.maxRetries.toNat s

/-- The reason under which a run is entered into the ledger: of a success the last failure that was
overcome, of a failure the one that ended it. -/
def Run.reason {σ α : Type} (r : Run σ α) : String :=
  match r.result with
  | .ok _ => (r.announcements.getLast?.map fun a => a.kind.reason).getD ""
  | .error g => g.failure.kind.reason

/-- Enters a run into the ledger. -/
def Statistics.recordRun {σ α : Type} (s : Statistics) (r : Run σ α) : Statistics :=
  s.record r.reason r.result.isOk r.retries

/-- The policy that is followed: the given one, or none if retries are switched off. -/
def Policy.effective (retriesEnabled : Bool) (p : Policy) : Policy :=
  if retriesEnabled then p else .disabled

end Colloquy.Retry
