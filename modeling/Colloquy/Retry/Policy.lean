import Colloquy.Provider.Failure
import Colloquy.Provider.Options
import Colloquy.Retry.Backoff

/-!
# Retry policies

A policy says which failures are worth another try, how many tries there are, and how long to wait
before each.  The waiting time is disturbed by a random multiplier, so that many callers that failed
at once do not come back at once; the random number is an argument here.
-/

namespace Colloquy.Retry

/-- When and how a failed call is tried again. -/
structure Policy where
  maxRetries : UInt32 := 3
  initialBackoff : Duration := .ofMillis 1000
  maxBackoff : Duration := .ofMillis 30000
  factor : Float := 2.0
  /-- How far the multiplier may be from one. -/
  jitter : Float := 0.1
  onRateLimit : Bool := true
  onServerError : Bool := true
  onNetworkError : Bool := true
deriving DecidableEq

namespace Policy

instance : Inhabited Policy := ⟨{}⟩

/-- Every call is made once. -/
def disabled : Policy := { maxRetries := 0 }

/-- The policy that the options of a provider ask for. -/
def ofOptions (o : Provider.Options) : Policy :=
  { maxRetries := o.maxRetries, initialBackoff := .ofMillis o.retryDelayMillis.toNat }

/-- Whether a failure of some kind is worth another try. -/
def allows (p : Policy) : Provider.FailureKind → Bool
  | .rateLimit => p.onRateLimit
  | .serverError => p.onServerError
  | .networkError => p.onNetworkError
  | _ => false

/-- Whether a call that failed after so many retries is tried again. -/
def isRetryable (p : Policy) (kind : Provider.FailureKind) (attempt : Nat) : Bool :=
  p.allows kind && attempt < p.maxRetries.toNat

/-- The jitter as a number from zero to one. -/
def clampedJitter (p : Policy) : Float :=
  if p.jitter < 0 then 0 else if 1 < p.jitter then 1 else p.jitter

/-- The waiting time before a retry for a given multiplier. -/
def backoffWith (p : Policy) (attempt : Nat) (multiplier : Float) : Duration :=
  backoff p.initialBackoff p.maxBackoff p.factor attempt multiplier

/-- The multiplier for a random number between zero and one. -/
def multiplier (p : Policy) (draw : Float) : Float :=
  let j := p.clampedJitter
  if 0 < j then (1 - j) + draw * ((1 + j) - (1 - j)) else 1

/-- The waiting time before a retry for a random number between zero and one. -/
def delay (p : Policy) (attempt : Nat) (draw : Float) : Duration :=
  p.backoffWith attempt (p.multiplier draw)

/-- The waiting times between which `delay` lies. -/
def delayBounds (p : Policy) (attempt : Nat) : Duration × Duration :=
  let j := p.clampedJitter
  (p.backoffWith attempt (1 - j), p.backoffWith attempt (1 + j))

end Policy

end Colloquy.Retry
